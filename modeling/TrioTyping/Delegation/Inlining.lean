import Mathlib.Data.List.Basic

/-!
# Inlining delegates

The body of a function makes a list of calls, some of which delegate to another
function. Inlining puts the calls of that function in the place of the call that
delegates to it. It can be repeated in the result, and the calls that are put in
may have been inlined before. Every call is kept together with the function from
whose body it comes.

The main result carries a preorder of functions over from single delegations to
inlined bodies.
-/

namespace TrioTyping
namespace Delegation

universe u v

variable
  {Name : Type u}
  {Call : Type v}
  (calls : Name → List Call)
  (delegates : Call → Name → Prop)

/-- The calls of a function after inlining, to any depth. -/
inductive Inlined : Name → List (Name × Call) → Prop
  /-- Nothing is inlined. -/
  | body (name : Name) :
      Inlined name ((calls name).map fun call => (name, call))
  /-- The calls of a delegate take the place of the call that delegates to
  it. -/
  | inline {name origin inner : Name} {call : Call}
      {before after innerCalls : List (Name × Call)}
      (outer : Inlined name (before ++ (origin, call) :: after))
      (delegatesTo : delegates call inner)
      (inlined : Inlined inner innerCalls) :
      Inlined name (before ++ innerCalls ++ after)

variable {calls delegates}

/-- Every call comes from the body of its function, and where each delegate is
below the function that delegates to it, all these functions are below the one
they are inlined in. -/
theorem Inlined.origin_below
    {isBelow : Name → Name → Prop}
    (refl : ∀ name, isBelow name name)
    (trans : ∀ {first second third},
      isBelow first second → isBelow second third → isBelow first third)
    (delegateBelow : ∀ {name call inner},
      call ∈ calls name → delegates call inner → isBelow inner name)
    {name : Name}
    {inlined : List (Name × Call)}
    (isInlined : Inlined calls delegates name inlined) :
    ∀ origin call, (origin, call) ∈ inlined →
      call ∈ calls origin ∧ isBelow origin name := by
  induction isInlined with
  | body name =>
      intro origin call member
      obtain ⟨_, isCall, same⟩ := List.mem_map.mp member
      cases same
      exact ⟨isCall, refl name⟩
  | @inline name origin inner call before after innerCalls _ delegatesTo _
      outerHypothesis innerHypothesis =>
      obtain ⟨isCall, originBelow⟩ :=
        outerHypothesis origin call (by simp)
      have innerBelow : isBelow inner name :=
        trans (delegateBelow isCall delegatesTo) originBelow
      intro other otherCall member
      simp only [List.mem_append] at member
      rcases member with (isBefore | isInner) | isAfter
      · apply outerHypothesis
        exact List.mem_append_left _ isBefore
      · obtain ⟨isInnerCall, below⟩ := innerHypothesis other otherCall isInner
        exact ⟨isInnerCall, trans below innerBelow⟩
      · apply outerHypothesis
        exact List.mem_append_right _ (List.mem_cons_of_mem _ isAfter)

end Delegation
end TrioTyping
