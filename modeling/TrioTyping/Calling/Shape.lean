import Mathlib.Data.List.Nodup
import TrioTyping.Calling.Variadic

/-!
# The form of a call

Whether a call binds does not depend on the types of its arguments. A call shape
keeps what is left: the number of positional arguments and the set of keywords.
Its arguments are named by their place in the call, so that binding says which
place goes to which formal.
-/

namespace TrioTyping
namespace Calling

universe u v w

variable {τ : Type u} {α : Type v}

/-- An argument, named by its place in the call. -/
inductive Place
  | positional (idx : Nat)
  | keyword (name : String)
  deriving DecidableEq, Repr

/-- The form of a call. -/
structure CallShape where
  /-- The number of positional arguments. -/
  positional : Nat
  /-- The keywords. -/
  keywords : List String
  /-- No keyword is passed twice. -/
  distinct : keywords.Nodup

namespace CallShape

/-- The arguments of the call. -/
def supply (shape : CallShape) : Supply Place where
  positional := (List.range shape.positional).map .positional
  keywords := shape.keywords.map fun name => (name, .keyword name)

/-- The call binds to a parameter list. -/
def AcceptedBy (shape : CallShape) (formals : List (Formal τ)) : Prop :=
  ∃ bound, bind formals shape.supply = some bound

instance (shape : CallShape) (formals : List (Formal τ)) :
    Decidable (shape.AcceptedBy formals) :=
  decidable_of_iff ((bind formals shape.supply).isSome = true)
    Option.isSome_iff_exists

/-- An argument goes to the formal at an index. -/
def BindsTo
    (shape : CallShape)
    (formals : List (Formal τ))
    (place : Place)
    (idx : Nat)
    (formal : Formal τ) : Prop :=
  ∃ bound taken, bind formals shape.supply = some bound ∧
    bound[idx]? = some taken ∧ place ∈ taken ∧ formals[idx]? = some formal

/-- The places of a call are distinct. -/
theorem arguments_nodup (shape : CallShape) :
    shape.supply.arguments.Nodup := by
  unfold Supply.arguments supply
  rw [List.nodup_append']
  refine ⟨?_, ?_, ?_⟩
  · exact List.nodup_range.map fun _ _ same => Place.positional.inj same
  · rw [List.map_map]
    exact shape.distinct.map fun _ _ same => Place.keyword.inj same
  · intro place positional keyword
    simp only [List.map_map, List.mem_map] at positional keyword
    obtain ⟨_, -, rfl⟩ := positional
    obtain ⟨_, -, equal⟩ := keyword
    cases equal

/-- Every argument of an accepted call goes to some formal. -/
theorem AcceptedBy.exists_bindsTo
    {shape : CallShape}
    {formals : List (Formal τ)}
    (accepted : shape.AcceptedBy formals)
    {place : Place}
    (isArgument : place ∈ shape.supply.arguments) :
    ∃ idx formal, shape.BindsTo formals place idx formal := by
  obtain ⟨bound, binds⟩ := accepted
  have member := (bind_perm binds).mem_iff.mpr isArgument
  obtain ⟨taken, isTaken, inTaken⟩ := List.mem_flatten.mp member
  obtain ⟨idx, inRange, rfl⟩ := List.mem_iff_getElem.mp isTaken
  have formalInRange : idx < formals.length := by
    rw [← bind_length binds]
    exact inRange
  exact ⟨idx, formals[idx], bound, bound[idx], binds,
    List.getElem?_eq_getElem inRange, inTaken,
    List.getElem?_eq_getElem formalInRange⟩

/-- No argument goes to two formals. -/
theorem BindsTo.unique
    {shape : CallShape}
    {formals : List (Formal τ)}
    {place : Place}
    {first second : Nat}
    {firstFormal secondFormal : Formal τ}
    (toFirst : shape.BindsTo formals place first firstFormal)
    (toSecond : shape.BindsTo formals place second secondFormal) :
    first = second ∧ firstFormal = secondFormal := by
  obtain ⟨bound, taken, binds, takenAt, inTaken, formalAt⟩ := toFirst
  obtain ⟨bound', taken', binds', takenAt', inTaken', formalAt'⟩ := toSecond
  obtain rfl : bound = bound' := Option.some.inj (binds.symm.trans binds')
  have nodup : bound.flatten.Nodup :=
    (bind_perm binds).nodup_iff.mpr shape.arguments_nodup
  have disjoint := List.pairwise_iff_getElem.mp (List.nodup_flatten.mp nodup).2
  obtain ⟨inRange, rfl⟩ := List.getElem?_eq_some_iff.mp takenAt
  obtain ⟨inRange', rfl⟩ := List.getElem?_eq_some_iff.mp takenAt'
  have same : first = second := by
    rcases Nat.lt_trichotomy first second with less | same | greater
    · exact absurd inTaken' (disjoint first second inRange inRange' less inTaken)
    · exact same
    · exact absurd inTaken
        (disjoint second first inRange' inRange greater inTaken')
  subst same
  exact ⟨rfl, Option.some.inj (formalAt.symm.trans formalAt')⟩

/-! ## Call shapes and variadic signatures -/

/-- Annotations do not decide whether a call binds. -/
theorem acceptedBy_congr
    {σ : Type w}
    (shape : CallShape)
    {first : List (Formal τ)}
    {second : List (Formal σ)}
    (same : SameShape first second) :
    shape.AcceptedBy first ↔ shape.AcceptedBy second := by
  unfold AcceptedBy
  rw [bind_congr same]

/-- Annotations do not decide where an argument goes. -/
theorem BindsTo.congr
    {shape : CallShape}
    {first second : List (Formal τ)}
    {place : Place}
    {idx : Nat}
    {formal formal' : Formal τ}
    (same : SameShape first second)
    (binds : shape.BindsTo first place idx formal)
    (formalAt : second[idx]? = some formal') :
    shape.BindsTo second place idx formal' := by
  obtain ⟨bound, taken, bindsFirst, takenAt, inTaken, -⟩ := binds
  exact ⟨bound, taken, bind_congr same shape.supply ▸ bindsFirst, takenAt,
    inTaken, formalAt⟩

section Splice

variable {formals fresh : List (Formal τ)} {idx : Nat} {star : Formal τ}

/-- Positional-only parameters in the place of `*args` accept the calls that
pass as many arguments to `*args`. -/
theorem acceptedBy_splice_iff
    (ordered : (formals.map Formal.kind).Pairwise ArgKind.Precedes)
    (starAt : formals[idx]? = some star)
    (isStar : star.kind = .star)
    (positionalOnly : ∀ formal ∈ fresh, PositionalOnly formal)
    (shape : CallShape) :
    shape.AcceptedBy (splice formals idx fresh) ↔
      shape.AcceptedBy formals ∧ shape.positional - idx = fresh.length := by
  unfold AcceptedBy
  simp only [bind_splice_iff ordered starAt isStar positionalOnly]
  have extraLength :
      (shape.supply.positional.drop idx).length = shape.positional - idx := by
    simp [supply]
  rw [extraLength]
  constructor
  · rintro ⟨_, bound, binds, lengths, -⟩
    exact ⟨⟨bound, binds⟩, lengths⟩
  · rintro ⟨⟨bound, binds⟩, lengths⟩
    exact ⟨_, bound, binds, lengths, rfl⟩

/-- Replacing `*args` leaves every argument where it was, except that the
arguments of `*args` go to the new parameters in order. -/
theorem BindsTo.splice
    (ordered : (formals.map Formal.kind).Pairwise ArgKind.Precedes)
    (starAt : formals[idx]? = some star)
    (isStar : star.kind = .star)
    (positionalOnly : ∀ formal ∈ fresh, PositionalOnly formal)
    {shape : CallShape}
    (lengths : shape.positional - idx = fresh.length)
    {place : Place}
    {other : Nat}
    {formal : Formal τ}
    (binds : shape.BindsTo formals place other formal) :
    ∃ other' formal',
      shape.BindsTo (splice formals idx fresh) place other' formal' ∧
      (other < idx → other' = other ∧ formal' = formal) ∧
      (other = idx → ∃ number, place = .positional (idx + number) ∧
        fresh[number]? = some formal') ∧
      (idx < other → formal' = formal) := by
  obtain ⟨bound, taken, bindsAll, takenAt, inTaken, formalAt⟩ := binds
  have extra := bind_star ordered starAt isStar bindsAll
  have extraLength :
      (shape.supply.positional.drop idx).length = fresh.length := by
    simp [supply, lengths]
  have bindsSplice :=
    (bind_splice_iff ordered starAt isStar positionalOnly shape.supply _).mpr
      ⟨bound, bindsAll, extraLength, rfl⟩
  obtain ⟨inRange, -⟩ := List.getElem?_eq_some_iff.mp starAt
  have boundInRange : idx < bound.length := by
    rw [bind_length bindsAll]
    exact inRange
  rcases Nat.lt_trichotomy other idx with before | rfl | after
  · refine ⟨other, formal, ⟨_, taken, bindsSplice, ?_, inTaken, ?_⟩,
      fun _ => ⟨rfl, rfl⟩, fun same => ?_, fun _ => rfl⟩
    · rw [splice_getElem?_before boundInRange before]
      exact takenAt
    · rw [splice_getElem?_before inRange before]
      exact formalAt
    · omega
  · obtain rfl : shape.supply.positional.drop other = taken :=
      Option.some.inj (extra.symm.trans takenAt)
    obtain ⟨number, within, placeAt⟩ := List.mem_iff_getElem.mp inTaken
    have withinFresh : number < fresh.length := by omega
    refine ⟨other + number, fresh[number],
      ⟨_, [place], bindsSplice, ?_, by simp, ?_⟩,
      fun less => ?_, fun _ => ⟨number, ?_, List.getElem?_eq_getElem _⟩,
      fun less => ?_⟩
    · rw [splice_getElem?_inserted boundInRange (by simpa using within),
        List.getElem?_map, List.getElem?_eq_getElem within, placeAt]
      rfl
    · rw [splice_getElem?_inserted inRange withinFresh]
      exact List.getElem?_eq_getElem withinFresh
    · omega
    · rw [← placeAt]
      simp [supply]
    · omega
  · obtain ⟨further, rfl⟩ := Nat.exists_eq_add_of_lt after
    refine ⟨idx + fresh.length + further, formal,
      ⟨_, taken, bindsSplice, ?_, inTaken, ?_⟩,
      fun less => ?_, fun same => ?_, fun _ => rfl⟩
    · have moved := @splice_getElem?_after _ bound
        ((shape.supply.positional.drop idx).map fun argument => [argument])
        idx further boundInRange
      rw [List.length_map, extraLength] at moved
      rw [moved, ← takenAt, Nat.add_right_comm]
    · rw [splice_getElem?_after inRange, ← formalAt, Nat.add_right_comm]
    · omega
    · omega

end Splice

end CallShape

end Calling
end TrioTyping
