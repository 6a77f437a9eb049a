import TrioTyping.Calling.Fitting
import TrioTyping.Calling.Shape

/-!
# Typed calls by their form

A call is its form together with an argument for each place. It is accepted when
its form is and each argument fits the formal that its place goes to, so that an
argument can be looked at, or exchanged, without regard to the others.
-/

namespace TrioTyping
namespace Calling

universe u v

variable {τ : Type u} {α : Type v}

namespace CallShape

/-- A call is accepted place by place. -/
theorem accepts_iff
    (shape : CallShape)
    (formals : List (Formal τ))
    (relation : α → τ → Prop)
    (arguments : Place → α) :
    Accepts relation formals (shape.supply.map arguments) ↔
      shape.AcceptedBy formals ∧
        ∀ place idx formal, shape.BindsTo formals place idx formal →
          relation (arguments place) formal.type := by
  unfold Accepts
  simp only [bind_map, Option.map_eq_some_iff]
  constructor
  · rintro ⟨_, ⟨bound, binds, rfl⟩, fits⟩
    refine ⟨⟨bound, binds⟩, ?_⟩
    rintro place idx formal ⟨bound', taken, binds', takenAt, inTaken, formalAt⟩
    obtain rfl : bound = bound' := Option.some.inj (binds.symm.trans binds')
    apply (fits_iff_getElem?.mp fits).2 idx formal (taken.map arguments)
      formalAt
    · rw [List.getElem?_map, takenAt]
      rfl
    · exact List.mem_map_of_mem inTaken
  · rintro ⟨⟨bound, binds⟩, fits⟩
    refine ⟨_, ⟨bound, binds, rfl⟩, fits_iff_getElem?.mpr ⟨?_, ?_⟩⟩
    · rw [List.length_map, bind_length binds]
    · intro idx formal taken formalAt takenAt argument member
      rw [List.getElem?_map, Option.map_eq_some_iff] at takenAt
      obtain ⟨places, placesAt, rfl⟩ := takenAt
      obtain ⟨place, inPlaces, rfl⟩ := List.mem_map.mp member
      exact fits place idx formal
        ⟨bound, places, binds, placesAt, inPlaces, formalAt⟩

/-- Only arguments of the call go to formals. -/
theorem BindsTo.mem_arguments
    {shape : CallShape}
    {formals : List (Formal τ)}
    {place : Place}
    {idx : Nat}
    {formal : Formal τ}
    (binds : shape.BindsTo formals place idx formal) :
    place ∈ shape.supply.arguments := by
  obtain ⟨bound, taken, isBound, takenAt, inTaken, -⟩ := binds
  exact (bind_perm isBound).mem_iff.mp
    (List.mem_flatten_of_mem (List.mem_of_getElem? takenAt) inTaken)

end CallShape

/-! ## Calls with one keyword -/

/-- The form of a call with some positional arguments and one keyword. -/
def oneKeyword (count : Nat) (name : String) : CallShape :=
  ⟨count, [name], List.nodup_singleton name⟩

/-- The argument at a place of such a call. -/
def argumentAt (positional : List α) (keyword : α) : Place → α
  | .positional idx => positional.getD idx keyword
  | .keyword _ => keyword

theorem oneKeyword_supply_map
    (positional : List α)
    (name : String)
    (keyword : α) :
    (oneKeyword positional.length name).supply.map
        (argumentAt positional keyword) =
      ⟨positional, [(name, keyword)]⟩ := by
  have arguments :
      (List.range positional.length).map
          (fun idx => positional.getD idx keyword) = positional := by
    apply List.ext_getElem
    · simp
    · intro idx _ inRange
      simp [inRange]
  simp only [CallShape.supply, oneKeyword, Supply.map, List.map_map,
    List.map_cons, List.map_nil]
  exact congrArg (Supply.mk · _) arguments

/-- Such a call is accepted place by place, too. -/
theorem accepts_oneKeyword_iff
    (relation : α → τ → Prop)
    (formals : List (Formal τ))
    (positional : List α)
    (name : String)
    (keyword : α) :
    Accepts relation formals ⟨positional, [(name, keyword)]⟩ ↔
      (oneKeyword positional.length name).AcceptedBy formals ∧
        ∀ place idx formal,
          (oneKeyword positional.length name).BindsTo formals place idx formal →
            relation (argumentAt positional keyword place) formal.type := by
  rw [← oneKeyword_supply_map, CallShape.accepts_iff]

/-- Another argument for the keyword is accepted when it fits where the keyword
goes to. -/
theorem Accepts.exchange_keyword
    {relation : α → τ → Prop}
    {formals : List (Formal τ)}
    {positional : List α}
    {name : String}
    {keyword keyword' : α}
    (accepted : Accepts relation formals ⟨positional, [(name, keyword)]⟩)
    (fits : ∀ idx formal,
      (oneKeyword positional.length name).BindsTo formals (.keyword name) idx
          formal →
        relation keyword' formal.type) :
    Accepts relation formals ⟨positional, [(name, keyword')]⟩ := by
  rw [accepts_oneKeyword_iff] at accepted ⊢
  refine ⟨accepted.1, ?_⟩
  intro place idx formal binds
  have isArgument := binds.mem_arguments
  cases place with
  | positional position =>
      have inRange : position < positional.length := by
        simpa [CallShape.supply, oneKeyword, Supply.arguments] using isArgument
      have fitsBefore := accepted.2 _ idx formal binds
      simpa [argumentAt, inRange] using fitsBefore
  | keyword key =>
      have isName : key = name := by
        simpa [CallShape.supply, oneKeyword, Supply.arguments] using isArgument
      subst isName
      exact fits idx formal binds

/-- Smaller arguments are smaller at each place. -/
theorem argumentAt_le
    [Preorder τ]
    {smaller larger : List τ}
    {keyword keyword' : τ}
    (related : List.Forall₂ (fun first second => first ≤ second)
      smaller larger)
    (keywords : keyword ≤ keyword')
    (place : Place) :
    argumentAt smaller keyword place ≤ argumentAt larger keyword' place := by
  cases place with
  | keyword name => exact keywords
  | positional idx =>
      unfold argumentAt
      induction related generalizing idx with
      | nil => exact keywords
      | cons head _ inductionHypothesis =>
          cases idx with
          | zero => exact head
          | succ idx => exact inductionHypothesis idx

/-- They are accepted where the larger ones are. -/
theorem Accepts.lower_oneKeyword
    [Preorder τ]
    {formals : List (Formal τ)}
    {smaller larger : List τ}
    {name : String}
    {keyword keyword' : τ}
    (related : List.Forall₂ (fun first second => first ≤ second)
      smaller larger)
    (keywords : keyword ≤ keyword')
    (accepted : Accepts (fun argument type => argument ≤ type) formals
      ⟨larger, [(name, keyword')]⟩) :
    Accepts (fun argument type => argument ≤ type) formals
      ⟨smaller, [(name, keyword)]⟩ := by
  rw [accepts_oneKeyword_iff] at accepted ⊢
  rw [related.length_eq]
  refine ⟨accepted.1, ?_⟩
  intro place idx formal binds
  exact le_trans (argumentAt_le related keywords place)
    (accepted.2 place idx formal binds)

end Calling
end TrioTyping
