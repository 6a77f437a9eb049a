import Mathlib.Order.Defs.PartialOrder
import TrioTyping.Calling.Variadic

/-!
# Typed calls of variadic signatures

A call is accepted when it binds and its arguments fit. Here this is read
parameter by parameter, so that the condition on the arguments of `*args` can be
separated from that on all others. When fitting is a preorder, arguments of an
accepted call can be exchanged for smaller ones.
-/

namespace TrioTyping
namespace Calling

universe u v

variable {τ : Type u} {α : Type v}

/-! ## Arguments that fit -/

/-- Every argument fits, parameter by parameter. -/
theorem fits_iff_getElem?
    {relation : α → τ → Prop}
    {formals : List (Formal τ)}
    {bound : List (List α)} :
    Fits relation formals bound ↔
      formals.length = bound.length ∧
        ∀ (idx : Nat) (formal : Formal τ) (taken : List α),
          formals[idx]? = some formal → bound[idx]? = some taken →
            ∀ argument ∈ taken, relation argument formal.type := by
  unfold Fits
  rw [List.forall₂_iff_get]
  refine and_congr_right fun lengths => ?_
  constructor
  · intro fits idx formal taken formalAt takenAt
    obtain ⟨inRange, rfl⟩ := List.getElem?_eq_some_iff.mp formalAt
    obtain ⟨inRange', rfl⟩ := List.getElem?_eq_some_iff.mp takenAt
    exact fits idx inRange inRange'
  · intro fits idx inRange inRange'
    exact fits idx _ _ (List.getElem?_eq_getElem inRange)
      (List.getElem?_eq_getElem inRange')

/-- Every argument fits, except perhaps those of the parameter at an index. -/
def FitsExcept
    (relation : α → τ → Prop)
    (idx : Nat)
    (formals : List (Formal τ))
    (bound : List (List α)) : Prop :=
  ∀ (other : Nat) (formal : Formal τ) (taken : List α),
    other ≠ idx → formals[other]? = some formal →
      bound[other]? = some taken →
        ∀ argument ∈ taken, relation argument formal.type

/-- With another parameter in one place, the arguments it takes are checked
against it and every other argument as before. What the parameter left out takes
does not matter. -/
theorem fitsExcept_exchange_iff
    {relation : α → τ → Prop}
    {formals formals' : List (Formal τ)}
    {bound : List (List α)}
    {idx changed : Nat}
    {formal' : Formal τ}
    {taken : List α}
    (different : changed ≠ idx)
    (inRange : idx < bound.length)
    (changedAt : formals'[changed]? = some formal')
    (unchanged : ∀ other, other ≠ changed →
      formals'[other]? = formals[other]?)
    (takenAt : bound[changed]? = some taken) :
    FitsExcept relation idx formals' bound ↔
      FitsExcept relation changed formals (bound.set idx []) ∧
        ∀ argument ∈ taken, relation argument formal'.type := by
  constructor
  · intro fits
    refine ⟨?_, fits changed formal' taken different changedAt takenAt⟩
    intro other formal entry notChanged formalAt entryAt argument member
    by_cases leftOut : other = idx
    · subst leftOut
      rw [List.getElem?_set_self inRange] at entryAt
      cases entryAt
      cases member
    · rw [List.getElem?_set_ne (Ne.symm leftOut)] at entryAt
      rw [← unchanged other notChanged] at formalAt
      exact fits other formal entry leftOut formalAt entryAt argument member
  · rintro ⟨others, fitsTaken⟩ other formal entry notLeftOut formalAt entryAt
    by_cases atChanged : other = changed
    · subst atChanged
      rw [changedAt, Option.some.injEq] at formalAt
      rw [takenAt, Option.some.injEq] at entryAt
      subst formalAt entryAt
      exact fitsTaken
    · rw [unchanged other atChanged] at formalAt
      apply others other formal entry atChanged formalAt
      rw [List.getElem?_set_ne (Ne.symm notLeftOut)]
      exact entryAt

/-- The arguments of a spliced signature fit when the inserted ones fit the
inserted parameters and the others fit theirs. -/
theorem fits_splice_iff
    {relation : α → τ → Prop}
    {formals fresh : List (Formal τ)}
    {bound inserted : List (List α)}
    {idx : Nat}
    (inRange : idx < formals.length)
    (lengths : bound.length = formals.length)
    (insertedLengths : inserted.length = fresh.length) :
    Fits relation (splice formals idx fresh) (splice bound idx inserted) ↔
      FitsExcept relation idx formals bound ∧ Fits relation fresh inserted := by
  have boundInRange : idx < bound.length := by omega
  rw [fits_iff_getElem?, fits_iff_getElem?]
  constructor
  · rintro ⟨-, fits⟩
    refine ⟨?_, insertedLengths.symm, ?_⟩
    · intro other formal taken different formalAt takenAt
      rcases Nat.lt_or_gt_of_ne different with before | after
      · apply fits other formal taken
        · rw [splice_getElem?_before inRange before, formalAt]
        · rw [splice_getElem?_before boundInRange before, takenAt]
      · obtain ⟨further, rfl⟩ := Nat.exists_eq_add_of_lt after
        apply fits (idx + fresh.length + further) formal taken
        · rw [splice_getElem?_after inRange, ← formalAt, Nat.add_right_comm]
        · rw [← insertedLengths, splice_getElem?_after boundInRange, ← takenAt,
            Nat.add_right_comm]
    · intro other formal taken formalAt takenAt
      obtain ⟨within, -⟩ := List.getElem?_eq_some_iff.mp formalAt
      apply fits (idx + other) formal taken
      · rw [splice_getElem?_inserted inRange within, formalAt]
      · rw [splice_getElem?_inserted boundInRange (by omega), takenAt]
  · rintro ⟨fitsOthers, -, fitsFresh⟩
    refine ⟨?_, ?_⟩
    · simp only [splice, List.length_append, List.length_take,
        List.length_drop]
      omega
    · intro other formal taken formalAt takenAt
      rcases Nat.lt_or_ge other idx with before | notBefore
      · rw [splice_getElem?_before inRange before] at formalAt
        rw [splice_getElem?_before boundInRange before] at takenAt
        exact fitsOthers other formal taken (by omega) formalAt takenAt
      · obtain ⟨further, rfl⟩ := Nat.exists_eq_add_of_le notBefore
        rcases Nat.lt_or_ge further fresh.length with within | beyond
        · rw [splice_getElem?_inserted inRange within] at formalAt
          rw [splice_getElem?_inserted boundInRange (by omega)] at takenAt
          exact fitsFresh further formal taken formalAt takenAt
        · obtain ⟨last, rfl⟩ := Nat.exists_eq_add_of_le beyond
          rw [← Nat.add_assoc, splice_getElem?_after inRange] at formalAt
          rw [← Nat.add_assoc, ← insertedLengths,
            splice_getElem?_after boundInRange] at takenAt
          exact fitsOthers (idx + 1 + last) formal taken (by omega) formalAt
            takenAt

/-- A call is accepted by a spliced signature when it binds to the original one,
the arguments in `*args` fit the inserted parameters one by one, and the others
fit theirs. -/
theorem accepts_splice_iff
    {relation : α → τ → Prop}
    {formals fresh : List (Formal τ)}
    {idx : Nat}
    {star : Formal τ}
    (ordered : (formals.map Formal.kind).Pairwise ArgKind.Precedes)
    (starAt : formals[idx]? = some star)
    (isStar : star.kind = .star)
    (positionalOnly : ∀ formal ∈ fresh, PositionalOnly formal)
    (supply : Supply α) :
    Accepts relation (splice formals idx fresh) supply ↔
      ∃ bound, bind formals supply = some bound ∧
        FitsExcept relation idx formals bound ∧
        List.Forall₂ (fun formal argument => relation argument formal.type)
          fresh (supply.positional.drop idx) := by
  obtain ⟨inRange, -⟩ := List.getElem?_eq_some_iff.mp starAt
  have single (extra : List α) :
      Fits relation fresh (extra.map fun argument => [argument]) ↔
        List.Forall₂ (fun formal argument => relation argument formal.type)
          fresh extra := by
    unfold Fits
    rw [List.forall₂_map_right_iff]
    simp only [List.forall_mem_singleton]
  unfold Accepts
  simp only [bind_splice_iff ordered starAt isStar positionalOnly]
  constructor
  · rintro ⟨_, ⟨bound, binds, lengths, rfl⟩, fits⟩
    obtain ⟨others, extra⟩ := (fits_splice_iff inRange (bind_length binds)
      (by rw [List.length_map, lengths])).mp fits
    exact ⟨bound, binds, others, (single _).mp extra⟩
  · rintro ⟨bound, binds, others, extra⟩
    have lengths := extra.length_eq.symm
    exact ⟨_, ⟨bound, binds, lengths, rfl⟩,
      (fits_splice_iff inRange (bind_length binds)
        (by rw [List.length_map, lengths])).mpr ⟨others, (single _).mpr extra⟩⟩

/-! ## Smaller arguments -/

section Preorder

variable [Preorder τ]

/-- Two lists that are related entry by entry are the two sides of a list of
related pairs. -/
theorem exists_pairs
    {smaller larger : List τ}
    (related : List.Forall₂ (fun first second => first ≤ second)
      smaller larger) :
    ∃ pairs : List { pair : τ × τ // pair.1 ≤ pair.2 },
      pairs.map (fun pair => pair.val.1) = smaller ∧
        pairs.map (fun pair => pair.val.2) = larger := by
  induction related with
  | nil => exact ⟨[], rfl, rfl⟩
  | cons head _ inductionHypothesis =>
      obtain ⟨pairs, rfl, rfl⟩ := inductionHypothesis
      exact ⟨⟨(_, _), head⟩ :: pairs, rfl, rfl⟩

/-- A signature that accepts a call accepts it with smaller arguments at the end
of the positional ones. -/
theorem Accepts.lower_extra
    {formals : List (Formal τ)}
    {positional smaller larger : List τ}
    {keywords : List (String × τ)}
    (related : List.Forall₂ (fun first second => first ≤ second)
      smaller larger)
    (accepted : Accepts (fun argument type => argument ≤ type) formals
      ⟨positional ++ larger, keywords⟩) :
    Accepts (fun argument type => argument ≤ type) formals
      ⟨positional ++ smaller, keywords⟩ := by
  obtain ⟨pairs, rfl, rfl⟩ := exists_pairs related
  let unchanged (argument : τ) : { pair : τ × τ // pair.1 ≤ pair.2 } :=
    ⟨(argument, argument), le_refl argument⟩
  let supply : Supply { pair : τ × τ // pair.1 ≤ pair.2 } :=
    ⟨positional.map unchanged ++ pairs,
      keywords.map fun entry => (entry.1, unchanged entry.2)⟩
  have largerSide :
      supply.map (fun pair => pair.val.2) =
        ⟨positional ++ pairs.map fun pair => pair.val.2, keywords⟩ := by
    simp [supply, unchanged, Supply.map, Function.comp_def]
  have smallerSide :
      supply.map (fun pair => pair.val.1) =
        ⟨positional ++ pairs.map fun pair => pair.val.1, keywords⟩ := by
    simp [supply, unchanged, Supply.map, Function.comp_def]
  rw [← largerSide] at accepted
  rw [← smallerSide]
  exact accepted.exchange fun pair type fits => le_trans pair.property fits

end Preorder

end Calling
end TrioTyping
