import TrioTyping.Calling.Fitting

/-!
# Calls taken apart

The first positional argument of a call goes to the first formal, and the rest of
the call to the other formals. A call of a signature with positional-only formals
and a required keyword is a matter of the number of arguments and of each
argument's type.
-/

namespace TrioTyping
namespace Calling

universe u v

variable {τ : Type u} {α : Type v}

/-- Without keyword arguments none is found. -/
theorem Formal.takeByName_nil (formal : Formal τ) :
    formal.takeByName ([] : List (String × α)) = none := by
  unfold Formal.takeByName
  cases formal.name <;> rfl

/-- The arguments of two parts of a signature fit when those of each part do. -/
theorem fits_append_iff
    {relation : α → τ → Prop}
    {first second : List (Formal τ)}
    {bound following : List (List α)}
    (lengths : bound.length = first.length) :
    Fits relation (first ++ second) (bound ++ following) ↔
      Fits relation first bound ∧ Fits relation second following := by
  unfold Fits
  induction first generalizing bound with
  | nil =>
      obtain rfl := List.length_eq_zero_iff.mp lengths
      simp only [List.nil_append, List.Forall₂.nil, true_and]
  | cons formal first inductionHypothesis =>
      cases bound with
      | nil => cases lengths
      | cons taken bound =>
          rw [List.cons_append, List.cons_append, List.forall₂_cons,
            List.forall₂_cons, inductionHypothesis (Nat.succ.inj lengths),
            and_assoc]

/-- Formals that are given nothing are satisfied. -/
theorem fits_nothing
    (relation : α → τ → Prop)
    (formals : List (Formal τ)) :
    Fits relation formals (formals.map fun _ => []) := by
  unfold Fits
  rw [List.forall₂_map_right_iff, List.forall₂_same]
  intro _ _ argument member
  cases member

/-- Each of some positional-only formals takes one argument. -/
theorem fits_singletons_iff
    {relation : α → τ → Prop}
    {fresh : List (Formal τ)}
    {arguments : List α} :
    Fits relation fresh (arguments.map fun argument => [argument]) ↔
      List.Forall₂ (fun formal argument => relation argument formal.type)
        fresh arguments := by
  unfold Fits
  rw [List.forall₂_map_right_iff]
  simp only [List.forall_mem_singleton]

/-- The first positional argument, such as a receiver, goes to the first formal,
and the others to the others. -/
theorem accepts_cons_iff
    {relation : α → τ → Prop}
    {first : Formal τ}
    {formals : List (Formal τ)}
    {argument : α}
    {positional : List α}
    {keywords : List (String × α)}
    (isPos : first.kind = .pos) :
    Accepts relation (first :: formals) ⟨argument :: positional, keywords⟩ ↔
      first.takeByName keywords = none ∧ relation argument first.type ∧
        Accepts relation formals ⟨positional, keywords⟩ := by
  have isPositional : first.kind.isPositional = true := by
    rw [isPos]
    rfl
  constructor
  · rintro ⟨bound, binds, fits⟩
    obtain ⟨taken, rest, following, step, walked, rfl⟩ :=
      consumeAll_cons_eq_some_iff.mp ((bind_eq_some_iff _ _ _).mp binds)
    obtain ⟨absent, rfl, rfl⟩ :=
      (Formal.consume_positional_cons_iff isPositional).mp step
    unfold Fits at fits
    rw [List.forall₂_cons, List.forall_mem_singleton] at fits
    exact ⟨absent, fits.1, following, (bind_eq_some_iff _ _ _).mpr walked,
      fits.2⟩
  · rintro ⟨absent, fitsFirst, bound, binds, fits⟩
    have step : first.consume ⟨argument :: positional, keywords⟩ =
        some ([argument], ⟨positional, keywords⟩) :=
      (Formal.consume_positional_cons_iff isPositional).mpr ⟨absent, rfl, rfl⟩
    have walked := consumeAll_cons_eq_some_iff.mpr
      ⟨_, _, _, step, (bind_eq_some_iff _ _ _).mp binds, rfl⟩
    refine ⟨_, (bind_eq_some_iff _ _ _).mpr walked, ?_⟩
    unfold Fits at fits ⊢
    rw [List.forall₂_cons, List.forall_mem_singleton]
    exact ⟨fitsFirst, fits⟩

/-- Without formals there are no arguments. -/
theorem Accepts.arguments_eq_nil
    {relation : α → τ → Prop}
    {supply : Supply α}
    (accepted : Accepts relation ([] : List (Formal τ)) supply) :
    supply.arguments = [] := by
  obtain ⟨bound, binds, fits⟩ := accepted
  unfold Fits at fits
  cases fits
  exact (bind_perm binds).symm.eq_nil

/-- All the arguments of a call with a single formal fit it. -/
theorem Accepts.forall_arguments
    {relation : α → τ → Prop}
    {formal : Formal τ}
    {supply : Supply α}
    (accepted : Accepts relation [formal] supply) :
    ∀ argument ∈ supply.arguments, relation argument formal.type := by
  obtain ⟨bound, binds, fits⟩ := accepted
  unfold Fits at fits
  rw [List.forall₂_cons_left_iff] at fits
  obtain ⟨taken, following, fitsTaken, fitsNone, rfl⟩ := fits
  cases fitsNone
  intro argument member
  have inTaken := (bind_perm binds).mem_iff.mpr member
  rw [List.flatten_cons, List.flatten_nil, List.append_nil] at inTaken
  exact fitsTaken argument inTaken

/-- A keyword argument is the only one when none is left without it. -/
theorem takeKeyword_eq_some_nil_iff
    {name : String}
    {keywords : List (String × α)}
    {argument : α} :
    takeKeyword name keywords = some (argument, []) ↔
      keywords = [(name, argument)] := by
  cases keywords with
  | nil => simp [takeKeyword]
  | cons entry keywords =>
      obtain ⟨key, first⟩ := entry
      by_cases same : key = name
      · simp [takeKeyword, same]
      · simp [takeKeyword, same]

/-- A required keyword takes the only keyword argument. -/
theorem consumeAll_named_iff
    {name : String}
    {type : τ}
    {keywords : List (String × α)}
    {bound : List (List α)} :
    consumeAll [(⟨.named, some name, type⟩ : Formal τ)] ⟨[], keywords⟩ =
        some (bound, ⟨[], []⟩) ↔
      ∃ argument, keywords = [(name, argument)] ∧ bound = [[argument]] := by
  have byName :
      (⟨.named, some name, type⟩ : Formal τ).takeByName keywords =
        takeKeyword name keywords := rfl
  simp only [← takeKeyword_eq_some_nil_iff]
  rw [consumeAll_cons, Formal.consume_named (.inl rfl), Formal.consumeKeyword,
    byName]
  cases takeKeyword name keywords with
  | none => simp [ArgKind.isRequired]
  | some taken =>
      obtain ⟨argument, rest⟩ := taken
      simp [and_comm, eq_comm]

/-- Positional-only formals and a required keyword are given one argument each.
-/
theorem accepts_named_iff
    {relation : α → τ → Prop}
    {fresh : List (Formal τ)}
    {name : String}
    {type : τ}
    (positionalOnly : ∀ formal ∈ fresh, PositionalOnly formal)
    (supply : Supply α) :
    Accepts relation (fresh ++ [⟨.named, some name, type⟩]) supply ↔
      ∃ keyword, supply.keywords = [(name, keyword)] ∧ relation keyword type ∧
        List.Forall₂ (fun formal argument => relation argument formal.type)
          fresh supply.positional := by
  have binds := @bind_expanded_iff τ α [] [⟨.named, some name, type⟩] fresh
    positionalOnly (by simp [ArgKind.isKeywordOnly]) supply
  have fits (keyword : α) (lengths : supply.positional.length = fresh.length) :
      Fits relation (fresh ++ [⟨.named, some name, type⟩])
          (supply.positional.map (fun argument => [argument]) ++
            [[keyword]]) ↔
        relation keyword type ∧
          List.Forall₂ (fun formal argument => relation argument formal.type)
            fresh supply.positional := by
    rw [fits_append_iff (by rw [List.length_map, lengths]),
      fits_singletons_iff, and_comm]
    unfold Fits
    rw [List.forall₂_cons, List.forall_mem_singleton,
      and_iff_left List.Forall₂.nil]
  unfold Accepts
  simp only [List.nil_append, consumeAll_nil, Option.some.injEq, Prod.mk.injEq,
    consumeAll_named_iff] at binds
  simp only [binds]
  constructor
  · rintro ⟨_, ⟨_, _, _, ⟨rfl, rfl⟩, ⟨keyword, isKeyword, rfl⟩, lengths, rfl⟩,
      fitsAll⟩
    exact ⟨keyword, isKeyword, (fits keyword lengths).mp fitsAll⟩
  · rintro ⟨keyword, isKeyword, fitsEach⟩
    have lengths := fitsEach.2.length_eq.symm
    exact ⟨_, ⟨_, _, _, ⟨rfl, rfl⟩, ⟨keyword, isKeyword, rfl⟩, lengths, rfl⟩,
      (fits keyword lengths).mpr fitsEach⟩

/-- A first argument that is required cannot be left out. -/
theorem not_accepts_cons_nil
    {first : Formal τ}
    (isPos : first.kind = .pos)
    (relation : α → τ → Prop)
    (formals : List (Formal τ)) :
    ¬Accepts relation (first :: formals) ⟨[], []⟩ := by
  rintro ⟨bound, binds, -⟩
  have missing :
      first.consume (⟨[], []⟩ : Supply α) = none := by
    rw [Formal.consume_positional_nil (by rw [isPos]; rfl),
      Formal.consumeKeyword, first.takeByName_nil, isPos]
    rfl
  rw [bind, consumeAll_cons, missing] at binds
  cases binds

end Calling
end TrioTyping
