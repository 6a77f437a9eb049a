import TrioTyping.Calling.Shape

/-!
# The number of positional arguments a signature needs

A required positional parameter needs a positional argument unless it is passed
by keyword. The number of these parameters is a lower bound for the number of
positional arguments of an accepted call, and above this bound the last
positional argument can be left out.
-/

namespace TrioTyping
namespace Calling

universe u v

variable {τ : Type u} {α : Type v}

/-- The parameter needs a positional argument when these keywords are passed. -/
def NeedsPositional (keys : List String) (formal : Formal τ) : Prop :=
  formal.kind = .pos ∧ ∀ name ∈ formal.name, name ∉ keys

instance (keys : List String) :
    DecidablePred (NeedsPositional keys : Formal τ → Prop) := fun formal =>
  inferInstanceAs (Decidable (formal.kind = .pos ∧ ∀ name ∈ formal.name, _))

/-- The number of parameters that need a positional argument. -/
def requiredPositional
    (formals : List (Formal τ))
    (keys : List String) : Nat :=
  formals.countP fun formal => NeedsPositional keys formal

theorem requiredPositional_cons
    (formal : Formal τ)
    (formals : List (Formal τ))
    (keys : List String) :
    requiredPositional (formal :: formals) keys =
      requiredPositional formals keys +
        if NeedsPositional keys formal then 1 else 0 := by
  simp [requiredPositional, List.countP_cons]

/-- Fewer keywords leave more parameters to be passed by position. -/
theorem requiredPositional_anti
    (formals : List (Formal τ))
    {fewer keys : List String}
    (contained : ∀ name ∈ fewer, name ∈ keys) :
    requiredPositional formals keys ≤ requiredPositional formals fewer := by
  apply List.countP_mono_left
  intro formal _ needs
  simp only [decide_eq_true_eq] at needs ⊢
  exact ⟨needs.1, fun name isName member =>
    needs.2 name isName (contained name member)⟩

/-! ## Keywords that are taken -/

theorem takeKeyword_eq_none_iff
    (name : String)
    (keywords : List (String × α)) :
    takeKeyword name keywords = none ↔ name ∉ keywords.map Prod.fst := by
  induction keywords with
  | nil => simp [takeKeyword]
  | cons entry keywords inductionHypothesis =>
      obtain ⟨key, argument⟩ := entry
      by_cases here : key = name
      · simp [takeKeyword, here]
      · simp [takeKeyword, here, inductionHypothesis, Ne.symm here]

/-- Taking a keyword leaves some of the keywords. -/
theorem takeKeyword_keys
    {name : String}
    {keywords rest : List (String × α)}
    {argument : α}
    (found : takeKeyword name keywords = some (argument, rest)) :
    ∀ key ∈ rest.map Prod.fst, key ∈ keywords.map Prod.fst := by
  induction keywords generalizing rest with
  | nil => cases found
  | cons entry keywords inductionHypothesis =>
      obtain ⟨key, other⟩ := entry
      unfold takeKeyword at found
      by_cases here : key = name
      · rw [if_pos here] at found
        cases found
        intro later member
        exact List.mem_cons_of_mem _ member
      · rw [if_neg here, Option.map_eq_some_iff] at found
        obtain ⟨⟨taken, remaining⟩, foundLater, equal⟩ := found
        cases equal
        intro later member
        rw [List.map_cons, List.mem_cons] at member ⊢
        rcases member with same | member
        · exact .inl same
        · exact .inr (inductionHypothesis foundLater later member)

/-- A parameter that finds no keyword of its name needs a positional argument if
it is a required one. -/
theorem Formal.needsPositional_of_takeByName
    {formal : Formal τ}
    {keywords : List (String × α)}
    (isPos : formal.kind = .pos)
    (absent : formal.takeByName keywords = none) :
    NeedsPositional (keywords.map Prod.fst) formal := by
  refine ⟨isPos, ?_⟩
  intro name isName
  rw [Option.mem_def] at isName
  rw [Formal.takeByName, isName, Option.bind_some,
    takeKeyword_eq_none_iff] at absent
  exact absent

/-- A parameter that is passed by keyword needs no positional argument. -/
theorem Formal.not_needsPositional_of_takeByName
    {formal : Formal τ}
    {keywords rest : List (String × α)}
    {argument : α}
    (found : formal.takeByName keywords = some (argument, rest)) :
    ¬NeedsPositional (keywords.map Prod.fst) formal := by
  rintro ⟨-, absent⟩
  obtain ⟨name, isName, foundName⟩ := Option.bind_eq_some_iff.mp found
  have notFound :=
    (takeKeyword_eq_none_iff name keywords).mpr (absent name isName)
  rw [notFound] at foundName
  cases foundName

/-! ## The number of positional arguments is enough -/

/-- Looking for a keyword leaves some of the keywords, and settles that no
positional argument is needed. -/
theorem consumeKeyword_left
    {formal : Formal τ}
    {supply left : Supply α}
    {taken : List α}
    (consumed : formal.consumeKeyword supply = some (taken, left)) :
    (∀ key ∈ left.keywords.map Prod.fst,
        key ∈ supply.keywords.map Prod.fst) ∧
      ¬NeedsPositional (supply.keywords.map Prod.fst) formal := by
  unfold Formal.consumeKeyword at consumed
  split at consumed
  · rename_i argument keywords found
    cases consumed
    refine ⟨?_, Formal.not_needsPositional_of_takeByName found⟩
    obtain ⟨name, -, foundName⟩ := Option.bind_eq_some_iff.mp found
    exact takeKeyword_keys foundName
  · split at consumed
    · cases consumed
    · rename_i optional
      cases consumed
      refine ⟨fun _ member => member, ?_⟩
      rintro ⟨isPos, -⟩
      rw [isPos] at optional
      exact optional rfl

/-- Looking for a keyword does not depend on the positional arguments. -/
theorem consumeKeyword_exchange
    {formal : Formal τ}
    {positional : List α}
    {keywords remaining : List (String × α)}
    {taken : List α}
    (consumed : formal.consumeKeyword ⟨positional, keywords⟩ =
      some (taken, ⟨positional, remaining⟩))
    (positional' : List α) :
    formal.consumeKeyword ⟨positional', keywords⟩ =
      some (taken, ⟨positional', remaining⟩) := by
  unfold Formal.consumeKeyword at consumed ⊢
  dsimp only at consumed ⊢
  cases found : formal.takeByName keywords with
  | none =>
      simp only [found] at consumed ⊢
      by_cases required : formal.kind.isRequired = true
      · rw [if_pos required] at consumed
        cases consumed
      · rw [if_neg required] at consumed ⊢
        cases consumed
        rfl
  | some pair =>
      simp only [found] at consumed ⊢
      cases consumed
      rfl

/-- What a step leaves: no new keyword, and a positional argument less if the
parameter needs one. -/
theorem consume_left
    {formal : Formal τ}
    {supply left : Supply α}
    {taken : List α}
    (consumed : formal.consume supply = some (taken, left)) :
    (∀ key ∈ left.keywords.map Prod.fst, key ∈ supply.keywords.map Prod.fst) ∧
      left.positional.length +
          (if NeedsPositional (supply.keywords.map Prod.fst) formal then 1
            else 0) ≤
        supply.positional.length := by
  have byKeyword
      (consumed : formal.consumeKeyword supply = some (taken, left)) :
      (∀ key ∈ left.keywords.map Prod.fst,
          key ∈ supply.keywords.map Prod.fst) ∧
        left.positional.length +
            (if NeedsPositional (supply.keywords.map Prod.fst) formal then 1
              else 0) ≤
          supply.positional.length := by
    obtain ⟨fewerKeys, notNeeded⟩ := consumeKeyword_left consumed
    refine ⟨fewerKeys, ?_⟩
    rw [Formal.consumeKeyword_positional consumed, if_neg notNeeded]
    omega
  cases kind : formal.kind with
  | star =>
      rw [Formal.consume_star kind] at consumed
      cases consumed
      refine ⟨fun _ member => member, ?_⟩
      simp [NeedsPositional, kind]
  | star2 =>
      rw [Formal.consume_star2 kind] at consumed
      cases consumed
      refine ⟨fun _ member => by simp at member, ?_⟩
      simp [NeedsPositional, kind]
  | named | namedOpt =>
      rw [Formal.consume_named (by simp [kind])] at consumed
      exact byKeyword consumed
  | pos | opt =>
      have isPositional : formal.kind.isPositional = true := by
        rw [kind]
        rfl
      obtain ⟨positional, keywords⟩ := supply
      cases positional with
      | nil =>
          rw [Formal.consume_positional_nil isPositional] at consumed
          exact byKeyword consumed
      | cons first positional =>
          obtain ⟨-, -, rfl⟩ :=
            (Formal.consume_positional_cons_iff isPositional).mp consumed
          refine ⟨fun _ member => member, ?_⟩
          rw [List.length_cons]
          dsimp only
          split <;> omega

/-- A walk takes a positional argument for each parameter that needs one. -/
theorem requiredPositional_le_of_consumeAll
    {formals : List (Formal τ)}
    {supply left : Supply α}
    {bound : List (List α)}
    (consumed : consumeAll formals supply = some (bound, left)) :
    requiredPositional formals (supply.keywords.map Prod.fst) ≤
      supply.positional.length := by
  induction formals generalizing supply bound with
  | nil => exact Nat.zero_le _
  | cons formal formals inductionHypothesis =>
      obtain ⟨taken, rest, following, step, remaining, rfl⟩ :=
        consumeAll_cons_eq_some_iff.mp consumed
      obtain ⟨fewerKeys, positional⟩ := consume_left step
      have later := inductionHypothesis remaining
      have monotone := requiredPositional_anti formals fewerKeys
      rw [requiredPositional_cons]
      omega

/-! ## Leaving out the last positional argument -/

/-- No parameter that needs a positional argument follows an optional one. -/
theorem requiredPositional_eq_zero
    {formals : List (Formal τ)}
    (noPos : ∀ formal ∈ formals, formal.kind ≠ .pos)
    (keys : List String) :
    requiredPositional formals keys = 0 := by
  apply List.countP_eq_zero.mpr
  intro formal member needs
  exact noPos formal member (of_decide_eq_true needs).1

/-- A parameter that precedes others and is not a required one is followed by no
required one. -/
theorem requiredPositional_after
    {kind : ArgKind}
    {formals : List (Formal τ)}
    (precedes : ∀ other ∈ formals.map Formal.kind, kind.Precedes other)
    (notPos : kind ≠ .pos)
    (keys : List String) :
    requiredPositional formals keys = 0 := by
  apply requiredPositional_eq_zero
  intro formal member isPos
  have before := precedes formal.kind (List.mem_map_of_mem member)
  rw [isPos] at before
  exact notPos before.eq_pos_of_pos

/-- Without the last positional argument a step takes the same except for this
argument, and a required parameter has taken another one. -/
theorem consume_dropLast
    {formal : Formal τ}
    {arguments taken : List α}
    {last : α}
    {keywords : List (String × α)}
    {rest : Supply α}
    (consumed : formal.consume ⟨arguments ++ [last], keywords⟩ =
      some (taken, rest))
    (enough : NeedsPositional (keywords.map Prod.fst) formal →
      arguments ≠ []) :
    ∃ taken' rest',
      formal.consume ⟨arguments, keywords⟩ = some (taken', rest') ∧
        (rest' = rest ∨
          rest = ⟨rest'.positional ++ [last], rest'.keywords⟩ ∧
            (formal.kind = .pos →
              NeedsPositional (keywords.map Prod.fst) formal ∧
                rest'.keywords = keywords ∧
                rest'.positional.length + 1 = arguments.length)) := by
  cases kind : formal.kind with
  | star =>
      rw [Formal.consume_star kind] at consumed
      cases consumed
      exact ⟨_, _, Formal.consume_star kind _, .inl rfl⟩
  | star2 =>
      rw [Formal.consume_star2 kind] at consumed
      cases consumed
      exact ⟨_, _, Formal.consume_star2 kind _,
        .inr ⟨rfl, fun isPos => absurd isPos (by decide)⟩⟩
  | named | namedOpt =>
      have isNamed : formal.kind = .named ∨ formal.kind = .namedOpt := by
        simp [kind]
      rw [Formal.consume_named isNamed] at consumed
      obtain ⟨positional, remaining⟩ := rest
      obtain rfl : positional = arguments ++ [last] :=
        Formal.consumeKeyword_positional consumed
      refine ⟨taken, ⟨arguments, remaining⟩, ?_,
        .inr ⟨rfl, fun isPos => absurd isPos (by decide)⟩⟩
      rw [Formal.consume_named isNamed]
      exact consumeKeyword_exchange consumed arguments
  | opt =>
      have isPositional : formal.kind.isPositional = true := by
        rw [kind]
        rfl
      cases arguments with
      | nil =>
          obtain ⟨absent, -, rfl⟩ :=
            (Formal.consume_positional_cons_iff isPositional).mp consumed
          refine ⟨[], ⟨[], keywords⟩, ?_, .inl rfl⟩
          rw [Formal.consume_positional_nil isPositional]
          simp only [Formal.consumeKeyword, absent, kind, ArgKind.isRequired,
            Bool.false_eq_true, if_false]
      | cons first arguments =>
          obtain ⟨absent, -, rfl⟩ :=
            (Formal.consume_positional_cons_iff isPositional).mp consumed
          exact ⟨[first], ⟨arguments, keywords⟩,
            (Formal.consume_positional_cons_iff isPositional).mpr
              ⟨absent, rfl, rfl⟩,
            .inr ⟨rfl, fun isPos => absurd isPos (by decide)⟩⟩
  | pos =>
      have isPositional : formal.kind.isPositional = true := by
        rw [kind]
        rfl
      cases arguments with
      | nil =>
          obtain ⟨absent, -⟩ :=
            (Formal.consume_positional_cons_iff isPositional).mp consumed
          exact absurd rfl
            (enough (Formal.needsPositional_of_takeByName kind absent))
      | cons first arguments =>
          obtain ⟨absent, -, rfl⟩ :=
            (Formal.consume_positional_cons_iff isPositional).mp consumed
          have needed := Formal.needsPositional_of_takeByName kind absent
          exact ⟨[first], ⟨arguments, keywords⟩,
            (Formal.consume_positional_cons_iff isPositional).mpr
              ⟨absent, rfl, rfl⟩,
            .inr ⟨rfl, fun _ => ⟨needed, rfl, rfl⟩⟩⟩

/-- A walk that takes more positional arguments than are needed succeeds without
the last one. -/
theorem consumeAll_dropLast
    {formals : List (Formal τ)}
    (ordered : (formals.map Formal.kind).Pairwise ArgKind.Precedes)
    {arguments : List α}
    {last : α}
    {keywords : List (String × α)}
    {bound : List (List α)}
    {left : List (String × α)}
    (consumed : consumeAll formals ⟨arguments ++ [last], keywords⟩ =
      some (bound, ⟨[], left⟩))
    (enough : requiredPositional formals (keywords.map Prod.fst) ≤
      arguments.length) :
    ∃ bound', consumeAll formals ⟨arguments, keywords⟩ =
      some (bound', ⟨[], left⟩) := by
  induction formals generalizing arguments keywords bound with
  | nil => simp at consumed
  | cons formal formals inductionHypothesis =>
      rw [List.map_cons, List.pairwise_cons] at ordered
      obtain ⟨precedes, orderedLater⟩ := ordered
      rw [requiredPositional_cons] at enough
      obtain ⟨taken, rest, following, step, remaining, rfl⟩ :=
        consumeAll_cons_eq_some_iff.mp consumed
      have nonempty (needs : NeedsPositional (keywords.map Prod.fst) formal) :
          arguments ≠ [] := by
        rintro rfl
        rw [if_pos needs] at enough
        exact absurd enough (Nat.not_succ_le_zero _)
      obtain ⟨taken', rest', step', outcome⟩ := consume_dropLast step nonempty
      have later : ∃ bound', consumeAll formals rest' =
          some (bound', ⟨[], left⟩) := by
        rcases outcome with rfl | ⟨rfl, required⟩
        · exact ⟨following, remaining⟩
        · apply inductionHypothesis orderedLater remaining
          by_cases isPos : formal.kind = .pos
          · obtain ⟨needs, sameKeywords, lengths⟩ := required isPos
            rw [if_pos needs] at enough
            rw [sameKeywords]
            omega
          · rw [requiredPositional_after precedes isPos]
            exact Nat.zero_le _
      obtain ⟨following', walked⟩ := later
      exact ⟨taken' :: following',
        consumeAll_cons_eq_some_iff.mpr ⟨_, _, _, step', walked, rfl⟩⟩

/-- Above the number of parameters that need one, the last positional argument
of an accepted call can be left out. -/
theorem CallShape.acceptedBy_pred
    {formals : List (Formal τ)}
    (ordered : (formals.map Formal.kind).Pairwise ArgKind.Precedes)
    {count : Nat}
    {keywords : List String}
    {distinct : keywords.Nodup}
    (accepted : (⟨count + 1, keywords, distinct⟩ : CallShape).AcceptedBy
      formals)
    (enough : requiredPositional formals keywords ≤ count) :
    (⟨count, keywords, distinct⟩ : CallShape).AcceptedBy formals := by
  obtain ⟨bound, binds⟩ := accepted
  rw [bind_eq_some_iff] at binds
  simp only [CallShape.supply, List.range_succ, List.map_append, List.map_cons,
    List.map_nil] at binds
  obtain ⟨bound', walked⟩ := consumeAll_dropLast ordered binds (by
    simpa [Function.comp_def] using enough)
  exact ⟨bound', (bind_eq_some_iff _ _ _).mpr walked⟩

/-- An accepted call has a positional argument for each parameter that needs
one. -/
theorem CallShape.AcceptedBy.requiredPositional_le
    {formals : List (Formal τ)}
    {shape : CallShape}
    (accepted : shape.AcceptedBy formals) :
    requiredPositional formals shape.keywords ≤ shape.positional := by
  obtain ⟨bound, binds⟩ := accepted
  have walked := requiredPositional_le_of_consumeAll
    ((bind_eq_some_iff _ _ _).mp binds)
  simpa [CallShape.supply, Function.comp_def] using walked

end Calling
end TrioTyping
