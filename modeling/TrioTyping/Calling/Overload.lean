import TrioTyping.Calling.Arity
import TrioTyping.Calling.Leading

/-!
# Overloaded signatures

A call of an overloaded function is a call of the first of its signatures that
accepts it. The module compares such functions signature by signature, also where
they differ in the first parameter, in parameters that no argument goes to, or in
which parameters are required.
-/

namespace TrioTyping
namespace Calling

universe u v w

variable {τ : Type u} {α : Type v} {ρ : Type w}

instance
    (relation : α → τ → Prop)
    [∀ argument type, Decidable (relation argument type)]
    (formals : List (Formal τ))
    (bound : List (List α)) :
    Decidable (Fits relation formals bound) :=
  inferInstanceAs (Decidable (List.Forall₂ _ formals bound))

instance
    (relation : α → τ → Prop)
    [∀ argument type, Decidable (relation argument type)]
    (formals : List (Formal τ))
    (supply : Supply α) :
    Decidable (Accepts relation formals supply) :=
  decidable_of_iff
    (∃ bound ∈ bind formals supply, Fits relation formals bound) Iff.rfl

/-- Arguments may be looked at through a function. -/
theorem accepts_map_iff
    {β : Type w}
    {relation : α → τ → Prop}
    {formals : List (Formal τ)}
    {supply : Supply β}
    (f : β → α) :
    Accepts relation formals (supply.map f) ↔
      Accepts (fun argument => relation (f argument)) formals supply := by
  unfold Accepts Fits
  simp only [bind_map, Option.map_eq_some_iff]
  constructor
  · rintro ⟨_, ⟨bound, binds, rfl⟩, fits⟩
    rw [List.forall₂_map_right_iff] at fits
    refine ⟨bound, binds, fits.imp ?_⟩
    intro formal taken fitsEach argument member
    exact fitsEach (f argument) (List.mem_map_of_mem member)
  · rintro ⟨bound, binds, fits⟩
    refine ⟨_, ⟨bound, binds, rfl⟩, ?_⟩
    rw [List.forall₂_map_right_iff]
    refine fits.imp ?_
    intro formal taken fitsEach argument member
    obtain ⟨original, isOriginal, rfl⟩ := List.mem_map.mp member
    exact fitsEach original isOriginal

/-- One signature of an overloaded function. -/
structure Overload (τ : Type u) (ρ : Type w) where
  /-- Its parameters. -/
  formals : List (Formal τ)
  /-- Its result type. -/
  result : ρ

section Resolve

variable
  (relation : α → τ → Prop)
  [∀ argument type, Decidable (relation argument type)]

/-- The result type of a call, which is that of the first signature that accepts
it. -/
def resolve
    (overloads : List (Overload τ ρ))
    (supply : Supply α) : Option ρ :=
  (overloads.find? fun overload =>
    Accepts relation overload.formals supply).map Overload.result

variable {relation}

/-- The signatures are tried one after the other. -/
theorem resolve_cons
    (overload : Overload τ ρ)
    (overloads : List (Overload τ ρ))
    (supply : Supply α) :
    resolve relation (overload :: overloads) supply =
      if Accepts relation overload.formals supply then some overload.result
      else resolve relation overloads supply := by
  unfold resolve
  split
  · next accepted =>
      rw [List.find?_cons_of_pos (by simpa using accepted), Option.map_some]
  · next rejected =>
      rw [List.find?_cons_of_neg (by simpa using rejected)]

/-- The signature that a call is resolved to accepts it, and the signatures before
do not. -/
theorem resolve_eq_some_iff
    {overloads : List (Overload τ ρ)}
    {supply : Supply α}
    {result : ρ} :
    resolve relation overloads supply = some result ↔
      ∃ before overload after,
        overloads = before ++ overload :: after ∧
        Accepts relation overload.formals supply ∧
        (∀ other ∈ before, ¬Accepts relation other.formals supply) ∧
        overload.result = result := by
  unfold resolve
  simp only [Option.map_eq_some_iff, List.find?_eq_some_iff_append,
    decide_eq_true_eq, Bool.not_eq_true', decide_eq_false_iff_not]
  constructor
  · rintro ⟨overload, ⟨accepted, before, after, same, none⟩, isResult⟩
    exact ⟨before, overload, after, same, accepted, none, isResult⟩
  · rintro ⟨before, overload, after, same, accepted, none, isResult⟩
    exact ⟨overload, ⟨accepted, before, after, same, none⟩, isResult⟩

/-- The type of a call is the result type of a signature that accepts it. -/
theorem exists_accepts_of_resolve
    {overloads : List (Overload τ ρ)}
    {supply : Supply α}
    {result : ρ}
    (resolves : resolve relation overloads supply = some result) :
    ∃ overload ∈ overloads,
      Accepts relation overload.formals supply ∧ overload.result = result := by
  obtain ⟨before, overload, after, rfl, accepted, -, isResult⟩ :=
    resolve_eq_some_iff.mp resolves
  exact ⟨overload, List.mem_append_right _ List.mem_cons_self, accepted,
    isResult⟩

/-- Calls that the same signatures accept are resolved to the same type. -/
theorem resolve_congr
    {overloads overloads' : List (Overload τ ρ)}
    {supply supply' : Supply α}
    (same : List.Forall₂
      (fun overload overload' =>
        (Accepts relation overload.formals supply ↔
          Accepts relation overload'.formals supply') ∧
        overload.result = overload'.result)
      overloads overloads') :
    resolve relation overloads supply = resolve relation overloads' supply' := by
  induction same with
  | nil => rfl
  | @cons overload overload' _ _ head _ inductionHypothesis =>
      obtain ⟨sameAccepts, sameResult⟩ := head
      rw [resolve_cons, resolve_cons, sameResult, inductionHypothesis]
      exact if_congr sameAccepts rfl rfl

/-- Arguments may be looked at through a function. -/
theorem resolve_map
    {β : Type w}
    (f : β → α)
    (overloads : List (Overload τ ρ))
    (supply : Supply β) :
    resolve relation overloads (supply.map f) =
      resolve (fun argument => relation (f argument)) overloads supply := by
  induction overloads with
  | nil => rfl
  | cons overload overloads inductionHypothesis =>
      rw [resolve_cons, resolve_cons, inductionHypothesis]
      exact if_congr (accepts_map_iff f) rfl rfl

/-- A call that no signature accepts has no result type. -/
theorem resolve_eq_none_iff
    {overloads : List (Overload τ ρ)}
    {supply : Supply α} :
    resolve relation overloads supply = none ↔
      ∀ overload ∈ overloads, ¬Accepts relation overload.formals supply := by
  simp [resolve]

end Resolve

/-! ## Keywords and parameters -/

/-- Taking a keyword leaves the others. -/
theorem mem_keys_takeKeyword
    {name key : String}
    {keywords rest : List (String × α)}
    {argument : α}
    (found : takeKeyword name keywords = some (argument, rest))
    (member : key ∈ keywords.map Prod.fst) :
    key = name ∨ key ∈ rest.map Prod.fst := by
  induction keywords generalizing rest with
  | nil => cases found
  | cons entry keywords inductionHypothesis =>
      obtain ⟨head, other⟩ := entry
      unfold takeKeyword at found
      rw [List.map_cons, List.mem_cons] at member
      by_cases here : head = name
      · rw [if_pos here] at found
        cases found
        rw [here] at member
        exact member
      · rw [if_neg here, Option.map_eq_some_iff] at found
        obtain ⟨⟨taken, later⟩, foundLater, equal⟩ := found
        cases equal
        rcases member with same | member
        · exact .inr (List.mem_cons.mpr (.inl same))
        · exact (inductionHypothesis foundLater member).imp_right
            (List.mem_cons_of_mem _)

/-- A parameter leaves the keywords that are not its name. -/
theorem mem_keys_consumeKeyword
    {formal : Formal τ}
    {supply left : Supply α}
    {taken : List α}
    (consumed : formal.consumeKeyword supply = some (taken, left))
    {key : String}
    (member : key ∈ supply.keywords.map Prod.fst) :
    formal.name = some key ∨ key ∈ left.keywords.map Prod.fst := by
  unfold Formal.consumeKeyword at consumed
  split at consumed
  · rename_i argument keywords found
    cases consumed
    obtain ⟨name, isName, foundName⟩ := Option.bind_eq_some_iff.mp found
    rcases mem_keys_takeKeyword foundName member with rfl | isLeft
    · exact .inl isName
    · exact .inr isLeft
  · split at consumed
    · cases consumed
    · cases consumed
      exact .inr member

/-- So does every parameter but `**kwargs`. -/
theorem mem_keys_consume
    {formal : Formal τ}
    {supply left : Supply α}
    {taken : List α}
    (notStar2 : formal.kind ≠ .star2)
    (consumed : formal.consume supply = some (taken, left))
    {key : String}
    (member : key ∈ supply.keywords.map Prod.fst) :
    formal.name = some key ∨ key ∈ left.keywords.map Prod.fst := by
  cases kind : formal.kind with
  | star =>
      rw [Formal.consume_star kind] at consumed
      cases consumed
      exact .inr member
  | star2 => exact absurd kind notStar2
  | named | namedOpt =>
      rw [Formal.consume_named (by simp [kind])] at consumed
      exact mem_keys_consumeKeyword consumed member
  | pos | opt =>
      have isPositional : formal.kind.isPositional = true := by
        rw [kind]
        rfl
      obtain ⟨positional, keywords⟩ := supply
      cases positional with
      | nil =>
          rw [Formal.consume_positional_nil isPositional] at consumed
          exact mem_keys_consumeKeyword consumed member
      | cons first positional =>
          obtain ⟨-, -, rfl⟩ :=
            (Formal.consume_positional_cons_iff isPositional).mp consumed
          exact .inr member

/-- Without `**kwargs`, every keyword of an accepted call names a parameter. -/
theorem Accepts.exists_name
    {relation : α → τ → Prop}
    {formals : List (Formal τ)}
    {supply : Supply α}
    (noStar2 : ∀ formal ∈ formals, formal.kind ≠ .star2)
    (accepted : Accepts relation formals supply)
    {key : String}
    (member : key ∈ supply.keywords.map Prod.fst) :
    some key ∈ formals.map Formal.name := by
  have walk {left : Supply α} {bound : List (List α)}
      (consumed : consumeAll formals supply = some (bound, left)) :
      some key ∈ formals.map Formal.name ∨
        key ∈ left.keywords.map Prod.fst := by
    clear accepted
    induction formals generalizing supply bound with
    | nil =>
        cases consumed
        exact .inr member
    | cons formal formals inductionHypothesis =>
        rw [List.forall_mem_cons] at noStar2
        obtain ⟨taken, rest, following, step, remaining, rfl⟩ :=
          consumeAll_cons_eq_some_iff.mp consumed
        rcases mem_keys_consume noStar2.1 step member with isName | isLeft
        · exact .inl (List.mem_cons.mpr (.inl isName.symm))
        · exact (inductionHypothesis noStar2.2 isLeft remaining).imp_left
            (List.mem_cons_of_mem _)
  obtain ⟨bound, binds, -⟩ := accepted
  rcases walk ((bind_eq_some_iff _ _ _).mp binds) with isName | isLeft
  · exact isName
  · cases isLeft

/-- No keyword is left that was not passed. -/
theorem keys_of_consumeAll
    {formals : List (Formal τ)}
    {supply left : Supply α}
    {bound : List (List α)}
    (consumed : consumeAll formals supply = some (bound, left)) :
    ∀ key ∈ left.keywords.map Prod.fst, key ∈ supply.keywords.map Prod.fst := by
  induction formals generalizing supply bound with
  | nil =>
      cases consumed
      exact fun _ member => member
  | cons formal formals inductionHypothesis =>
      obtain ⟨taken, rest, following, step, remaining, rfl⟩ :=
        consumeAll_cons_eq_some_iff.mp consumed
      intro key member
      exact (consume_left step).1 key (inductionHypothesis remaining key member)

/-! ## The first parameter -/

/-- The first positional argument may be passed to another parameter of which the
other arguments know nothing. -/
theorem accepts_exchange_first_iff
    {relation : α → τ → Prop}
    {first first' : Formal τ}
    {formals : List (Formal τ)}
    {argument argument' : α}
    {positional : List α}
    {keywords : List (String × α)}
    (isPos : first.kind = .pos)
    (isPos' : first'.kind = .pos)
    (noStar2 : ∀ formal ∈ formals, formal.kind ≠ .star2)
    (unnamed : first.name ∉ formals.map Formal.name)
    (unnamed' : first'.name ∉ formals.map Formal.name)
    (fits : relation argument first.type)
    (fits' : relation argument' first'.type) :
    Accepts relation (first :: formals) ⟨argument :: positional, keywords⟩ ↔
      Accepts relation (first' :: formals)
        ⟨argument' :: positional, keywords⟩ := by
  have absent {formal : Formal τ}
      (unnamed : formal.name ∉ formals.map Formal.name)
      (accepted : Accepts relation formals ⟨positional, keywords⟩) :
      formal.takeByName keywords = none := by
    unfold Formal.takeByName
    cases isName : formal.name with
    | none => rfl
    | some name =>
        rw [Option.bind_some, takeKeyword_eq_none_iff]
        intro member
        rw [isName] at unnamed
        exact unnamed (accepted.exists_name noStar2 member)
  rw [accepts_cons_iff isPos, accepts_cons_iff isPos']
  constructor
  · rintro ⟨-, -, accepted⟩
    exact ⟨absent unnamed' accepted, fits', accepted⟩
  · rintro ⟨-, -, accepted⟩
    exact ⟨absent unnamed accepted, fits, accepted⟩

/-! ## Parameters without arguments -/

/-- The parameter has a default and is not passed by keyword. -/
def Formal.IsUnused (keys : List String) (formal : Formal τ) : Prop :=
  formal.kind = .opt ∧ ∀ name ∈ formal.name, name ∉ keys

/-- Where no positional argument is left, such parameters take nothing. -/
theorem consumeAll_unused
    (unused : List (Formal τ))
    (keywords : List (String × α))
    (areUnused : ∀ formal ∈ unused, formal.IsUnused (keywords.map Prod.fst)) :
    consumeAll unused ⟨[], keywords⟩ =
      some (unused.map fun _ => [], ⟨[], keywords⟩) := by
  induction unused with
  | nil => rfl
  | cons formal unused inductionHypothesis =>
      rw [List.forall_mem_cons] at areUnused
      obtain ⟨⟨isOpt, notPassed⟩, areUnused⟩ := areUnused
      have absent : formal.takeByName keywords = none := by
        unfold Formal.takeByName
        cases isName : formal.name with
        | none => rfl
        | some name =>
            rw [Option.bind_some, takeKeyword_eq_none_iff]
            exact notPassed name isName
      have step : formal.consume ⟨[], keywords⟩ =
          some ([], ⟨[], keywords⟩) := by
        rw [Formal.consume_positional_nil (by rw [isOpt]; rfl),
          Formal.consumeKeyword, absent, isOpt]
        rfl
      rw [consumeAll_cons_eq_some_iff]
      exact ⟨[], _, _, step, inductionHypothesis areUnused, rfl⟩

/-- They do not matter. -/
theorem accepts_append_unused_iff
    {relation : α → τ → Prop}
    {formals unused : List (Formal τ)}
    {supply : Supply α}
    (positional : ∀ formal ∈ formals, formal.kind.isPositional = true)
    (enough : supply.positional.length ≤ formals.length)
    (areUnused : ∀ formal ∈ unused,
      formal.IsUnused (supply.keywords.map Prod.fst)) :
    Accepts relation (formals ++ unused) supply ↔
      Accepts relation formals supply := by
  have rest {bound : List (List α)} {left : Supply α}
      (consumed : consumeAll formals supply = some (bound, left)) :
      consumeAll unused left = some (unused.map fun _ => [], left) := by
    have noneLeft : left.positional = [] := by
      rw [consumeAll_positional_left positional consumed,
        List.drop_eq_nil_of_le enough]
    obtain ⟨positionalLeft, keywordsLeft⟩ := left
    obtain rfl : positionalLeft = [] := noneLeft
    apply consumeAll_unused
    intro formal member
    obtain ⟨isOpt, notPassed⟩ := areUnused formal member
    exact ⟨isOpt, fun name isName isLeft =>
      notPassed name isName (keys_of_consumeAll consumed name isLeft)⟩
  unfold Accepts
  simp only [bind_eq_some_iff, consumeAll_append, Option.bind_eq_some_iff,
    Option.map_eq_some_iff]
  constructor
  · rintro ⟨_, ⟨⟨bound, left⟩, consumed, ⟨following, _⟩, walked, equal⟩, fits⟩
    rw [rest consumed, Option.some.injEq, Prod.mk.injEq] at walked
    obtain ⟨rfl, rfl⟩ := walked
    cases equal
    exact ⟨bound, consumed,
      ((fits_append_iff (consumeAll_length consumed)).mp fits).1⟩
  · rintro ⟨bound, consumed, fits⟩
    exact ⟨_, ⟨_, consumed, _, rest consumed, rfl⟩,
      (fits_append_iff (consumeAll_length consumed)).mpr
        ⟨fits, fits_nothing relation unused⟩⟩

/-! ## Required parameters -/

/-- The first parameter takes the same arguments as the second, but it may be
required where the second is not. -/
def Formal.Strengthens {σ : Type w} (strict : Formal τ) (lax : Formal σ) : Prop :=
  strict.name = lax.name ∧
    (strict.kind = lax.kind ∨ strict.kind = .pos ∧ lax.kind = .opt)

/-- Names stay the same. -/
theorem map_name_of_strengthens
    {σ : Type w}
    {strict : List (Formal τ)}
    {lax : List (Formal σ)}
    (strengthens : List.Forall₂ Formal.Strengthens strict lax) :
    strict.map Formal.name = lax.map Formal.name := by
  induction strengthens with
  | nil => rfl
  | cons head _ inductionHypothesis =>
      rw [List.map_cons, List.map_cons, head.1, inductionHypothesis]

/-- A parameter in the place of a positional one is positional. -/
theorem isPositional_of_strengthens
    {σ : Type w}
    {strict : List (Formal τ)}
    {lax : List (Formal σ)}
    (strengthens : List.Forall₂ Formal.Strengthens strict lax)
    (positional : ∀ formal ∈ lax, formal.kind.isPositional = true) :
    ∀ formal ∈ strict, formal.kind.isPositional = true := by
  induction strengthens with
  | nil => exact fun _ member => absurd member List.not_mem_nil
  | cons head _ inductionHypothesis =>
      rw [List.forall_mem_cons] at positional ⊢
      refine ⟨?_, inductionHypothesis positional.2⟩
      obtain ⟨-, sameKind | ⟨isPos, -⟩⟩ := head
      · rw [sameKind]
        exact positional.1
      · rw [isPos]
        rfl

/-- A required positional parameter takes an argument. -/
theorem consume_pos_ne_nil
    {formal : Formal τ}
    {supply left : Supply α}
    {taken : List α}
    (isPos : formal.kind = .pos)
    (consumed : formal.consume supply = some (taken, left)) :
    taken ≠ [] := by
  have isPositional : formal.kind.isPositional = true := by
    rw [isPos]
    rfl
  obtain ⟨positional, keywords⟩ := supply
  cases positional with
  | nil =>
      rw [Formal.consume_positional_nil isPositional,
        Formal.consumeKeyword] at consumed
      split at consumed
      · cases consumed
        exact List.cons_ne_nil _ _
      · rw [isPos] at consumed
        cases consumed
  | cons first positional =>
      obtain ⟨-, rfl, -⟩ :=
        (Formal.consume_positional_cons_iff isPositional).mp consumed
      exact List.cons_ne_nil _ _

theorem consume_strengthens_iff
    {σ : Type w}
    {strict : Formal τ}
    {lax : Formal σ}
    (strengthens : strict.Strengthens lax)
    {supply left : Supply α}
    {taken : List α} :
    strict.consume supply = some (taken, left) ↔
      lax.consume supply = some (taken, left) ∧
        (strict.kind = .pos → taken ≠ []) := by
  obtain ⟨names, sameKind | ⟨isPos, isOpt⟩⟩ := strengthens
  · rw [← Formal.consume_congr sameKind names]
    exact ⟨fun consumed =>
      ⟨consumed, fun isPos => consume_pos_ne_nil isPos consumed⟩, And.left⟩
  · have byName (keywords : List (String × α)) :
        strict.takeByName keywords = lax.takeByName keywords := by
      simp only [Formal.takeByName, names]
    have strictPositional : strict.kind.isPositional = true := by
      rw [isPos]
      rfl
    have laxPositional : lax.kind.isPositional = true := by
      rw [isOpt]
      rfl
    obtain ⟨positional, keywords⟩ := supply
    cases positional with
    | nil =>
        rw [Formal.consume_positional_nil strictPositional,
          Formal.consume_positional_nil laxPositional]
        simp only [Formal.consumeKeyword, byName, isPos, isOpt,
          ArgKind.isRequired]
        cases lax.takeByName keywords with
        | none =>
            simp only [if_true, reduceCtorEq, false_iff]
            rintro ⟨nothing, passed⟩
            cases nothing
            exact passed trivial rfl
        | some pair =>
            simp only [Option.some.injEq, Prod.mk.injEq]
            constructor
            · rintro ⟨rfl, rfl⟩
              exact ⟨⟨rfl, rfl⟩, fun _ => List.cons_ne_nil _ _⟩
            · rintro ⟨equal, -⟩
              exact equal
    | cons first positional =>
        rw [Formal.consume_positional_cons_iff strictPositional,
          Formal.consume_positional_cons_iff laxPositional, byName]
        constructor
        · rintro ⟨absent, rfl, rfl⟩
          exact ⟨⟨absent, rfl, rfl⟩, fun _ => List.cons_ne_nil _ _⟩
        · rintro ⟨equal, -⟩
          exact equal

/-- Requiring parameters changes nothing for the calls that pass them. -/
theorem bind_strengthens_iff
    {σ : Type w}
    {strict : List (Formal τ)}
    {lax : List (Formal σ)}
    (strengthens : List.Forall₂ Formal.Strengthens strict lax)
    {supply : Supply α}
    {bound : List (List α)} :
    bind strict supply = some bound ↔
      bind lax supply = some bound ∧
        List.Forall₂ (fun formal taken => formal.kind = .pos → taken ≠ [])
          strict bound := by
  rw [bind_eq_some_iff, bind_eq_some_iff]
  induction strengthens generalizing supply bound with
  | nil =>
      simp only [consumeAll_nil]
      constructor
      · intro consumed
        refine ⟨consumed, ?_⟩
        cases consumed
        exact .nil
      · rintro ⟨consumed, -⟩
        exact consumed
  | cons head _ inductionHypothesis =>
      simp only [consumeAll_cons_eq_some_iff, consume_strengthens_iff head,
        inductionHypothesis]
      constructor
      · rintro ⟨taken, rest, following, ⟨step, passed⟩, ⟨walked, all⟩, rfl⟩
        exact ⟨⟨taken, rest, following, step, walked, rfl⟩, .cons passed all⟩
      · rintro ⟨⟨taken, rest, following, step, walked, rfl⟩, all⟩
        rw [List.forall₂_cons] at all
        exact ⟨taken, rest, following, ⟨step, all.1⟩, ⟨walked, all.2⟩, rfl⟩

/-! ## Parameters that take one argument -/

/-- A positional parameter takes at most one argument. -/
theorem consume_positional_length_le_one
    {formal : Formal τ}
    {supply left : Supply α}
    {taken : List α}
    (isPositional : formal.kind.isPositional = true)
    (consumed : formal.consume supply = some (taken, left)) :
    taken.length ≤ 1 := by
  obtain ⟨positional, keywords⟩ := supply
  cases positional with
  | nil =>
      rw [Formal.consume_positional_nil isPositional,
        Formal.consumeKeyword] at consumed
      split at consumed
      · cases consumed
        exact Nat.le_refl 1
      · split at consumed
        · cases consumed
        · cases consumed
          exact Nat.zero_le 1
  | cons first positional =>
      obtain ⟨-, rfl, -⟩ :=
        (Formal.consume_positional_cons_iff isPositional).mp consumed
      exact Nat.le_refl 1

theorem bind_positional_length_le_one
    {formals : List (Formal τ)}
    {supply : Supply α}
    {bound : List (List α)}
    (positional : ∀ formal ∈ formals, formal.kind.isPositional = true)
    (binds : bind formals supply = some bound) :
    ∀ taken ∈ bound, taken.length ≤ 1 := by
  rw [bind_eq_some_iff] at binds
  induction formals generalizing supply bound with
  | nil =>
      cases binds
      exact fun _ member => absurd member List.not_mem_nil
  | cons formal formals inductionHypothesis =>
      rw [List.forall_mem_cons] at positional
      obtain ⟨taken, rest, following, step, remaining, rfl⟩ :=
        consumeAll_cons_eq_some_iff.mp binds
      rw [List.forall_mem_cons]
      exact ⟨consume_positional_length_le_one positional.1 step,
        inductionHypothesis positional.2 remaining⟩

/-- The arguments of a call are no more than its positional parameters. -/
theorem Accepts.positional_length_le
    {relation : α → τ → Prop}
    {formals : List (Formal τ)}
    {supply : Supply α}
    (positional : ∀ formal ∈ formals, formal.kind.isPositional = true)
    (accepted : Accepts relation formals supply) :
    supply.positional.length ≤ formals.length := by
  obtain ⟨bound, binds, -⟩ := accepted
  have noneLeft := consumeAll_positional_left positional
    ((bind_eq_some_iff _ _ _).mp binds)
  exact List.drop_eq_nil_iff.mp noneLeft.symm

end Calling
end TrioTyping
