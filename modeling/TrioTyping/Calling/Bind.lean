import TrioTyping.Calling.Formal

/-!
# Binding a call to a signature

Binding runs the single steps over the whole parameter list and requires that
no argument is left over. Its result lists, formal by formal, the arguments the
formal takes. A call is accepted with respect to a relation between arguments
and annotations when it binds and every argument fits the annotation of the
formal that takes it.
-/

namespace TrioTyping
namespace Calling

universe u v w

variable {τ : Type u} {α : Type v} {β : Type w}

/-- The arguments of one call: a supply whose keywords are distinct. -/
structure Call (α : Type v) extends Supply α where
  /-- No keyword is passed twice. -/
  distinct : (keywords.map Prod.fst).Nodup

/-- Apply a function to every argument of a call. -/
def Call.map (f : α → β) (call : Call α) : Call β where
  toSupply := call.toSupply.map f
  distinct := by
    rw [Supply.map_keywords, List.map_map]
    exact call.distinct

/-- Let the formals take their arguments one after the other. -/
def consumeAll :
    List (Formal τ) → Supply α → Option (List (List α) × Supply α)
  | [], supply => some ([], supply)
  | formal :: formals, supply =>
      (formal.consume supply).bind fun (taken, rest) =>
        (consumeAll formals rest).map fun (bound, left) =>
          (taken :: bound, left)

/-- Bind a supply to a parameter list, leaving nothing over. -/
def bind
    (formals : List (Formal τ))
    (supply : Supply α) : Option (List (List α)) :=
  (consumeAll formals supply).bind fun (bound, left) =>
    if left.positional.isEmpty && left.keywords.isEmpty then some bound
    else none

@[simp] theorem consumeAll_nil (supply : Supply α) :
    consumeAll ([] : List (Formal τ)) supply = some ([], supply) := rfl

theorem consumeAll_cons
    (formal : Formal τ)
    (formals : List (Formal τ))
    (supply : Supply α) :
    consumeAll (formal :: formals) supply =
      (formal.consume supply).bind fun (taken, rest) =>
        (consumeAll formals rest).map fun (bound, left) =>
          (taken :: bound, left) := rfl

/-- A successful walk takes a step and goes on with what is left. -/
theorem consumeAll_cons_eq_some_iff
    {formal : Formal τ}
    {formals : List (Formal τ)}
    {supply left : Supply α}
    {bound : List (List α)} :
    consumeAll (formal :: formals) supply = some (bound, left) ↔
      ∃ taken rest following,
        formal.consume supply = some (taken, rest) ∧
        consumeAll formals rest = some (following, left) ∧
        bound = taken :: following := by
  simp only [consumeAll_cons, Option.bind_eq_some_iff, Option.map_eq_some_iff,
    Prod.mk.injEq, Prod.exists]
  constructor
  · rintro ⟨taken, rest, step, following, _, walked, rfl, rfl⟩
    exact ⟨taken, rest, following, step, walked, rfl⟩
  · rintro ⟨taken, rest, following, step, walked, rfl⟩
    exact ⟨taken, rest, step, following, left, walked, rfl, rfl⟩

/-- A parameter list is walked through part by part. -/
theorem consumeAll_append
    (first second : List (Formal τ))
    (supply : Supply α) :
    consumeAll (first ++ second) supply =
      (consumeAll first supply).bind fun (bound, rest) =>
        (consumeAll second rest).map fun (following, left) =>
          (bound ++ following, left) := by
  induction first generalizing supply with
  | nil =>
      cases consumeAll second supply <;> simp
  | cons formal formals inductionHypothesis =>
      simp only [List.cons_append, consumeAll_cons]
      cases formal.consume supply with
      | none => rfl
      | some step =>
          obtain ⟨taken, rest⟩ := step
          simp only [Option.bind_some, inductionHypothesis]
          cases consumeAll formals rest with
          | none => rfl
          | some outcome =>
              obtain ⟨bound, left⟩ := outcome
              simp only [Option.map_some, Option.bind_some]
              cases consumeAll second left <;> rfl

/-- Every formal is given its own list of arguments. -/
theorem consumeAll_length
    {formals : List (Formal τ)}
    {supply left : Supply α}
    {bound : List (List α)}
    (consumed : consumeAll formals supply = some (bound, left)) :
    bound.length = formals.length := by
  induction formals generalizing supply bound with
  | nil =>
      cases consumed
      rfl
  | cons formal formals inductionHypothesis =>
      obtain ⟨taken, rest, following, -, remaining, rfl⟩ :=
        consumeAll_cons_eq_some_iff.mp consumed
      simp [inductionHypothesis remaining]

/-- Binding succeeds exactly when the walk ends with an empty supply. -/
theorem bind_eq_some_iff
    (formals : List (Formal τ))
    (supply : Supply α)
    (bound : List (List α)) :
    bind formals supply = some bound ↔
      consumeAll formals supply = some (bound, ⟨[], []⟩) := by
  unfold bind
  rw [Option.bind_eq_some_iff]
  constructor
  · rintro ⟨⟨found, ⟨positional, keywords⟩⟩, consumed, finished⟩
    cases positional <;> cases keywords <;> simp_all
  · intro consumed
    exact ⟨_, consumed, rfl⟩

theorem bind_length
    {formals : List (Formal τ)}
    {supply : Supply α}
    {bound : List (List α)}
    (binds : bind formals supply = some bound) :
    bound.length = formals.length :=
  consumeAll_length ((bind_eq_some_iff _ _ _).mp binds)

/-! ## Every argument is taken once -/

/-- All arguments of a supply. -/
def Supply.arguments (supply : Supply α) : List α :=
  supply.positional ++ supply.keywords.map Prod.snd

theorem takeKeyword_perm
    {name : String}
    {keywords rest : List (String × α)}
    {argument : α}
    (found : takeKeyword name keywords = some (argument, rest)) :
    (argument :: rest.map Prod.snd).Perm (keywords.map Prod.snd) := by
  induction keywords generalizing rest with
  | nil => cases found
  | cons entry keywords inductionHypothesis =>
      obtain ⟨key, other⟩ := entry
      unfold takeKeyword at found
      by_cases here : key = name
      · rw [if_pos here] at found
        cases found
        exact List.Perm.refl _
      · rw [if_neg here, Option.map_eq_some_iff] at found
        obtain ⟨⟨taken, later⟩, foundLater, equal⟩ := found
        cases equal
        exact (List.Perm.swap _ _ _).trans
          ((inductionHypothesis foundLater).cons other)

/-- What a keyword parameter takes and what it leaves make up the supply. -/
theorem consumeKeyword_perm
    {formal : Formal τ}
    {supply left : Supply α}
    {taken : List α}
    (consumed : formal.consumeKeyword supply = some (taken, left)) :
    (taken ++ left.arguments).Perm supply.arguments := by
  unfold Formal.consumeKeyword at consumed
  split at consumed
  · rename_i argument keywords found
    cases consumed
    obtain ⟨name, -, foundName⟩ := Option.bind_eq_some_iff.mp found
    have taken := (takeKeyword_perm foundName).append_left supply.positional
    unfold Supply.arguments
    rw [List.singleton_append]
    exact List.perm_middle.symm.trans taken
  · split at consumed
    · cases consumed
    · cases consumed
      exact List.Perm.refl _

/-- What a formal takes and what it leaves make up the supply. -/
theorem consume_perm
    {formal : Formal τ}
    {supply left : Supply α}
    {taken : List α}
    (consumed : formal.consume supply = some (taken, left)) :
    (taken ++ left.arguments).Perm supply.arguments := by
  cases kind : formal.kind with
  | star =>
      rw [Formal.consume_star kind] at consumed
      cases consumed
      exact List.Perm.refl _
  | star2 =>
      rw [Formal.consume_star2 kind] at consumed
      cases consumed
      simpa [Supply.arguments] using List.perm_append_comm
  | named | namedOpt =>
      rw [Formal.consume_named (by simp [kind])] at consumed
      exact consumeKeyword_perm consumed
  | pos | opt =>
      have isPositional : formal.kind.isPositional = true := by
        rw [kind]
        rfl
      obtain ⟨positional, keywords⟩ := supply
      cases positional with
      | nil =>
          rw [Formal.consume_positional_nil isPositional] at consumed
          exact consumeKeyword_perm consumed
      | cons first positional =>
          obtain ⟨-, rfl, rfl⟩ :=
            (Formal.consume_positional_cons_iff isPositional).mp consumed
          exact List.Perm.refl _

/-- A walk hands every argument to one formal or leaves it over. -/
theorem consumeAll_perm
    {formals : List (Formal τ)}
    {supply left : Supply α}
    {bound : List (List α)}
    (consumed : consumeAll formals supply = some (bound, left)) :
    (bound.flatten ++ left.arguments).Perm supply.arguments := by
  induction formals generalizing supply bound with
  | nil =>
      cases consumed
      exact List.Perm.refl _
  | cons formal formals inductionHypothesis =>
      obtain ⟨taken, rest, following, step, remaining, rfl⟩ :=
        consumeAll_cons_eq_some_iff.mp consumed
      have here := consume_perm step
      have later := (inductionHypothesis remaining).append_left taken
      rw [List.flatten_cons, List.append_assoc]
      exact later.trans here

/-- Binding hands every argument to exactly one formal. -/
theorem bind_perm
    {formals : List (Formal τ)}
    {supply : Supply α}
    {bound : List (List α)}
    (binds : bind formals supply = some bound) :
    bound.flatten.Perm supply.arguments := by
  have walked := consumeAll_perm ((bind_eq_some_iff _ _ _).mp binds)
  simpa [Supply.arguments] using walked

/-! ## What binding depends on -/

/-- The walk commutes with a function on the arguments. -/
theorem consumeAll_map
    (f : α → β)
    (formals : List (Formal τ))
    (supply : Supply α) :
    consumeAll formals (supply.map f) =
      (consumeAll formals supply).map fun (bound, left) =>
        (bound.map (List.map f), left.map f) := by
  induction formals generalizing supply with
  | nil => rfl
  | cons formal formals inductionHypothesis =>
      simp only [consumeAll_cons, Formal.consume_map]
      cases formal.consume supply with
      | none => rfl
      | some step =>
          obtain ⟨taken, rest⟩ := step
          simp only [Option.map_some, Option.bind_some, inductionHypothesis,
            Option.map_map]
          rfl

/-- Binding commutes with a function on the arguments. -/
theorem bind_map
    (f : α → β)
    (formals : List (Formal τ))
    (supply : Supply α) :
    bind formals (supply.map f) =
      (bind formals supply).map (List.map (List.map f)) := by
  unfold bind
  rw [consumeAll_map]
  cases consumeAll formals supply with
  | none => rfl
  | some outcome =>
      obtain ⟨bound, ⟨positional, keywords⟩⟩ := outcome
      cases positional <;> cases keywords <;> rfl

/-- Two parameter lists of the same kinds and names, whatever the
annotations. -/
def SameShape
    {σ : Type w}
    (first : List (Formal τ))
    (second : List (Formal σ)) : Prop :=
  List.Forall₂
    (fun left right => left.kind = right.kind ∧ left.name = right.name)
    first second

/-- Binding does not look at annotations. -/
theorem bind_congr
    {σ : Type w}
    {first : List (Formal τ)}
    {second : List (Formal σ)}
    (same : SameShape first second)
    (supply : Supply α) :
    bind first supply = bind second supply := by
  have walks : consumeAll first supply = consumeAll second supply := by
    induction same generalizing supply with
    | nil => rfl
    | cons head _ inductionHypothesis =>
        simp only [consumeAll_cons, Formal.consume_congr head.1 head.2,
          inductionHypothesis]
  simp only [bind, walks]

/-! ## Accepted calls -/

/-- Every argument fits the annotation of the formal that takes it. -/
def Fits
    (relation : α → τ → Prop)
    (formals : List (Formal τ))
    (bound : List (List α)) : Prop :=
  List.Forall₂
    (fun formal taken => ∀ argument ∈ taken, relation argument formal.type)
    formals bound

/-- The call binds, and every argument fits. -/
def Accepts
    (relation : α → τ → Prop)
    (formals : List (Formal τ))
    (supply : Supply α) : Prop :=
  ∃ bound, bind formals supply = some bound ∧ Fits relation formals bound

/-- If every argument of a call is exchanged for one that fits wherever the
first fits, the call stays accepted. -/
theorem Accepts.exchange
    {γ : Type w}
    {formals : List (Formal τ)}
    {supply : Supply γ}
    {first : γ → α}
    {second : γ → β}
    {relation : α → τ → Prop}
    {relation' : β → τ → Prop}
    (transfer : ∀ entry type,
      relation (first entry) type → relation' (second entry) type)
    (accepted : Accepts relation formals (supply.map first)) :
    Accepts relation' formals (supply.map second) := by
  obtain ⟨bound, binds, fits⟩ := accepted
  rw [bind_map, Option.map_eq_some_iff] at binds
  obtain ⟨entries, bindsEntries, rfl⟩ := binds
  refine ⟨entries.map (List.map second), ?_, ?_⟩
  · rw [bind_map, bindsEntries]
    rfl
  · unfold Fits at fits ⊢
    rw [List.forall₂_map_right_iff] at fits ⊢
    refine fits.imp ?_
    intro formal taken takenFits argument member
    obtain ⟨entry, entryMember, rfl⟩ := List.mem_map.mp member
    exact transfer entry formal.type
      (takenFits (first entry) (List.mem_map_of_mem entryMember))

end Calling
end TrioTyping
