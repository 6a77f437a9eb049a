import TrioTyping.Calling.Bind

/-!
# Replacing `*args` by positional-only parameters

A variadic signature `pre, *args, post` and the signature `pre, fresh, post`,
whose `fresh` part consists of required positional-only parameters, bind the
same calls as long as exactly as many arguments fall into `*args` as there are
fresh parameters. The two theorems at the end give both bindings in the same
form, so that either can be read off the other.
-/

namespace TrioTyping
namespace Calling

universe u v w

variable {τ : Type u} {α : Type v} {β : Type w}

/-- Replace the entry at an index by a list of entries:
`entries[:index] + inserted + entries[index + 1:]`. -/
def splice
    (entries : List α)
    (index : Nat)
    (inserted : List α) : List α :=
  entries.take index ++ inserted ++ entries.drop (index + 1)

theorem splice_map
    (f : α → β)
    (entries inserted : List α)
    (index : Nat) :
    (splice entries index inserted).map f =
      splice (entries.map f) index (inserted.map f) := by
  simp [splice, List.map_take, List.map_drop]

/-- The entries before the index stay where they are. -/
theorem splice_getElem?_before
    {entries inserted : List α}
    {index other : Nat}
    (inRange : index < entries.length)
    (before : other < index) :
    (splice entries index inserted)[other]? = entries[other]? := by
  unfold splice
  rw [List.getElem?_append_left, List.getElem?_append_left,
    List.getElem?_take_of_lt before]
  all_goals simp only [List.length_append, List.length_take]
  all_goals omega

/-- An entry before the index can be exchanged before or after splicing. -/
theorem splice_set
    {entries inserted : List α}
    {index other : Nat}
    (inRange : index < entries.length)
    (before : other < index)
    (entry : α) :
    splice (entries.set other entry) index inserted =
      (splice entries index inserted).set other entry := by
  have otherInRange : other < (entries.take index).length := by
    rw [List.length_take, Nat.min_eq_left (Nat.le_of_lt inRange)]
    exact before
  unfold splice
  rw [List.take_set, List.drop_set_of_lt (Nat.lt_succ_of_lt before),
    List.append_assoc, List.append_assoc, List.set_append_left _ _ otherInRange]

/-- The inserted entries start at the index. -/
theorem splice_getElem?_inserted
    {entries inserted : List α}
    {index other : Nat}
    (inRange : index < entries.length)
    (withinInserted : other < inserted.length) :
    (splice entries index inserted)[index + other]? = inserted[other]? := by
  unfold splice
  rw [List.getElem?_append_left, List.getElem?_append_right]
  · rw [List.length_take, Nat.min_eq_left (Nat.le_of_lt inRange),
      Nat.add_sub_cancel_left]
  all_goals simp only [List.length_append, List.length_take]
  all_goals omega

/-- The entries after the index move on by the length of what is inserted. -/
theorem splice_getElem?_after
    {entries inserted : List α}
    {index other : Nat}
    (inRange : index < entries.length) :
    (splice entries index inserted)[index + inserted.length + other]? =
      entries[index + 1 + other]? := by
  have beforeLength : (entries.take index).length = index := by
    rw [List.length_take, Nat.min_eq_left (Nat.le_of_lt inRange)]
  unfold splice
  rw [List.getElem?_append_right, List.length_append, beforeLength,
    Nat.add_sub_cancel_left, List.getElem?_drop]
  rw [List.length_append, beforeLength]
  exact Nat.le_add_right _ _

/-- Splicing is taking an entry out and inserting others in its place. -/
theorem splice_eq_insert
    (entries inserted : List α)
    (index : Nat) :
    splice entries index inserted =
      (splice entries index []).take index ++ inserted ++
        (splice entries index []).drop index := by
  unfold splice
  rw [List.append_nil]
  rcases Nat.le_total index entries.length with within | beyond
  · have beforeLength : (entries.take index).length = index := by
      rw [List.length_take, Nat.min_eq_left within]
    rw [List.take_left' beforeLength, List.drop_left' beforeLength]
  · rw [List.drop_eq_nil_of_le (Nat.le_succ_of_le beyond), List.append_nil,
      List.append_nil, List.take_take, Nat.min_self,
      List.take_of_length_le beyond, List.drop_eq_nil_of_le beyond,
      List.append_nil]

/-- Lists that are equal after splicing differ at the index only. -/
theorem getElem?_eq_of_splice_eq
    {first second inserted : List α}
    {index other : Nat}
    (inRange : index < first.length)
    (sameLength : first.length = second.length)
    (same : splice first index inserted = splice second index inserted)
    (different : other ≠ index) :
    first[other]? = second[other]? := by
  rcases Nat.lt_or_gt_of_ne different with before | after
  · have firstEntry : (splice first index inserted)[other]? = first[other]? :=
      splice_getElem?_before inRange before
    rw [← firstEntry, same, splice_getElem?_before (sameLength ▸ inRange) before]
  · obtain ⟨rest, rfl⟩ := Nat.exists_eq_add_of_lt after
    rw [Nat.add_right_comm, ← splice_getElem?_after inRange, same,
      splice_getElem?_after (sameLength ▸ inRange)]

/-- Entries inserted in front are not inserted further back as well, first one
and then both. -/
theorem insert_front_ne
    {first second entry : α}
    (different : first ≠ second)
    (entries : List α)
    (index : Nat)
    (sameOne :
      first :: entry :: entries =
        entry :: (entries.take index ++ first :: entries.drop index)) :
    first :: second :: entry :: entries ≠
      entry :: (entries.take index ++ first :: second :: entries.drop index) := by
  intro sameTwo
  obtain ⟨rfl, restOne⟩ := List.cons.inj sameOne
  have restTwo := (List.cons.inj sameTwo).2
  -- the heads of both insertions are the same
  cases before : entries.take index with
  | nil =>
      rw [before] at restTwo
      exact different (List.cons.inj restTwo).1.symm
  | cons head rest =>
      rw [before] at restOne restTwo
      exact different
        ((List.cons.inj restOne).1.trans (List.cons.inj restTwo).1.symm)

/-- Two different entries tell the index at which they are inserted, first one
and then both. -/
theorem eq_of_insert_eq
    {first second : α}
    (different : first ≠ second)
    {entries : List α}
    {index index' : Nat}
    (within : index ≤ entries.length)
    (within' : index' ≤ entries.length)
    (sameOne :
      entries.take index ++ [first] ++ entries.drop index =
        entries.take index' ++ [first] ++ entries.drop index')
    (sameTwo :
      entries.take index ++ [first, second] ++ entries.drop index =
        entries.take index' ++ [first, second] ++ entries.drop index') :
    index = index' := by
  induction entries generalizing index index' with
  | nil => exact (Nat.le_zero.mp within).trans (Nat.le_zero.mp within').symm
  | cons entry entries inductionHypothesis =>
      cases index with
      | zero =>
          cases index' with
          | zero => rfl
          | succ index' =>
              simp only [List.append_assoc] at sameOne sameTwo
              exact absurd sameTwo
                (insert_front_ne different entries index' sameOne)
      | succ index =>
          cases index' with
          | zero =>
              simp only [List.append_assoc] at sameOne sameTwo
              exact absurd sameTwo.symm
                (insert_front_ne different entries index sameOne.symm)
          | succ index' =>
              simp only [List.take_succ_cons, List.drop_succ_cons,
                List.cons_append, List.cons.injEq, true_and] at sameOne sameTwo
              rw [inductionHypothesis (Nat.le_of_succ_le_succ within)
                (Nat.le_of_succ_le_succ within') sameOne sameTwo]

/-- Splicing two lists in step keeps their entries paired. -/
theorem zipWith_splice
    {γ : Type*}
    (f : α → β → γ)
    (left leftInserted : List α)
    (right rightInserted : List β)
    (index : Nat)
    (lengths : left.length = right.length)
    (insertedLengths : leftInserted.length = rightInserted.length) :
    List.zipWith f
        (splice left index leftInserted) (splice right index rightInserted) =
      splice (List.zipWith f left right) index
        (List.zipWith f leftInserted rightInserted) := by
  unfold splice
  rw [List.zipWith_append, List.zipWith_append, List.take_zipWith,
    List.drop_zipWith]
  · simp [lengths]
  · simp [lengths, insertedLengths]

/-- An entry stands between the entries before and after it. -/
theorem take_cons_drop_of_getElem?
    {entries : List α}
    {index : Nat}
    {entry : α}
    (found : entries[index]? = some entry) :
    entries = entries.take index ++ entry :: entries.drop (index + 1) ∧
      (entries.take index).length = index := by
  obtain ⟨inRange, rfl⟩ := List.getElem?_eq_some_iff.mp found
  constructor
  · rw [← List.drop_eq_getElem_cons inRange, List.take_append_drop]
  · simp [Nat.le_of_lt inRange]

/-! ## The three parts of a variadic signature -/

/-- A required parameter without a name. -/
def PositionalOnly (formal : Formal τ) : Prop :=
  formal.kind = .pos ∧ formal.name = none

/-- Positional-only parameters take one argument each. -/
theorem consumeAll_positionalOnly
    (fresh : List (Formal τ))
    (positionalOnly : ∀ formal ∈ fresh, PositionalOnly formal)
    (supply : Supply α) :
    consumeAll fresh supply =
      if fresh.length ≤ supply.positional.length then
        some
          ((supply.positional.take fresh.length).map fun argument =>
              [argument],
            { supply with
              positional := supply.positional.drop fresh.length })
      else none := by
  induction fresh generalizing supply with
  | nil => simp
  | cons formal fresh inductionHypothesis =>
      have here := positionalOnly formal (by simp)
      have later := inductionHypothesis
        (fun other member => positionalOnly other (by simp [member]))
      obtain ⟨positional, keywords⟩ := supply
      rw [consumeAll_cons]
      unfold Formal.consume Formal.consumeKeyword Formal.takeByName
      simp only [here.1, here.2, ArgKind.isRequired]
      cases positional with
      | nil => simp
      | cons argument positional =>
          simp only [Option.bind_none, Option.bind_some, later,
            List.length_cons, Nat.add_le_add_iff_right]
          split <;> rfl

/-- Keyword-only parameters do not touch the positional arguments. -/
theorem consumeAll_keywordOnly
    (post : List (Formal τ))
    (keywordOnly : ∀ formal ∈ post, formal.kind.isKeywordOnly = true)
    (supply : Supply α) :
    consumeAll post supply =
      (consumeAll post ⟨[], supply.keywords⟩).map fun outcome =>
        (outcome.1, ⟨supply.positional, outcome.2.keywords⟩) := by
  induction post generalizing supply with
  | nil => rfl
  | cons formal post inductionHypothesis =>
      have here := keywordOnly formal (by simp)
      have later := inductionHypothesis
        (fun other member => keywordOnly other (by simp [member]))
      have step :
          formal.consume supply =
            (formal.consume ⟨[], supply.keywords⟩).map fun outcome =>
              (outcome.1, ⟨supply.positional, outcome.2.keywords⟩) := by
        unfold Formal.consume Formal.consumeKeyword
        cases kind : formal.kind <;>
          simp only [kind, ArgKind.isKeywordOnly, Bool.false_eq_true] at here
        all_goals first
          | rfl
          | (cases formal.takeByName supply.keywords <;> rfl)
      rw [consumeAll_cons, consumeAll_cons, step]
      cases formal.consume ⟨[], supply.keywords⟩ with
      | none => rfl
      | some outcome =>
          obtain ⟨taken, ⟨positional, keywords⟩⟩ := outcome
          simp only [Option.map_some, Option.bind_some]
          rw [later ⟨supply.positional, keywords⟩, later ⟨positional, keywords⟩]
          simp only [Option.map_map]
          rfl

/-- Positional parameters take the leading positional arguments. -/
theorem consumeAll_positional_left
    {pre : List (Formal τ)}
    (positional : ∀ formal ∈ pre, formal.kind.isPositional = true)
    {supply left : Supply α}
    {bound : List (List α)}
    (consumed : consumeAll pre supply = some (bound, left)) :
    left.positional = supply.positional.drop pre.length := by
  induction pre generalizing supply bound with
  | nil =>
      cases consumed
      rfl
  | cons formal pre inductionHypothesis =>
      have here := positional formal (by simp)
      obtain ⟨taken, rest, following, step, remaining, rfl⟩ :=
        consumeAll_cons_eq_some_iff.mp consumed
      have tail := inductionHypothesis
        (fun other member => positional other (by simp [member])) remaining
      rw [tail]
      have restPositional : rest.positional = supply.positional.drop 1 := by
        obtain ⟨arguments, keywords⟩ := supply
        cases arguments with
        | nil =>
            rw [Formal.consume_positional_nil here] at step
            rw [Formal.consumeKeyword_positional step]
            rfl
        | cons argument arguments =>
            obtain ⟨-, -, rfl⟩ :=
              (Formal.consume_positional_cons_iff here).mp step
            rfl
      simp [restPositional, Nat.add_comm]

/-- A positional parameter takes the positional argument at its index. -/
theorem consumeAll_positional_getElem?
    {pre : List (Formal τ)}
    (positional : ∀ formal ∈ pre, formal.kind.isPositional = true)
    {supply left : Supply α}
    {bound : List (List α)}
    (consumed : consumeAll pre supply = some (bound, left))
    {idx : Nat}
    {argument : α}
    (inRange : idx < pre.length)
    (argumentAt : supply.positional[idx]? = some argument) :
    bound[idx]? = some [argument] := by
  induction pre generalizing supply bound idx with
  | nil => cases inRange
  | cons formal pre inductionHypothesis =>
      have here := positional formal (by simp)
      obtain ⟨arguments, keywords⟩ := supply
      obtain ⟨taken, rest, following, step, remaining, rfl⟩ :=
        consumeAll_cons_eq_some_iff.mp consumed
      cases arguments with
      | nil => cases argumentAt
      | cons first arguments =>
          obtain ⟨-, rfl, rfl⟩ :=
            (Formal.consume_positional_cons_iff here).mp step
          cases idx with
          | zero =>
              rw [List.getElem?_cons_zero] at argumentAt ⊢
              rw [Option.some.inj argumentAt]
          | succ idx =>
              rw [List.getElem?_cons_succ] at argumentAt ⊢
              exact inductionHypothesis
                (fun other member => positional other (by simp [member]))
                remaining (Nat.lt_of_succ_lt_succ inRange) argumentAt

/-- Once every positional parameter has its argument, further positional
arguments are handed on. -/
theorem consumeAll_positional_append
    {pre : List (Formal τ)}
    (positional : ∀ formal ∈ pre, formal.kind.isPositional = true)
    (arguments extra : List α)
    (keywords : List (String × α))
    (enough : pre.length ≤ arguments.length) :
    consumeAll pre ⟨arguments ++ extra, keywords⟩ =
      (consumeAll pre ⟨arguments, keywords⟩).map fun (bound, left) =>
        (bound, ⟨left.positional ++ extra, left.keywords⟩) := by
  induction pre generalizing arguments keywords with
  | nil => rfl
  | cons formal pre inductionHypothesis =>
      have here := positional formal (by simp)
      have later := inductionHypothesis
        (fun other member => positional other (by simp [member]))
      cases arguments with
      | nil => simp at enough
      | cons argument arguments =>
          have enoughLater : pre.length ≤ arguments.length := by
            simpa using enough
          rw [List.cons_append, consumeAll_cons, consumeAll_cons,
            Formal.consume_positional_cons here,
            Formal.consume_positional_cons here]
          split
          · rfl
          · simp only [Option.bind_some, later arguments keywords enoughLater,
              Option.map_map]
            rfl

/-! ## The two bindings -/

variable {pre post fresh : List (Formal τ)} {star : Formal τ}

/-- How a call binds to a variadic signature. -/
theorem bind_variadic_iff
    (isStar : star.kind = .star)
    (supply : Supply α)
    (bound : List (List α)) :
    bind (pre ++ star :: post) supply = some bound ↔
      ∃ before rest after,
        consumeAll pre supply = some (before, rest) ∧
        consumeAll post ⟨[], rest.keywords⟩ = some (after, ⟨[], []⟩) ∧
        bound = before ++ rest.positional :: after := by
  have atStar (rest : Supply α) :
      consumeAll (star :: post) rest =
        (consumeAll post ⟨[], rest.keywords⟩).map fun (after, left) =>
          (rest.positional :: after, left) := by
    rw [consumeAll_cons, Formal.consume_star isStar, Option.bind_some]
  rw [bind_eq_some_iff, consumeAll_append, Option.bind_eq_some_iff]
  simp only [atStar, Option.map_map, Option.map_eq_some_iff,
    Function.comp_apply, Prod.mk.injEq, Prod.exists]
  constructor
  · rintro ⟨before, rest, walked, after, left, walkedPost, rfl, rfl⟩
    exact ⟨before, rest, after, walked, walkedPost, rfl⟩
  · rintro ⟨before, rest, after, walked, walkedPost, rfl⟩
    exact ⟨before, rest, walked, after, _, walkedPost, rfl, rfl⟩

/-- How a call binds to the signature that has positional-only parameters in
the place of `*args`. -/
theorem bind_expanded_iff
    (positionalOnly : ∀ formal ∈ fresh, PositionalOnly formal)
    (keywordOnly : ∀ formal ∈ post, formal.kind.isKeywordOnly = true)
    (supply : Supply α)
    (bound : List (List α)) :
    bind (pre ++ fresh ++ post) supply = some bound ↔
      ∃ before rest after,
        consumeAll pre supply = some (before, rest) ∧
        consumeAll post ⟨[], rest.keywords⟩ = some (after, ⟨[], []⟩) ∧
        rest.positional.length = fresh.length ∧
        bound =
          before ++ rest.positional.map (fun argument => [argument]) ++
            after := by
  rw [bind_eq_some_iff, List.append_assoc, consumeAll_append,
    Option.bind_eq_some_iff]
  simp only [consumeAll_append, consumeAll_positionalOnly fresh positionalOnly,
    Option.map_eq_some_iff, Prod.mk.injEq, Prod.exists]
  constructor
  · rintro ⟨before, rest, walked, following, left, walkedRest, rfl, rfl⟩
    split at walkedRest
    · rename_i enough
      simp only [Option.bind_some, Option.map_eq_some_iff] at walkedRest
      obtain ⟨⟨_, left⟩, walkedPost, equal⟩ := walkedRest
      rw [consumeAll_keywordOnly post keywordOnly,
        Option.map_eq_some_iff] at walkedPost
      obtain ⟨⟨after, ⟨positional, keywords⟩⟩, walkedPost, equal'⟩ := walkedPost
      cases equal'
      simp only [Prod.mk.injEq, Supply.mk.injEq, List.drop_eq_nil_iff] at equal
      obtain ⟨rfl, atMost, rfl⟩ := equal
      have exact_length : rest.positional.length = fresh.length :=
        Nat.le_antisymm atMost enough
      have untouched : positional = [] := by
        have again := consumeAll_keywordOnly post keywordOnly ⟨[], rest.keywords⟩
        rw [walkedPost] at again
        simpa using again
      subst untouched
      refine ⟨before, rest, after, walked, walkedPost, exact_length, ?_⟩
      rw [← exact_length, List.take_length, List.append_assoc]
    · simp at walkedRest
  · rintro ⟨before, rest, after, walked, walkedPost, exact_length, rfl⟩
    refine ⟨before, rest, walked,
      rest.positional.map (fun argument => [argument]) ++ after, ⟨[], []⟩,
      ?_, by rw [List.append_assoc], rfl⟩
    rw [if_pos (Nat.le_of_eq exact_length.symm), ← exact_length]
    simp only [List.take_length, List.drop_length, Option.bind_some, walkedPost,
      Option.map_some]

/-! ## Replacing the parameter at an index -/

section Splice

variable {formals : List (Formal τ)} {idx : Nat}

/-- Before `*args` stand positional parameters, after it keyword ones. -/
theorem kinds_around_star
    (ordered : (formals.map Formal.kind).Pairwise ArgKind.Precedes)
    (starAt : formals[idx]? = some star)
    (isStar : star.kind = .star) :
    (∀ formal ∈ formals.take idx, formal.kind.isPositional = true) ∧
      ∀ formal ∈ formals.drop (idx + 1), formal.kind.isKeywordOnly = true := by
  obtain ⟨parts, -⟩ := take_cons_drop_of_getElem? starAt
  rw [parts, List.map_append, List.map_cons, List.pairwise_append,
    List.pairwise_cons, isStar] at ordered
  obtain ⟨-, ⟨after, -⟩, before⟩ := ordered
  constructor
  · intro formal member
    exact (before formal.kind (List.mem_map_of_mem member) .star
      (by simp)).isPositional_of_star
  · intro formal member
    exact (after formal.kind
      (List.mem_map_of_mem member)).isKeywordOnly_of_star

/-- `*args` takes the positional arguments beyond the parameters before it. -/
theorem bind_star
    (ordered : (formals.map Formal.kind).Pairwise ArgKind.Precedes)
    (starAt : formals[idx]? = some star)
    (isStar : star.kind = .star)
    {supply : Supply α}
    {bound : List (List α)}
    (binds : bind formals supply = some bound) :
    bound[idx]? = some (supply.positional.drop idx) := by
  obtain ⟨parts, index⟩ := take_cons_drop_of_getElem? starAt
  have positional := (kinds_around_star ordered starAt isStar).1
  rw [parts] at binds
  obtain ⟨before, rest, after, walked, -, rfl⟩ :=
    (bind_variadic_iff isStar supply bound).mp binds
  have beforeLength : before.length = idx := by
    rw [consumeAll_length walked, index]
  have extra := consumeAll_positional_left positional walked
  rw [index] at extra
  rw [← extra, List.getElem?_append_right (Nat.le_of_eq beforeLength),
    beforeLength, Nat.sub_self, List.getElem?_cons_zero]

/-- A call binds to the signature with positional-only parameters in the place
of `*args` exactly when it binds to the original one with as many arguments in
`*args`; each of these then goes to its own parameter, and nothing else
changes. -/
theorem bind_splice_iff
    (ordered : (formals.map Formal.kind).Pairwise ArgKind.Precedes)
    (starAt : formals[idx]? = some star)
    (isStar : star.kind = .star)
    (positionalOnly : ∀ formal ∈ fresh, PositionalOnly formal)
    (supply : Supply α)
    (bound' : List (List α)) :
    bind (splice formals idx fresh) supply = some bound' ↔
      ∃ bound, bind formals supply = some bound ∧
        (supply.positional.drop idx).length = fresh.length ∧
        bound' = splice bound idx
          ((supply.positional.drop idx).map fun argument => [argument]) := by
  obtain ⟨parts, index⟩ := take_cons_drop_of_getElem? starAt
  obtain ⟨positional, keywordOnly⟩ :=
    kinds_around_star ordered starAt isStar
  unfold splice
  rw [bind_expanded_iff positionalOnly keywordOnly]
  constructor
  · rintro ⟨before, rest, after, walked, walkedPost, lengths, rfl⟩
    have beforeLength : before.length = idx := by
      rw [consumeAll_length walked, index]
    have extra := consumeAll_positional_left positional walked
    rw [index] at extra
    refine ⟨before ++ rest.positional :: after, ?_, extra ▸ lengths, ?_⟩
    · rw [parts]
      exact (bind_variadic_iff isStar supply _).mpr
        ⟨before, rest, after, walked, walkedPost, rfl⟩
    · rw [← extra]
      subst beforeLength
      simp
  · rintro ⟨bound, binds, lengths, rfl⟩
    rw [parts] at binds
    obtain ⟨before, rest, after, walked, walkedPost, rfl⟩ :=
      (bind_variadic_iff isStar supply bound).mp binds
    have beforeLength : before.length = idx := by
      rw [consumeAll_length walked, index]
    have extra := consumeAll_positional_left positional walked
    rw [index] at extra
    refine ⟨before, rest, after, walked, walkedPost, extra ▸ lengths, ?_⟩
    rw [← extra]
    subst beforeLength
    simp

/-- A positional parameter takes the positional argument at its index. -/
theorem bind_positional
    (ordered : (formals.map Formal.kind).Pairwise ArgKind.Precedes)
    (starAt : formals[idx]? = some star)
    (isStar : star.kind = .star)
    {supply : Supply α}
    {bound : List (List α)}
    (binds : bind formals supply = some bound)
    {other : Nat}
    {argument : α}
    (before : other < idx)
    (argumentAt : supply.positional[other]? = some argument) :
    bound[other]? = some [argument] := by
  obtain ⟨parts, index⟩ := take_cons_drop_of_getElem? starAt
  have positional := (kinds_around_star ordered starAt isStar).1
  rw [parts] at binds
  obtain ⟨taken, rest, after, walked, -, rfl⟩ :=
    (bind_variadic_iff isStar supply bound).mp binds
  have takenLength : taken.length = idx := by
    rw [consumeAll_length walked, index]
  rw [List.getElem?_append_left (by omega)]
  exact consumeAll_positional_getElem? positional walked (by omega) argumentAt

/-- The arguments in `*args` can be exchanged for others without a change to
the arguments of any other parameter. -/
theorem bind_exchange_star
    (ordered : (formals.map Formal.kind).Pairwise ArgKind.Precedes)
    (starAt : formals[idx]? = some star)
    (isStar : star.kind = .star)
    {positional : List α}
    {keywords : List (String × α)}
    {bound : List (List α)}
    (binds : bind formals ⟨positional, keywords⟩ = some bound)
    (enough : idx ≤ positional.length)
    (extra : List α) :
    bind formals ⟨positional.take idx ++ extra, keywords⟩ =
      some (bound.set idx extra) := by
  obtain ⟨parts, index⟩ := take_cons_drop_of_getElem? starAt
  have isPositional := (kinds_around_star ordered starAt isStar).1
  have firstLength : (positional.take idx).length = idx := by
    simp [enough]
  have handedOn (extra' : List α) := consumeAll_positional_append isPositional
    (positional.take idx) extra' keywords (by omega)
  rw [parts] at binds
  obtain ⟨before, rest, after, walked, walkedPost, rfl⟩ :=
    (bind_variadic_iff isStar _ bound).mp binds
  rw [← List.take_append_drop idx positional, handedOn,
    Option.map_eq_some_iff] at walked
  obtain ⟨⟨before', rest'⟩, walked, equal⟩ := walked
  cases equal
  have nothingLeft := consumeAll_positional_left isPositional walked
  rw [index, List.drop_eq_nil_of_le (Nat.le_of_eq firstLength)] at nothingLeft
  have beforeLength : before.length = idx := by
    rw [consumeAll_length walked, index]
  rw [parts]
  refine (bind_variadic_iff isStar _ _).mpr
    ⟨before, ⟨extra, rest'.keywords⟩, after, ?_, walkedPost, ?_⟩
  · simp only [handedOn, walked, Option.map_some, nothingLeft,
      List.nil_append]
  · rw [List.set_append_right _ _ (Nat.le_of_eq beforeLength), beforeLength,
      Nat.sub_self, List.set_cons_zero]

end Splice

end Calling
end TrioTyping
