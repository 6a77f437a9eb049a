import TrioTyping.TakesCallable.UnionArm

/-!
# The two outcomes of the callback

The callback either returns six overloads or reports one error. The scan stops
at the first thing it finds too much of, and otherwise the two checks after it
decide, so that its result is a function of how many parameters `*args: Any`
and how many slots for extra arguments the whole signature has. An assertion
can fail only for a signature with two `*args`, which mypy does not let through.
-/

namespace TrioTyping
namespace TakesCallable

open Calling

/-! ## The errors -/

/-- A second `VarArg()` has been found. -/
def tooManyCallables : ValueError :=
  ⟨"decorated function may only take one callable " ++
    "that has an argument of type VarArg()"⟩

/-- There is no `*args: Any`. -/
def noStarArgs : ValueError :=
  ⟨"decorated function must take *args: Any"⟩

/-- There is no `VarArg()`. -/
def noCallable : ValueError :=
  ⟨"decorated function must take a callable that has a " ++
    "argument of type mypy_extensions.VarArg()"⟩

theorem noStarArgs_ne_tooManyCallables : noStarArgs ≠ tooManyCallables := by
  decide

theorem noCallable_ne_tooManyCallables : noCallable ≠ tooManyCallables := by
  decide

/-- The decorator is not applied to a single function. -/
def notADecorator : ValueError :=
  ⟨"must be used as a decorator"⟩

/-- The message of a report. -/
def invalidUse (ex : ValueError) : Report :=
  .fail ("invalid use of @takes_callable_and_args: " ++ ex.message)

/-- Reports differ when their errors do. -/
theorem invalidUse_injective
    {ex ex' : ValueError}
    (same : invalidUse ex = invalidUse ex') :
    ex = ex' := by
  obtain ⟨message⟩ := ex
  obtain ⟨message'⟩ := ex'
  have messages := (String.append_right_inj _).mp (Report.fail.inj same)
  exact congrArg ValueError.mk messages

/-! ## How the scan fails -/

/-- What has been recorded and what is to be recorded are too much for the
variable of the scan the error is about. -/
def Overflows
    (state : ScanState)
    (indices : List Nat)
    (found : List SelectedCallable)
    (error : PyError) : Prop :=
  (error = .assertionError ∧ 2 ≤ (state.argsIdx.toList ++ indices).length) ∨
    (error = .valueError tooManyCallables ∧
      2 ≤ (state.selected.toList ++ found).length)

/-- What is too much remains so when there is more to come. -/
theorem Overflows.append
    {state : ScanState}
    {indices : List Nat}
    {found : List SelectedCallable}
    {error : PyError}
    (overflows : Overflows state indices found error)
    (indices' : List Nat)
    (found' : List SelectedCallable) :
    Overflows state (indices ++ indices') (found ++ found') error := by
  unfold Overflows at overflows ⊢
  simp only [List.length_append] at overflows ⊢
  rcases overflows with ⟨isAssertion, tooMany⟩ | ⟨isValue, tooMany⟩
  · exact .inl ⟨isAssertion, by omega⟩
  · exact .inr ⟨isValue, by omega⟩

/-- What is too much after some has been recorded was too much before. -/
theorem Overflows.of_records
    {state middle : ScanState}
    {indices indices' : List Nat}
    {found found' : List SelectedCallable}
    {error : PyError}
    (overflows : Overflows middle indices' found' error)
    (records : Records state indices found middle) :
    Overflows state (indices ++ indices') (found ++ found') error := by
  obtain ⟨sameIndices, sameFound⟩ := records
  rw [Overflows, ← List.append_assoc, ← List.append_assoc, ← sameIndices,
    ← sameFound]
  exact overflows

/-- If every step of a loop fails only for an overflow, so does a run. -/
theorem foldlM_error_overflows
    {α : Type}
    {step : ScanState → α → Except PyError ScanState}
    {indices : α → List Nat}
    {found : α → List SelectedCallable}
    (step_iff : ∀ state entry final,
      step state entry = .ok final ↔
        Records state (indices entry) (found entry) final)
    (step_error : ∀ state entry error,
      step state entry = .error error →
        Overflows state (indices entry) (found entry) error)
    (entries : List α)
    (state : ScanState)
    (error : PyError)
    (failed : entries.foldlM step state = .error error) :
    Overflows state (entries.flatMap indices) (entries.flatMap found)
      error := by
  induction entries generalizing state with
  | nil => cases failed
  | cons entry entries inductionHypothesis =>
      rw [List.foldlM_cons] at failed
      rw [List.flatMap_cons, List.flatMap_cons]
      cases stepped : step state entry with
      | error stepError =>
          rw [stepped] at failed
          cases failed
          exact (step_error state entry error stepped).append _ _
      | ok next =>
          rw [stepped] at failed
          exact (inductionHypothesis next failed).of_records
            ((step_iff state entry next).mp stepped)

/-- The scan of a callable fails only at a second `VarArg()`. -/
theorem scanCallableParameter_error
    (callableIdx : Nat)
    (callableTy : CallableType)
    (state : ScanState)
    (parameter : (ArgKind × Ty) × Nat)
    (error : PyError)
    (failed : scanCallableParameter callableIdx callableTy state parameter =
      .error error) :
    Overflows state []
      ((starAnyIndex parameter).map fun idx => ⟨callableIdx, idx, callableTy⟩)
      error := by
  obtain ⟨⟨kind, type⟩, idx⟩ := parameter
  obtain ⟨selected, argsIdx⟩ := state
  unfold scanCallableParameter at failed
  by_cases found : isStarAny kind type = true
  · simp only [found, if_true] at failed
    cases selected with
    | none => cases failed
    | some earlier =>
        cases failed
        refine .inr ⟨rfl, ?_⟩
        rw [starAnyIndex, if_pos found]
        exact Nat.le_refl 2
  · simp only [found, Bool.false_eq_true, if_false, reduceCtorEq] at failed

/-- The scan of the decorated function fails only at a second `*args: Any` or at
a second `VarArg()`. -/
theorem scanParameter_error
    (state : ScanState)
    (parameter : (ArgKind × Ty) × Nat)
    (error : PyError)
    (failed : scanParameter state parameter = .error error) :
    Overflows state (starAnyIndex parameter) (slotsOfParameter parameter)
      error := by
  obtain ⟨⟨kind, type⟩, idx⟩ := parameter
  unfold scanParameter at failed
  by_cases found : isStarAny kind type = true
  · simp only [found, if_true] at failed
    obtain ⟨selected, argsIdx⟩ := state
    cases argsIdx with
    | none => cases failed
    | some earlier =>
        cases failed
        refine .inl ⟨rfl, ?_⟩
        rw [starAnyIndex, if_pos found]
        exact Nat.le_refl 2
  · simp only [found, Bool.false_eq_true, if_false] at failed
    by_cases isPos : kind = .pos
    · simp only [isPos, if_true] at failed
      cases choice : candidate (getProperType type) with
      | none => simp only [choice, reduceCtorEq] at failed
      | some callableTy =>
          simp only [choice] at failed
          have overflows := foldlM_error_overflows
            (scanCallableParameter_eq_ok_iff idx callableTy)
            (scanCallableParameter_error idx callableTy)
            _ state error failed
          rw [starAnyIndex, if_neg found, slotsOfParameter, if_pos isPos, choice]
          have noIndex : ∀ parameters : List ((ArgKind × Ty) × Nat),
              (parameters.flatMap fun _ => ([] : List Nat)) = [] := by simp
          rw [← List.map_flatMap, noIndex] at overflows
          exact overflows
    · simp only [isPos, if_false, reduceCtorEq] at failed

/-! ## The result of the scan -/

/-- The result of the scan in terms of what the whole signature has. -/
def verdict :
    List Nat → List SelectedCallable → Except ValueError (Nat × SelectedCallable)
  | _, _ :: _ :: _ => .error tooManyCallables
  | [], _ => .error noStarArgs
  | _, [] => .error noCallable
  | argsIdx :: _, [selected] => .ok (argsIdx, selected)

theorem verdict_tooManyCallables
    {found : List SelectedCallable}
    (several : 2 ≤ found.length)
    (indices : List Nat) :
    verdict indices found = .error tooManyCallables := by
  match found, several with
  | _ :: _ :: _, _ => rfl

/-- Every `*args: Any` is an `*args`. -/
theorem length_starAnyIndex_le_count (entries : List ((ArgKind × Ty) × Nat)) :
    (entries.flatMap starAnyIndex).length ≤
      (entries.map fun entry => entry.1.1).count .star := by
  induction entries with
  | nil => exact Nat.le_refl 0
  | cons entry entries inductionHypothesis =>
      rw [List.flatMap_cons, List.length_append, List.map_cons]
      by_cases found : isStarAny entry.1.1 entry.1.2 = true
      · have isStar := ((isStarAny_iff _ _).mp found).1
        rw [starAnyIndex, if_pos found, isStar, List.count_cons_self,
          List.length_singleton, Nat.add_comm]
        exact Nat.add_le_add_right inductionHypothesis 1
      · rw [starAnyIndex, if_neg found, List.length_nil, Nat.zero_add]
        exact Nat.le_trans inductionHypothesis List.count_le_count_cons

/-- A signature with a single `*args` has a single `*args: Any` at most. -/
theorem starAnyIndices_length_le
    {signature : CallableType}
    (oneStar : signature.AtMostOneStar) :
    (starAnyIndices signature).length ≤ 1 := by
  have kinds :
      ((signature.argKinds.zip signature.argTypes).zipIdx.map
          fun entry => entry.1.1) =
        signature.argKinds.take
          (min signature.argKinds.length signature.argTypes.length) := by
    change List.map (Prod.fst ∘ Prod.fst) _ = _
    rw [← List.map_map, List.zipIdx_map_fst, List.zip_eq_zip_take_min,
      List.map_fst_zip (by simp)]
  have counted := length_starAnyIndex_le_count
    (signature.argKinds.zip signature.argTypes).zipIdx
  rw [kinds] at counted
  have fewer := (List.take_sublist
    (min signature.argKinds.length signature.argTypes.length)
    signature.argKinds).count_le .star
  exact Nat.le_trans counted (Nat.le_trans fewer oneStar)

/-- The scan of a signature with a single `*args`. -/
theorem scan_eq_verdict
    {fnType : CallableType}
    (oneStar : fnType.AtMostOneStar) :
    scan fnType =
      (verdict (starAnyIndices fnType) (slots fnType)).mapError
        PyError.valueError := by
  have single := starAnyIndices_length_le oneStar
  unfold scan
  cases loop : (fnType.argKinds.zip fnType.argTypes).zipIdx.foldlM
      scanParameter ⟨none, none⟩ with
  | error error =>
      have overflows := foldlM_error_overflows scanParameter_eq_ok_iff
        scanParameter_error _ _ _ loop
      rcases overflows with ⟨-, tooMany⟩ | ⟨rfl, tooMany⟩
      · change 2 ≤ (starAnyIndices fnType).length at tooMany
        omega
      · change 2 ≤ (slots fnType).length at tooMany
        rw [verdict_tooManyCallables tooMany]
        rfl
  | ok final =>
      obtain ⟨indices, found⟩ := (foldlM_eq_ok_iff_records
        scanParameter_eq_ok_iff _ _ _).mp loop
      obtain ⟨selected, argsIdx⟩ := final
      change argsIdx.toList = starAnyIndices fnType at indices
      change selected.toList = slots fnType at found
      rw [← indices, ← found]
      cases argsIdx <;> cases selected <;> rfl

theorem verdict_eq_ok_iff
    {indices : List Nat}
    {found : List SelectedCallable}
    (single : indices.length ≤ 1)
    (argsIdx : Nat)
    (selected : SelectedCallable) :
    verdict indices found = .ok (argsIdx, selected) ↔
      indices = [argsIdx] ∧ found = [selected] := by
  match indices, found with
  | [], [] => simp [verdict]
  | [], [_] => simp [verdict]
  | [], _ :: _ :: _ => simp [verdict]
  | [_], [] => simp [verdict]
  | [_], [_] => simp [verdict]
  | [_], _ :: _ :: _ => simp [verdict]
  | _ :: _ :: _, _ => simp at single

/-- The error about too many callables is reported for nothing else. -/
theorem verdict_eq_tooManyCallables_iff
    {indices : List Nat}
    {found : List SelectedCallable} :
    verdict indices found = .error tooManyCallables ↔ 2 ≤ found.length := by
  refine ⟨fun result => ?_, fun several =>
    verdict_tooManyCallables several indices⟩
  match indices, found with
  | _, _ :: _ :: _ => exact Nat.le_add_left 2 _
  | [], [] =>
      exact absurd (Except.error.inj result) noStarArgs_ne_tooManyCallables
  | [], [_] =>
      exact absurd (Except.error.inj result) noStarArgs_ne_tooManyCallables
  | _ :: _, [] =>
      exact absurd (Except.error.inj result) noCallable_ne_tooManyCallables
  | _ :: _, [_] => cases result

/-- What the callback makes of the result of the scan. -/
def conclude
    (ctx : FunctionContext)
    (hasTypeVarDefault : Bool)
    (fnType : CallableType) :
    Except ValueError (Nat × SelectedCallable) → Reported Ty
  | .ok found => pure
      (.overloaded
        (expandedFns ctx.api hasTypeVarDefault fnType found.1 found.2))
  | .error ex => ⟨ctx.defaultReturnType, [invalidUse ex]⟩

/-- The report tells the error. -/
theorem conclude_eq_error_iff
    {ctx : FunctionContext}
    {hasTypeVarDefault : Bool}
    {fnType : CallableType}
    (result : Except ValueError (Nat × SelectedCallable))
    (ex : ValueError) :
    conclude ctx hasTypeVarDefault fnType result =
        conclude ctx hasTypeVarDefault fnType (.error ex) ↔
      result = .error ex := by
  constructor
  · intro concluded
    have reports := congrArg Reported.reports concluded
    cases result with
    | ok found => cases reports
    | error ex' =>
        exact congrArg _ (invalidUse_injective (List.cons.inj reports).1)
  · rintro rfl
    rfl

/-- The callback applied as a decorator. -/
theorem callback_eq_conclude
    {ctx : FunctionContext}
    {fnType : CallableType}
    (decorated : decoratedType ctx = .ok fnType)
    (oneStar : fnType.AtMostOneStar)
    (hasTypeVarDefault : Bool) :
    takesCallableAndArgsCallback ctx hasTypeVarDefault =
      .ok (conclude ctx hasTypeVarDefault fnType
        (verdict (starAnyIndices fnType) (slots fnType))) := by
  unfold takesCallableAndArgsCallback
  rw [overloads_eq decorated, scan_eq_verdict oneStar]
  cases verdict (starAnyIndices fnType) (slots fnType) <;> rfl

/-! ## When there are overloads -/

/-- The decorator is applied to one actual; its type and the default type are
callables. -/
structure AppliedTo (ctx : FunctionContext) (fnType : CallableType) : Prop where
  /-- The actual. -/
  actual : ∃ type rest, ctx.argTypes = [type] :: rest ∧
    getProperType type = .callable fnType
  /-- The default type. -/
  default : ∃ signature, getProperType ctx.defaultReturnType = .callable signature

theorem decoratedType_eq_ok_iff
    (ctx : FunctionContext)
    (fnType : CallableType) :
    decoratedType ctx = .ok fnType ↔ AppliedTo ctx fnType := by
  unfold decoratedType
  constructor
  · intro decorated
    split at decorated
    · rename_i type rest actual
      split at decorated
      · rename_i signature default resolved isCallable
        cases decorated
        exact ⟨⟨type, rest, actual, resolved⟩, default, isCallable⟩
      · cases decorated
    · cases decorated
  · rintro ⟨⟨type, rest, actual, resolved⟩, default, isCallable⟩
    rw [actual]
    simp only [resolved, isCallable]

theorem AppliedTo.unique
    {ctx : FunctionContext}
    {fnType fnType' : CallableType}
    (applied : AppliedTo ctx fnType)
    (applied' : AppliedTo ctx fnType') :
    fnType' = fnType := by
  rw [← decoratedType_eq_ok_iff] at applied applied'
  rw [applied] at applied'
  cases applied'
  rfl

/-- Otherwise the error is about that. -/
theorem decoratedType_eq_error
    {ctx : FunctionContext}
    {error : PyError}
    (failed : decoratedType ctx = .error error) :
    error = .valueError notADecorator := by
  unfold decoratedType at failed
  split at failed
  · split at failed
    · cases failed
    · cases failed
      rfl
  · cases failed
    rfl

/-- A callable with an `*args` that was not written `Callable[..., T]`. -/
def TakesStarArgs (signature : CallableType) : Prop :=
  signature.isEllipsisArgs = false ∧ .star ∈ signature.argKinds

/-- The callable that a parameter of the type stands for: the type itself, or
the first arm of a union that is a callable with an `*args`. -/
def SelectsCallable (type : Ty) (callableTy : CallableType) : Prop :=
  getProperType type = .callable callableTy ∨
    ∃ items earlier later, getProperType type = .union items ∧
      getProperTypes items = earlier ++ .callable callableTy :: later ∧
      TakesStarArgs callableTy ∧
      ∀ signature, .callable signature ∈ earlier → ¬TakesStarArgs signature

/-- A required positional parameter that stands for a callable with a
`VarArg()`. -/
structure CandidateAt
    (fnType : CallableType)
    (selected : SelectedCallable) : Prop where
  /-- The kind of the parameter. -/
  kind : fnType.argKinds[selected.callableIdx]? = some .pos
  /-- Its type. -/
  selects : ∃ type, fnType.argTypes[selected.callableIdx]? = some type ∧
    SelectsCallable type selected.callableTy
  /-- The `VarArg()`. -/
  varArg : StarAnyAt selected.callableTy selected.callableArgsIdx

/-- The parameter at an index is a candidate. -/
def IsCandidate (fnType : CallableType) (idx : Nat) : Prop :=
  ∃ callableArgsIdx callableTy,
    CandidateAt fnType ⟨idx, callableArgsIdx, callableTy⟩

/-- Neither the decorated function nor a callable that one of its parameters
stands for has two `*args`. -/
structure SingleStars (ctx : FunctionContext) : Prop where
  /-- The decorated function. -/
  decorated : ∀ fnType, AppliedTo ctx fnType → fnType.AtMostOneStar
  /-- The callables. -/
  callables : ∀ fnType, AppliedTo ctx fnType → ∀ type ∈ fnType.argTypes,
    ∀ callableTy, SelectsCallable type callableTy → callableTy.AtMostOneStar

theorem acceptsStar_iff
    (signature : CallableType) :
    acceptsStar signature = true ↔ TakesStarArgs signature := by
  simp [acceptsStar, TakesStarArgs]

/-- The scan looks at the callable that a parameter stands for. -/
theorem candidate_eq_some_iff
    (type : Ty)
    (callableTy : CallableType) :
    candidate (getProperType type) = some callableTy ↔
      SelectsCallable type callableTy := by
  unfold SelectsCallable
  cases resolved : getProperType type with
  | callable signature => simp [candidate]
  | union items =>
      rw [candidate_union]
      simp only [reduceCtorEq, false_or, Ty.union.injEq, FirstPassing,
        PassesTest, acceptsStar_iff]
      constructor
      · rintro ⟨earlier, later, parts, passes, nonePasses⟩
        exact ⟨items, earlier, later, rfl, parts, passes,
          fun signature isEarlier takes =>
            nonePasses _ isEarlier ⟨signature, rfl, takes⟩⟩
      · rintro ⟨_, earlier, later, rfl, parts, passes, nonePasses⟩
        refine ⟨earlier, later, parts, passes, ?_⟩
        rintro _ isEarlier ⟨signature, rfl, takes⟩
        exact nonePasses signature isEarlier takes
  | _ => simp [candidate]

/-- The slots are those of the candidates. -/
theorem mem_slots_iff_candidateAt
    (fnType : CallableType)
    (selected : SelectedCallable) :
    selected ∈ slots fnType ↔ CandidateAt fnType selected := by
  simp only [mem_slots, candidate_eq_some_iff]
  constructor
  · rintro ⟨kind, selects, varArg⟩
    exact ⟨kind, selects, varArg⟩
  · intro isCandidate
    exact ⟨isCandidate.kind, isCandidate.selects, isCandidate.varArg⟩

/-- The slots of a parameter are at its index. -/
theorem callableIdx_of_mem_slotsOfParameter
    {parameter : (ArgKind × Ty) × Nat}
    {slot : SelectedCallable}
    (member : slot ∈ slotsOfParameter parameter) :
    slot.callableIdx = parameter.2 := by
  unfold slotsOfParameter at member
  split at member
  · split at member
    · obtain ⟨_, -, rfl⟩ := List.mem_map.mp member
      rfl
    · cases member
  · cases member

/-- A list of one entry at most that has a member. -/
theorem eq_singleton_of_mem
    {α : Type}
    {entries : List α}
    {entry : α}
    (short : entries.length ≤ 1)
    (member : entry ∈ entries) :
    entries = [entry] := by
  obtain ⟨other, rfl⟩ := List.length_eq_one_iff.mp
    (Nat.le_antisymm short (List.length_pos_of_mem member))
  rw [List.mem_singleton.mp member]

/-- There is one slot exactly when there is one candidate, whatever the order of
the parameters. -/
theorem slots_eq_singleton_iff
    {fnType : CallableType}
    (oneStar : ∀ type ∈ fnType.argTypes, ∀ callableTy,
      SelectsCallable type callableTy → callableTy.AtMostOneStar)
    (selected : SelectedCallable) :
    slots fnType = [selected] ↔
      (∃! idx, IsCandidate fnType idx) ∧ CandidateAt fnType selected := by
  constructor
  · intro found
    have isCandidate : CandidateAt fnType selected :=
      (mem_slots_iff_candidateAt fnType selected).mp (by simp [found])
    refine ⟨⟨selected.callableIdx, ⟨_, _, isCandidate⟩, ?_⟩, isCandidate⟩
    rintro other ⟨callableArgsIdx, callableTy, otherCandidate⟩
    have isSlot := (mem_slots_iff_candidateAt _ _).mpr otherCandidate
    rw [found, List.mem_singleton] at isSlot
    rw [← isSlot]
  · rintro ⟨unique, isCandidate⟩
    obtain ⟨type, typeAt, selects⟩ := isCandidate.selects
    have entryAt : (fnType.argKinds.zip fnType.argTypes)[selected.callableIdx]? =
        some (.pos, type) :=
      List.getElem?_zip_eq_some.mpr ⟨isCandidate.kind, typeAt⟩
    have noOther : ∀ other otherEntry, other ≠ selected.callableIdx →
        (fnType.argKinds.zip fnType.argTypes)[other]? = some otherEntry →
          slotsOfParameter (otherEntry, other) = [] := by
      intro other otherEntry different otherAt
      rw [List.eq_nil_iff_forall_not_mem]
      intro slot member
      have isSlot : slot ∈ slots fnType := List.mem_flatMap.mpr
        ⟨_, List.mk_mem_zipIdx_iff_getElem?.mpr otherAt, member⟩
      have atOther : slot.callableIdx = other :=
        callableIdx_of_mem_slotsOfParameter member
      have otherCandidate := (mem_slots_iff_candidateAt _ _).mp isSlot
      apply different
      rw [← atOther]
      exact unique.unique ⟨_, _, otherCandidate⟩ ⟨_, _, isCandidate⟩
    have varArgs : starAnyIndices selected.callableTy =
        [selected.callableArgsIdx] :=
      eq_singleton_of_mem
        (starAnyIndices_length_le
          (oneStar type (List.mem_of_getElem? typeAt) _ selects))
        (mem_starAnyIndices.mpr isCandidate.varArg)
    rw [slots, flatMap_zipIdx_single entryAt noOther, slotsOfParameter,
      if_pos rfl, (candidate_eq_some_iff _ _).mpr selects]
    simp only [varArgs, List.map_cons, List.map_nil]

/-- There is one index of `*args: Any` exactly when there is one such
parameter. -/
theorem starAnyIndices_eq_singleton_iff
    {fnType : CallableType}
    (oneStar : fnType.AtMostOneStar)
    (argsIdx : Nat) :
    starAnyIndices fnType = [argsIdx] ↔ StarAnyAt fnType argsIdx := by
  rw [← mem_starAnyIndices]
  constructor
  · intro found
    rw [found]
    exact List.mem_singleton_self argsIdx
  · exact eq_singleton_of_mem (starAnyIndices_length_le oneStar)

/-! ## The two outcomes -/

/-- The callback returns six overloads and reports nothing. -/
def Expands (ctx : FunctionContext) (hasTypeVarDefault : Bool) : Prop :=
  ∃ expanded : List CallableType, expanded.length = 6 ∧
    takesCallableAndArgsCallback ctx hasTypeVarDefault =
      .ok (pure (.overloaded expanded))

/-- The callback reports one error and returns the default type. -/
def Rejects
    (ctx : FunctionContext)
    (hasTypeVarDefault : Bool)
    (ex : ValueError) : Prop :=
  takesCallableAndArgsCallback ctx hasTypeVarDefault =
    .ok ⟨ctx.defaultReturnType, [invalidUse ex]⟩

/-- The two outcomes exclude each other. -/
theorem Rejects.not_accepted
    {ctx : FunctionContext}
    {hasTypeVarDefault : Bool}
    {ex : ValueError}
    (rejects : Rejects ctx hasTypeVarDefault ex)
    (expanded : List CallableType) :
    takesCallableAndArgsCallback ctx hasTypeVarDefault ≠
      .ok (pure (.overloaded expanded)) := by
  intro accepted
  have reports := congrArg (Except.map Reported.reports)
    (rejects.symm.trans accepted)
  simp [Except.map] at reports

/-- Which error is reported. -/
theorem rejects_iff
    {ctx : FunctionContext}
    {fnType : CallableType}
    (decorated : decoratedType ctx = .ok fnType)
    (oneStar : fnType.AtMostOneStar)
    (hasTypeVarDefault : Bool)
    (ex : ValueError) :
    Rejects ctx hasTypeVarDefault ex ↔
      verdict (starAnyIndices fnType) (slots fnType) = .error ex := by
  rw [Rejects, callback_eq_conclude decorated oneStar, Except.ok.injEq]
  exact conclude_eq_error_iff _ ex

/-- Applied to anything but a function, the callback says so. -/
theorem rejects_of_not_applied
    {ctx : FunctionContext}
    (notApplied : ∀ fnType, ¬AppliedTo ctx fnType)
    (hasTypeVarDefault : Bool) :
    Rejects ctx hasTypeVarDefault notADecorator := by
  unfold Rejects takesCallableAndArgsCallback overloads
  cases decorated : decoratedType ctx with
  | ok fnType =>
      exact absurd ((decoratedType_eq_ok_iff ctx fnType).mp decorated)
        (notApplied fnType)
  | error error =>
      rw [decoratedType_eq_error decorated]
      rfl

/-- The callback ends in one of the two ways. -/
theorem expands_or_rejects
    {ctx : FunctionContext}
    (oneStar : ∀ fnType, AppliedTo ctx fnType → fnType.AtMostOneStar)
    (hasTypeVarDefault : Bool) :
    Expands ctx hasTypeVarDefault ∨ ∃ ex, Rejects ctx hasTypeVarDefault ex := by
  by_cases applied : ∃ fnType, AppliedTo ctx fnType
  · obtain ⟨fnType, applied⟩ := applied
    have outcome := callback_eq_conclude
      ((decoratedType_eq_ok_iff ctx fnType).mpr applied)
      (oneStar fnType applied) hasTypeVarDefault
    cases result : verdict (starAnyIndices fnType) (slots fnType) with
    | ok found =>
        rw [result] at outcome
        exact .inl ⟨_, by simp [expandedFns_eq], outcome⟩
    | error ex =>
        rw [result] at outcome
        exact .inr ⟨ex, outcome⟩
  · exact .inr ⟨_, rejects_of_not_applied (not_exists.mp applied) _⟩

/-- When there are overloads. -/
theorem expands_iff
    (ctx : FunctionContext)
    (hasTypeVarDefault : Bool) :
    Expands ctx hasTypeVarDefault ↔
      ∃ fnType, AppliedTo ctx fnType ∧
        (∃ argsIdx, starAnyIndices fnType = [argsIdx]) ∧
        ∃ selected, slots fnType = [selected] := by
  constructor
  · rintro ⟨expanded, -, accepted⟩
    by_cases applied : ∃ fnType, AppliedTo ctx fnType
    · obtain ⟨fnType, applied⟩ := applied
      obtain ⟨argsIdx, selected, indices, found, -⟩ := (callback_spec
        ((decoratedType_eq_ok_iff ctx fnType).mpr applied)).mp accepted
      exact ⟨fnType, applied, ⟨argsIdx, indices⟩, selected, found⟩
    · have rejects := rejects_of_not_applied (not_exists.mp applied)
        hasTypeVarDefault
      exact absurd accepted (rejects.not_accepted expanded)
  · rintro ⟨fnType, applied, ⟨argsIdx, indices⟩, selected, found⟩
    exact ⟨_, by simp, (callback_spec
      ((decoratedType_eq_ok_iff ctx fnType).mpr applied)).mpr
        ⟨argsIdx, selected, indices, found, rfl⟩⟩

/-! ## The order of the parameters -/

/-- How much is found in a list, if it does not matter where. -/
theorem length_flatMap_zipIdx
    {α β : Type}
    {found : α × Nat → List β}
    (anywhere : ∀ entry idx,
      (found (entry, idx)).length = (found (entry, 0)).length)
    (entries : List α)
    (start : Nat) :
    ((entries.zipIdx start).flatMap found).length =
      (entries.flatMap fun entry => found (entry, 0)).length := by
  induction entries generalizing start with
  | nil => rfl
  | cons entry entries inductionHypothesis =>
      rw [List.zipIdx_cons, List.flatMap_cons, List.flatMap_cons,
        List.length_append, List.length_append, anywhere, inductionHypothesis]

/-- Parameters in another order offer as much. -/
theorem length_flatMap_zipIdx_perm
    {α β : Type}
    {found : α × Nat → List β}
    (anywhere : ∀ entry idx,
      (found (entry, idx)).length = (found (entry, 0)).length)
    {entries entries' : List α}
    (reordered : entries.Perm entries') :
    (entries.zipIdx.flatMap found).length =
      (entries'.zipIdx.flatMap found).length := by
  rw [length_flatMap_zipIdx anywhere, length_flatMap_zipIdx anywhere]
  exact (reordered.flatMap_right _).length_eq

theorem starAnyIndex_length
    (parameter : ArgKind × Ty)
    (idx : Nat) :
    (starAnyIndex (parameter, idx)).length =
      (starAnyIndex (parameter, 0)).length := by
  unfold starAnyIndex
  split <;> rfl

theorem slotsOfParameter_length
    (parameter : ArgKind × Ty)
    (idx : Nat) :
    (slotsOfParameter (parameter, idx)).length =
      (slotsOfParameter (parameter, 0)).length := by
  unfold slotsOfParameter
  split
  · dsimp only
    cases candidate (getProperType parameter.2) with
    | none => rfl
    | some callableTy => rw [List.length_map, List.length_map]
  · rfl

/-- Whether there are overloads is a matter of two numbers. -/
theorem expands_iff_length
    {ctx : FunctionContext}
    {fnType : CallableType}
    (applied : AppliedTo ctx fnType)
    (hasTypeVarDefault : Bool) :
    Expands ctx hasTypeVarDefault ↔
      (starAnyIndices fnType).length = 1 ∧ (slots fnType).length = 1 := by
  rw [expands_iff, List.length_eq_one_iff, List.length_eq_one_iff]
  constructor
  · rintro ⟨fnType', applied', indices, found⟩
    obtain rfl := applied.unique applied'
    exact ⟨indices, found⟩
  · rintro ⟨indices, found⟩
    exact ⟨fnType, applied, indices, found⟩

/-- It does not depend on the order of the parameters. -/
theorem expands_iff_of_perm
    {ctx ctx' : FunctionContext}
    {fnType fnType' : CallableType}
    (applied : AppliedTo ctx fnType)
    (applied' : AppliedTo ctx' fnType')
    (reordered : (fnType.argKinds.zip fnType.argTypes).Perm
      (fnType'.argKinds.zip fnType'.argTypes))
    (hasTypeVarDefault : Bool) :
    Expands ctx hasTypeVarDefault ↔ Expands ctx' hasTypeVarDefault := by
  have sameIndices : (starAnyIndices fnType).length =
      (starAnyIndices fnType').length :=
    length_flatMap_zipIdx_perm starAnyIndex_length reordered
  have sameSlots : (slots fnType).length = (slots fnType').length :=
    length_flatMap_zipIdx_perm slotsOfParameter_length reordered
  rw [expands_iff_length applied, expands_iff_length applied', sameIndices,
    sameSlots]

/-! ## The discipline -/

/-- The callback always ends normally, reports at most one error, and expands a
signature exactly when it has one `*args: Any` and one candidate. -/
structure OutcomeDiscipline
    (ctx : FunctionContext)
    (hasTypeVarDefault : Bool) : Prop where
  /-- The two ways to end. -/
  ends : Expands ctx hasTypeVarDefault ∨ ∃ ex, Rejects ctx hasTypeVarDefault ex
  /-- When there are overloads. -/
  expands_iff : Expands ctx hasTypeVarDefault ↔
    ∃ fnType, AppliedTo ctx fnType ∧ (∃ argsIdx, StarAnyAt fnType argsIdx) ∧
      ∃! idx, IsCandidate fnType idx
  /-- The order of the parameters does not matter. -/
  anyOrder : ∀ ctx' fnType fnType', AppliedTo ctx fnType →
    AppliedTo ctx' fnType' →
    (fnType.argKinds.zip fnType.argTypes).Perm
      (fnType'.argKinds.zip fnType'.argTypes) →
    (Expands ctx hasTypeVarDefault ↔ Expands ctx' hasTypeVarDefault)
  /-- The scan has recorded the two parameters, all its indices are in range,
  and the overloads are made from them. -/
  recorded : ∀ fnType argsIdx selected, Expands ctx hasTypeVarDefault →
    AppliedTo ctx fnType → StarAnyAt fnType argsIdx →
    CandidateAt fnType selected →
      scan fnType = .ok (argsIdx, selected) ∧
      (argsIdx < fnType.argTypes.length ∧
        selected.callableIdx < fnType.argTypes.length ∧
        selected.callableArgsIdx < selected.callableTy.argTypes.length) ∧
      takesCallableAndArgsCallback ctx hasTypeVarDefault =
        .ok (pure (.overloaded
          (expandedFns ctx.api hasTypeVarDefault fnType argsIdx selected)))

theorem StarAnyAt.lt_length
    {signature : CallableType}
    {idx : Nat}
    (starAnyAt : StarAnyAt signature idx) :
    idx < signature.argTypes.length := by
  obtain ⟨-, type, source, typeAt, -⟩ := starAnyAt
  exact (List.getElem?_eq_some_iff.mp typeAt).1

/-- mypy guarantees that no signature has two `*args`. -/
theorem SingleStars.of_wellFormed
    {ctx : FunctionContext}
    (wellFormed : ∀ fnType, AppliedTo ctx fnType → WellFormedFunction fnType) :
    SingleStars ctx where
  decorated fnType applied := (wellFormed fnType applied).signature.atMostOneStar
  callables fnType applied type member callableTy selects :=
    ((wellFormed fnType applied).callables type member callableTy
      ((candidate_eq_some_iff type callableTy).mpr selects)).atMostOneStar

/-- The discipline holds in every context whose callables have a single
`*args`. -/
theorem callback_outcomeDiscipline
    {ctx : FunctionContext}
    (singleStars : SingleStars ctx)
    (hasTypeVarDefault : Bool) :
    OutcomeDiscipline ctx hasTypeVarDefault where
  ends := expands_or_rejects singleStars.decorated hasTypeVarDefault
  expands_iff := by
    rw [TakesCallable.expands_iff]
    constructor
    · rintro ⟨fnType, applied, ⟨argsIdx, indices⟩, selected, found⟩
      rw [starAnyIndices_eq_singleton_iff
        (singleStars.decorated fnType applied)] at indices
      rw [slots_eq_singleton_iff
        (singleStars.callables fnType applied)] at found
      exact ⟨fnType, applied, ⟨argsIdx, indices⟩, found.1⟩
    · rintro ⟨fnType, applied, ⟨argsIdx, starAnyAt⟩, unique⟩
      obtain ⟨idx, callableArgsIdx, callableTy, isCandidate⟩ := unique.exists
      refine ⟨fnType, applied, ⟨argsIdx, ?_⟩,
        ⟨idx, callableArgsIdx, callableTy⟩, ?_⟩
      · exact (starAnyIndices_eq_singleton_iff
          (singleStars.decorated fnType applied) argsIdx).mpr starAnyAt
      · exact (slots_eq_singleton_iff
          (singleStars.callables fnType applied) _).mpr ⟨unique, isCandidate⟩
  anyOrder _ _ _ applied applied' reordered :=
    expands_iff_of_perm applied applied' reordered hasTypeVarDefault
  recorded := by
    intro fnType argsIdx selected expands applied starAnyAt isCandidate
    obtain ⟨_, applied', -, selected', found⟩ :=
      (TakesCallable.expands_iff ctx hasTypeVarDefault).mp expands
    obtain rfl := applied.unique applied'
    have indices := (starAnyIndices_eq_singleton_iff
      (singleStars.decorated _ applied) argsIdx).mpr starAnyAt
    have isSlot := (mem_slots_iff_candidateAt _ _).mpr isCandidate
    rw [found, List.mem_singleton] at isSlot
    subst isSlot
    obtain ⟨type, typeAt, -⟩ := isCandidate.selects
    refine ⟨(scan_eq_ok_iff _ argsIdx selected).mpr ⟨indices, found⟩,
      ⟨starAnyAt.lt_length, (List.getElem?_eq_some_iff.mp typeAt).1,
        isCandidate.varArg.lt_length⟩, ?_⟩
    rw [expandedFns_eq]
    exact (callback_spec ((decoratedType_eq_ok_iff ctx _).mpr applied)).mpr
      ⟨argsIdx, selected, indices, found, rfl⟩

theorem readme_appliedTo : AppliedTo readmeContext readmeStartSoon :=
  (decoratedType_eq_ok_iff readmeContext readmeStartSoon).mp rfl

theorem readme_singleStars : SingleStars readmeContext :=
  .of_wellFormed fun _ applied =>
    readme_appliedTo.unique applied ▸ readme_wellFormed

/-- The function of the documentation is expanded. -/
theorem readme_outcomeDiscipline :
    OutcomeDiscipline readmeContext true ∧ Expands readmeContext true :=
  ⟨callback_outcomeDiscipline readme_singleStars true,
    readmeOverloads, rfl, readme_accepted⟩

end TakesCallable
end TrioTyping
