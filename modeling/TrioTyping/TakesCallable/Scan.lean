import TrioTyping.TakesCallable.Defs

/-!
# What the scan finds

The scan records an index for `*args: Any` and a slot for a `VarArg()`, each at
most once. Read as lists, its two variables grow by what every parameter has to
offer, and the scan fails as soon as one of the lists would become too long.
Hence it succeeds exactly when the whole signature offers one `*args: Any` and
one `VarArg()`, wherever they stand.
-/

namespace TrioTyping
namespace TakesCallable

open Calling

/-! ## What a signature has to offer -/

/-- The index of a parameter `*args: Any`. -/
def starAnyIndex (parameter : (ArgKind × Ty) × Nat) : List Nat :=
  if isStarAny parameter.1.1 parameter.1.2 then [parameter.2] else []

/-- The indices of the parameters `*args: Any` of a signature. -/
def starAnyIndices (signature : CallableType) : List Nat :=
  (signature.argKinds.zip signature.argTypes).zipIdx.flatMap starAnyIndex

/-- The slots for extra arguments that a parameter of the decorated function
offers. -/
def slotsOfParameter
    (parameter : (ArgKind × Ty) × Nat) : List SelectedCallable :=
  if parameter.1.1 = .pos then
    match candidate (getProperType parameter.1.2) with
    | some callableTy =>
        (starAnyIndices callableTy).map fun idx =>
          ⟨parameter.2, idx, callableTy⟩
    | none => []
  else []

/-- The slots for extra arguments that the decorated function offers. -/
def slots (fnType : CallableType) : List SelectedCallable :=
  (fnType.argKinds.zip fnType.argTypes).zipIdx.flatMap slotsOfParameter

/-- The parameter at an index is `*args: Any`. -/
def StarAnyAt (signature : CallableType) (idx : Nat) : Prop :=
  signature.argKinds[idx]? = some .star ∧
    ∃ type kind, signature.argTypes[idx]? = some type ∧
      getProperType type = .any kind

theorem isStarAny_iff
    (kind : ArgKind)
    (type : Ty) :
    isStarAny kind type = true ↔
      kind = .star ∧ ∃ source, getProperType type = .any source := by
  unfold isStarAny
  cases getProperType type <;> cases kind <;> simp

/-- The callable an arm offers. -/
theorem callableArm_eq_some_iff
    (arm : Ty)
    (callableTy : CallableType) :
    callableArm arm = some callableTy ↔
      arm = .callable callableTy ∧ acceptsStar callableTy = true := by
  unfold callableArm
  cases arm with
  | callable signature =>
      by_cases passes : acceptsStar signature = true
      · simp only [passes, if_true, Option.some.injEq, Ty.callable.injEq]
        constructor
        · rintro rfl
          exact ⟨rfl, passes⟩
        · exact And.left
      · simp only [passes, if_false, reduceCtorEq, false_iff, not_and,
          Ty.callable.injEq]
        rintro rfl
        exact passes
  | _ => simp

theorem mem_starAnyIndices
    {signature : CallableType}
    {idx : Nat} :
    idx ∈ starAnyIndices signature ↔ StarAnyAt signature idx := by
  simp only [starAnyIndices, starAnyIndex, List.mem_flatMap, Prod.exists,
    List.mk_mem_zipIdx_iff_getElem?, List.getElem?_zip_eq_some, StarAnyAt]
  constructor
  · rintro ⟨kind, type, index, ⟨kindAt, typeAt⟩, member⟩
    split at member
    · rename_i found
      obtain ⟨rfl, source, resolved⟩ := (isStarAny_iff kind type).mp found
      rw [List.mem_singleton] at member
      subst member
      exact ⟨kindAt, type, source, typeAt, resolved⟩
    · cases member
  · rintro ⟨kindAt, type, source, typeAt, resolved⟩
    refine ⟨.star, type, idx, ⟨kindAt, typeAt⟩, ?_⟩
    rw [if_pos ((isStarAny_iff _ _).mpr ⟨rfl, source, resolved⟩)]
    exact List.mem_singleton_self idx

/-- A slot is a `VarArg()` of the callable chosen for a required positional
parameter. -/
theorem mem_slots
    {fnType : CallableType}
    {selected : SelectedCallable} :
    selected ∈ slots fnType ↔
      fnType.argKinds[selected.callableIdx]? = some .pos ∧
      (∃ type, fnType.argTypes[selected.callableIdx]? = some type ∧
        candidate (getProperType type) = some selected.callableTy) ∧
      StarAnyAt selected.callableTy selected.callableArgsIdx := by
  obtain ⟨callableIdx, callableArgsIdx, callableTy⟩ := selected
  simp only [slots, slotsOfParameter, List.mem_flatMap, Prod.exists,
    List.mk_mem_zipIdx_iff_getElem?, List.getElem?_zip_eq_some]
  constructor
  · rintro ⟨kind, type, idx, ⟨kindAt, typeAt⟩, member⟩
    split at member
    · rename_i isPos
      subst isPos
      split at member
      · rename_i chosen choice
        obtain ⟨argsIdx, found, equal⟩ := List.mem_map.mp member
        cases equal
        exact ⟨kindAt, ⟨type, typeAt, choice⟩, mem_starAnyIndices.mp found⟩
      · cases member
    · cases member
  · rintro ⟨kindAt, ⟨type, typeAt, choice⟩, found⟩
    refine ⟨.pos, type, callableIdx, ⟨kindAt, typeAt⟩, ?_⟩
    rw [if_pos rfl, choice]
    exact List.mem_map.mpr ⟨callableArgsIdx, mem_starAnyIndices.mpr found, rfl⟩

/-- If a function finds something at one index only, it finds it once. -/
theorem flatMap_zipIdx_single
    {α β : Type}
    {entries : List α}
    {found : α × Nat → List β}
    {idx : Nat}
    {entry : α}
    (entryAt : entries[idx]? = some entry)
    (nothingElse : ∀ other otherEntry, other ≠ idx →
      entries[other]? = some otherEntry → found (otherEntry, other) = []) :
    entries.zipIdx.flatMap found = found (entry, idx) := by
  have pairAt : entries.zipIdx[idx]? = some (entry, idx) := by
    simp [List.getElem?_zipIdx, entryAt]
  obtain ⟨inRange, pairIs⟩ := List.getElem?_eq_some_iff.mp pairAt
  have nothing (other : Nat) (different : other ≠ idx)
      (otherInRange : other < entries.zipIdx.length) :
      found entries.zipIdx[other] = [] := by
    have atOther := List.getElem?_eq_getElem otherInRange
    rw [List.getElem?_zipIdx, Nat.zero_add, Option.map_eq_some_iff] at atOther
    obtain ⟨otherEntry, otherAt, equal⟩ := atOther
    rw [← equal]
    exact nothingElse other otherEntry different otherAt
  have beforeEmpty : (entries.zipIdx.take idx).flatMap found = [] := by
    rw [List.flatMap_eq_nil_iff]
    intro pair member
    obtain ⟨other, otherInRange, rfl⟩ := List.mem_iff_getElem.mp member
    rw [List.length_take] at otherInRange
    rw [List.getElem_take]
    exact nothing other (by omega) (by omega)
  have afterEmpty : (entries.zipIdx.drop (idx + 1)).flatMap found = [] := by
    rw [List.flatMap_eq_nil_iff]
    intro pair member
    obtain ⟨other, otherInRange, rfl⟩ := List.mem_iff_getElem.mp member
    rw [List.length_drop] at otherInRange
    rw [List.getElem_drop]
    exact nothing (idx + 1 + other) (by omega) (by omega)
  rw [(take_cons_drop_of_getElem? pairAt).1, List.flatMap_append,
    List.flatMap_cons, beforeEmpty, afterEmpty, List.append_nil,
    List.nil_append]

/-- A well-formed signature has one `*args: Any` at most. -/
theorem starAnyIndices_eq
    {signature : CallableType}
    (wellFormed : signature.WellFormed)
    {idx : Nat}
    (starAnyAt : StarAnyAt signature idx) :
    starAnyIndices signature = [idx] := by
  obtain ⟨kindAt, type, source, typeAt, resolved⟩ := starAnyAt
  have entryAt : (signature.argKinds.zip signature.argTypes)[idx]? =
      some (.star, type) :=
    List.getElem?_zip_eq_some.mpr ⟨kindAt, typeAt⟩
  rw [starAnyIndices, flatMap_zipIdx_single entryAt]
  · rw [starAnyIndex,
      if_pos ((isStarAny_iff _ _).mpr ⟨rfl, source, resolved⟩)]
  · rintro other ⟨kind, otherType⟩ different otherAt
    obtain ⟨otherKindAt, -⟩ := List.getElem?_zip_eq_some.mp otherAt
    refine if_neg fun isStar => ?_
    obtain ⟨rfl, -⟩ := (isStarAny_iff _ _).mp isStar
    exact different (wellFormed.star_unique otherKindAt kindAt)

/-- The slots when a single parameter has a callable to be scanned. -/
theorem slots_eq
    {fnType : CallableType}
    {callableIdx : Nat}
    {type : Ty}
    {callableTy : CallableType}
    (kindAt : fnType.argKinds[callableIdx]? = some .pos)
    (typeAt : fnType.argTypes[callableIdx]? = some type)
    (choice : candidate (getProperType type) = some callableTy)
    (noOther : ∀ other otherType, other ≠ callableIdx →
      fnType.argKinds[other]? = some .pos →
        fnType.argTypes[other]? = some otherType →
          candidate (getProperType otherType) = none) :
    slots fnType = (starAnyIndices callableTy).map fun idx =>
      ⟨callableIdx, idx, callableTy⟩ := by
  have entryAt : (fnType.argKinds.zip fnType.argTypes)[callableIdx]? =
      some (.pos, type) :=
    List.getElem?_zip_eq_some.mpr ⟨kindAt, typeAt⟩
  rw [slots, flatMap_zipIdx_single entryAt]
  · rw [slotsOfParameter, if_pos rfl, choice]
  · rintro other ⟨kind, otherType⟩ different otherAt
    obtain ⟨otherKindAt, otherTypeAt⟩ := List.getElem?_zip_eq_some.mp otherAt
    unfold slotsOfParameter
    split
    · rename_i isPos
      rw [noOther other otherType different (isPos ▸ otherKindAt) otherTypeAt]
    · rfl

/-! ## The scan records what it finds -/

/-- The second state has recorded the indices and slots on top of what the
first one had. -/
def Records
    (state : ScanState)
    (indices : List Nat)
    (found : List SelectedCallable)
    (final : ScanState) : Prop :=
  final.argsIdx.toList = state.argsIdx.toList ++ indices ∧
    final.selected.toList = state.selected.toList ++ found

theorem toList_injective
    {α : Type}
    {first second : Option α}
    (same : first.toList = second.toList) :
    first = second := by
  cases first <;> cases second <;> simp_all

theorem records_nil
    {state final : ScanState} :
    Records state [] [] final ↔ state = final := by
  obtain ⟨selected, argsIdx⟩ := state
  obtain ⟨selected', argsIdx'⟩ := final
  simp only [Records, List.append_nil, ScanState.mk.injEq]
  constructor
  · rintro ⟨sameArgs, sameSelected⟩
    exact ⟨(toList_injective sameSelected).symm,
      (toList_injective sameArgs).symm⟩
  · rintro ⟨rfl, rfl⟩
    exact ⟨rfl, rfl⟩

/-- An index can be recorded once. -/
theorem records_index
    {state final : ScanState}
    {idx : Nat} :
    Records state [idx] [] final ↔
      state.argsIdx = none ∧ { state with argsIdx := some idx } = final := by
  obtain ⟨selected, argsIdx⟩ := state
  obtain ⟨selected', argsIdx'⟩ := final
  cases argsIdx with
  | none =>
      have recorded : Records ⟨selected, none⟩ [idx] [] ⟨selected', argsIdx'⟩ ↔
          Records ⟨selected, some idx⟩ [] [] ⟨selected', argsIdx'⟩ := Iff.rfl
      rw [recorded, records_nil]
      exact (and_iff_right rfl).symm
  | some other =>
      constructor
      · rintro ⟨indices, -⟩
        cases argsIdx' <;> cases indices
      · rintro ⟨absent, -⟩
        cases absent

/-- A slot can be recorded once. -/
theorem records_slot
    {state final : ScanState}
    {found : SelectedCallable} :
    Records state [] [found] final ↔
      state.selected = none ∧ { state with selected := some found } = final := by
  obtain ⟨selected, argsIdx⟩ := state
  obtain ⟨selected', argsIdx'⟩ := final
  cases selected with
  | none =>
      have recorded : Records ⟨none, argsIdx⟩ [] [found] ⟨selected', argsIdx'⟩ ↔
          Records ⟨some found, argsIdx⟩ [] [] ⟨selected', argsIdx'⟩ := Iff.rfl
      rw [recorded, records_nil]
      exact (and_iff_right rfl).symm
  | some other =>
      constructor
      · rintro ⟨-, slots⟩
        cases selected' <;> cases slots
      · rintro ⟨absent, -⟩
        cases absent

/-- A list that is part of the list of an optional value is the list of one. -/
theorem exists_toList_eq
    {α : Type}
    {value : Option α}
    {start rest : List α}
    (parts : value.toList = start ++ rest) :
    ∃ middle : Option α, middle.toList = start := by
  cases start with
  | nil => exact ⟨none, rfl⟩
  | cons entry start =>
      cases value with
      | none => cases parts
      | some other =>
          simp only [Option.toList_some, List.cons_append, List.cons.injEq,
            List.nil_eq_append_iff] at parts
          obtain ⟨-, rfl, -⟩ := parts
          exact ⟨some entry, rfl⟩

/-- Recording in two steps is recording at once. -/
theorem records_append
    {state final : ScanState}
    {indices indices' : List Nat}
    {found found' : List SelectedCallable} :
    Records state (indices ++ indices') (found ++ found') final ↔
      ∃ middle, Records state indices found middle ∧
        Records middle indices' found' final := by
  unfold Records
  constructor
  · rintro ⟨recordedIndices, recordedSlots⟩
    rw [← List.append_assoc] at recordedIndices recordedSlots
    obtain ⟨argsIdx, argsMiddle⟩ := exists_toList_eq recordedIndices
    obtain ⟨selected, selectedMiddle⟩ := exists_toList_eq recordedSlots
    refine ⟨⟨selected, argsIdx⟩, ⟨argsMiddle, selectedMiddle⟩, ?_⟩
    rw [argsMiddle, selectedMiddle]
    exact ⟨recordedIndices, recordedSlots⟩
  · rintro ⟨middle, ⟨argsMiddle, selectedMiddle⟩, recordedIndices,
      recordedSlots⟩
    rw [recordedIndices, recordedSlots, argsMiddle, selectedMiddle,
      List.append_assoc, List.append_assoc]
    exact ⟨rfl, rfl⟩

/-- If every step of a loop records what its entry has to offer, a run records
what all the entries have to offer. -/
theorem foldlM_eq_ok_iff_records
    {α : Type}
    {step : ScanState → α → Except PyError ScanState}
    {indices : α → List Nat}
    {found : α → List SelectedCallable}
    (step_iff : ∀ state entry final,
      step state entry = .ok final ↔
        Records state (indices entry) (found entry) final)
    (entries : List α)
    (state final : ScanState) :
    entries.foldlM step state = .ok final ↔
      Records state (entries.flatMap indices) (entries.flatMap found)
        final := by
  induction entries generalizing state with
  | nil =>
      rw [List.flatMap_nil, List.flatMap_nil, records_nil, List.foldlM_nil]
      constructor
      · intro finished
        cases finished
        rfl
      · rintro rfl
        rfl
  | cons entry entries inductionHypothesis =>
      rw [List.flatMap_cons, List.flatMap_cons, records_append,
        List.foldlM_cons]
      simp only [← inductionHypothesis, ← step_iff]
      cases step state entry with
      | error error =>
          constructor
          · intro finished
            cases finished
          · rintro ⟨middle, stepped, -⟩
            cases stepped
      | ok next =>
          constructor
          · intro finished
            exact ⟨next, rfl, finished⟩
          · rintro ⟨middle, stepped, finished⟩
            cases stepped
            exact finished

/-- One step of the scan of a callable. -/
theorem scanCallableParameter_eq_ok_iff
    (callableIdx : Nat)
    (callableTy : CallableType)
    (state : ScanState)
    (parameter : (ArgKind × Ty) × Nat)
    (final : ScanState) :
    scanCallableParameter callableIdx callableTy state parameter = .ok final ↔
      Records state []
        ((starAnyIndex parameter).map fun idx =>
          ⟨callableIdx, idx, callableTy⟩) final := by
  obtain ⟨⟨kind, type⟩, idx⟩ := parameter
  unfold scanCallableParameter starAnyIndex
  by_cases found : isStarAny kind type = true
  · simp only [found, if_true, List.map_cons, List.map_nil, records_slot]
    cases state.selected <;> simp
  · simp only [found, Bool.false_eq_true, if_false, List.map_nil, records_nil,
      Except.ok.injEq]

/-- One step of the scan of the decorated function. -/
theorem scanParameter_eq_ok_iff
    (state : ScanState)
    (parameter : (ArgKind × Ty) × Nat)
    (final : ScanState) :
    scanParameter state parameter = .ok final ↔
      Records state (starAnyIndex parameter) (slotsOfParameter parameter)
        final := by
  obtain ⟨⟨kind, type⟩, idx⟩ := parameter
  unfold scanParameter starAnyIndex slotsOfParameter
  by_cases found : isStarAny kind type = true
  · obtain ⟨rfl, -⟩ := (isStarAny_iff kind type).mp found
    simp only [found, if_true, reduceCtorEq, if_false, records_index]
    cases state.argsIdx <;> simp
  · simp only [found, Bool.false_eq_true, if_false]
    by_cases isPos : kind = .pos
    · simp only [isPos, if_true]
      cases candidate (getProperType type) with
      | none => simp only [records_nil, Except.ok.injEq]
      | some callableTy =>
          have run := foldlM_eq_ok_iff_records
            (scanCallableParameter_eq_ok_iff idx callableTy)
            (callableTy.argKinds.zip callableTy.argTypes).zipIdx state final
          have noIndex : ∀ parameters : List ((ArgKind × Ty) × Nat),
              (parameters.flatMap fun _ => ([] : List Nat)) = [] := by simp
          rw [← List.map_flatMap, noIndex] at run
          exact run
    · simp only [isPos, if_false, records_nil, Except.ok.injEq]

/-- The scan succeeds exactly when the signature offers one `*args: Any` and one
slot for extra arguments. -/
theorem scan_eq_ok_iff
    (fnType : CallableType)
    (argsIdx : Nat)
    (selected : SelectedCallable) :
    scan fnType = .ok (argsIdx, selected) ↔
      starAnyIndices fnType = [argsIdx] ∧ slots fnType = [selected] := by
  have run := foldlM_eq_ok_iff_records scanParameter_eq_ok_iff
    (fnType.argKinds.zip fnType.argTypes).zipIdx ⟨none, none⟩
  unfold scan
  cases loop : (fnType.argKinds.zip fnType.argTypes).zipIdx.foldlM
      scanParameter ⟨none, none⟩ with
  | error error =>
      constructor
      · intro finished
        cases finished
      · rintro ⟨indices, found⟩
        have reached := (run ⟨some selected, some argsIdx⟩).mpr
          ⟨indices.symm, found.symm⟩
        rw [loop] at reached
        cases reached
  | ok final =>
      obtain ⟨indices, found⟩ := (run final).mp loop
      obtain ⟨selected', argsIdx'⟩ := final
      change argsIdx'.toList = starAnyIndices fnType at indices
      change selected'.toList = slots fnType at found
      rw [← indices, ← found]
      cases argsIdx' <;> cases selected' <;>
        simp [Bind.bind, Except.bind, pure, Except.pure, throw, throwThe,
          MonadExceptOf.throw]

end TakesCallable
end TrioTyping
