import TrioTyping.TakesCallable.NormalForms

/-!
# How far the scan sees through aliases

The callback resolves the decorated type, the type of each parameter, each arm
of a union and the type of each parameter of a callable, but it does not look
into an arm that resolves to a union. A callable below such an arm is overlooked.
The main result says for which signatures the callback gives the same outcome
once all the aliases are expanded and all the unions flattened: those in which
no parameter overlooks a callable, or the callables overlooked make no
difference, or the signature is rejected either way.
-/

namespace TrioTyping
namespace TakesCallable

open Calling

/-! ## Callables that are overlooked -/

/-- An arm that stands for a union hides the first callable below it that passes
the test. -/
def HidesCallable (arm : Ty) (hidden : CallableType) : Prop :=
  arm.ResolvesToUnion ∧ FirstPassing arm.unionArms hidden

/-- No callable passes the test, be it the arm itself or below the arm. -/
def NonePasses (arm : Ty) : Prop :=
  ∀ reached ∈ arm.unionArms, ¬PassesTest reached

/-- Among the arms of a union the first that has to do with a callable that
passes the test hides it. -/
def OverlooksAmong (items : List Ty) (hidden : CallableType) : Prop :=
  ∃ earlier arm later, items = earlier ++ arm :: later ∧
    (∀ other ∈ earlier, NonePasses other) ∧ HidesCallable arm hidden

/-- A parameter of the type overlooks a callable. -/
def Overlooks (type : Ty) (hidden : CallableType) : Prop :=
  ∃ items, getProperType type = .union items ∧ OverlooksAmong items hidden

/-- The callable that a parameter of the type stands for once the unions are
flattened. -/
def OffersCallable (type : Ty) (callableTy : CallableType) : Prop :=
  Overlooks type callableTy ∨
    SelectsCallable type callableTy ∧ ∀ hidden, ¬Overlooks type hidden

theorem not_overlooksAmong_nil (hidden : CallableType) :
    ¬OverlooksAmong [] hidden := by
  rintro ⟨earlier, arm, later, parts, -⟩
  cases earlier <;> cases parts

/-- A callable is overlooked at the first arm or further on. -/
theorem overlooksAmong_cons
    (item : Ty)
    (items : List Ty)
    (hidden : CallableType) :
    OverlooksAmong (item :: items) hidden ↔
      HidesCallable item hidden ∨
        NonePasses item ∧ OverlooksAmong items hidden := by
  constructor
  · rintro ⟨earlier, arm, later, parts, nonePasses, hides⟩
    cases earlier with
    | nil =>
        obtain ⟨rfl, rfl⟩ := List.cons.inj parts
        exact .inl hides
    | cons first earlier =>
        obtain ⟨rfl, rfl⟩ := List.cons.inj parts
        exact .inr ⟨nonePasses item List.mem_cons_self, earlier, arm, later, rfl,
          fun other member =>
            nonePasses other (List.mem_cons_of_mem item member), hides⟩
  · rintro (hides | ⟨none, earlier, arm, later, rfl, nonePasses, hides⟩)
    · exact ⟨[], item, items, rfl, fun _ member => absurd member (by simp), hides⟩
    · refine ⟨item :: earlier, arm, later, rfl, ?_, hides⟩
      intro other member
      rcases List.mem_cons.mp member with rfl | isEarlier
      · exact none
      · exact nonePasses other isEarlier

/-- The first callable that passes the test among the flattened arms is one that
is overlooked, or the first one among the arms if none is overlooked. -/
theorem findSome?_unionArmsList
    (items : List Ty)
    (callableTy : CallableType) :
    (Ty.unionArmsList items).findSome? callableArm = some callableTy ↔
      OverlooksAmong items callableTy ∨
        (getProperTypes items).findSome? callableArm = some callableTy ∧
          ∀ hidden, ¬OverlooksAmong items hidden := by
  induction items with
  | nil => simp [Ty.unionArmsList, getProperTypes, not_overlooksAmong_nil]
  | cons item items inductionHypothesis =>
      have resolved : getProperTypes (item :: items) =
          getProperType item :: getProperTypes items := rfl
      simp only [overlooksAmong_cons, HidesCallable, NonePasses,
        ← findSome?_callableArm_eq_some_iff, ← findSome?_callableArm_eq_none_iff]
      rw [Ty.unionArmsList, List.findSome?_append, resolved, List.findSome?_cons]
      by_cases resolvesToUnion : item.ResolvesToUnion
      · obtain ⟨inner, isUnion⟩ := id resolvesToUnion
        rw [isUnion]
        cases item.unionArms.findSome? callableArm with
        | none => simpa [callableArm] using inductionHypothesis
        | some hidden => simp [resolvesToUnion]
      · rw [Ty.unionArms_of_not_union (not_exists.mp resolvesToUnion)]
        cases arm : callableArm (getProperType item) with
        | none => simpa [resolvesToUnion, arm] using inductionHypothesis
        | some callable => simp [resolvesToUnion, arm]

/-- Once the unions are flattened, a parameter stands for the callable it
offers. -/
theorem candidate_flattenUnion
    (type : Ty)
    (callableTy : CallableType) :
    candidate (getProperType type.flattenUnion) = some callableTy ↔
      OffersCallable type callableTy := by
  unfold OffersCallable Overlooks
  rw [← candidate_eq_some_iff, Ty.flattenUnion]
  have notAlias := getProperType_ne_typeAlias type
  cases resolved : getProperType type with
  | typeAlias name target => exact absurd resolved (notAlias name target)
  | union items =>
      have flattened := findSome?_unionArmsList items callableTy
      rw [← getProperTypes_eq_self
        (Ty.getProperType_of_mem_unionArmsList items)] at flattened
      simp only [Ty.union.injEq, exists_eq_left']
      exact flattened
  | _ => simp [getProperType]

/-! ## The slots before and after flattening -/

/-- A required positional parameter with a `VarArg()` in the callable that it
offers. -/
structure OfferedAt
    (fnType : CallableType)
    (selected : SelectedCallable) : Prop where
  /-- The kind of the parameter. -/
  kind : fnType.argKinds[selected.callableIdx]? = some .pos
  /-- Its type. -/
  offers : ∃ type, fnType.argTypes[selected.callableIdx]? = some type ∧
    OffersCallable type selected.callableTy
  /-- The `VarArg()`. -/
  varArg : StarAnyAt selected.callableTy selected.callableArgsIdx

/-- The slots of the flattened signature are those offered. -/
theorem mem_slots_flattenUnions
    (fnType : CallableType)
    (selected : SelectedCallable) :
    selected ∈ slots fnType.flattenUnions ↔ OfferedAt fnType selected := by
  simp only [mem_slots, CallableType.flattenUnions, List.getElem?_map,
    Option.map_eq_some_iff]
  constructor
  · rintro ⟨kind, ⟨_, ⟨type, typeAt, rfl⟩, choice⟩, varArg⟩
    exact ⟨kind, ⟨type, typeAt, (candidate_flattenUnion _ _).mp choice⟩, varArg⟩
  · rintro ⟨kind, ⟨type, typeAt, offers⟩, varArg⟩
    exact ⟨kind, ⟨_, ⟨type, typeAt, rfl⟩, (candidate_flattenUnion _ _).mpr offers⟩,
      varArg⟩

/-- A parameter stands for one callable. -/
theorem SelectsCallable.unique
    {type : Ty}
    {callableTy callableTy' : CallableType}
    (selects : SelectsCallable type callableTy)
    (selects' : SelectsCallable type callableTy') :
    callableTy = callableTy' := by
  rw [← candidate_eq_some_iff] at selects selects'
  exact Option.some.inj (selects.symm.trans selects')

theorem OffersCallable.unique
    {type : Ty}
    {callableTy callableTy' : CallableType}
    (offers : OffersCallable type callableTy)
    (offers' : OffersCallable type callableTy') :
    callableTy = callableTy' := by
  rw [← candidate_flattenUnion] at offers offers'
  exact Option.some.inj (offers.symm.trans offers')

/-- A slot is determined by its place. -/
theorem eq_of_mem_slots
    {fnType : CallableType}
    {slot slot' : SelectedCallable}
    (member : slot ∈ slots fnType)
    (member' : slot' ∈ slots fnType)
    (sameIdx : slot.callableIdx = slot'.callableIdx)
    (sameArgsIdx : slot.callableArgsIdx = slot'.callableArgsIdx) :
    slot = slot' := by
  obtain ⟨-, ⟨type, typeAt, choice⟩, -⟩ := mem_slots.mp member
  obtain ⟨-, ⟨type', typeAt', choice'⟩, -⟩ := mem_slots.mp member'
  rw [sameIdx, typeAt'] at typeAt
  obtain rfl := Option.some.inj typeAt
  have sameTy := Option.some.inj (choice.symm.trans choice')
  cases slot
  cases slot'
  simp_all

/-- What is found at different indices is different. -/
theorem nodup_flatMap_zipIdx
    {α β : Type}
    {found : α × Nat → List β}
    (index : β → Nat)
    (nodup : ∀ entry, (found entry).Nodup)
    (indexed : ∀ entry, ∀ value ∈ found entry, index value = entry.2)
    (entries : List α) :
    (entries.zipIdx.flatMap found).Nodup := by
  have increasing : (entries.zipIdx.map Prod.snd).Pairwise (· < ·) := by
    rw [List.zipIdx_map_snd]
    exact List.pairwise_lt_range'
  rw [List.pairwise_map] at increasing
  rw [List.Nodup, List.pairwise_flatMap]
  refine ⟨fun entry _ => nodup entry, increasing.imp ?_⟩
  rintro entry entry' less value member _ member' rfl
  rw [← indexed entry value member, ← indexed entry' value member'] at less
  exact Nat.lt_irrefl _ less

theorem starAnyIndices_nodup (signature : CallableType) :
    (starAnyIndices signature).Nodup := by
  apply nodup_flatMap_zipIdx id
  · intro parameter
    unfold starAnyIndex
    split <;> simp
  · intro parameter idx member
    unfold starAnyIndex at member
    split at member
    · exact List.mem_singleton.mp member
    · cases member

theorem slots_nodup (fnType : CallableType) :
    (slots fnType).Nodup := by
  apply nodup_flatMap_zipIdx SelectedCallable.callableIdx
  · intro parameter
    unfold slotsOfParameter
    split
    · split
      · rw [List.Nodup, List.pairwise_map]
        refine (starAnyIndices_nodup _).imp ?_
        rintro idx idx' different same
        exact different (congrArg SelectedCallable.callableArgsIdx same)
      · exact List.nodup_nil
    · exact List.nodup_nil
  · intro parameter slot member
    exact callableIdx_of_mem_slotsOfParameter member

/-- There are two of them. -/
def Several (found : SelectedCallable → Prop) : Prop :=
  ∃ slot slot', found slot ∧ found slot' ∧ slot ≠ slot'

theorem several_iff (fnType : CallableType) :
    Several (· ∈ slots fnType) ↔ 2 ≤ (slots fnType).length := by
  have nodup := slots_nodup fnType
  unfold Several
  match slots fnType, nodup with
  | [], _ => simp
  | [slot], _ => simp
  | first :: second :: rest, nodup =>
      have different : first ≠ second := by
        rintro rfl
        simp at nodup
      simp only [List.length_cons, Nat.le_add_left, iff_true]
      exact ⟨first, second, by simp, by simp, different⟩

theorem several_candidateAt_iff (fnType : CallableType) :
    Several (CandidateAt fnType) ↔ 2 ≤ (slots fnType).length := by
  rw [← several_iff]
  simp only [Several, mem_slots_iff_candidateAt]

theorem several_offeredAt_iff (fnType : CallableType) :
    Several (OfferedAt fnType) ↔ 2 ≤ (slots fnType.flattenUnions).length := by
  rw [← several_iff]
  simp only [Several, mem_slots_flattenUnions]

/-! ## When overlooking a callable makes a difference -/

/-- It does not matter that a callable is overlooked: the one that the parameter
stands for instead has its `VarArg()` in the same place, and up to aliases is the
same but for the `VarArg()`; or neither has a `VarArg()`. -/
structure Immaterial (type : Ty) (hidden : CallableType) : Prop where
  /-- No `VarArg()` is missed. -/
  nothingMissed : ∀ idx, StarAnyAt hidden idx →
    ∃ shown, SelectsCallable type shown ∧ StarAnyAt shown idx ∧
      insertTypes shown.normalize idx [] = insertTypes hidden.normalize idx []
  /-- None is found in the wrong place. -/
  nothingWrong : ∀ shown idx, SelectsCallable type shown →
    StarAnyAt shown idx → StarAnyAt hidden idx

/-- Whatever callables the required positional parameters overlook, it does not
matter. -/
def OverlooksNothingMaterial (fnType : CallableType) : Prop :=
  ∀ (idx : Nat) (type : Ty) (hidden : CallableType),
    fnType.argKinds[idx]? = some .pos → fnType.argTypes[idx]? = some type →
      Overlooks type hidden → Immaterial type hidden

/-- Flattening the unions leaves the slots. -/
structure SlotsKept (fnType : CallableType) : Prop where
  /-- Every slot is still there. -/
  kept : ∀ slot, CandidateAt fnType slot →
    ∃ slot', OfferedAt fnType slot' ∧ SameSlot slot slot'
  /-- There is no other. -/
  known : ∀ slot', OfferedAt fnType slot' →
    ∃ slot, CandidateAt fnType slot ∧ SameSlot slot slot'

/-- The slots change only if a callable is overlooked that matters. -/
theorem OverlooksNothingMaterial.slotsKept
    {fnType : CallableType}
    (immaterial : OverlooksNothingMaterial fnType) :
    SlotsKept fnType where
  kept slot isCandidate := by
    obtain ⟨type, typeAt, selects⟩ := isCandidate.selects
    by_cases overlooks : ∃ hidden, Overlooks type hidden
    · obtain ⟨hidden, overlooks⟩ := overlooks
      have harmless := immaterial _ type hidden isCandidate.kind typeAt overlooks
      have varArg := harmless.nothingWrong _ _ selects isCandidate.varArg
      obtain ⟨shown, selects', -, sameRest⟩ := harmless.nothingMissed _ varArg
      obtain rfl := selects.unique selects'
      exact ⟨⟨slot.callableIdx, slot.callableArgsIdx, hidden⟩,
        ⟨isCandidate.kind, ⟨type, typeAt, .inl overlooks⟩, varArg⟩,
        ⟨rfl, rfl, sameRest⟩⟩
    · exact ⟨slot, ⟨isCandidate.kind,
        ⟨type, typeAt, .inr ⟨selects, not_exists.mp overlooks⟩⟩,
        isCandidate.varArg⟩, ⟨rfl, rfl, rfl⟩⟩
  known slot' offered := by
    obtain ⟨type, typeAt, offers⟩ := offered.offers
    rcases offers with overlooks | ⟨selects, -⟩
    · obtain ⟨shown, selects, varArg, sameRest⟩ :=
        (immaterial _ type _ offered.kind typeAt overlooks).nothingMissed _
          offered.varArg
      exact ⟨⟨slot'.callableIdx, slot'.callableArgsIdx, shown⟩,
        ⟨offered.kind, ⟨type, typeAt, selects⟩, varArg⟩, ⟨rfl, rfl, sameRest⟩⟩
    · exact ⟨slot', ⟨offered.kind, ⟨type, typeAt, selects⟩, offered.varArg⟩,
        ⟨rfl, rfl, rfl⟩⟩

/-- A callable that is overlooked and matters changes the slots. -/
theorem SlotsKept.overlooksNothingMaterial
    {fnType : CallableType}
    (slotsKept : SlotsKept fnType) :
    OverlooksNothingMaterial fnType := by
  intro callableIdx type hidden kind typeAt overlooks
  constructor
  · intro idx varArg
    obtain ⟨slot, isCandidate, sameIdx, sameArgsIdx, sameRest⟩ :=
      slotsKept.known ⟨callableIdx, idx, hidden⟩
        ⟨kind, ⟨type, typeAt, .inl overlooks⟩, varArg⟩
    obtain ⟨type', typeAt', selects⟩ := isCandidate.selects
    have shownArg := isCandidate.varArg
    rw [sameIdx, typeAt] at typeAt'
    obtain rfl := Option.some.inj typeAt'
    rw [sameArgsIdx] at shownArg sameRest
    exact ⟨slot.callableTy, selects, shownArg, sameRest⟩
  · intro shown idx selects varArg
    obtain ⟨slot', offered, sameIdx, sameArgsIdx, -⟩ :=
      slotsKept.kept ⟨callableIdx, idx, shown⟩
        ⟨kind, ⟨type, typeAt, selects⟩, varArg⟩
    obtain ⟨type', typeAt', offers⟩ := offered.offers
    have hiddenArg := offered.varArg
    rw [← sameIdx, typeAt] at typeAt'
    obtain rfl := Option.some.inj typeAt'
    rw [offers.unique (.inl overlooks), ← sameArgsIdx] at hiddenArg
    exact hiddenArg

/-- Kept slots are as many as before. -/
theorem SlotsKept.several_iff
    {fnType : CallableType}
    (slotsKept : SlotsKept fnType) :
    Several (CandidateAt fnType) ↔ Several (OfferedAt fnType) := by
  constructor
  · rintro ⟨first, second, isFirst, isSecond, different⟩
    obtain ⟨first', offeredFirst, sameFirst⟩ := slotsKept.kept first isFirst
    obtain ⟨second', offeredSecond, sameSecond⟩ := slotsKept.kept second isSecond
    refine ⟨first', second', offeredFirst, offeredSecond, ?_⟩
    rintro rfl
    rw [← mem_slots_iff_candidateAt] at isFirst isSecond
    exact different (eq_of_mem_slots isFirst isSecond
      (sameFirst.callableIdx.trans sameSecond.callableIdx.symm)
      (sameFirst.callableArgsIdx.trans sameSecond.callableArgsIdx.symm))
  · rintro ⟨first', second', offeredFirst, offeredSecond, different⟩
    obtain ⟨first, isFirst, sameFirst⟩ := slotsKept.known first' offeredFirst
    obtain ⟨second, isSecond, sameSecond⟩ :=
      slotsKept.known second' offeredSecond
    refine ⟨first, second, isFirst, isSecond, ?_⟩
    rintro rfl
    rw [← mem_slots_flattenUnions] at offeredFirst offeredSecond
    exact different (eq_of_mem_slots offeredFirst offeredSecond
      (sameFirst.callableIdx.symm.trans sameSecond.callableIdx)
      (sameFirst.callableArgsIdx.symm.trans sameSecond.callableArgsIdx))

/-- If the slots are kept, aliases do not matter. -/
theorem SlotsKept.overloadsTransparent
    {ctx : FunctionContext}
    {fnType : CallableType}
    (slotsKept : SlotsKept fnType)
    (decorated : decoratedType ctx = .ok fnType)
    (oneStar : fnType.AtMostOneStar)
    (hasTypeVarDefault : Bool) :
    OverloadsTransparent ctx hasTypeVarDefault := by
  rw [overloadsTransparent_iff_cases decorated oneStar]
  have sameNumber := slotsKept.several_iff
  rw [several_candidateAt_iff, several_offeredAt_iff] at sameNumber
  by_cases several : 2 ≤ (slots fnType).length
  · exact .inl ⟨several, sameNumber.mp several⟩
  have few : (slots fnType).length ≤ 1 := by omega
  have few' : (slots fnType.flattenUnions).length ≤ 1 := by omega
  have single := starAnyIndices_length_le oneStar
  match indices : starAnyIndices fnType with
  | [] => exact .inr (.inl ⟨rfl, few, few'⟩)
  | _ :: _ :: _ =>
      rw [indices] at single
      exact absurd single (by simp)
  | [argsIdx] =>
      refine .inr (.inr ?_)
      match found : slots fnType with
      | [] =>
          refine .inl ⟨rfl, List.eq_nil_iff_forall_not_mem.mpr ?_⟩
          intro slot' member
          obtain ⟨slot, isCandidate, -⟩ :=
            slotsKept.known slot' ((mem_slots_flattenUnions _ _).mp member)
          rw [← mem_slots_iff_candidateAt, found] at isCandidate
          cases isCandidate
      | slot :: rest =>
          have isCandidate : CandidateAt fnType slot := by
            rw [← mem_slots_iff_candidateAt, found]
            exact List.mem_cons_self
          obtain ⟨slot', offered, same⟩ := slotsKept.kept slot isCandidate
          rw [← mem_slots_iff_candidateAt] at isCandidate
          rw [← mem_slots_flattenUnions] at offered
          have only := eq_singleton_of_mem few isCandidate
          rw [found] at only
          exact .inr ⟨argsIdx, slot, slot', rfl, only,
            eq_singleton_of_mem few' offered, same⟩

/-- The callback sees through the aliases of a signature exactly when it
overlooks no callable that matters, or the signature is rejected either way: for
too many `VarArg()`s, or for want of `*args: Any`. -/
theorem overloadsTransparent_iff
    {ctx : FunctionContext}
    {fnType : CallableType}
    (decorated : decoratedType ctx = .ok fnType)
    (oneStar : fnType.AtMostOneStar)
    (hasTypeVarDefault : Bool) :
    OverloadsTransparent ctx hasTypeVarDefault ↔
      OverlooksNothingMaterial fnType ∨
        Several (CandidateAt fnType) ∧ Several (OfferedAt fnType) ∨
        (∀ argsIdx, ¬StarAnyAt fnType argsIdx) ∧
          ¬Several (CandidateAt fnType) ∧ ¬Several (OfferedAt fnType) := by
  have noArgs : (∀ argsIdx, ¬StarAnyAt fnType argsIdx) ↔
      starAnyIndices fnType = [] := by
    rw [List.eq_nil_iff_forall_not_mem]
    simp only [mem_starAnyIndices]
  rw [several_candidateAt_iff, several_offeredAt_iff, noArgs, Nat.not_le,
    Nat.not_le, Nat.lt_succ_iff, Nat.lt_succ_iff]
  constructor
  · rw [overloadsTransparent_iff_cases decorated oneStar]
    rintro (several | fewer | ⟨found, found'⟩ |
      ⟨argsIdx, slot, slot', -, found, found', same⟩)
    · exact .inr (.inl several)
    · exact .inr (.inr fewer)
    · refine .inl (SlotsKept.overlooksNothingMaterial ⟨?_, ?_⟩)
      · intro slot isCandidate
        rw [← mem_slots_iff_candidateAt, found] at isCandidate
        cases isCandidate
      · intro slot' offered
        rw [← mem_slots_flattenUnions, found'] at offered
        cases offered
    · refine .inl (SlotsKept.overlooksNothingMaterial ⟨?_, ?_⟩)
      · intro other isCandidate
        rw [← mem_slots_iff_candidateAt, found, List.mem_singleton]
          at isCandidate
        refine ⟨slot', ?_, isCandidate ▸ same⟩
        rw [← mem_slots_flattenUnions, found']
        exact List.mem_singleton_self slot'
      · intro other offered
        rw [← mem_slots_flattenUnions, found', List.mem_singleton] at offered
        refine ⟨slot, ?_, offered ▸ same⟩
        rw [← mem_slots_iff_candidateAt, found]
        exact List.mem_singleton_self slot
  · rintro (immaterial | several | fewer)
    · exact immaterial.slotsKept.overloadsTransparent decorated oneStar _
    · exact (overloadsTransparent_iff_cases decorated oneStar _).mpr
        (.inl several)
    · exact (overloadsTransparent_iff_cases decorated oneStar _).mpr
        (.inr (.inl fewer))

/-! ## A union with a name -/

/-- `Union[Callable[..., Awaitable[T]], Callable[[VarArg()], Awaitable[T]]]`
under a name. -/
def asyncFnAlias : Ty :=
  .typeAlias "AsyncFn"
    (.union [.callable ellipsisCallable, .callable readmeCallable])

/-- The `VarArg()` callable is found when it comes before a union with a name,
although there is another one in that. -/
theorem starFnFirst_overloadsTransparent :
    OverloadsTransparent
      (unionContext [.typeAlias "StarFn" (.callable readmeCallable),
        asyncFnAlias]) true := by
  have nothing : OverlooksNothingMaterial
      (unionFunction [.typeAlias "StarFn" (.callable readmeCallable),
        asyncFnAlias]) := by
    rintro (_ | _ | idx) type hidden kind typeAt ⟨items, resolved, overlooks⟩
    · cases typeAt
      cases resolved
      rcases (overlooksAmong_cons _ _ _).mp overlooks with
        ⟨⟨_, isUnion⟩, -⟩ | ⟨nonePasses, -⟩
      · cases isUnion
      · exact absurd ⟨readmeCallable, rfl, rfl⟩
          (nonePasses (.callable readmeCallable) List.mem_cons_self)
    · cases kind
    · cases kind
  exact (overloadsTransparent_iff rfl (unionFunction_wellFormed _).atMostOneStar
    true).mpr (.inl nothing)

/-- It is overlooked in `Union[AsyncFn, None]`, where the union with a name is an
arm itself. -/
theorem namedUnion_not_overloadsTransparent :
    decoratedType (unionContext [asyncFnAlias, .noneTyp]) =
        .ok (unionFunction [asyncFnAlias, .noneTyp]) ∧
      (unionFunction [asyncFnAlias, .noneTyp]).WellFormed ∧
      Rejects (unionContext [asyncFnAlias, .noneTyp]) true noCallable ∧
      Expands (unionContext [asyncFnAlias, .noneTyp]).normalize true ∧
      ¬OverloadsTransparent (unionContext [asyncFnAlias, .noneTyp]) true := by
  have rejects :
      Rejects (unionContext [asyncFnAlias, .noneTyp]) true noCallable := rfl
  have accepted :
      takesCallableAndArgsCallback
          (unionContext [asyncFnAlias, .noneTyp]).normalize true =
        .ok (pure (.overloaded (expandedFns readmeContext.api true
          (unionFunction [.callable ellipsisCallable, .callable readmeCallable,
            .noneTyp]) 1 readmeSelected))) := rfl
  refine ⟨rfl, unionFunction_wellFormed _, rejects, ⟨_, rfl, accepted⟩, ?_⟩
  intro transparent
  rw [OverloadsTransparent, accepted, rejects] at transparent
  have reports := congrArg (Except.map Reported.reports) transparent
  cases reports

end TakesCallable
end TrioTyping
