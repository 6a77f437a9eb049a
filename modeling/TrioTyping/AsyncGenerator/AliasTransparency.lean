import TrioTyping.AsyncGenerator.Decode
import TrioTyping.Mypy.Aliases

/-!
# How far decoding sees through aliases

Decoding resolves the declared return type and then each of its arms, but does
not look into an arm that resolves to a union. A marker below such an arm is
taken for a part of the return type. The main result says that this is the only
way in which decoding a type and decoding its normal form can differ.
-/

namespace TrioTyping
namespace AsyncGenerator

/-- The classes of the markers. -/
def markerClasses : List String :=
  [MarkerKind.fullname .yieldType, MarkerKind.fullname .sendType]

/-- The arm resolves to a union that has a marker among its flattened arms. -/
def HidesMarker (arm : Ty) : Prop :=
  arm.ResolvesToUnion ∧ ∃ inner ∈ arm.normalize.arms, markerOf inner ≠ none

/-- Decoding a type and its normal form give the same yield type and send type,
equivalent return types and as many errors; and where no error is reported, no
marker is left in the return type. -/
structure AliasTransparent (api : CheckerApi) (declared : Ty) : Prop where
  /-- The same yield type. -/
  sameYieldType :
    (decodeAgenTypesFromReturnType api declared).value.yieldType.normalize =
      (decodeAgenTypesFromReturnType api
        declared.normalize).value.yieldType.normalize
  /-- The same send type. -/
  sameSendType :
    (decodeAgenTypesFromReturnType api declared).value.sendType.normalize =
      (decodeAgenTypesFromReturnType api
        declared.normalize).value.sendType.normalize
  /-- Return types with the same normal form. -/
  equivalentReturnType :
    (decodeAgenTypesFromReturnType api declared).value.returnType.normalize =
      (decodeAgenTypesFromReturnType api
        declared.normalize).value.returnType.normalize
  /-- The same number of errors. -/
  sameReports :
    (decodeAgenTypesFromReturnType api declared).reports.length =
      (decodeAgenTypesFromReturnType api declared.normalize).reports.length
  /-- No marker leaks into the return type. -/
  noMarker :
    (decodeAgenTypesFromReturnType api declared).reports = [] →
      ∀ arm ∈ (decodeAgenTypesFromReturnType api
          declared).value.returnType.normalize.arms,
        markerOf arm = none

/-! ## Markers in normal forms -/

/-- A marker is an instance of one of the marker classes. -/
theorem markerOf_eq_some_iff
    (arm : Ty)
    (kind : MarkerKind)
    (args : List Ty) :
    markerOf arm = some (kind, args) ↔
      getProperType arm = .inst kind.fullname args := by
  unfold markerOf
  cases getProperType arm with
  | inst fullname found =>
      dsimp only [MarkerKind.fullname]
      by_cases isYield : fullname = "trio_typing.YieldType"
      · cases kind <;> simp [isYield]
      · by_cases isSend : fullname = "trio_typing.SendType"
        · cases kind <;> simp [isSend]
        · cases kind <;> simp [isYield, isSend]
  | _ => simp

theorem fullname_mem_markerClasses (kind : MarkerKind) :
    kind.fullname ∈ markerClasses := by
  cases kind <;> simp [markerClasses]

/-- A union is no marker. -/
theorem markerOf_of_resolvesToUnion
    {arm : Ty}
    (isUnion : arm.ResolvesToUnion) :
    markerOf arm = none := by
  obtain ⟨items, resolved⟩ := isUnion
  simp [markerOf, resolved]

/-- A marker keeps its kind in normal form. -/
theorem markerOf_normalize_of_marker
    {arm : Ty}
    {kind : MarkerKind}
    {args : List Ty}
    (isMarker : markerOf arm = some (kind, args)) :
    markerOf arm.normalize = some (kind, args.map Ty.normalize) := by
  rw [markerOf_eq_some_iff] at isMarker ⊢
  rw [Ty.getProperType_normalize_comm, isMarker,
    Ty.normalize, Ty.normalizeList_eq_map]

/-- A marker resolves to no union. -/
theorem not_resolvesToUnion_of_marker
    {arm : Ty}
    {kind : MarkerKind}
    {args : List Ty}
    (isMarker : markerOf arm = some (kind, args)) :
    ¬arm.ResolvesToUnion := by
  intro isUnion
  rw [markerOf_of_resolvesToUnion isUnion] at isMarker
  cases isMarker

/-- An arm that is no marker and hides none has no marker in its normal
form. -/
theorem markerOf_arms_normalize_of_other
    {arm : Ty}
    (isOther : markerOf arm = none)
    (hidesNone : ¬HidesMarker arm)
    {inner : Ty}
    (member : inner ∈ arm.normalize.arms) :
    markerOf inner = none := by
  by_cases isUnion : arm.ResolvesToUnion
  · by_contra isMarker
    exact hidesNone ⟨isUnion, inner, member, isMarker⟩
  · rw [Ty.arms_normalize_of_not_union isUnion, List.mem_singleton] at member
    subst member
    by_contra isMarker
    obtain ⟨⟨kind, args⟩, isMarker⟩ := Option.ne_none_iff_exists'.mp isMarker
    rw [markerOf_eq_some_iff, Ty.getProperType_normalize,
      ← Ty.normalize_getProperType] at isMarker
    cases resolved : getProperType arm with
    | inst fullname found =>
        rw [resolved, Ty.normalize, Ty.inst.injEq] at isMarker
        rw [isMarker.1] at resolved
        rw [(markerOf_eq_some_iff _ _ _).mpr resolved] at isOther
        cases isOther
    | union items => exact isUnion ⟨items, resolved⟩
    | typeAlias name target =>
        exact getProperType_ne_typeAlias arm name target resolved
    | _ => simp [resolved, Ty.normalize] at isMarker

/-- The arms of the normal form are the flattened arms. -/
theorem returnArms_normalize (declared : Ty) :
    returnArms declared.normalize =
      Ty.normalizeArms (returnArms declared) := by
  by_cases isUnion : declared.ResolvesToUnion
  · obtain ⟨items, resolved⟩ := isUnion
    have normalForm : declared.normalize = .union (Ty.normalizeArms items) := by
      rw [← Ty.normalize_getProperType, resolved, Ty.normalize]
    rw [normalForm, returnArms_union, returnArms_of_union resolved]
  · have notUnionNormal := isUnion
    rw [← Ty.resolvesToUnion_normalize] at notUnionNormal
    rw [returnArms_of_not_union (not_exists.mp isUnion),
      returnArms_of_not_union (not_exists.mp notUnionNormal), Ty.normalizeArms,
      Ty.normalizeArms, Ty.arms_normalize_of_not_union isUnion, List.append_nil]

/-! ## Encodings in normal form -/

/-- Arms that are no markers can be put in front of an encoding. -/
theorem Encodes.append_other
    {first arms otherArms : List Ty}
    {found : MarkerKind → Option Ty}
    (encodes : Encodes arms otherArms found)
    (noMarker : ∀ arm ∈ first, markerOf arm = none) :
    Encodes (first ++ arms) (first ++ otherArms) found := by
  induction first with
  | nil => exact encodes
  | cons arm first inductionHypothesis =>
      exact .other (noMarker arm (by simp))
        (inductionHypothesis fun other member =>
          noMarker other (by simp [member]))

/-- The other arms of an encoding are arms, and no markers. -/
theorem Encodes.mem_otherArms
    {arms otherArms : List Ty}
    {found : MarkerKind → Option Ty}
    (encodes : Encodes arms otherArms found)
    (arm : Ty) :
    arm ∈ otherArms ↔ arm ∈ arms ∧ markerOf arm = none := by
  induction encodes with
  | nil => simp
  | other isOther _ inductionHypothesis =>
      simp only [List.mem_cons, inductionHypothesis]
      constructor
      · rintro (rfl | inRest)
        · exact ⟨.inl rfl, isOther⟩
        · exact ⟨.inr inRest.1, inRest.2⟩
      · rintro ⟨rfl | inRest, noMarker⟩
        · exact .inl rfl
        · exact .inr ⟨inRest, noMarker⟩
  | marker isMarker _ _ inductionHypothesis =>
      simp only [List.mem_cons, inductionHypothesis]
      constructor
      · rintro ⟨inRest, noMarker⟩
        exact ⟨.inr inRest, noMarker⟩
      · rintro ⟨rfl | inRest, noMarker⟩
        · simp [isMarker] at noMarker
        · exact ⟨inRest, noMarker⟩

/-- Flattening arms that hide no marker gives an encoding of the normal
forms. -/
theorem Encodes.normalizeArms
    {arms otherArms : List Ty}
    {found : MarkerKind → Option Ty}
    (encodes : Encodes arms otherArms found)
    (hidesNone : ∀ arm ∈ arms, ¬HidesMarker arm) :
    Encodes (Ty.normalizeArms arms) (Ty.normalizeArms otherArms)
      fun kind => (found kind).map Ty.normalize := by
  induction encodes with
  | nil => exact .nil
  | @other arm _ _ _ isOther _ inductionHypothesis =>
      rw [Ty.normalizeArms, Ty.normalizeArms]
      refine (inductionHypothesis fun other member =>
        hidesNone other (by simp [member])).append_other ?_
      intro inner member
      exact markerOf_arms_normalize_of_other isOther
        (hidesNone arm (by simp)) member
  | @marker arm arg _ _ found kind isMarker absent _ inductionHypothesis =>
      rw [Ty.normalizeArms, Ty.arms_normalize_of_not_union
        (not_resolvesToUnion_of_marker isMarker)]
      have tail := inductionHypothesis fun other member =>
        hidesNone other (by simp [member])
      have updated :
          (fun other => (Function.update found kind (some arg) other).map
              Ty.normalize) =
            Function.update (fun other => (found other).map Ty.normalize) kind
              (some arg.normalize) := by
        funext other
        by_cases same : other = kind
        · subst same
          simp
        · simp [same]
      rw [updated]
      exact .marker (markerOf_normalize_of_marker isMarker) (by simp [absent])
        tail

/-- Flattening loses no marker. -/
theorem countP_isMarkerOf_le_normalizeArms
    (kind : MarkerKind)
    (arms : List Ty) :
    arms.countP (isMarkerOf kind) ≤
      (Ty.normalizeArms arms).countP (isMarkerOf kind) := by
  induction arms with
  | nil => exact Nat.le_refl _
  | cons arm arms inductionHypothesis =>
      rw [Ty.normalizeArms, List.countP_append, List.countP_cons]
      have here :
          (if isMarkerOf kind arm = true then 1 else 0) ≤
            arm.normalize.arms.countP (isMarkerOf kind) := by
        split
        · rename_i isMarker
          unfold isMarkerOf at isMarker
          split at isMarker
          · cases isMarker
          · rename_i other args marker
            rw [Ty.arms_normalize_of_not_union
              (not_resolvesToUnion_of_marker marker)]
            have inNormalForm := markerOf_normalize_of_marker marker
            simp only [decide_eq_true_eq] at isMarker
            simp [isMarkerOf, inNormalForm, isMarker]
        · exact Nat.zero_le _
      omega

/-- A marker that is malformed or repeated stays so in normal form. -/
theorem Malformed.normalizeArms
    {arms : List Ty}
    (malformed : Malformed arms) :
    Malformed (Ty.normalizeArms arms) := by
  rcases malformed with
    ⟨arm, member, kind, args, isMarker, wrong⟩ | ⟨kind, twice⟩
  · refine .inl ⟨arm.normalize, ?_, kind, args.map Ty.normalize,
      markerOf_normalize_of_marker isMarker, by simpa using wrong⟩
    rw [Ty.mem_normalizeArms]
    refine ⟨arm, member, ?_⟩
    rw [Ty.arms_normalize_of_not_union (not_resolvesToUnion_of_marker isMarker)]
    exact List.mem_singleton_self _
  · exact .inr ⟨kind,
      Nat.le_trans twice (countP_isMarkerOf_le_normalizeArms kind arms)⟩

/-! ## Decoding the normal form -/

/-- No arm is a union without arms; mypy builds none. -/
def NoEmptyUnion (declared : Ty) : Prop :=
  ∀ arm ∈ returnArms declared, arm.normalize.arms ≠ []

/-- The arms of a normal form are those decoding sees. -/
theorem arms_normalize_eq_returnArms (declared : Ty) :
    declared.normalize.arms = returnArms declared.normalize := by
  unfold returnArms
  rw [Ty.getProperType_normalize]
  cases declared.normalize <;> rfl

/-- Where nothing is found there is no marker. -/
theorem Encodes.noMarker_of_found_none
    {arms otherArms : List Ty}
    (encodes : Encodes arms otherArms fun _ => none)
    {arm : Ty}
    (member : arm ∈ arms) :
    markerOf arm = none := by
  by_contra isMarker
  obtain ⟨⟨kind, args⟩, isMarker⟩ := Option.ne_none_iff_exists'.mp isMarker
  have absent := encodes.countP_isMarkerOf kind
  rw [Option.toList_none, List.length_nil, List.countP_eq_zero] at absent
  exact absent arm member (by simp [isMarkerOf, isMarker])

/-- The union of other arms that hide no marker has no marker, and flattening
the arms first makes no difference. -/
theorem returnTypeOf_normalizeArms
    {api : CheckerApi}
    (flattens : FlattensUnions markerClasses api.makeSimplifiedUnion)
    {otherArms : List Ty}
    (nonempty : ∀ arm ∈ otherArms, arm.normalize.arms ≠ [])
    (noMarker : ∀ arm ∈ Ty.normalizeArms otherArms, markerOf arm = none) :
    (returnTypeOf api otherArms).normalize =
        (returnTypeOf api (Ty.normalizeArms otherArms)).normalize ∧
      ∀ arm ∈ (returnTypeOf api otherArms).normalize.arms,
        markerOf arm = none := by
  cases otherArms with
  | nil =>
      refine ⟨rfl, ?_⟩
      intro arm member
      change arm ∈ [Ty.uninhabited true] at member
      rw [List.mem_singleton] at member
      subst member
      rfl
  | cons first rest =>
      have stillNonempty : Ty.normalizeArms (first :: rest) ≠ [] := by
        rw [Ty.normalizeArms]
        exact List.append_ne_nil_of_left_ne_nil (nonempty first (by simp)) _
      have simplified : returnTypeOf api (first :: rest) =
          api.makeSimplifiedUnion (first :: rest) := rfl
      have simplifiedNormal :
          returnTypeOf api (Ty.normalizeArms (first :: rest)) =
            api.makeSimplifiedUnion (Ty.normalizeArms (first :: rest)) := by
        simp [returnTypeOf, stillNonempty]
      rw [simplified, simplifiedNormal]
      refine ⟨flattens.flattens _, ?_⟩
      intro arm member
      by_contra isMarker
      obtain ⟨⟨kind, args⟩, isMarker⟩ := Option.ne_none_iff_exists'.mp isMarker
      have markerInstance := (markerOf_eq_some_iff _ _ _).mp isMarker
      rw [Ty.getProperType_of_mem_arms_normalize _ arm member] at markerInstance
      subst markerInstance
      have original := flattens.faithful _ _ _ (fullname_mem_markerClasses kind)
        member
      rw [noMarker _ original] at isMarker
      cases isMarker

/-- A malformed declaration is malformed in normal form too. -/
theorem AliasTransparent.of_malformed
    (api : CheckerApi)
    {declared : Ty}
    (malformed : Malformed (returnArms declared)) :
    AliasTransparent api declared := by
  obtain ⟨error, -, decoded⟩ :=
    decodeAgenTypesFromReturnType_of_malformed api malformed
  have malformedNormal : Malformed (returnArms declared.normalize) := by
    rw [returnArms_normalize]
    exact malformed.normalizeArms
  obtain ⟨errorNormal, -, decodedNormal⟩ :=
    decodeAgenTypesFromReturnType_of_malformed api malformedNormal
  exact {
    sameYieldType := by rw [decoded, decodedNormal]
    sameSendType := by rw [decoded, decodedNormal]
    equivalentReturnType := by
      rw [decoded, decodedNormal]
      exact (Ty.normalize_idem declared).symm
    sameReports := by
      rw [decoded, decodedNormal]
      rfl
    noMarker := by
      rw [decoded]
      intro clean
      cases clean }

section Encoded

variable
  {api : CheckerApi}
  {declared : Ty}
  {otherArms : List Ty}
  {found : MarkerKind → Option Ty}
  (encodes : Encodes (returnArms declared) otherArms found)
  (encodesNormal : Encodes (returnArms declared.normalize)
    (Ty.normalizeArms otherArms) fun kind => (found kind).map Ty.normalize)

include encodes encodesNormal

/-- Without markers the declaration is the return type. -/
theorem AliasTransparent.of_untyped
    (untyped : ∀ kind, found kind = none) :
    AliasTransparent api declared := by
  obtain rfl : found = fun _ => none := by
    funext kind
    exact untyped kind
  have decoded := decodeAgenTypesFromReturnType_of_encodes api encodes
  have decodedNormal := decodeAgenTypesFromReturnType_of_encodes api encodesNormal
  exact {
    sameYieldType := by rw [decoded, decodedNormal]; rfl
    sameSendType := by rw [decoded, decodedNormal]; rfl
    equivalentReturnType := by
      rw [decoded, decodedNormal]
      exact (Ty.normalize_idem declared).symm
    sameReports := by rw [decoded, decodedNormal]; rfl
    noMarker := by
      rw [decoded]
      intro _ arm member
      change arm ∈ declared.normalize.arms at member
      rw [arms_normalize_eq_returnArms] at member
      exact encodesNormal.noMarker_of_found_none member }

/-- With a marker the other arms make up the return type. -/
theorem AliasTransparent.of_typed
    (flattens : FlattensUnions markerClasses api.makeSimplifiedUnion)
    (nonempty : NoEmptyUnion declared)
    (typed :
      ((found .yieldType).isNone && (found .sendType).isNone) = false) :
    AliasTransparent api declared := by
  have decoded := decodeAgenTypesFromReturnType_of_encodes api encodes
  have decodedNormal := decodeAgenTypesFromReturnType_of_encodes api encodesNormal
  simp only [Option.isNone_map] at decodedNormal
  rw [if_neg (by simp [typed])] at decoded decodedNormal
  have othersNonempty : ∀ arm ∈ otherArms, arm.normalize.arms ≠ [] :=
    fun arm member => nonempty arm ((encodes.mem_otherArms arm).mp member).1
  have othersNoMarker : ∀ arm ∈ Ty.normalizeArms otherArms,
      markerOf arm = none :=
    fun arm member => ((encodesNormal.mem_otherArms arm).mp member).2
  obtain ⟨sameReturnType, noMarker⟩ :=
    returnTypeOf_normalizeArms flattens othersNonempty othersNoMarker
  have sameArgument (arg : Option Ty) :
      (arg.getD .noneTyp).normalize =
        ((arg.map Ty.normalize).getD .noneTyp).normalize := by
    cases arg with
    | none => rfl
    | some arg => exact (Ty.normalize_idem arg).symm
  exact {
    sameYieldType := by
      rw [decoded, decodedNormal]
      exact sameArgument (found .yieldType)
    sameSendType := by
      rw [decoded, decodedNormal]
      exact sameArgument (found .sendType)
    equivalentReturnType := by
      rw [decoded, decodedNormal]
      exact sameReturnType
    sameReports := by rw [decoded, decodedNormal]; rfl
    noMarker := by
      rw [decoded]
      exact fun _ => noMarker }

end Encoded

/-- Decoding sees through all aliases of a declaration whose arms hide no
marker. -/
theorem AliasTransparent.of_hidesNone
    {api : CheckerApi}
    (flattens : FlattensUnions markerClasses api.makeSimplifiedUnion)
    {declared : Ty}
    (nonempty : NoEmptyUnion declared)
    {otherArms : List Ty}
    {found : MarkerKind → Option Ty}
    (encodes : Encodes (returnArms declared) otherArms found)
    (hidesNone : ∀ arm ∈ returnArms declared, ¬HidesMarker arm) :
    AliasTransparent api declared := by
  have encodesNormal : Encodes (returnArms declared.normalize)
      (Ty.normalizeArms otherArms) fun kind => (found kind).map Ty.normalize := by
    rw [returnArms_normalize]
    exact encodes.normalizeArms hidesNone
  cases typed : (found .yieldType).isNone && (found .sendType).isNone with
  | false => exact .of_typed encodes encodesNormal flattens nonempty typed
  | true =>
      rw [Bool.and_eq_true, Option.isNone_iff_eq_none,
        Option.isNone_iff_eq_none] at typed
      apply AliasTransparent.of_untyped encodes encodesNormal
      rintro (_ | _)
      · exact typed.1
      · exact typed.2

/-- Without union simplification a hidden marker always stays in the return
type. -/
theorem hidesNone_of_aliasTransparent
    {api : CheckerApi}
    (unsimplified : api.makeSimplifiedUnion = .union)
    {declared : Ty}
    {otherArms : List Ty}
    {found : MarkerKind → Option Ty}
    (encodes : Encodes (returnArms declared) otherArms found)
    (transparent : AliasTransparent api declared) :
    ∀ arm ∈ returnArms declared, ¬HidesMarker arm := by
  rintro arm member ⟨isUnion, inner, innerMember, isMarker⟩
  apply isMarker
  have decoded := decodeAgenTypesFromReturnType_of_encodes api encodes
  have noMarker := transparent.noMarker
  rw [decoded] at noMarker
  by_cases untyped :
      ((found .yieldType).isNone && (found .sendType).isNone) = true
  · rw [if_pos untyped] at noMarker
    refine noMarker rfl inner ?_
    change inner ∈ declared.normalize.arms
    rw [arms_normalize_eq_returnArms, returnArms_normalize,
      Ty.mem_normalizeArms]
    exact ⟨arm, member, innerMember⟩
  · rw [if_neg untyped] at noMarker
    have otherMember : arm ∈ otherArms :=
      (encodes.mem_otherArms arm).mpr
        ⟨member, markerOf_of_resolvesToUnion isUnion⟩
    refine noMarker rfl inner ?_
    change inner ∈ (returnTypeOf api otherArms).normalize.arms
    have simplified : returnTypeOf api otherArms = .union otherArms := by
      rw [← unsimplified, returnTypeOf]
      simp [List.ne_nil_of_mem otherMember]
    rw [simplified, Ty.normalize]
    exact Ty.mem_normalizeArms.mpr ⟨arm, otherMember, innerMember⟩

/-- Decoding treats a declaration like its normal form, however mypy simplifies
unions, exactly when the declaration is rejected for a marker in plain sight or
none of its arms hides a marker. -/
theorem aliasTransparent_iff
    (isSubtype : Ty → Ty → Bool)
    (topFunction : Option FuncItem)
    (declared : Ty)
    (nonempty : NoEmptyUnion declared) :
    (∀ makeSimplifiedUnion, FlattensUnions markerClasses makeSimplifiedUnion →
      AliasTransparent ⟨isSubtype, makeSimplifiedUnion, topFunction⟩ declared) ↔
      Malformed (returnArms declared) ∨
        ∀ arm ∈ returnArms declared, ¬HidesMarker arm := by
  constructor
  · intro transparent
    by_cases malformed : Malformed (returnArms declared)
    · exact .inl malformed
    · obtain ⟨otherArms, found, encodes⟩ := encodes_of_not_malformed _ malformed
      exact .inr (hidesNone_of_aliasTransparent rfl encodes
        (transparent .union (flattensUnions_union markerClasses)))
  · rintro (malformed | hidesNone) makeSimplifiedUnion flattens
    · exact .of_malformed _ malformed
    · by_cases malformed : Malformed (returnArms declared)
      · exact .of_malformed _ malformed
      · obtain ⟨otherArms, found, encodes⟩ :=
          encodes_of_not_malformed _ malformed
        exact .of_hidesNone flattens nonempty encodes hidesNone

/-- `Union[str, YieldAlias]`, where the alias stands for `YieldType[int]`. -/
def aliasedMarker : Ty :=
  .union [.inst "builtins.str" [],
    .typeAlias "YieldAlias"
      (.inst "trio_typing.YieldType" [.inst "builtins.int" []])]

/-- An alias of a marker is seen through. -/
theorem aliasTransparent_aliasedMarker :
    AliasTransparent ⟨fun _ _ => true, .union, none⟩ aliasedMarker := by
  refine (aliasTransparent_iff _ _ aliasedMarker ?_).mpr (.inr ?_) .union
    (flattensUnions_union _)
  · intro arm member
    simp only [aliasedMarker, returnArms_union, List.mem_cons,
      List.not_mem_nil, or_false] at member
    rcases member with rfl | rfl <;> exact List.cons_ne_nil _ _
  · rintro arm member ⟨⟨items, isUnion⟩, -⟩
    simp only [aliasedMarker, returnArms_union, List.mem_cons,
      List.not_mem_nil, or_false] at member
    rcases member with rfl | rfl <;> cases isUnion

/-- `Union[Both, None]`, where the alias stands for
`Union[YieldType[int], SendType[str]]`. -/
def hiddenMarkers : Ty :=
  .union [
    .typeAlias "Both"
      (.union [
        .inst "trio_typing.YieldType" [.inst "builtins.int" []],
        .inst "trio_typing.SendType" [.inst "builtins.str" []]]),
    .noneTyp]

/-- Markers below an alias of a union are missed: the generator becomes untyped,
without an error, while its normal form yields `int` and is sent `str`. -/
theorem hiddenMarkers_not_aliasTransparent :
    NoEmptyUnion hiddenMarkers ∧
      FlattensUnions markerClasses .union ∧
      decodeAgenTypesFromReturnType ⟨fun _ _ => true, .union, none⟩
          hiddenMarkers =
        ⟨⟨.any .unannotated, .any .unannotated, hiddenMarkers⟩, []⟩ ∧
      decodeAgenTypesFromReturnType ⟨fun _ _ => true, .union, none⟩
          hiddenMarkers.normalize =
        ⟨⟨.inst "builtins.int" [], .inst "builtins.str" [],
          .union [.noneTyp]⟩, []⟩ ∧
      ¬AliasTransparent ⟨fun _ _ => true, .union, none⟩ hiddenMarkers := by
  refine ⟨?_, flattensUnions_union _, rfl, rfl, ?_⟩
  · intro arm member
    simp only [hiddenMarkers, returnArms_union, List.mem_cons,
      List.not_mem_nil, or_false] at member
    rcases member with rfl | rfl <;> exact List.cons_ne_nil _ _
  · intro transparent
    have sameYieldType : Ty.any .unannotated = .inst "builtins.int" [] :=
      transparent.sameYieldType
    cases sameYieldType

end AsyncGenerator
end TrioTyping
