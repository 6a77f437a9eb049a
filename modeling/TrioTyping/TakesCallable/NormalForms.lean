import TrioTyping.Mypy.Aliases
import TrioTyping.TakesCallable.BareCallable

/-!
# The callback on normal forms

Expanding every alias of a signature and flattening its unions leaves the
indices of `*args: Any` as they are, and the slots for extra arguments become
those of the signature with flattened unions. Hence the callback gives the same
outcome for the normal form exactly when the slots before and after flattening
lead to the same verdict, and to the same overloads.
-/

namespace TrioTyping

open Calling

/-- Normalize every type a hook gets. -/
def FunctionContext.normalize (ctx : FunctionContext) : FunctionContext :=
  { ctx with
    argTypes := ctx.argTypes.map (List.map Ty.normalize)
    defaultReturnType := ctx.defaultReturnType.normalize }

namespace TakesCallable

/-- Normalize the type of the selected callable. -/
def SelectedCallable.normalize (selected : SelectedCallable) :
    SelectedCallable :=
  { selected with callableTy := selected.callableTy.normalize }

/-- Normalize the type that a hook returns. -/
def normalizeOutcome (outcome : Reported Ty) : Reported Ty :=
  { outcome with value := outcome.value.normalize }

/-- Expanding the aliases before the callback runs is expanding them in what it
returns: it succeeds in both cases, with the same overloads, or reports the same
error. -/
def OverloadsTransparent
    (ctx : FunctionContext)
    (hasTypeVarDefault : Bool) : Prop :=
  takesCallableAndArgsCallback ctx.normalize hasTypeVarDefault =
    (takesCallableAndArgsCallback ctx hasTypeVarDefault).map normalizeOutcome

/-- Two slots at the same place in callables that are the same up to aliases,
the type of the `VarArg()` apart, which is replaced anyhow. -/
structure SameSlot (slot slot' : SelectedCallable) : Prop where
  /-- The same parameter of the function. -/
  callableIdx : slot.callableIdx = slot'.callableIdx
  /-- The same parameter of the callable. -/
  callableArgsIdx : slot.callableArgsIdx = slot'.callableArgsIdx
  /-- The callables without the `VarArg()`. -/
  callableTy :
    insertTypes slot.callableTy.normalize slot.callableArgsIdx [] =
      insertTypes slot'.callableTy.normalize slot'.callableArgsIdx []

/-! ## What a normalized signature has to offer -/

/-- Changing the types of the parameters is changing what is looked at. -/
theorem flatMap_zip_map
    {β : Type}
    (kinds : List ArgKind)
    (types : List Ty)
    (change : Ty → Ty)
    (found : (ArgKind × Ty) × Nat → List β) :
    (kinds.zip (types.map change)).zipIdx.flatMap found =
      (kinds.zip types).zipIdx.flatMap fun parameter =>
        found ((parameter.1.1, change parameter.1.2), parameter.2) := by
  rw [List.zip_map_right, List.zipIdx_map, List.flatMap_map]
  rfl

theorem isStarAny_normalize
    (kind : ArgKind)
    (type : Ty) :
    isStarAny kind type.normalize = isStarAny kind type := by
  unfold isStarAny
  rw [Ty.getProperType_normalize_comm]
  have notAlias := getProperType_ne_typeAlias type
  cases resolved : getProperType type with
  | typeAlias name target => exact absurd resolved (notAlias name target)
  | _ => rfl

@[simp] theorem starAnyIndices_normalize (signature : CallableType) :
    starAnyIndices signature.normalize = starAnyIndices signature := by
  rw [starAnyIndices, CallableType.normalize_argKinds,
    CallableType.normalize_argTypes, flatMap_zip_map]
  simp only [starAnyIndex, isStarAny_normalize]
  rfl

@[simp] theorem acceptsStar_normalize (signature : CallableType) :
    acceptsStar signature.normalize = acceptsStar signature := by
  simp only [acceptsStar, CallableType.normalize_isEllipsisArgs,
    CallableType.normalize_argKinds]

/-- An arm that is no alias offers the same callable when normalized. -/
theorem callableArm_normalize
    {arm : Ty}
    (resolved : getProperType arm = arm) :
    callableArm arm.normalize = (callableArm arm).map CallableType.normalize := by
  cases arm with
  | callable signature =>
      simp only [Ty.normalize, callableArm, acceptsStar_normalize]
      split <;> rfl
  | typeAlias name target =>
      exact absurd resolved (getProperType_ne_typeAlias _ name target)
  | _ => rfl

theorem getProperTypes_eq_self
    {types : List Ty}
    (resolved : ∀ type ∈ types, getProperType type = type) :
    getProperTypes types = types :=
  (List.map_congr_left resolved).trans (List.map_id types)

/-- The first arm that passes the test is the same when normalized. -/
theorem findSome?_callableArm_normalize
    {arms : List Ty}
    (resolved : ∀ arm ∈ arms, getProperType arm = arm) :
    (arms.map Ty.normalize).findSome? callableArm =
      (arms.findSome? callableArm).map CallableType.normalize := by
  induction arms with
  | nil => rfl
  | cons arm arms inductionHypothesis =>
      rw [List.map_cons, List.findSome?_cons, List.findSome?_cons,
        callableArm_normalize (resolved arm List.mem_cons_self),
        inductionHypothesis fun other member =>
          resolved other (List.mem_cons_of_mem arm member)]
      cases callableArm arm <;> rfl

/-- The arms reached through unions and aliases are the arms of the normal
form. -/
theorem candidate_normalize (type : Ty) :
    candidate (getProperType type.normalize) =
      (candidate (getProperType type.flattenUnion)).map
        CallableType.normalize := by
  rw [Ty.getProperType_normalize_comm, Ty.flattenUnion]
  have notAlias := getProperType_ne_typeAlias type
  cases resolved : getProperType type with
  | typeAlias name target => exact absurd resolved (notAlias name target)
  | union items =>
      have reached := Ty.getProperType_of_mem_unionArmsList items
      change (getProperTypes (Ty.normalizeArms items)).findSome? callableArm =
        ((getProperTypes (Ty.unionArmsList items)).findSome? callableArm).map _
      rw [getProperTypes_eq_self (Ty.getProperType_of_mem_normalizeArms items),
        getProperTypes_eq_self reached, Ty.normalizeArms_eq_map,
        findSome?_callableArm_normalize reached]
  | _ => rfl

/-- A normalized parameter offers the slots of the flattened one. -/
theorem slotsOfParameter_normalize
    (kind : ArgKind)
    (type : Ty)
    (idx : Nat) :
    slotsOfParameter ((kind, type.normalize), idx) =
      (slotsOfParameter ((kind, type.flattenUnion), idx)).map
        SelectedCallable.normalize := by
  unfold slotsOfParameter
  by_cases isPos : kind = .pos
  · rw [if_pos isPos, if_pos isPos]
    dsimp only
    rw [candidate_normalize]
    cases candidate (getProperType type.flattenUnion) with
    | none => rfl
    | some callableTy =>
        simp only [Option.map_some, starAnyIndices_normalize, List.map_map]
        rfl
  · rw [if_neg isPos, if_neg isPos]
    rfl

/-- So does a normalized signature. -/
theorem slots_normalize (fnType : CallableType) :
    slots fnType.normalize =
      (slots fnType.flattenUnions).map SelectedCallable.normalize := by
  rw [slots, slots, CallableType.normalize_argKinds,
    CallableType.normalize_argTypes, CallableType.flattenUnions,
    flatMap_zip_map, flatMap_zip_map, List.map_flatMap]
  simp only [slotsOfParameter_normalize]

/-! ## When two slots give the same overloads -/

/-- Everything but the entry that is replaced decides what a replacement gives. -/
theorem splice_congr
    {α : Type}
    {entries entries' : List α}
    {index : Nat}
    (same : splice entries index [] = splice entries' index [])
    (inserted : List α) :
    splice entries index inserted = splice entries' index inserted := by
  rw [splice_eq_insert, same, ← splice_eq_insert]

theorem insertTypes_congr
    {signature signature' : CallableType}
    {idx : Nat}
    (same : insertTypes signature idx [] = insertTypes signature' idx [])
    (types : List Ty) :
    insertTypes signature idx types = insertTypes signature' idx types := by
  simp only [insertTypes, CallableType.mk.injEq, List.length_nil,
    List.replicate_zero] at same
  obtain ⟨sameTypes, sameKinds, sameNames, sameRest⟩ := same
  simp only [insertTypes, CallableType.mk.injEq]
  exact ⟨splice_congr sameTypes _, splice_congr sameKinds _,
    splice_congr sameNames _, sameRest⟩

/-- The two parameters to be replaced are different ones and have indices in
range. -/
structure InPlace
    (fnType : CallableType)
    (argsIdx : Nat)
    (slot : SelectedCallable) : Prop where
  /-- `*args: Any`. -/
  args : argsIdx < fnType.argTypes.length
  /-- The callable. -/
  callable : slot.callableIdx < fnType.argTypes.length
  /-- It is not `*args`. -/
  different : slot.callableIdx ≠ argsIdx
  /-- The `VarArg()` of the callable. -/
  varArg : slot.callableArgsIdx < slot.callableTy.argTypes.length

theorem Selects.inPlace
    {fnType : CallableType}
    {argsIdx : Nat}
    {slot : SelectedCallable}
    (selects : Selects fnType argsIdx slot) :
    InPlace fnType argsIdx slot where
  args := selects.args.lt_length
  callable := by
    obtain ⟨type, typeAt, -⟩ := selects.callable_type
    exact (List.getElem?_eq_some_iff.mp typeAt).1
  different := by
    intro same
    have starAt := selects.args.1
    rw [← same, selects.callable_kind] at starAt
    cases starAt
  varArg := selects.varArg.lt_length

theorem InPlace.normalize
    {fnType : CallableType}
    {argsIdx : Nat}
    {slot : SelectedCallable}
    (inPlace : InPlace fnType argsIdx slot) :
    InPlace fnType.normalize argsIdx slot.normalize where
  args := by simpa using inPlace.args
  callable := by simpa [SelectedCallable.normalize] using inPlace.callable
  different := inPlace.different
  varArg := by simpa [SelectedCallable.normalize] using inPlace.varArg

section SameOverloads

variable {fnType : CallableType} {argsIdx : Nat}
variable {slot slot' : SelectedCallable}

/-- Equal overloads have the same parameters in the place of the callables. -/
theorem set_getElem?_eq_of_expandedFn_eq
    (inPlace : InPlace fnType argsIdx slot)
    {typeVars : List TypeVarType}
    (same : expandedFn fnType argsIdx slot typeVars =
      expandedFn fnType argsIdx slot' typeVars)
    {other : Nat}
    (different : other ≠ argsIdx) :
    (fnType.argTypes.set slot.callableIdx
        (.callable (replaceParameter slot.callableTy slot.callableArgsIdx
          typeVars)))[other]? =
      (fnType.argTypes.set slot'.callableIdx
        (.callable (replaceParameter slot'.callableTy slot'.callableArgsIdx
          typeVars)))[other]? :=
  getElem?_eq_of_splice_eq (by simpa using inPlace.args) (by simp)
    (congrArg CallableType.argTypes same) different

theorem replaceParameter_argTypes_length
    {signature : CallableType}
    {idx : Nat}
    (inRange : idx < signature.argTypes.length)
    (typeVars : List TypeVarType) :
    (replaceParameter signature idx typeVars).argTypes.length =
      signature.argTypes.length - 1 + typeVars.length := by
  simp only [replaceParameter, splice, List.length_append, List.length_take,
    List.length_map, List.length_drop]
  omega

/-- Overloads with different numbers of type variables tell the parameter that
is expanded. -/
theorem callableIdx_eq_of_expandedFn_eq
    (inPlace : InPlace fnType argsIdx slot)
    {typeVars typeVars' : List TypeVarType}
    (lengths : typeVars.length ≠ typeVars'.length)
    (same : expandedFn fnType argsIdx slot typeVars =
      expandedFn fnType argsIdx slot' typeVars)
    (same' : expandedFn fnType argsIdx slot typeVars' =
      expandedFn fnType argsIdx slot' typeVars') :
    slot.callableIdx = slot'.callableIdx := by
  by_contra notSame
  have entry := set_getElem?_eq_of_expandedFn_eq inPlace same inPlace.different
  have entry' := set_getElem?_eq_of_expandedFn_eq inPlace same' inPlace.different
  rw [List.getElem?_set_self inPlace.callable,
    List.getElem?_set_ne (Ne.symm notSame)] at entry entry'
  have replaced := Ty.callable.inj (Option.some.inj (entry.trans entry'.symm))
  have sameLength := congrArg (fun signature => signature.argTypes.length)
    replaced
  rw [replaceParameter_argTypes_length inPlace.varArg,
    replaceParameter_argTypes_length inPlace.varArg] at sameLength
  exact lengths (Nat.add_left_cancel sameLength)

/-- Then the callables in them are the same. -/
theorem replaceParameter_eq_of_expandedFn_eq
    (inPlace : InPlace fnType argsIdx slot)
    (sameIdx : slot.callableIdx = slot'.callableIdx)
    {typeVars : List TypeVarType}
    (same : expandedFn fnType argsIdx slot typeVars =
      expandedFn fnType argsIdx slot' typeVars) :
    replaceParameter slot.callableTy slot.callableArgsIdx typeVars =
      replaceParameter slot'.callableTy slot'.callableArgsIdx typeVars := by
  have entry := set_getElem?_eq_of_expandedFn_eq inPlace same inPlace.different
  rw [← sameIdx, List.getElem?_set_self inPlace.callable,
    List.getElem?_set_self inPlace.callable] at entry
  exact Ty.callable.inj (Option.some.inj entry)

/-- The overloads with one and with two type variables tell the parameter of the
callable that is expanded. -/
theorem callableArgsIdx_eq_of_replaceParameter_eq
    (inPlace : InPlace fnType argsIdx slot)
    (inPlace' : InPlace fnType argsIdx slot')
    {first second : TypeVarType}
    (different : first ≠ second)
    (sameNone : replaceParameter slot.callableTy slot.callableArgsIdx [] =
      replaceParameter slot'.callableTy slot'.callableArgsIdx [])
    (sameOne : replaceParameter slot.callableTy slot.callableArgsIdx [first] =
      replaceParameter slot'.callableTy slot'.callableArgsIdx [first])
    (sameTwo :
      replaceParameter slot.callableTy slot.callableArgsIdx [first, second] =
        replaceParameter slot'.callableTy slot'.callableArgsIdx
          [first, second]) :
    slot.callableArgsIdx = slot'.callableArgsIdx := by
  have within := inPlace.varArg
  have within' := inPlace'.varArg
  have length := replaceParameter_argTypes_length within []
  have length' := replaceParameter_argTypes_length within' []
  rw [← sameNone] at length'
  have none := congrArg CallableType.argTypes sameNone
  have one := congrArg CallableType.argTypes sameOne
  have two := congrArg CallableType.argTypes sameTwo
  simp only [replaceParameter, List.map_cons, List.map_nil, List.length_nil]
    at none one two length length'
  rw [splice_eq_insert slot.callableTy.argTypes,
    splice_eq_insert slot'.callableTy.argTypes, ← none] at one two
  exact eq_of_insert_eq (by simpa using different) (by omega) (by omega) one two

theorem typeVarType_ne
    (api : CheckerApi)
    (hasTypeVarDefault : Bool)
    (fnType : CallableType) :
    typeVarType api hasTypeVarDefault fnType 1 ≠
      typeVarType api hasTypeVarDefault fnType 2 := by
  intro same
  have ids := congrArg TypeVarType.id same
  simp only [typeVarType] at ids
  omega

/-- The six overloads for two slots are the same exactly when the slots are at
the same place and the callables differ in the `VarArg()` only. -/
theorem expandedFns_eq_iff
    (inPlace : InPlace fnType argsIdx slot)
    (inPlace' : InPlace fnType argsIdx slot')
    (api : CheckerApi)
    (hasTypeVarDefault : Bool) :
    expandedFns api hasTypeVarDefault fnType argsIdx slot =
        expandedFns api hasTypeVarDefault fnType argsIdx slot' ↔
      slot.callableIdx = slot'.callableIdx ∧
        slot.callableArgsIdx = slot'.callableArgsIdx ∧
        insertTypes slot.callableTy slot.callableArgsIdx [] =
          insertTypes slot'.callableTy slot'.callableArgsIdx [] := by
  rw [expandedFns_eq, expandedFns_eq, List.map_inj_left]
  constructor
  · intro same
    -- the overloads for none, one and two extra arguments are enough
    have sameIdx := callableIdx_eq_of_expandedFn_eq inPlace (by simp)
      (same 0 (by decide)) (same 1 (by decide))
    have replaced (count : Nat) (inRange : count ∈ List.range 6) :=
      replaceParameter_eq_of_expandedFn_eq inPlace sameIdx (same count inRange)
    have sameArgsIdx := callableArgsIdx_eq_of_replaceParameter_eq inPlace inPlace'
      (typeVarType_ne api hasTypeVarDefault fnType) (replaced 0 (by decide))
      (replaced 1 (by decide)) (replaced 2 (by decide))
    have sameRest := replaced 0 (by decide)
    rw [replaceParameter_eq_insertTypes, replaceParameter_eq_insertTypes]
      at sameRest
    exact ⟨sameIdx, sameArgsIdx, sameRest⟩
  · rintro ⟨sameIdx, sameArgsIdx, sameRest⟩ count -
    obtain ⟨callableIdx, callableArgsIdx, callableTy⟩ := slot
    obtain ⟨callableIdx', callableArgsIdx', callableTy'⟩ := slot'
    obtain rfl : callableIdx = callableIdx' := sameIdx
    obtain rfl : callableArgsIdx = callableArgsIdx' := sameArgsIdx
    simp only [expandedFn, replaceParameter_eq_insertTypes]
    rw [insertTypes_congr sameRest]

end SameOverloads

/-! ## The outcome for a normalized signature -/

/-- An overload is normalized part by part; its type variables stay. -/
theorem expandedFn_normalize
    (fnType : CallableType)
    (argsIdx : Nat)
    (slot : SelectedCallable)
    (typeVars : List TypeVarType) :
    (expandedFn fnType argsIdx slot typeVars).normalize =
      expandedFn fnType.normalize argsIdx slot.normalize typeVars := by
  have stay : (typeVars.map Ty.typeVar).map Ty.normalize =
      typeVars.map Ty.typeVar := by
    simp [Ty.normalize]
  simp only [expandedFn, replaceParameter, SelectedCallable.normalize,
    CallableType.normalize_eq, splice_map, List.map_set, Ty.normalize, stay]

/-- The type variables depend on how many the function has only. -/
theorem typeVarTypes_normalize
    (api : CheckerApi)
    (hasTypeVarDefault : Bool)
    (fnType : CallableType) :
    typeVarTypes api hasTypeVarDefault fnType.normalize =
      typeVarTypes api hasTypeVarDefault fnType := by
  funext count
  apply List.map_congr_left
  intro argIdx _
  simp only [typeVarType, CallableType.normalize_typeVariables]

theorem expandedFns_normalize
    (api : CheckerApi)
    (hasTypeVarDefault : Bool)
    (fnType : CallableType)
    (argsIdx : Nat)
    (slot : SelectedCallable) :
    (expandedFns api hasTypeVarDefault fnType argsIdx slot).map
        CallableType.normalize =
      expandedFns api hasTypeVarDefault fnType.normalize argsIdx
        slot.normalize := by
  rw [expandedFns_eq, expandedFns_eq, List.map_map, typeVarTypes_normalize]
  apply List.map_congr_left
  intro count _
  rw [Function.comp_apply, expandedFn_normalize]

theorem verdict_normalize
    (indices : List Nat)
    (found : List SelectedCallable) :
    verdict indices (found.map SelectedCallable.normalize) =
      (verdict indices found).map fun selection =>
        (selection.1, selection.2.normalize) := by
  match indices, found with
  | _, _ :: _ :: _ => rfl
  | [], [] => rfl
  | [], [_] => rfl
  | _ :: _, [] => rfl
  | _ :: _, [_] => rfl

/-- What the callback makes of a verdict, with the aliases expanded. -/
theorem normalizeOutcome_conclude
    (ctx : FunctionContext)
    (hasTypeVarDefault : Bool)
    (fnType : CallableType)
    (indices : List Nat)
    (found : List SelectedCallable) :
    normalizeOutcome
        (conclude ctx hasTypeVarDefault fnType (verdict indices found)) =
      conclude ctx.normalize hasTypeVarDefault fnType.normalize
        (verdict indices (found.map SelectedCallable.normalize)) := by
  rw [verdict_normalize]
  cases verdict indices found with
  | error ex => rfl
  | ok selection =>
      have overloads := expandedFns_normalize ctx.api hasTypeVarDefault fnType
        selection.1 selection.2
      rw [← CallableType.normalizeList_eq_map] at overloads
      simp only [conclude, Except.map, normalizeOutcome, Reported.value_pure,
        Ty.normalize, overloads]
      rfl

/-- The normalized context is that of the normalized signature. -/
theorem decoratedType_normalize
    {ctx : FunctionContext}
    {fnType : CallableType}
    (decorated : decoratedType ctx = .ok fnType) :
    decoratedType ctx.normalize = .ok fnType.normalize := by
  rw [decoratedType_eq_ok_iff] at decorated ⊢
  obtain ⟨⟨type, rest, actual, resolved⟩, signature, isCallable⟩ := decorated
  constructor
  · refine ⟨type.normalize, rest.map (List.map Ty.normalize), ?_, ?_⟩
    · rw [FunctionContext.normalize, actual]
      rfl
    · rw [Ty.getProperType_normalize_comm, resolved]
      rfl
  · refine ⟨signature.normalize, ?_⟩
    change getProperType ctx.defaultReturnType.normalize = _
    rw [Ty.getProperType_normalize_comm, isCallable]
    rfl

theorem overloadsTransparent_iff_conclude
    {ctx : FunctionContext}
    {fnType : CallableType}
    (decorated : decoratedType ctx = .ok fnType)
    (oneStar : fnType.AtMostOneStar)
    (hasTypeVarDefault : Bool) :
    OverloadsTransparent ctx hasTypeVarDefault ↔
      conclude ctx.normalize hasTypeVarDefault fnType.normalize
          (verdict (starAnyIndices fnType)
            ((slots fnType.flattenUnions).map SelectedCallable.normalize)) =
        conclude ctx.normalize hasTypeVarDefault fnType.normalize
          (verdict (starAnyIndices fnType)
            ((slots fnType).map SelectedCallable.normalize)) := by
  have oneStar' : fnType.normalize.AtMostOneStar := by
    simpa [CallableType.AtMostOneStar] using oneStar
  rw [OverloadsTransparent, callback_eq_conclude decorated oneStar,
    callback_eq_conclude (decoratedType_normalize decorated) oneStar',
    starAnyIndices_normalize, slots_normalize, Except.map, Except.ok.injEq,
    normalizeOutcome_conclude]

section Conclude

variable {ctx : FunctionContext} {hasTypeVarDefault : Bool}
variable {fnType : CallableType} {indices : List Nat}

/-- The outcome for several slots is that for several slots only. -/
theorem conclude_eq_of_several
    {found : List SelectedCallable}
    (several : 2 ≤ found.length)
    (found' : List SelectedCallable) :
    conclude ctx hasTypeVarDefault fnType (verdict indices found') =
        conclude ctx hasTypeVarDefault fnType (verdict indices found) ↔
      2 ≤ found'.length := by
  rw [verdict_tooManyCallables several, conclude_eq_error_iff,
    verdict_eq_tooManyCallables_iff]

/-- The outcome for a selection tells its overloads. -/
theorem conclude_ok_eq_iff
    (argsIdx : Nat)
    (slot slot' : SelectedCallable) :
    conclude ctx hasTypeVarDefault fnType (.ok (argsIdx, slot')) =
        conclude ctx hasTypeVarDefault fnType (.ok (argsIdx, slot)) ↔
      expandedFns ctx.api hasTypeVarDefault fnType argsIdx slot =
        expandedFns ctx.api hasTypeVarDefault fnType argsIdx slot' := by
  constructor
  · intro same
    exact (Ty.overloaded.inj (congrArg Reported.value same)).symm
  · intro same
    rw [conclude, conclude, same]

/-- When two lists of slots lead to the same outcome: there are several in both,
or there is no `*args: Any` and one slot at most in both, or no slot in both, or
one in each, for which the overloads are the same. -/
theorem conclude_verdict_eq_iff
    (single : indices.length ≤ 1)
    (found found' : List SelectedCallable) :
    conclude ctx hasTypeVarDefault fnType (verdict indices found') =
        conclude ctx hasTypeVarDefault fnType (verdict indices found) ↔
      2 ≤ found.length ∧ 2 ≤ found'.length ∨
        indices = [] ∧ found.length ≤ 1 ∧ found'.length ≤ 1 ∨
        found = [] ∧ found' = [] ∨
        ∃ argsIdx slot slot', indices = [argsIdx] ∧ found = [slot] ∧
          found' = [slot'] ∧
          expandedFns ctx.api hasTypeVarDefault fnType argsIdx slot =
            expandedFns ctx.api hasTypeVarDefault fnType argsIdx slot' := by
  by_cases several : 2 ≤ found.length
  · rw [conclude_eq_of_several several]
    constructor
    · intro several'
      exact .inl ⟨several, several'⟩
    · rintro (⟨-, several'⟩ | ⟨-, few, -⟩ | ⟨rfl, -⟩ | ⟨_, slot, _, -, rfl, -⟩)
      · exact several'
      · exact absurd several (Nat.not_le_of_lt (Nat.lt_succ_of_le few))
      · exact absurd several (by simp)
      · exact absurd several (by simp)
  by_cases several' : 2 ≤ found'.length
  · rw [eq_comm, conclude_eq_of_several several']
    constructor
    · intro again
      exact absurd again several
    · rintro (⟨again, -⟩ | ⟨-, -, few⟩ | ⟨-, rfl⟩ | ⟨_, _, slot, -, -, rfl, -⟩)
      · exact again
      · exact absurd several' (Nat.not_le_of_lt (Nat.lt_succ_of_le few))
      · exact absurd several' (by simp)
      · exact absurd several' (by simp)
  -- with one slot at most in both, the checks after the scan decide
  match indices, found, found' with
  | _ :: _ :: _, _, _ => exact absurd single (by simp)
  | _, _ :: _ :: _, _ => exact absurd (Nat.le_add_left 2 _) several
  | _, _, _ :: _ :: _ => exact absurd (Nat.le_add_left 2 _) several'
  | [], [], [] => simp
  | [], [], [_] => simp [verdict]
  | [], [_], [] => simp [verdict]
  | [], [_], [_] => simp [verdict]
  | [argsIdx], [], [] => simp
  | [argsIdx], [], [slot'] =>
      have empty : verdict [argsIdx] [] = .error noCallable := rfl
      rw [empty, conclude_eq_error_iff]
      simp [verdict]
  | [argsIdx], [slot], [] =>
      have empty : verdict [argsIdx] [] = .error noCallable := rfl
      rw [eq_comm, empty, conclude_eq_error_iff]
      simp [verdict]
  | [argsIdx], [slot], [slot'] =>
      have verdicts (selected : SelectedCallable) :
          verdict [argsIdx] [selected] = .ok (argsIdx, selected) := rfl
      rw [verdicts, verdicts, conclude_ok_eq_iff]
      simp

end Conclude

/-- For a slot of the signature and one of the flattened signature, the same
normalized overloads mean the same slot. -/
theorem sameSlot_iff
    {api : CheckerApi}
    {hasTypeVarDefault : Bool}
    {fnType : CallableType}
    {argsIdx : Nat}
    {slot slot' : SelectedCallable}
    (indices : starAnyIndices fnType = [argsIdx])
    (found : slots fnType = [slot])
    (found' : slots fnType.flattenUnions = [slot']) :
    expandedFns api hasTypeVarDefault fnType.normalize argsIdx slot.normalize =
        expandedFns api hasTypeVarDefault fnType.normalize argsIdx
          slot'.normalize ↔
      SameSlot slot slot' := by
  have inPlace := (Selects.of_scan indices found).inPlace.normalize
  have inPlace' : InPlace fnType.normalize argsIdx slot'.normalize := by
    apply Selects.inPlace
    apply Selects.of_scan
    · rw [starAnyIndices_normalize, indices]
    · rw [slots_normalize, found', List.map_singleton]
  rw [expandedFns_eq_iff inPlace inPlace']
  constructor
  · rintro ⟨sameIdx, sameArgsIdx, sameRest⟩
    exact ⟨sameIdx, sameArgsIdx, sameRest⟩
  · intro same
    exact ⟨same.callableIdx, same.callableArgsIdx, same.callableTy⟩

/-- When the overloads are those of the normalized signature. -/
theorem overloadsTransparent_iff_cases
    {ctx : FunctionContext}
    {fnType : CallableType}
    (decorated : decoratedType ctx = .ok fnType)
    (oneStar : fnType.AtMostOneStar)
    (hasTypeVarDefault : Bool) :
    OverloadsTransparent ctx hasTypeVarDefault ↔
      2 ≤ (slots fnType).length ∧ 2 ≤ (slots fnType.flattenUnions).length ∨
        starAnyIndices fnType = [] ∧ (slots fnType).length ≤ 1 ∧
          (slots fnType.flattenUnions).length ≤ 1 ∨
        slots fnType = [] ∧ slots fnType.flattenUnions = [] ∨
        ∃ argsIdx slot slot', starAnyIndices fnType = [argsIdx] ∧
          slots fnType = [slot] ∧ slots fnType.flattenUnions = [slot'] ∧
          SameSlot slot slot' := by
  rw [overloadsTransparent_iff_conclude decorated oneStar,
    conclude_verdict_eq_iff (starAnyIndices_length_le oneStar)]
  simp only [List.length_map, List.map_eq_nil_iff, List.map_eq_singleton_iff]
  refine or_congr_right (or_congr_right (or_congr_right ⟨?_, ?_⟩))
  · rintro ⟨argsIdx, _, _, indices, ⟨slot, found, rfl⟩, ⟨slot', found', rfl⟩,
      same⟩
    exact ⟨argsIdx, slot, slot', indices, found, found',
      (sameSlot_iff indices found found').mp same⟩
  · rintro ⟨argsIdx, slot, slot', indices, found, found', same⟩
    exact ⟨argsIdx, _, _, indices, ⟨slot, found, rfl⟩, ⟨slot', found', rfl⟩,
      (sameSlot_iff indices found found').mpr same⟩

end TakesCallable
end TrioTyping
