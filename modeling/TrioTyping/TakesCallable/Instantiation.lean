import TrioTyping.Mypy.Instantiation
import TrioTyping.TakesCallable.NormalForms
import TrioTyping.TakesCallable.EndToEnd

/-!
# Decorated generic functions

The decorator runs on the signature of a generic function before types are put
for its variables and for those of its class. The main result says that this
makes no difference, unless a variable stands in a place where the callback would
have found something in the type put for it, or a union in such a place does not
stay the union of its arms.
-/

namespace TrioTyping
namespace TakesCallable

open Calling

/-- Instantiate the type of the selected callable. -/
def SelectedCallable.expandTypeWith
    (makeUnion : List Ty → Ty)
    (env : Instantiation)
    (selected : SelectedCallable) : SelectedCallable :=
  { selected with
    callableTy := selected.callableTy.expandTypeWith makeUnion env }

/-- Instantiate the type that a hook returns. -/
def expandOutcome
    (makeUnion : List Ty → Ty)
    (env : Instantiation)
    (outcome : Reported Ty) : Reported Ty :=
  { outcome with value := outcome.value.expandTypeWith makeUnion env }

/-! ## Variables that hide what the callback looks for -/

/-- The type is `Any`. -/
def IsAny (type : Ty) : Prop :=
  ∃ kind, type = .any kind

/-- No variable in the place of an `Any` behind `*args` is replaced by `Any`. -/
def ConcealsNoStarAny
    (makeUnion : List Ty → Ty)
    (env : Instantiation)
    (signature : CallableType) : Prop :=
  ∀ type, (.star, type) ∈ signature.argKinds.zip signature.argTypes →
    ConcealsNo makeUnion env IsAny type

/-- No variable in a place the callback looks at is replaced by something it
looks for, and unions in such places are kept. -/
structure ConcealsNothing
    (makeUnion : List Ty → Ty)
    (env : Instantiation)
    (fnType : CallableType) : Prop where
  /-- Behind `*args` of the function. -/
  args : ConcealsNoStarAny makeUnion env fnType
  /-- As the type of a required positional parameter. -/
  callables : ∀ type,
    (.pos, type) ∈ fnType.argKinds.zip fnType.argTypes →
      ConcealsNo makeUnion env (fun resolved => candidate resolved ≠ none) type
  /-- As an arm of such a parameter. -/
  arms : ∀ type,
    (.pos, type) ∈ fnType.argKinds.zip fnType.argTypes →
      ∀ items, getProperType type = .union items →
        ∀ item ∈ items,
          ConcealsNo makeUnion env
            (fun resolved => callableArm resolved ≠ none) item
  /-- Behind `*args` of a callable. -/
  varArgs : ∀ type,
    (.pos, type) ∈ fnType.argKinds.zip fnType.argTypes →
      ∀ callableTy, candidate (getProperType type) = some callableTy →
        ConcealsNoStarAny makeUnion env callableTy

/-- No fresh variable of an overload is replaced. -/
def SparesFresh
    (env : Instantiation)
    (fnType : CallableType) : Prop :=
  ∀ number, 1 ≤ number → number ≤ 5 →
    env (-((fnType.typeVariables.length + 1 + number : Nat) : Int)) = none

/-! ## What an instantiated signature has to offer -/

section Offers

variable {makeUnion : List Ty → Ty} {env : Instantiation}

theorem isStarAny_expandTypeWith
    {kind : ArgKind}
    {type : Ty}
    (concealsNo : kind = .star → ConcealsNo makeUnion env IsAny type) :
    isStarAny kind (type.expandTypeWith makeUnion env) =
      isStarAny kind type := by
  by_cases isStar : kind = .star
  · have concealsNo := concealsNo isStar
    unfold isStarAny
    rw [getProperType_expandTypeWith]
    cases resolved : getProperType type with
    | typeAlias name target =>
        exact absurd resolved (getProperType_ne_typeAlias type name target)
    | typeVar typeVariable =>
        cases replaced : env typeVariable.id with
        | none =>
            rw [Ty.expandTypeWith, replaced, Option.getD_none]
            rfl
        | some replacement =>
            rw [Ty.expandTypeWith, replaced, Option.getD_some]
            apply Bool.eq_false_iff.mpr
            intro found
            obtain ⟨-, source, isAny⟩ :=
              (isStarAny_iff kind replacement).mp found
            exact concealsNo.replacement typeVariable replacement resolved
              replaced ⟨source, isAny⟩
    | union items =>
        rw [Ty.expandTypeWith, Ty.expandTypesWith_eq_map,
          concealsNo.keepsUnion items resolved]
        rfl
    | _ => rfl
  · have notStarAny (type' : Ty) : isStarAny kind type' = false := by
      rw [Bool.eq_false_iff, Ne, isStarAny_iff]
      exact fun found => isStar found.1
    rw [notStarAny, notStarAny]

theorem starAnyIndices_expandTypeWith
    {signature : CallableType}
    (concealsNo : ConcealsNoStarAny makeUnion env signature) :
    starAnyIndices (signature.expandTypeWith makeUnion env) =
      starAnyIndices signature := by
  rw [starAnyIndices, CallableType.expandTypeWith_argKinds,
    CallableType.expandTypeWith_argTypes, flatMap_zip_map]
  apply List.flatMap_congr
  rintro ⟨⟨kind, type⟩, idx⟩ member
  have isParameter :=
    List.mem_of_getElem? (List.mk_mem_zipIdx_iff_getElem?.mp member)
  have same := isStarAny_expandTypeWith fun isStar =>
    concealsNo type (isStar ▸ isParameter)
  simp only [starAnyIndex, same]

theorem acceptsStar_expandTypeWith (signature : CallableType) :
    acceptsStar (signature.expandTypeWith makeUnion env) =
      acceptsStar signature := by
  simp only [acceptsStar, CallableType.expandTypeWith_isEllipsisArgs,
    CallableType.expandTypeWith_argKinds]

/-- An arm offers the callable it offered before, instantiated. -/
theorem callableArm_expandTypeWith
    {item : Ty}
    (concealsNo : ConcealsNo makeUnion env
      (fun resolved => callableArm resolved ≠ none) item) :
    callableArm (getProperType (item.expandTypeWith makeUnion env)) =
      (callableArm (getProperType item)).map
        (CallableType.expandTypeWith makeUnion env) := by
  apply concealsNo.look_expandTypeWith (fun _ => rfl)
  intro noVariable
  cases resolved : getProperType item with
  | typeAlias name target =>
      exact absurd resolved (getProperType_ne_typeAlias item name target)
  | typeVar typeVariable => exact absurd resolved (noVariable typeVariable)
  | callable signature =>
      simp only [Ty.expandTypeWith, getProperType, callableArm,
        acceptsStar_expandTypeWith]
      split <;> rfl
  | union items =>
      rw [Ty.expandTypeWith, Ty.expandTypesWith_eq_map,
        concealsNo.keepsUnion items resolved]
      rfl
  | _ => rfl

/-- So does the first arm that passes the test. -/
theorem findSome?_callableArm_expandTypeWith
    {items : List Ty}
    (concealsNo : ∀ item ∈ items,
      ConcealsNo makeUnion env (fun resolved => callableArm resolved ≠ none)
        item) :
    (getProperTypes (items.map (Ty.expandTypeWith makeUnion env))).findSome?
        callableArm =
      ((getProperTypes items).findSome? callableArm).map
        (CallableType.expandTypeWith makeUnion env) := by
  unfold getProperTypes
  induction items with
  | nil => rfl
  | cons item items inductionHypothesis =>
      rw [List.forall_mem_cons] at concealsNo
      simp only [List.map_cons, List.findSome?_cons,
        callableArm_expandTypeWith concealsNo.1,
        inductionHypothesis concealsNo.2]
      cases callableArm (getProperType item) <;> rfl

/-- And so does a parameter. -/
theorem candidate_expandTypeWith
    {type : Ty}
    (concealsNo : ConcealsNo makeUnion env
      (fun resolved => candidate resolved ≠ none) type)
    (armsConcealNo : ∀ items, getProperType type = .union items →
      ∀ item ∈ items,
        ConcealsNo makeUnion env (fun resolved => callableArm resolved ≠ none)
          item) :
    candidate (getProperType (type.expandTypeWith makeUnion env)) =
      (candidate (getProperType type)).map
        (CallableType.expandTypeWith makeUnion env) := by
  apply concealsNo.look_expandTypeWith (fun _ => rfl)
  intro noVariable
  cases resolved : getProperType type with
  | typeAlias name target =>
      exact absurd resolved (getProperType_ne_typeAlias type name target)
  | typeVar typeVariable => exact absurd resolved (noVariable typeVariable)
  | union items =>
      rw [Ty.expandTypeWith, Ty.expandTypesWith_eq_map,
        concealsNo.keepsUnion items resolved]
      exact findSome?_callableArm_expandTypeWith (armsConcealNo items resolved)
  | _ => rfl

/-- The slots are those of the signature, instantiated. -/
theorem slots_expandTypeWith
    {fnType : CallableType}
    (concealsNothing : ConcealsNothing makeUnion env fnType) :
    slots (fnType.expandTypeWith makeUnion env) =
      (slots fnType).map (SelectedCallable.expandTypeWith makeUnion env) := by
  rw [slots, slots, CallableType.expandTypeWith_argKinds,
    CallableType.expandTypeWith_argTypes, flatMap_zip_map, List.map_flatMap]
  apply List.flatMap_congr
  rintro ⟨⟨kind, type⟩, idx⟩ member
  have isParameter :=
    List.mem_of_getElem? (List.mk_mem_zipIdx_iff_getElem?.mp member)
  unfold slotsOfParameter
  by_cases isPos : kind = .pos
  · subst isPos
    rw [if_pos rfl, if_pos rfl]
    dsimp only
    rw [candidate_expandTypeWith (concealsNothing.callables type isParameter)
      (concealsNothing.arms type isParameter)]
    cases found : candidate (getProperType type) with
    | none => rfl
    | some callableTy =>
        have sameIndices := starAnyIndices_expandTypeWith
          (concealsNothing.varArgs type isParameter callableTy found)
        simp only [Option.map_some, sameIndices, List.map_map]
        rfl
  · rw [if_neg isPos, if_neg isPos]
    rfl

end Offers

/-! ## The overloads of an instantiated signature -/

section Overloads

variable
  (makeUnion : List Ty → Ty)
  (api : CheckerApi)
  (hasTypeVarDefault : Bool)
  (fnType : CallableType)
  (argsIdx : Nat)
  (selected : SelectedCallable)

theorem typeVarTypes_expandTypeWith (env : Instantiation) (count : Nat) :
    typeVarTypes api hasTypeVarDefault (fnType.expandTypeWith makeUnion env)
        count =
      typeVarTypes api hasTypeVarDefault fnType count := by
  rw [CallableType.expandTypeWith_eq]
  rfl

/-- The fresh variables stay. -/
theorem map_expandTypeWith_typeVarTypes_of_spares
    {env : Instantiation}
    (spares : SparesFresh env fnType)
    {count : Nat}
    (atMostFive : count ≤ 5) :
    ((typeVarTypes api hasTypeVarDefault fnType count).map .typeVar).map
        (Ty.expandTypeWith makeUnion env) =
      (typeVarTypes api hasTypeVarDefault fnType count).map .typeVar := by
  rw [List.map_map]
  apply List.map_congr_left
  intro typeVariable member
  obtain ⟨number, lower, upper, isId⟩ :=
    mem_typeVarTypes_ids.mp (List.mem_map_of_mem member)
  have unchanged := spares number lower (Nat.le_trans upper atMostFive)
  rw [Function.comp_apply, Ty.expandTypeWith, isId, unchanged, Option.getD_none]

/-- An overload is instantiated part by part. -/
theorem withTypes_expandTypeWith
    (env : Instantiation)
    (typeVars : List TypeVarType)
    (types : List Ty) :
    (withTypes fnType argsIdx selected typeVars types).expandTypeWith makeUnion
        env =
      withTypes (fnType.expandTypeWith makeUnion env) argsIdx
        (selected.expandTypeWith makeUnion env) typeVars
        (types.map (Ty.expandTypeWith makeUnion env)) := by
  simp only [withTypes, insertTypes, setArgType, SelectedCallable.expandTypeWith,
    CallableType.expandTypeWith_eq, splice_map, List.map_set, Ty.expandTypeWith,
    List.length_map]

/-- An overload is instantiated outside what the callback has inserted. -/
theorem expandedFns_expandTypeWith
    {env : Instantiation}
    (spares : SparesFresh env fnType) :
    (expandedFns api hasTypeVarDefault fnType argsIdx selected).map
        (CallableType.expandTypeWith makeUnion env) =
      expandedFns api hasTypeVarDefault (fnType.expandTypeWith makeUnion env)
        argsIdx (selected.expandTypeWith makeUnion env) := by
  rw [expandedFns_eq, expandedFns_eq, List.map_map]
  apply List.map_congr_left
  intro count isCount
  have inRange := List.mem_range.mp isCount
  rw [Function.comp_apply, expandedFn_eq_withTypes, withTypes_expandTypeWith,
    map_expandTypeWith_typeVarTypes_of_spares makeUnion api hasTypeVarDefault
      fnType spares (Nat.le_of_lt_succ inRange),
    typeVarTypes_expandTypeWith, expandedFn_eq_withTypes]

end Overloads

theorem verdict_expandTypeWith
    (makeUnion : List Ty → Ty)
    (env : Instantiation)
    (indices : List Nat)
    (found : List SelectedCallable) :
    verdict indices
        (found.map (SelectedCallable.expandTypeWith makeUnion env)) =
      (verdict indices found).map fun selection =>
        (selection.1, selection.2.expandTypeWith makeUnion env) := by
  match indices, found with
  | _, _ :: _ :: _ => rfl
  | [], [] => rfl
  | [], [_] => rfl
  | _ :: _, [] => rfl
  | _ :: _, [_] => rfl

/-- The decorated function is the instantiated one. -/
theorem decoratedType_expandTypeWith
    {ctx : FunctionContext}
    {fnType : CallableType}
    (makeUnion : List Ty → Ty)
    (env : Instantiation)
    (decorated : decoratedType ctx = .ok fnType) :
    decoratedType (ctx.expandTypeWith makeUnion env) =
      .ok (fnType.expandTypeWith makeUnion env) := by
  rw [decoratedType_eq_ok_iff] at decorated ⊢
  obtain ⟨⟨type, rest, actual, resolved⟩, signature, isCallable⟩ := decorated
  constructor
  · refine ⟨type.expandTypeWith makeUnion env,
      rest.map (List.map (Ty.expandTypeWith makeUnion env)), ?_, ?_⟩
    · rw [FunctionContext.expandTypeWith, actual]
      rfl
    · rw [getProperType_expandTypeWith, resolved]
      rfl
  · refine ⟨signature.expandTypeWith makeUnion env, ?_⟩
    change getProperType (ctx.defaultReturnType.expandTypeWith makeUnion env) = _
    rw [getProperType_expandTypeWith, isCallable]
    rfl

/-- Decorating a function and then putting types for its variables, or for those
of its class, is putting the types and then decorating: the same overloads, or
the same error. -/
theorem callback_expandTypeWith
    {ctx : FunctionContext}
    {fnType : CallableType}
    {makeUnion : List Ty → Ty}
    {env : Instantiation}
    (decorated : decoratedType ctx = .ok fnType)
    (oneStar : fnType.AtMostOneStar)
    (spares : SparesFresh env fnType)
    (concealsNothing : ConcealsNothing makeUnion env fnType)
    (hasTypeVarDefault : Bool) :
    takesCallableAndArgsCallback (ctx.expandTypeWith makeUnion env)
        hasTypeVarDefault =
      (takesCallableAndArgsCallback ctx hasTypeVarDefault).map
        (expandOutcome makeUnion env) := by
  have oneStar' : (fnType.expandTypeWith makeUnion env).AtMostOneStar := by
    simpa [CallableType.AtMostOneStar] using oneStar
  rw [callback_eq_conclude decorated oneStar,
    callback_eq_conclude (decoratedType_expandTypeWith makeUnion env decorated)
      oneStar',
    starAnyIndices_expandTypeWith concealsNothing.args,
    slots_expandTypeWith concealsNothing, verdict_expandTypeWith, Except.map]
  cases verdict (starAnyIndices fnType) (slots fnType) with
  | error ex => rfl
  | ok selection =>
      have overloads := expandedFns_expandTypeWith makeUnion ctx.api
        hasTypeVarDefault fnType selection.1 selection.2 spares
      rw [← CallableType.expandTypesWith_eq_map] at overloads
      simp only [conclude, Except.map, expandOutcome, Reported.value_pure,
        Ty.expandTypeWith, overloads]
      rfl

/-- With `int` for `T`, the overloads in the documentation's example are those of
the function with `int`. -/
theorem callback_expandTypeWith_readme :
    takesCallableAndArgsCallback
        (readmeContext.expandTypeWith .union readmeInstantiation) true =
      (takesCallableAndArgsCallback readmeContext true).map
        (expandOutcome .union readmeInstantiation) := by
  have starIsAny {type : Ty}
      (isStar : (.star, type) ∈
        readmeStartSoon.argKinds.zip readmeStartSoon.argTypes) :
      type = .any .explicit := by
    simpa [readmeStartSoon] using isStar
  have posIsCallable {type : Ty}
      (isPos : (.pos, type) ∈
        readmeStartSoon.argKinds.zip readmeStartSoon.argTypes) :
      type = .callable readmeCallable := by
    simpa [readmeStartSoon] using isPos
  refine callback_expandTypeWith rfl readme_wellFormed.signature.atMostOneStar
    ?_ ?_ true
  · intro number lower _
    exact if_neg (by change -((1 + 1 + number : Nat) : Int) ≠ -1; omega)
  · constructor
    · intro type isStar
      cases starIsAny isStar
      exact concealsNo_of_ne _ _ (fun _ => Ty.noConfusion)
        (fun _ => Ty.noConfusion) _
    · intro type isPos
      cases posIsCallable isPos
      exact concealsNo_of_ne _ _ (fun _ => Ty.noConfusion)
        (fun _ => Ty.noConfusion) _
    · intro type isPos items isUnion
      cases posIsCallable isPos
      cases isUnion
    · intro type isPos callableTy found varArg isStar
      cases posIsCallable isPos
      cases found
      have isAny : varArg = .any .explicit := by
        simpa [readmeCallable] using isStar
      cases isAny
      exact concealsNo_of_ne _ _ (fun _ => Ty.noConfusion)
        (fun _ => Ty.noConfusion) _

end TakesCallable
end TrioTyping
