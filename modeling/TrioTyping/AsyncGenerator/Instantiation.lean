import TrioTyping.AsyncGenerator.Callbacks
import TrioTyping.Mypy.Instantiation

/-!
# Generic generator functions

The decorator of a generic function decodes its return type once, with the type
variables in it, and mypy puts types for them in the result whenever the function
is called. The main result says that this is the same as decoding the type with
the types put in, unless a variable stands for a marker or for the whole union, or
the arms no longer make the union of them. Only the union of the other arms may
be simplified further.
-/

namespace TrioTyping
namespace AsyncGenerator

/-! ## Instantiated declarations -/

/-- The arms of a resolved union. -/
def unionItems : Ty → Option (List Ty)
  | .union items => some items
  | _ => none

/-- No variable in the declaration is replaced by a marker, the declaration is no
variable that is replaced by a union, and the unions that decoding looks at are
kept. -/
structure ConcealsNoMarker
    (makeUnion : List Ty → Ty)
    (env : Instantiation)
    (declared : Ty) : Prop where
  /-- The declaration is not replaced by a union, and kept if it is one. -/
  union : ConcealsNo makeUnion env
    (fun resolved => unionItems resolved ≠ none) declared
  /-- No arm is replaced by a marker. -/
  arms : ∀ arm ∈ returnArms declared,
    ConcealsNo makeUnion env (fun resolved => markerOf resolved ≠ none) arm

/-- Instantiate what the pass has recorded. -/
def DecodeState.expandTypeWith
    (makeUnion : List Ty → Ty)
    (env : Instantiation)
    (state : DecodeState) : DecodeState where
  yieldType := state.yieldType.map (Ty.expandTypeWith makeUnion env)
  sendType := state.sendType.map (Ty.expandTypeWith makeUnion env)
  otherArms := state.otherArms.map (Ty.expandTypeWith makeUnion env)

/-- The second types are the first ones, instantiated, except that a union of
some arms may have been simplified again. -/
structure AgenTypes.Instantiates
    (api : CheckerApi)
    (makeUnion : List Ty → Ty)
    (env : Instantiation)
    (types types' : AgenTypes) : Prop where
  /-- The yield type. -/
  yieldType : types'.yieldType = types.yieldType.expandTypeWith makeUnion env
  /-- The send type. -/
  sendType : types'.sendType = types.sendType.expandTypeWith makeUnion env
  /-- The return type. -/
  returnType :
    types'.returnType = types.returnType.expandTypeWith makeUnion env ∨
      ∃ otherArms,
        types.returnType = api.makeSimplifiedUnion otherArms ∧
          types'.returnType = api.makeSimplifiedUnion
            (otherArms.map (Ty.expandTypeWith makeUnion env))

/-! ## The pass over instantiated arms -/

section Pass

variable {makeUnion : List Ty → Ty} {env : Instantiation}

/-- A marker is looked for in the type an arm resolves to. -/
theorem markerOf_getProperType (arm : Ty) :
    markerOf (getProperType arm) = markerOf arm := by
  induction arm using getProperType.induct with
  | case1 name target inductionHypothesis => exact inductionHypothesis
  | case2 type notAlias => rw [getProperType.eq_2 type notAlias]

/-- An arm is the marker it was before, with its arguments instantiated. -/
theorem markerOf_expandTypeWith
    {arm : Ty}
    (concealsNo : ConcealsNo makeUnion env
      (fun resolved => markerOf resolved ≠ none) arm) :
    markerOf (arm.expandTypeWith makeUnion env) =
      (markerOf arm).map fun (kind, args) =>
        (kind, args.map (Ty.expandTypeWith makeUnion env)) := by
  rw [← markerOf_getProperType (arm.expandTypeWith makeUnion env),
    ← markerOf_getProperType arm]
  apply concealsNo.look_expandTypeWith (fun _ => rfl)
  intro noVariable
  cases resolved : getProperType arm with
  | typeAlias name target =>
      exact absurd resolved (getProperType_ne_typeAlias arm name target)
  | typeVar typeVariable => exact absurd resolved (noVariable typeVariable)
  | inst fullname args =>
      simp only [Ty.expandTypeWith, Ty.expandTypesWith_eq_map, getProperType,
        markerOf]
      split
      · rfl
      · split <;> rfl
  | union items =>
      rw [Ty.expandTypeWith, Ty.expandTypesWith_eq_map,
        concealsNo.keepsUnion items resolved]
      rfl
  | _ => rfl

theorem DecodeState.expandTypeWith_recorded
    (state : DecodeState)
    (kind : MarkerKind) :
    ((state.expandTypeWith makeUnion env).recorded kind).isSome =
      (state.recorded kind).isSome := by
  cases kind with
  | yieldType => exact Option.isSome_map
  | sendType => exact Option.isSome_map

theorem DecodeState.expandTypeWith_record
    (state : DecodeState)
    (arg : Ty)
    (kind : MarkerKind) :
    (state.record arg kind).expandTypeWith makeUnion env =
      (state.expandTypeWith makeUnion env).record
        (arg.expandTypeWith makeUnion env) kind := by
  cases kind with
  | yieldType => rfl
  | sendType => rfl

/-- One step of the pass. -/
theorem decodeArm_expandTypeWith
    {arm : Ty}
    (concealsNo : ConcealsNo makeUnion env
      (fun resolved => markerOf resolved ≠ none) arm)
    (state : DecodeState) :
    decodeArm (state.expandTypeWith makeUnion env)
        (arm.expandTypeWith makeUnion env) =
      (decodeArm state arm).map (DecodeState.expandTypeWith makeUnion env) := by
  rw [decodeArm_eq, decodeArm_eq, markerOf_expandTypeWith concealsNo]
  cases markerOf arm with
  | none =>
      simp only [Option.map_none, Except.map, DecodeState.expandTypeWith,
        List.map_append, List.map_cons, List.map_nil]
  | some marker =>
      obtain ⟨kind, args⟩ := marker
      rcases args with _ | ⟨arg, _ | ⟨second, rest⟩⟩
      · rfl
      · simp only [Option.map_some, List.map_cons, List.map_nil,
          DecodeState.expandTypeWith_recorded]
        split
        · rfl
        · rw [Except.map, DecodeState.expandTypeWith_record]
      · rfl

/-- The whole pass. -/
theorem foldlM_decodeArm_expandTypeWith
    {arms : List Ty}
    (concealsNo : ∀ arm ∈ arms,
      ConcealsNo makeUnion env (fun resolved => markerOf resolved ≠ none) arm)
    (state : DecodeState) :
    (arms.map (Ty.expandTypeWith makeUnion env)).foldlM decodeArm
        (state.expandTypeWith makeUnion env) =
      (arms.foldlM decodeArm state).map
        (DecodeState.expandTypeWith makeUnion env) := by
  induction arms generalizing state with
  | nil => rfl
  | cons arm arms inductionHypothesis =>
      rw [List.forall_mem_cons] at concealsNo
      rw [List.map_cons, List.foldlM_cons, List.foldlM_cons,
        decodeArm_expandTypeWith concealsNo.1]
      cases decodeArm state arm with
      | error error => rfl
      | ok next => exact inductionHypothesis concealsNo.2 next

theorem returnArms_eq_getD (declared : Ty) :
    returnArms declared =
      (unionItems (getProperType declared)).getD [declared] := by
  unfold returnArms unionItems
  cases getProperType declared <;> rfl

/-- The arms of an instantiated declaration. -/
theorem returnArms_expandTypeWith
    {declared : Ty}
    (concealsNo : ConcealsNo makeUnion env
      (fun resolved => unionItems resolved ≠ none) declared) :
    returnArms (declared.expandTypeWith makeUnion env) =
      (returnArms declared).map (Ty.expandTypeWith makeUnion env) := by
  have sameUnion :
      unionItems (getProperType (declared.expandTypeWith makeUnion env)) =
        (unionItems (getProperType declared)).map
          (List.map (Ty.expandTypeWith makeUnion env)) := by
    apply concealsNo.look_expandTypeWith (fun _ => rfl)
    intro noVariable
    cases resolved : getProperType declared with
    | typeAlias name target =>
        exact absurd resolved (getProperType_ne_typeAlias declared name target)
    | typeVar typeVariable => exact absurd resolved (noVariable typeVariable)
    | union items =>
        rw [Ty.expandTypeWith, Ty.expandTypesWith_eq_map,
          concealsNo.keepsUnion items resolved]
        rfl
    | _ => rfl
  rw [returnArms_eq_getD, returnArms_eq_getD, sameUnion]
  cases unionItems (getProperType declared) <;> rfl

/-- The union of the other arms may be simplified again. -/
theorem returnTypeOf_map
    (api : CheckerApi)
    (makeUnion : List Ty → Ty)
    (env : Instantiation)
    (otherArms : List Ty) :
    returnTypeOf api (otherArms.map (Ty.expandTypeWith makeUnion env)) =
        (returnTypeOf api otherArms).expandTypeWith makeUnion env ∨
      ∃ arms,
        returnTypeOf api otherArms = api.makeSimplifiedUnion arms ∧
          returnTypeOf api (otherArms.map (Ty.expandTypeWith makeUnion env)) =
            api.makeSimplifiedUnion
              (arms.map (Ty.expandTypeWith makeUnion env)) := by
  cases otherArms with
  | nil => exact .inl rfl
  | cons arm arms => exact .inr ⟨arm :: arms, rfl, rfl⟩

/-- Decoding an instantiated declaration is instantiating the decoded one, with
the same reports. -/
theorem decodeAgenTypesFromReturnType_expandTypeWith
    {declared : Ty}
    (concealsNoMarker : ConcealsNoMarker makeUnion env declared)
    (api : CheckerApi) :
    (decodeAgenTypesFromReturnType api
          (declared.expandTypeWith makeUnion env)).reports =
        (decodeAgenTypesFromReturnType api declared).reports ∧
      (decodeAgenTypesFromReturnType api declared).value.Instantiates api
        makeUnion env
        (decodeAgenTypesFromReturnType api
          (declared.expandTypeWith makeUnion env)).value := by
  have pass := foldlM_decodeArm_expandTypeWith concealsNoMarker.arms
    ⟨none, none, []⟩
  rw [← returnArms_expandTypeWith concealsNoMarker.union] at pass
  change (returnArms (declared.expandTypeWith makeUnion env)).foldlM decodeArm
    ⟨none, none, []⟩ = _ at pass
  unfold decodeAgenTypesFromReturnType
  rw [pass]
  cases (returnArms declared).foldlM decodeArm ⟨none, none, []⟩ with
  | error error => exact ⟨rfl, rfl, rfl, .inl rfl⟩
  | ok state =>
      obtain ⟨yieldType, sendType, otherArms⟩ := state
      have decoded (yieldType' sendType' : Ty) :
          (⟨yieldType', sendType', returnTypeOf api otherArms⟩ :
            AgenTypes).Instantiates api makeUnion env
              ⟨yieldType'.expandTypeWith makeUnion env,
                sendType'.expandTypeWith makeUnion env,
                returnTypeOf api
                  (otherArms.map (Ty.expandTypeWith makeUnion env))⟩ :=
        ⟨rfl, rfl, returnTypeOf_map api makeUnion env otherArms⟩
      cases yieldType with
      | none =>
          cases sendType with
          | none => exact ⟨rfl, rfl, rfl, .inl rfl⟩
          | some sendType => exact ⟨rfl, decoded .noneTyp sendType⟩
      | some yieldType =>
          cases sendType with
          | none => exact ⟨rfl, decoded yieldType .noneTyp⟩
          | some sendType => exact ⟨rfl, decoded yieldType sendType⟩

end Pass

/-! ## Generic functions -/

/-- `CompatAsyncGenerator` of the three types. -/
def AgenTypes.generator (types : AgenTypes) : Ty :=
  .inst "trio_typing.CompatAsyncGenerator"
    [types.yieldType, types.sendType, types.returnType]

/-- What the hook of the decorator does to a function that returns a
`CompatAsyncGenerator`. -/
theorem asyncGeneratorCallback_eq
    {ctx : FunctionContext}
    {decorated : CallableType}
    {yieldArg sendArg returnArg : Ty}
    (decorates : ctx.defaultReturnType = .callable decorated)
    (isGenerator : getProperType decorated.retType =
      .inst "trio_typing.CompatAsyncGenerator" [yieldArg, sendArg, returnArg]) :
    asyncGeneratorCallback ctx =
      ⟨.callable { decorated with
          retType :=
            (decodeAgenTypesFromReturnType ctx.api returnArg).value.generator },
        (decodeAgenTypesFromReturnType ctx.api returnArg).reports⟩ := by
  unfold asyncGeneratorCallback
  rw [decorates]
  dsimp only
  rw [isGenerator]
  simp only [if_true]
  change (⟨_, _ ++ []⟩ : Reported Ty) = _
  rw [List.append_nil]
  rfl

/-- Callers of a generic function see the same type, whether the hook of the
decorator runs before or after types are put for the variables, and the hook
reports the same errors. -/
theorem asyncGeneratorCallback_expandTypeWith
    {makeUnion : List Ty → Ty}
    {env : Instantiation}
    {ctx : FunctionContext}
    {decorated : CallableType}
    {yieldArg sendArg returnArg : Ty}
    (decorates : ctx.defaultReturnType = .callable decorated)
    (isGenerator : getProperType decorated.retType =
      .inst "trio_typing.CompatAsyncGenerator" [yieldArg, sendArg, returnArg])
    (concealsNoMarker : ConcealsNoMarker makeUnion env returnArg) :
    (asyncGeneratorCallback (ctx.expandTypeWith makeUnion env)).reports =
        (asyncGeneratorCallback ctx).reports ∧
      ∃ types types' : AgenTypes,
        types.Instantiates ctx.api makeUnion env types' ∧
          (asyncGeneratorCallback ctx).value =
            .callable { decorated with retType := types.generator } ∧
          (asyncGeneratorCallback (ctx.expandTypeWith makeUnion env)).value =
            .callable { decorated.expandTypeWith makeUnion env with
              retType := types'.generator } := by
  have decoratesInstantiated :
      (ctx.expandTypeWith makeUnion env).defaultReturnType =
        .callable (decorated.expandTypeWith makeUnion env) := by
    change ctx.defaultReturnType.expandTypeWith makeUnion env = _
    rw [decorates, Ty.expandTypeWith]
  have isGeneratorInstantiated :
      getProperType (decorated.expandTypeWith makeUnion env).retType =
        .inst "trio_typing.CompatAsyncGenerator"
          [yieldArg.expandTypeWith makeUnion env,
            sendArg.expandTypeWith makeUnion env,
            returnArg.expandTypeWith makeUnion env] := by
    rw [CallableType.expandTypeWith_eq]
    change getProperType (decorated.retType.expandTypeWith makeUnion env) = _
    rw [getProperType_expandTypeWith, isGenerator]
    rfl
  obtain ⟨sameReports, instantiates⟩ :=
    decodeAgenTypesFromReturnType_expandTypeWith concealsNoMarker ctx.api
  rw [asyncGeneratorCallback_eq decorates isGenerator,
    asyncGeneratorCallback_eq decoratesInstantiated isGeneratorInstantiated]
  exact ⟨sameReports, _, _, instantiates, rfl, rfl⟩

/-- The type variable of a generic function. -/
def genericTypeVar : TypeVarType :=
  ⟨"T", "T", -1, [], .inst "builtins.object" [], none⟩

/-- `int` for `T`. -/
def genericInstantiation : Instantiation := fun id =>
  if id = -1 then some (.inst "builtins.int" []) else none

/-- `Union[T, YieldType[List[T]], SendType[str]]`. -/
def genericReturnType : Ty :=
  .union [.typeVar genericTypeVar,
    .inst "trio_typing.YieldType"
      [.inst "builtins.list" [.typeVar genericTypeVar]],
    .inst "trio_typing.SendType" [.inst "builtins.str" []]]

/-- `async def generic_agen(x: T)` with this return type, as it is inferred for
the decorator call. -/
def genericAgen : CallableType where
  argTypes := [.typeVar genericTypeVar]
  argKinds := [.pos]
  argNames := [some "x"]
  retType := .inst "trio_typing.CompatAsyncGenerator"
    [.any .explicit, .any .explicit, genericReturnType]
  typeVariables := [genericTypeVar]
  isEllipsisArgs := false

/-- The decorator applied to it. -/
def genericContext : FunctionContext :=
  ⟨[], .callable genericAgen, testAgenApi⟩

/-- A caller that passes an `int` sees the type of the function with `int`. -/
theorem asyncGeneratorCallback_expandTypeWith_generic :
    ∃ types types' : AgenTypes,
      types.Instantiates testAgenApi .union genericInstantiation types' ∧
        (asyncGeneratorCallback genericContext).value =
          .callable { genericAgen with retType := types.generator } ∧
        (asyncGeneratorCallback
            (genericContext.expandTypeWith .union genericInstantiation)).value =
          .callable
            { genericAgen.expandTypeWith .union genericInstantiation with
              retType := types'.generator } := by
  have concealsNoMarker :
      ConcealsNoMarker .union genericInstantiation genericReturnType := by
    constructor
    · exact ⟨fun _ _ isVariable => Ty.noConfusion isVariable, fun _ _ => rfl⟩
    · intro arm isArm
      simp only [genericReturnType, returnArms_union, List.mem_cons,
        List.not_mem_nil, or_false] at isArm
      rcases isArm with rfl | rfl | rfl
      · refine ⟨?_, fun _ isUnion => Ty.noConfusion isUnion⟩
        intro typeVariable replacement _ replaced
        unfold genericInstantiation at replaced
        split at replaced
        · cases replaced
          exact not_not_intro rfl
        · cases replaced
      · exact concealsNo_of_ne _ _ (fun _ => Ty.noConfusion)
          (fun _ => Ty.noConfusion) _
      · exact concealsNo_of_ne _ _ (fun _ => Ty.noConfusion)
          (fun _ => Ty.noConfusion) _
  exact (asyncGeneratorCallback_expandTypeWith
    (show genericContext.defaultReturnType = _ from rfl) rfl
    concealsNoMarker).2

end AsyncGenerator
end TrioTyping
