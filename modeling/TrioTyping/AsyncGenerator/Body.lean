import TrioTyping.AsyncGenerator.YieldFrom

/-!
# Checking a whole `@async_generator` function

The hooks of `yield_` and `yield_from_` run at every call in the body of a
function and decode its declaration anew each time; the hook of the decorator
decodes the return type that mypy has inferred for the decorated function. The
main result says what is reported for a function as a whole: in the body the
mismatches of its calls when the declaration is well-formed, nothing when it says
nothing, and one and the same complaint everywhere when it is malformed, whatever
the arguments are; and at the decorator the complaint about the inferred type.
-/

namespace TrioTyping
namespace AsyncGenerator

/-! ## Calls in a body -/

/-- The two functions that may be called in the body. -/
inductive Callee
  | yield_
  | yieldFrom
  deriving DecidableEq, Repr

/-- A call of one of them, as far as the type checker passes it to the hook. -/
structure BodyCall where
  /-- The function called. -/
  callee : Callee
  /-- Types of the actual arguments of every formal. -/
  argTypes : List (List Ty)
  /-- Type of the call according to the stub. -/
  defaultReturnType : Ty

namespace BodyCall

/-- The context in which the hook of the call runs. -/
def context (call : BodyCall) (api : CheckerApi) : FunctionContext where
  argTypes := call.argTypes
  defaultReturnType := call.defaultReturnType
  api := api

/-- Run the hook of the call. -/
def check (call : BodyCall) (api : CheckerApi) : Reported Ty :=
  match call.callee with
  | .yield_ => yieldCallback (call.context api)
  | .yieldFrom => yieldFromCallback (call.context api)

/-- The type of the argument the hook looks at: that of a single ordinary
argument, or `None` for `yield_()`. -/
def argument (call : BodyCall) : Option Ty :=
  match call.callee, call.argTypes with
  | .yield_, [] => some .noneTyp
  | _, [type] :: _ => some type
  | _, _ => none

/-- The argument fits a declared yield type and send type. -/
def Fits
    (isSubtype : Ty → Ty → Bool)
    (yieldType sendType : Ty)
    (call : BodyCall) : Prop :=
  ∀ arg, call.argument = some arg →
    match call.callee with
    | .yield_ => isSubtype arg yieldType = true
    | .yieldFrom => ∀ fullname args, getProperType arg = .inst fullname args →
        DelegateFits isSubtype yieldType sendType (.inst fullname args)

/-- The argument of `yield_from_` is accepted by the stub, which asks for an
`AsyncIterable[Any]`. -/
def FitsStub (isSubtype : Ty → Ty → Bool) (call : BodyCall) : Prop :=
  call.callee = .yieldFrom → ∀ arg, call.argument = some arg → ∀ kind,
    isSubtype (getProperType arg) (.inst "typing.AsyncIterable" [.any kind]) =
      true

end BodyCall

/-- An error that names a type and another one it is no subtype of. -/
def IsMismatch (isSubtype : Ty → Ty → Bool) : Report → Prop
  | .fail _ => False
  | .incompatibleTypes subtype supertype _ _ =>
      isSubtype subtype supertype = false

/-- Check the calls in a body one after the other. -/
def checkCalls (api : CheckerApi) : List BodyCall → Reported (List Ty)
  | [] => pure []
  | call :: calls => do
      let type ← call.check api
      let types ← checkCalls api calls
      return type :: types

/-- The checker while it is in the body of a function. -/
def AsyncFunction.inBody
    (function : AsyncFunction)
    (api : CheckerApi) : CheckerApi :=
  { api with topFunction := some (.funcDef function.funcDef) }

/-- Check the decorator of a function. -/
def AsyncFunction.decorate
    (function : AsyncFunction)
    (api : CheckerApi) : Reported Ty :=
  asyncGeneratorCallback {
    argTypes := [[.callable function.signature]]
    defaultReturnType := .callable function.decoratedType
    api := api }

/-- Check a function: the calls in its body, and then its decorator. -/
def AsyncFunction.check
    (function : AsyncFunction)
    (api : CheckerApi)
    (calls : List BodyCall) : Reported Ty := do
  let _ ← checkCalls (function.inBody api) calls
  function.decorate api

/-- The reports of a body are those of its calls. -/
theorem checkCalls_reports
    (api : CheckerApi)
    (calls : List BodyCall) :
    (checkCalls api calls).reports =
      calls.flatMap fun call => (call.check api).reports := by
  induction calls with
  | nil => rfl
  | cons call calls inductionHypothesis =>
      rw [List.flatMap_cons, ← inductionHypothesis]
      simp only [checkCalls, Reported.reports_bind, Reported.reports_pure,
        List.append_nil]

/-! ## One call -/

/-- What mypy's subtyping does with `Any`, of whatever kind. -/
structure AnyCompatible (isSubtype : Ty → Ty → Bool) : Prop where
  /-- Every type is compatible with `Any`. -/
  toAny : ∀ type kind, isSubtype type (.any kind) = true
  /-- `Any` is compatible with every type. -/
  fromAny : ∀ type kind, isSubtype (.any kind) type = true

section Call

variable
  {api : CheckerApi}
  {call : BodyCall}

/-- A call without an argument to look at is not checked. -/
theorem check_of_no_argument (noArgument : call.argument = none) :
    (call.check api).reports = [] := by
  obtain ⟨callee, argTypes, defaultReturnType⟩ := call
  unfold BodyCall.argument at noArgument
  cases callee with
  | yield_ =>
      rcases argTypes with _ | ⟨_ | ⟨first, _ | ⟨second, more⟩⟩, rest⟩
      · cases noArgument
      · rfl
      · cases noArgument
      · rfl
  | yieldFrom =>
      rcases argTypes with _ | ⟨_ | ⟨first, _ | ⟨second, more⟩⟩, rest⟩
      · rfl
      · rfl
      · cases noArgument
      · rfl

/-- A checked call of `yield_` looks at its argument. -/
theorem check_yield
    {arg : Ty}
    (isYield : call.callee = .yield_)
    (isArgument : call.argument = some arg) :
    call.check api = yieldArgument (call.context api) arg := by
  obtain ⟨callee, argTypes, defaultReturnType⟩ := call
  obtain rfl : callee = .yield_ := isYield
  unfold BodyCall.argument at isArgument
  rcases argTypes with _ | ⟨_ | ⟨first, _ | ⟨second, more⟩⟩, rest⟩
  · cases isArgument
    rfl
  · cases isArgument
  · cases isArgument
    rfl
  · cases isArgument

/-- What a checked call of `yield_` reports. -/
theorem check_yield_reports
    {arg : Ty}
    (isYield : call.callee = .yield_)
    (isArgument : call.argument = some arg) :
    (call.check api).reports =
      (decodeEnclosingAgenTypes (call.context api)).reports ++
        (api.checkSubtype arg
          (decodeEnclosingAgenTypes (call.context api)).value.1
          "yield_ argument" "declared YieldType").reports := by
  rw [check_yield isYield isArgument]
  simp only [yieldArgument, Reported.reports_bind, Reported.reports_pure,
    List.append_nil]
  rfl

/-- The type of a checked call of `yield_`. -/
theorem check_yield_value
    {arg : Ty}
    (isYield : call.callee = .yield_)
    (isArgument : call.argument = some arg) :
    (call.check api).value =
      .inst "typing.Awaitable"
        [(decodeEnclosingAgenTypes (call.context api)).value.2] := by
  rw [check_yield isYield isArgument]
  rfl

/-- What a checked call of `yield_from_` reports. -/
theorem check_yieldFrom_reports
    {arg : Ty}
    (isYieldFrom : call.callee = .yieldFrom)
    (isArgument : call.argument = some arg) :
    (call.check api).reports =
      (decodeEnclosingAgenTypes (call.context api)).reports ++
        (checkDelegate (call.context api)
          (decodeEnclosingAgenTypes (call.context api)).value.1
          (decodeEnclosingAgenTypes (call.context api)).value.2
          (getProperType arg)).reports := by
  obtain ⟨callee, argTypes, defaultReturnType⟩ := call
  obtain rfl : callee = .yieldFrom := isYieldFrom
  unfold BodyCall.argument at isArgument
  rcases argTypes with _ | ⟨_ | ⟨first, _ | ⟨second, more⟩⟩, rest⟩
  · cases isArgument
  · cases isArgument
  · cases isArgument
    simp only [BodyCall.check, BodyCall.context, yieldFromCallback,
      Reported.reports_bind, Reported.reports_pure, List.append_nil]
  · cases isArgument

/-- A delegate is accepted where nothing is known about the enclosing function,
if the stub accepts it. -/
theorem checkDelegate_any
    {ctx : FunctionContext}
    (anyCompatible : AnyCompatible ctx.api.isSubtype)
    (yieldKind sendKind : TypeOfAny)
    (argType : Ty)
    (fitsStub : ctx.api.isSubtype argType
      (.inst "typing.AsyncIterable" [.any yieldKind]) = true) :
    (checkDelegate ctx (.any yieldKind) (.any sendKind) argType).Clean := by
  cases argType with
  | inst fullname args =>
      by_cases generator : ∃ theirYieldType theirSendType,
          IsGenerator (.inst fullname args) theirYieldType theirSendType
      · obtain ⟨theirYieldType, theirSendType, isGenerator⟩ := generator
        exact (checkDelegate_generator isGenerator).mpr
          ⟨anyCompatible.toAny _ _, anyCompatible.fromAny _ _⟩
      · have notGenerator : ∀ theirYieldType theirSendType,
            ¬IsGenerator (.inst fullname args) theirYieldType theirSendType :=
          fun theirYieldType theirSendType isGenerator =>
            generator ⟨theirYieldType, theirSendType, isGenerator⟩
        exact (checkDelegate_iterable notGenerator).mpr fitsStub
  | _ => rfl

/-- Where nothing is known about the enclosing function, a checked call reports
what decoding its declaration reports, and no more. -/
theorem check_of_any
    {yieldKind sendKind : TypeOfAny}
    {reports : List Report}
    (decoded : decodeEnclosingAgenTypes (call.context api) =
      ⟨(.any yieldKind, .any sendKind), reports⟩)
    (anyCompatible : AnyCompatible api.isSubtype)
    (fitsStub : call.FitsStub api.isSubtype)
    {arg : Ty}
    (isArgument : call.argument = some arg) :
    (call.check api).reports = reports := by
  cases isCallee : call.callee with
  | yield_ =>
      rw [check_yield_reports isCallee isArgument, decoded,
        (api.checkSubtype_reports_eq_nil _ _ _ _).mpr
          (anyCompatible.toAny arg yieldKind), List.append_nil]
  | yieldFrom =>
      have accepted : (checkDelegate (call.context api) (.any yieldKind)
          (.any sendKind) (getProperType arg)).reports = [] :=
        checkDelegate_any anyCompatible yieldKind sendKind _
          (fitsStub isCallee arg isArgument yieldKind)
      rw [check_yieldFrom_reports isCallee isArgument, decoded, accepted,
        List.append_nil]

/-- Inside a well-formed declaration a call is accepted when its argument fits.
-/
theorem check_clean_iff
    {yieldType sendType : Ty}
    (declares : decodeEnclosingAgenTypes (call.context api) =
      ⟨(yieldType, sendType), []⟩) :
    (call.check api).reports = [] ↔
      call.Fits api.isSubtype yieldType sendType := by
  unfold BodyCall.Fits
  cases isArgument : call.argument with
  | none =>
      refine iff_of_true (check_of_no_argument isArgument) ?_
      intro arg isSome
      cases isSome
  | some arg =>
      simp only [Option.some.injEq, forall_eq']
      cases isCallee : call.callee with
      | yield_ =>
          rw [check_yield_reports isCallee isArgument, declares,
            List.nil_append]
          exact api.checkSubtype_reports_eq_nil _ _ _ _
      | yieldFrom =>
          rw [check_yieldFrom_reports isCallee isArgument, declares,
            List.nil_append]
          have single := @acceptsDelegate_iff (call.context api) _ _ declares
          cases resolved : getProperType arg with
          | inst fullname args =>
              have fits := acceptsDelegate_inst_iff (call.context api) declares
                fullname args
              rw [single, getProperType.eq_2 _ (by simp)] at fits
              simp only [Ty.inst.injEq, and_imp]
              constructor
              · rintro clean _ _ rfl rfl
                exact fits.mp clean
              · intro fitsEach
                exact fits.mpr (fitsEach _ _ rfl rfl)
          | _ =>
              refine iff_of_true rfl ?_
              intro _ _ isInstance
              cases isInstance

/-- A subtype check reports only a mismatch. -/
theorem checkSubtype_isMismatch
    {subtype supertype : Ty}
    {subtypeLabel supertypeLabel : String} :
    ∀ report ∈ (api.checkSubtype subtype supertype subtypeLabel
      supertypeLabel).reports, IsMismatch api.isSubtype report := by
  intro report member
  unfold CheckerApi.checkSubtype at member
  by_cases isSubtype : api.isSubtype subtype supertype = true
  · rw [if_pos isSubtype] at member
    cases member
  · rw [if_neg isSubtype] at member
    obtain rfl := List.mem_singleton.mp member
    exact Bool.eq_false_iff.mpr isSubtype

/-- The check of a delegate reports only mismatches. -/
theorem checkDelegate_isMismatch
    {ctx : FunctionContext}
    {yieldType sendType argType : Ty} :
    ∀ report ∈ (checkDelegate ctx yieldType sendType argType).reports,
      IsMismatch ctx.api.isSubtype report := by
  intro report member
  unfold checkDelegate at member
  split at member
  · split at member
    · split at member
      · rcases List.mem_append.mp member with yields | sends
        · exact checkSubtype_isMismatch report yields
        · exact checkSubtype_isMismatch report sends
      · exact checkSubtype_isMismatch report member
    · exact checkSubtype_isMismatch report member
  · cases member

/-- Inside a well-formed declaration a call reports only mismatches. -/
theorem check_isMismatch
    {types : Ty × Ty}
    (declares : decodeEnclosingAgenTypes (call.context api) = ⟨types, []⟩) :
    ∀ report ∈ (call.check api).reports, IsMismatch api.isSubtype report := by
  intro report member
  cases isArgument : call.argument with
  | none =>
      rw [check_of_no_argument isArgument] at member
      cases member
  | some arg =>
      cases isCallee : call.callee with
      | yield_ =>
          rw [check_yield_reports isCallee isArgument, declares] at member
          exact checkSubtype_isMismatch report member
      | yieldFrom =>
          rw [check_yieldFrom_reports isCallee isArgument, declares] at member
          exact @checkDelegate_isMismatch (call.context api) _ _ _ report member

end Call

/-! ## A whole body -/

section Body

variable
  {api : CheckerApi}
  {scope : FunctionContext}
  {calls : List BodyCall}

/-- Every call in a body decodes the declaration of the same function. -/
theorem decodeEnclosingAgenTypes_context
    (sameApi : scope.api = api)
    (call : BodyCall) :
    decodeEnclosingAgenTypes (call.context api) =
      decodeEnclosingAgenTypes scope := by
  subst sameApi
  rfl

/-- Where nothing is known about the enclosing function, every checked call
reports what decoding its declaration reports, and no more. -/
theorem checkCalls_of_any
    {yieldKind sendKind : TypeOfAny}
    {reports : List Report}
    (sameApi : scope.api = api)
    (decoded : decodeEnclosingAgenTypes scope =
      ⟨(.any yieldKind, .any sendKind), reports⟩)
    (anyCompatible : AnyCompatible api.isSubtype)
    (fitsStub : ∀ call ∈ calls, call.FitsStub api.isSubtype) :
    (checkCalls api calls).reports =
      (List.replicate (calls.countP fun call => call.argument.isSome)
        reports).flatten := by
  rw [checkCalls_reports]
  induction calls with
  | nil => rfl
  | cons call calls inductionHypothesis =>
      rw [List.forall_mem_cons] at fitsStub
      rw [List.flatMap_cons, inductionHypothesis fitsStub.2]
      cases isArgument : call.argument with
      | none =>
          rw [check_of_no_argument isArgument, List.countP_cons_of_neg]
          · rfl
          · simp [isArgument]
      | some arg =>
          have decodedHere :=
            (decodeEnclosingAgenTypes_context sameApi call).trans decoded
          rw [check_of_any decodedHere anyCompatible fitsStub.1 isArgument,
            List.countP_cons_of_pos, List.replicate_succ, List.flatten_cons]
          simp [isArgument]

/-- Inside a well-formed declaration a body is accepted when all its calls fit.
-/
theorem checkCalls_clean_iff
    {yieldType sendType : Ty}
    (sameApi : scope.api = api)
    (declares : decodeEnclosingAgenTypes scope = ⟨(yieldType, sendType), []⟩) :
    (checkCalls api calls).reports = [] ↔
      ∀ call ∈ calls, call.Fits api.isSubtype yieldType sendType := by
  rw [checkCalls_reports, List.flatMap_eq_nil_iff]
  refine forall₂_congr fun call _ => check_clean_iff ?_
  exact (decodeEnclosingAgenTypes_context sameApi call).trans declares

end Body

/-! ## A whole function -/

namespace AsyncFunction

variable {function : AsyncFunction} {api : CheckerApi}

/-- In the body of an annotated function its declaration is decoded. -/
theorem decodeEnclosingAgenTypes_inBody
    (annotated : function.isAnnotated = true)
    (argTypes : List (List Ty))
    (defaultReturnType : Ty) :
    decodeEnclosingAgenTypes
        ⟨argTypes, defaultReturnType, function.inBody api⟩ =
      ⟨((decodeAgenTypesFromReturnType api
            function.signature.retType).value.yieldType,
          (decodeAgenTypesFromReturnType api
            function.signature.retType).value.sendType),
        (decodeAgenTypesFromReturnType api
          function.signature.retType).reports⟩ := by
  simp only [decodeEnclosingAgenTypes, inBody, funcDef, annotated]
  change (⟨_, _ ++ []⟩ : Reported (Ty × Ty)) = _
  rw [List.append_nil]
  rfl

/-- In the body of a function without annotations nothing is known. -/
theorem decodeEnclosingAgenTypes_inBody_of_unannotated
    (unannotated : function.isAnnotated = false)
    (argTypes : List (List Ty))
    (defaultReturnType : Ty) :
    decodeEnclosingAgenTypes
        ⟨argTypes, defaultReturnType, function.inBody api⟩ =
      ⟨(.any .implementationArtifact, .any .implementationArtifact), []⟩ := by
  simp only [decodeEnclosingAgenTypes, inBody, funcDef, unannotated]
  rfl

/-- The decorator reports what decoding the inferred return type reports. -/
theorem decorate_reports :
    (function.decorate api).reports =
      (decodeAgenTypesFromReturnType api
        function.inferredReturnType).reports := by
  change (decodeAgenTypesFromReturnType api
    function.inferredReturnType).reports ++ [] = _
  exact List.append_nil _

/-- The reports of a body come before those of the decorator. -/
theorem check_reports (calls : List BodyCall) :
    (function.check api calls).reports =
      (checkCalls (function.inBody api) calls).reports ++
        (function.decorate api).reports := by
  rw [check, Reported.reports_bind]

/-- Only an annotated function has markers. -/
theorem isAnnotated_of_countP
    {kind : MarkerKind}
    (occurs : 0 < (returnArms function.signature.retType).countP
      (isMarkerOf kind)) :
    function.isAnnotated = true := by
  by_contra notAnnotated
  rw [function.unannotated (Bool.eq_false_iff.mpr notAnnotated)] at occurs
  cases kind <;> cases occurs

/-- Only an annotated function has a malformed declaration. -/
theorem isAnnotated_of_malformed
    (malformed : Malformed (returnArms function.signature.retType)) :
    function.isAnnotated = true := by
  rcases malformed with ⟨arm, member, kind, _, isMarker, -⟩ | ⟨_, twice⟩
  · have occurs : 0 < (returnArms function.signature.retType).countP
        (isMarkerOf kind) :=
      List.countP_pos_iff.mpr ⟨arm, member, by simp [isMarkerOf, isMarker]⟩
    exact isAnnotated_of_countP occurs
  · exact isAnnotated_of_countP (Nat.lt_of_lt_of_le Nat.zero_lt_two twice)

/-- Every checked call repeats the complaint about a malformed declaration. -/
theorem checkCalls_of_firstComplaint
    (calls : List BodyCall)
    (anyCompatible : AnyCompatible api.isSubtype)
    (fitsStub : ∀ call ∈ calls, call.FitsStub api.isSubtype)
    {error : ValueError}
    (complaint : FirstComplaint (returnArms function.signature.retType) error) :
    (checkCalls (function.inBody api) calls).reports =
      List.replicate (calls.countP fun call => call.argument.isSome)
        (.fail (invalidReturnType error)) := by
  have annotated := isAnnotated_of_malformed
    ((malformed_iff_exists_firstComplaint _).mpr ⟨error, complaint⟩)
  have enclosing :
      decodeEnclosingAgenTypes ⟨[], .noneTyp, function.inBody api⟩ =
        ⟨(.any .fromError, .any .fromError),
          [.fail (invalidReturnType error)]⟩ := by
    rw [decodeEnclosingAgenTypes_inBody annotated,
      decodeAgenTypesFromReturnType_of_firstComplaint api complaint]
  have body : (checkCalls (function.inBody api) calls).reports = _ :=
    checkCalls_of_any rfl enclosing anyCompatible fitsStub
  rw [body, List.flatten_replicate_singleton]

/-- The calls in a function without markers, in particular in one without
annotations, are not checked. -/
theorem checkCalls_of_no_marker
    (calls : List BodyCall)
    (anyCompatible : AnyCompatible api.isSubtype)
    (fitsStub : ∀ call ∈ calls, call.FitsStub api.isSubtype)
    (noMarker : ∀ arm ∈ returnArms function.signature.retType,
      markerOf arm = none) :
    (checkCalls (function.inBody api) calls).reports = [] := by
  have decoded := decodeAgenTypesFromReturnType_of_encodes api
    (Encodes.of_no_marker noMarker)
  have enclosing : ∃ yieldKind sendKind,
      decodeEnclosingAgenTypes ⟨[], .noneTyp, function.inBody api⟩ =
        ⟨(.any yieldKind, .any sendKind), []⟩ := by
    cases annotated : function.isAnnotated with
    | true =>
        rw [decodeEnclosingAgenTypes_inBody annotated, decoded]
        exact ⟨_, _, rfl⟩
    | false =>
        exact ⟨_, _, decodeEnclosingAgenTypes_inBody_of_unannotated annotated _ _⟩
  obtain ⟨yieldKind, sendKind, enclosing⟩ := enclosing
  have body : (checkCalls (function.inBody api) calls).reports = _ :=
    checkCalls_of_any rfl enclosing anyCompatible fitsStub
  rw [body, List.flatten_replicate_nil]

section Encoded

variable
  {otherArms : List Ty}
  {found : MarkerKind → Option Ty}
  (encodes : Encodes (returnArms function.signature.retType) otherArms found)
  (present : ∃ kind, found kind ≠ none)

include encodes present

/-- What the decorator decodes. -/
theorem decodeAgenTypesFromReturnType_of_marker :
    decodeAgenTypesFromReturnType api function.signature.retType =
      ⟨⟨(found .yieldType).getD .noneTyp, (found .sendType).getD .noneTyp,
        returnTypeOf api otherArms⟩, []⟩ := by
  have notBothAbsent :
      ((found .yieldType).isNone && (found .sendType).isNone) = false := by
    obtain ⟨kind, present⟩ := present
    cases kind <;> simp [Option.isNone_eq_false_iff, Option.isSome_iff_ne_none,
      present]
  rw [decodeAgenTypesFromReturnType_of_encodes api encodes, notBothAbsent]
  rfl

/-- What every call in the body is checked against. -/
theorem decodeEnclosingAgenTypes_inBody_of_marker
    (argTypes : List (List Ty))
    (defaultReturnType : Ty) :
    decodeEnclosingAgenTypes
        ⟨argTypes, defaultReturnType, function.inBody api⟩ =
      ⟨((found .yieldType).getD .noneTyp, (found .sendType).getD .noneTyp),
        []⟩ := by
  have annotated : function.isAnnotated = true := by
    obtain ⟨kind, present⟩ := present
    obtain ⟨arg, isFound⟩ := Option.ne_none_iff_exists'.mp present
    apply @isAnnotated_of_countP function kind
    rw [encodes.countP_isMarkerOf, isFound]
    exact Nat.zero_lt_one
  rw [decodeEnclosingAgenTypes_inBody annotated,
    decodeAgenTypesFromReturnType_of_marker encodes present]

/-- A well-formed declaration is not complained about: the calls report only
mismatches, and nothing exactly when every call fits the declaration. -/
theorem checkCalls_of_marker (calls : List BodyCall) :
    (∀ report ∈ (checkCalls (function.inBody api) calls).reports,
        IsMismatch api.isSubtype report) ∧
      ((checkCalls (function.inBody api) calls).reports = [] ↔
        ∀ call ∈ calls, call.Fits api.isSubtype
          ((found .yieldType).getD .noneTyp)
          ((found .sendType).getD .noneTyp)) := by
  have declares := fun call : BodyCall =>
    @decodeEnclosingAgenTypes_inBody_of_marker function api _ _ encodes present
      call.argTypes call.defaultReturnType
  constructor
  · intro report member
    rw [checkCalls_reports, List.mem_flatMap] at member
    obtain ⟨call, -, reported⟩ := member
    exact check_isMismatch (declares call) report reported
  · exact checkCalls_clean_iff rfl
      (decodeEnclosingAgenTypes_inBody_of_marker encodes present [] .noneTyp)

end Encoded

/-- What is reported for a function as a whole. -/
structure CheckOutcome
    (function : AsyncFunction)
    (api : CheckerApi)
    (calls : List BodyCall) : Prop where
  /-- There are the reports of the body and those of the decorator. -/
  parts : (function.check api calls).reports =
    (checkCalls (function.inBody api) calls).reports ++
      (function.decorate api).reports
  /-- Every checked call repeats the complaint about a malformed declaration, and
  no argument is complained about on top of it. -/
  malformed : ∀ error,
    FirstComplaint (returnArms function.signature.retType) error →
      (checkCalls (function.inBody api) calls).reports =
        List.replicate (calls.countP fun call => call.argument.isSome)
          (.fail (invalidReturnType error))
  /-- A declaration without markers, or none at all, lets every call pass. -/
  unmarked : (∀ arm ∈ returnArms function.signature.retType,
      markerOf arm = none) →
    (checkCalls (function.inBody api) calls).reports = []
  /-- In a well-formed declaration only mismatches are reported, and none exactly
  when every call fits. -/
  marked : ∀ otherArms found,
    Encodes (returnArms function.signature.retType) otherArms found →
    (∃ kind, found kind ≠ none) →
      (∀ report ∈ (checkCalls (function.inBody api) calls).reports,
        IsMismatch api.isSubtype report) ∧
      ((checkCalls (function.inBody api) calls).reports = [] ↔
        ∀ call ∈ calls, call.Fits api.isSubtype
          ((found .yieldType).getD .noneTyp)
          ((found .sendType).getD .noneTyp))
  /-- The decorator complains about a malformed inferred type. -/
  decorator_malformed : ∀ error,
    FirstComplaint (returnArms function.inferredReturnType) error →
      (function.decorate api).reports = [.fail (invalidReturnType error)]
  /-- It does not complain about any other. -/
  decorator_wellFormed : ¬Malformed (returnArms function.inferredReturnType) →
    (function.decorate api).reports = []
  /-- The complaints are the same when the declared type is inferred. -/
  decorator_sameWords : ∀ error,
    function.inferredReturnType = function.signature.retType →
    FirstComplaint (returnArms function.signature.retType) error →
      (function.check api calls).reports =
        List.replicate ((calls.countP fun call => call.argument.isSome) + 1)
          (.fail (invalidReturnType error))

/-- `async def f() -> Union[None, YieldType[bool], YieldType[int]]`. mypy takes
the first marker out of the inferred type, as it is a subtype of the second. -/
def yieldsTwice : AsyncFunction where
  signature := {
    argTypes := []
    argKinds := []
    argNames := []
    retType := .union [.noneTyp,
      .inst "trio_typing.YieldType" [.inst "builtins.bool" []],
      .inst "trio_typing.YieldType" [.inst "builtins.int" []]]
    typeVariables := []
    isEllipsisArgs := false }
  inferredReturnType := .union [.noneTyp,
    .inst "trio_typing.YieldType" [.inst "builtins.int" []]]
  isAnnotated := true
  unannotated annotated := by cases annotated

/-- A checker that knows `Any` and that generators are iterables. -/
def iterableApi : CheckerApi where
  isSubtype subtype supertype :=
    match subtype, supertype with
    | .any _, _ => true
    | _, .any _ => true
    | .inst subName _, .inst superName _ =>
        subName = superName ||
          generatorClasses.contains subName &&
            superName = "typing.AsyncIterable"
    | _, _ => false
  makeSimplifiedUnion := .union
  topFunction := none

/-- `yield_("")`, `yield_from_(agen)` with an agen of strings, and
`yield_(*args)`. -/
def stringCalls : List BodyCall :=
  [⟨.yield_, [[.inst "builtins.str" []]], .noneTyp⟩,
    ⟨.yieldFrom, [[.inst "typing.AsyncGenerator"
      [.inst "builtins.str" [], .inst "builtins.str" []]]], .noneTyp⟩,
    ⟨.yield_, [[.inst "builtins.str" [], .inst "builtins.str" []]], .noneTyp⟩]

end AsyncFunction

end AsyncGenerator
end TrioTyping
