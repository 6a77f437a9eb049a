import TrioTyping.AsyncGenerator.Body
import TrioTyping.AsyncGenerator.Meaning
import TrioTyping.Delegation.Stack

/-!
# Running generators that have been checked

A program consists of `@async_generator` functions, each with the calls of
`yield_` and `yield_from_` in its body. When it runs, `yield_` hands its argument
to whoever iterates over the outermost generator and evaluates to what that one
sends; `yield_from_` puts another generator in the place of the running one
until that returns.

The main result is what the plugin's checks are for: if they report nothing, then
in every run, through any number of delegations, callers receive values of the
types the decorated function shows them, and every call in a body evaluates to a
value of the type the plugin gave it.
-/

namespace TrioTyping
namespace AsyncGenerator

open Delegation

/-! ## Checked programs -/

/-- The generator functions of a program. -/
structure Program (Name : Type) where
  /-- The definition of a function. -/
  function : Name → AsyncFunction
  /-- The calls in its body. -/
  calls : Name → List BodyCall

namespace Program

variable {Name : Type} (program : Program Name) (api : CheckerApi)

/-- The types that a function declares for its generators. -/
def agenTypes (name : Name) : AgenTypes :=
  (decodeAgenTypesFromReturnType api
    (program.function name).signature.retType).value

/-- The types that the decorator shows to callers. -/
def shownTypes (name : Name) : AgenTypes :=
  (decodeAgenTypesFromReturnType api
    (program.function name).inferredReturnType).value

/-- The checker in the body of a function. -/
def bodyApi (name : Name) : CheckerApi :=
  (program.function name).inBody api

/-- The plugin reports nothing for the functions of the program. -/
def Checked : Prop :=
  ∀ name, ((program.function name).check api (program.calls name)).Clean

/-- No type that the plugin compares mentions `Any`. -/
structure WithoutAny : Prop where
  /-- Every function declares what its generators yield. -/
  yieldType : ∀ name, (program.agenTypes api name).yieldType.mentionsAny = false
  /-- Every function declares what its generators are sent. -/
  sendType : ∀ name, (program.agenTypes api name).sendType.mentionsAny = false
  /-- The arguments in the bodies are typed. -/
  arguments : ∀ name, ∀ call ∈ program.calls name, ∀ arg,
    call.argument = some arg → arg.mentionsAny = false

/-- What mypy infers for the decorated functions decodes to the types they
declare, as it does when it infers the declared return types. -/
def ShowsDeclared : Prop :=
  ∀ name, program.shownTypes api name = program.agenTypes api name

/-- Every argument of `yield_from_` is an instance of one of the three recognized
generator classes. -/
def DelegatesToGenerators : Prop :=
  ∀ name, ∀ call ∈ program.calls name, call.callee = .yieldFrom → ∀ arg,
    call.argument = some arg →
      ∃ yieldType sendType, IsGenerator (getProperType arg) yieldType sendType

/-- The declared types are shown when they are inferred as they stand. -/
theorem ShowsDeclared.of_verbatim
    {program : Program Name}
    {api : CheckerApi}
    (solved : ∀ name, (program.function name).inferredReturnType =
      (program.function name).signature.retType) :
    program.ShowsDeclared api := by
  intro name
  rw [shownTypes, solved, agenTypes]

end Program

/-- The type of the value an awaitable gives. -/
def awaitedType : Ty → Option Ty
  | .inst fullname [type] =>
      if fullname = "typing.Awaitable" then some type else none
  | .inst fullname [_, _, type] =>
      if fullname = "typing.Coroutine" then some type else none
  | _ => none

/-- The generators of some types, from the outside. -/
def AgenTypes.interface
    {api : CheckerApi}
    {Value : Type}
    (meaning : TypeMeaning api Value)
    (types : AgenTypes) : Interface Value where
  yields := meaning.values types.yieldType
  sends := meaning.values types.sendType
  returns := meaning.values types.returnType

/-! ## Executions -/

/-- The bodies of the functions at run time. What is asked of them is that the
rest of the type checker does its work: as long as a body is given values of the
types of its parameters and of its calls, the arguments of its calls and its
result have the types the checker inferred. -/
structure Execution
    {Name : Type}
    (program : Program Name)
    {api : CheckerApi}
    {Value : Type}
    (meaning : TypeMeaning api Value)
    (Body : Type) where
  /-- What a body may do next. -/
  acts : Body → Action Body Value → Prop
  /-- The function the body belongs to. -/
  function : Body → Name
  /-- The body has been given only values of the expected types. -/
  Ready : Body → Prop
  /-- It yields the argument of one of its calls of `yield_`. -/
  yields : ∀ {body value next}, Ready body → acts body (.yields value next) →
    ∃ call ∈ program.calls (function body), call.callee = .yield_ ∧
      (∃ arg, call.argument = some arg ∧ value ∈ meaning.values arg) ∧
      ∀ awaited,
        awaitedType (call.check (program.bodyApi api (function body))).value =
            some awaited →
          ∀ sent ∈ meaning.values awaited,
            Ready (next sent) ∧ function (next sent) = function body
  /-- It delegates to the argument of one of its calls of `yield_from_`. If that
  is typed as a generator, the delegate yields and can be sent what the type says,
  and its result is one of the call. -/
  delegates : ∀ {body delegate next}, Ready body →
    acts body (.delegates delegate next) →
      Ready delegate ∧
      ∃ call ∈ program.calls (function body), call.callee = .yieldFrom ∧
        ∃ arg awaited,
          call.argument = some arg ∧
          awaitedType
              (call.check (program.bodyApi api (function body))).value =
            some awaited ∧
          (∀ yieldType sendType,
            IsGenerator (getProperType arg) yieldType sendType →
              meaning.values
                  (program.shownTypes api (function delegate)).yieldType ⊆
                meaning.values yieldType ∧
              meaning.values sendType ⊆
                meaning.values
                  (program.shownTypes api (function delegate)).sendType) ∧
          meaning.values
              (program.shownTypes api (function delegate)).returnType ⊆
            meaning.values awaited ∧
          ∀ result ∈ meaning.values awaited,
            Ready (next result) ∧ function (next result) = function body
  /-- It returns values of the declared type. -/
  returns : ∀ {body result}, Ready body → acts body (.returns result) →
    result ∈ meaning.values (program.function (function body)).signature.retType

/-! ## What a clean report says about a call -/

namespace Program
namespace WithoutAny

variable
  {Name : Type}
  {program : Program Name}
  {api : CheckerApi}
  (withoutAny : program.WithoutAny api)

include withoutAny

/-- The declarations are well-formed, as the yield type of others is `Any`. -/
theorem decoded (name : Name) :
    (decodeAgenTypesFromReturnType api
      (program.function name).signature.retType).reports = [] := by
  by_cases malformed :
      Malformed (returnArms (program.function name).signature.retType)
  · obtain ⟨_, -, decoded⟩ :=
      decodeAgenTypesFromReturnType_of_malformed api malformed
    have mentionsAny := withoutAny.yieldType name
    rw [agenTypes, decoded] at mentionsAny
    cases mentionsAny
  · obtain ⟨otherArms, found, encodes⟩ := encodes_of_not_malformed _ malformed
    rw [decodeAgenTypesFromReturnType_of_encodes api encodes]
    split <;> rfl

/-- A function that declares its types has an annotation. -/
theorem isAnnotated (name : Name) :
    (program.function name).isAnnotated = true := by
  by_contra notAnnotated
  have mentionsAny := withoutAny.yieldType name
  unfold agenTypes at mentionsAny
  rw [(program.function name).unannotated
    (Bool.eq_false_iff.mpr notAnnotated)] at mentionsAny
  cases mentionsAny

/-- Every call in a body is checked against the declared types. -/
theorem declares
    (name : Name)
    (call : BodyCall) :
    decodeEnclosingAgenTypes (call.context (program.bodyApi api name)) =
      ⟨((program.agenTypes api name).yieldType,
        (program.agenTypes api name).sendType), []⟩ := by
  have enclosing := @AsyncFunction.decodeEnclosingAgenTypes_inBody
    (program.function name) api (withoutAny.isAnnotated name) call.argTypes
    call.defaultReturnType
  rw [withoutAny.decoded] at enclosing
  exact enclosing

/-- With any calls in its body, a function is accepted exactly when they fit its
declaration and the decorator accepts the inferred type. -/
theorem check_clean_iff
    (name : Name)
    (calls : List BodyCall) :
    ((program.function name).check api calls).Clean ↔
      (∀ call ∈ calls, call.Fits api.isSubtype
        (program.agenTypes api name).yieldType
        (program.agenTypes api name).sendType) ∧
      ((program.function name).decorate api).Clean := by
  unfold Reported.Clean
  rw [AsyncFunction.check_reports, List.append_eq_nil_iff]
  refine and_congr_left' ?_
  exact checkCalls_clean_iff rfl
    (withoutAny.declares name ⟨.yield_, [], .noneTyp⟩)

/-- In a program that is checked every call fits the declaration. -/
theorem fits
    (checked : program.Checked api)
    {name : Name}
    {call : BodyCall}
    (member : call ∈ program.calls name) :
    call.Fits api.isSubtype (program.agenTypes api name).yieldType
      (program.agenTypes api name).sendType :=
  ((withoutAny.check_clean_iff name _).mp (checked name)).1 call member

/-- A call of `yield_` is given the send type. -/
theorem awaitedType_yield
    {name : Name}
    {call : BodyCall}
    {arg : Ty}
    (isYield : call.callee = .yield_)
    (isArgument : call.argument = some arg) :
    awaitedType (call.check (program.bodyApi api name)).value =
      some (program.agenTypes api name).sendType := by
  rw [check_yield_value isYield isArgument, withoutAny.declares]
  rfl

end WithoutAny
end Program

/-! ## Runs -/

/-- An `Any` in the arguments of a recognized class is one in the type. -/
theorem IsGenerator.mentionsAny_eq_false
    {type yieldType sendType : Ty}
    (isGenerator : IsGenerator (getProperType type) yieldType sendType)
    (typed : type.mentionsAny = false) :
    yieldType.mentionsAny = false ∧ sendType.mentionsAny = false := by
  obtain ⟨fullname, -, rest, resolved⟩ := isGenerator
  rw [← mentionsAny_getProperType, resolved] at typed
  simp only [Ty.mentionsAny, Ty.mentionsAnyList, Bool.or_eq_false_iff] at typed
  exact ⟨typed.1, typed.2.1⟩

namespace Execution

variable
  {Name Value Body : Type}
  {program : Program Name}
  {api : CheckerApi}
  {meaning : TypeMeaning api Value}
  (execution : Execution program meaning Body)

/-- The types callers see of the generator with the body. -/
def shownTypes (body : Body) : AgenTypes :=
  program.shownTypes api (execution.function body)

/-- Its interface. -/
def interface (body : Body) : Interface Value :=
  (execution.shownTypes body).interface meaning

theorem interface_congr
    {first second : Body}
    (sameFunction : execution.function first = execution.function second) :
    execution.interface first = execution.interface second := by
  unfold interface shownTypes
  rw [sameFunction]

variable (showsDeclared : program.ShowsDeclared api)

include showsDeclared

/-- The interface that callers see is that of the declared types. -/
theorem interface_eq (body : Body) :
    execution.interface body =
      (program.agenTypes api (execution.function body)).interface meaning := by
  rw [interface, shownTypes, showsDeclared]

/-- A body returns values of the return type callers see. -/
theorem returns_expected
    {body : Body}
    {result : Value}
    (ready : execution.Ready body)
    (act : execution.acts body (.returns result)) :
    result ∈ (execution.interface body).returns := by
  have declared := execution.returns ready act
  rw [← meaning.values_returnType] at declared
  rw [execution.interface_eq showsDeclared]
  exact declared

variable
  (checked : program.Checked api)
  (withoutAny : program.WithoutAny api)

include checked withoutAny

/-- A body yields values of the yield type and can go on with values of the send
type. -/
theorem yields_expected
    {body : Body}
    {value : Value}
    {next : Value → Body}
    (ready : execution.Ready body)
    (act : execution.acts body (.yields value next)) :
    value ∈ (execution.interface body).yields ∧
      ∀ sent ∈ (execution.interface body).sends,
        execution.Ready (next sent) ∧
          execution.function (next sent) = execution.function body := by
  obtain ⟨call, member, isYield, ⟨arg, isArgument, hasType⟩, resumes⟩ :=
    execution.yields ready act
  have fits := withoutAny.fits checked member arg isArgument
  rw [isYield] at fits
  have narrower := meaning.values_subtype _ _
    (withoutAny.arguments _ call member arg isArgument)
    (withoutAny.yieldType _) fits
  rw [execution.interface_eq showsDeclared]
  exact ⟨narrower hasType,
    resumes _ (withoutAny.awaitedType_yield isYield isArgument)⟩

variable (toGenerators : program.DelegatesToGenerators)

include toGenerators

/-- A delegate's interface passes through that of the body, which can go on with
the results of the delegate. -/
theorem delegates_expected
    {body delegate : Body}
    {next : Value → Body}
    (ready : execution.Ready body)
    (act : execution.acts body (.delegates delegate next)) :
    execution.Ready delegate ∧
      (execution.interface delegate).PassesThrough (execution.interface body) ∧
      ∀ result ∈ (execution.interface delegate).returns,
        execution.Ready (next result) ∧
          execution.function (next result) = execution.function body := by
  obtain ⟨delegateReady, call, member, isYieldFrom, arg, _, isArgument, -, asTyped,
    returnsLess, resumes⟩ := execution.delegates ready act
  obtain ⟨yieldType, sendType, isGenerator⟩ :=
    toGenerators _ call member isYieldFrom arg isArgument
  obtain ⟨yieldsLess, sendsMore⟩ := asTyped yieldType sendType isGenerator
  have typed := isGenerator.mentionsAny_eq_false
    (withoutAny.arguments _ call member arg isArgument)
  have fits := withoutAny.fits checked member arg isArgument
  rw [isYieldFrom] at fits
  obtain ⟨fullname, named, rest, resolved⟩ := isGenerator
  obtain ⟨yields, sends⟩ := (fits _ _ resolved).1 yieldType sendType
    ⟨fullname, named, rest, rfl⟩
  have yieldsExpected := meaning.values_subtype _ _ typed.1
    (withoutAny.yieldType _) yields
  have sendsExpected := meaning.values_subtype _ _ (withoutAny.sendType _)
    typed.2 sends
  rw [execution.interface_eq showsDeclared body]
  exact ⟨delegateReady,
    ⟨yieldsLess.trans yieldsExpected, sendsExpected.trans sendsMore⟩,
    fun result hasType => resumes result (returnsLess hasType)⟩

/-- Bodies that have been given what they expect keep to the interface callers
see. -/
def discipline : Discipline execution.acts where
  Keeps body interface :=
    execution.Ready body ∧ execution.interface body = interface
  yields := by
    rintro body _ value next ⟨ready, rfl⟩ act
    obtain ⟨expected, resumes⟩ :=
      execution.yields_expected showsDeclared checked withoutAny ready act
    refine ⟨expected, ?_⟩
    intro sent isSent
    obtain ⟨nextReady, sameFunction⟩ := resumes sent isSent
    exact ⟨nextReady, execution.interface_congr sameFunction⟩
  delegates := by
    rintro body _ delegate next ⟨ready, rfl⟩ act
    obtain ⟨delegateReady, passes, resumes⟩ :=
      execution.delegates_expected showsDeclared checked withoutAny toGenerators
        ready act
    refine ⟨_, ⟨delegateReady, rfl⟩, passes, ?_⟩
    intro result isResult
    obtain ⟨nextReady, sameFunction⟩ := resumes result isResult
    exact ⟨nextReady, execution.interface_congr sameFunction⟩
  returns := by
    rintro body _ result ⟨ready, rfl⟩ act
    exact execution.returns_expected showsDeclared ready act

end Execution

mutual

/-- The classes of the values of a type. Type arguments are erased. -/
def classNames : Ty → List String
  | .noneTyp => ["builtins.None"]
  | .inst fullname args =>
      if (markerOf (.inst fullname args)).isSome then [] else [fullname]
  | .union items => classNamesList items
  | .typeAlias _ target => classNames target
  | _ => []

/-- The classes of the values of some types. -/
def classNamesList : List Ty → List String
  | [] => []
  | type :: types => classNames type ++ classNamesList types

end

theorem mem_classNamesList
    {types : List Ty}
    {className : String} :
    className ∈ classNamesList types ↔
      ∃ type ∈ types, className ∈ classNames type := by
  induction types with
  | nil => simp [classNamesList]
  | cons type types inductionHypothesis =>
      rw [classNamesList, List.mem_append, inductionHypothesis,
        List.exists_mem_cons_iff]

/-- Only instances of one class, and `None`, are subtypes of each other. -/
def relayApi : CheckerApi where
  isSubtype subtype supertype :=
    match subtype, supertype with
    | .inst subName _, .inst superName _ =>
        subName = superName && (markerOf supertype).isNone
    | .noneTyp, .noneTyp => true
    | _, _ => false
  makeSimplifiedUnion := .union
  topFunction := none

theorem relayApi_isSubtype
    {subtype supertype : Ty}
    (isSubtype : relayApi.isSubtype subtype supertype = true) :
    ∀ className ∈ classNames subtype, className ∈ classNames supertype := by
  intro className member
  unfold relayApi at isSubtype
  dsimp only at isSubtype
  split at isSubtype
  · next subName subArgs superName superArgs =>
      rw [Bool.and_eq_true, decide_eq_true_eq, Option.isNone_iff_eq_none]
        at isSubtype
      obtain ⟨rfl, noMarker⟩ := isSubtype
      rw [classNames] at member ⊢
      rw [noMarker]
      split at member
      · cases member
      · exact member
  · exact member
  · cases isSubtype

theorem classNames_marker
    {type : Ty}
    (isMarker : markerOf type ≠ none) :
    classNames type = [] := by
  induction type using getProperType.induct with
  | case1 name target inductionHypothesis =>
      rw [classNames]
      exact inductionHypothesis isMarker
  | case2 type notAlias =>
      cases type with
      | inst fullname args =>
          rw [classNames, if_pos (Option.isSome_iff_ne_none.mpr isMarker)]
      | typeAlias name target => exact absurd rfl (notAlias name target)
      | _ => exact absurd rfl isMarker

/-- A value is represented by its class. -/
def relayMeaning : TypeMeaning relayApi String where
  values type := {className | className ∈ classNames type}
  values_typeAlias name target := by
    rw [classNames]
  values_union items className := by
    change className ∈ classNames (.union items) ↔ _
    rw [classNames]
    exact mem_classNamesList
  values_simplifiedUnion items className := by
    change className ∈ classNames (.union items) ↔ _
    rw [classNames]
    exact mem_classNamesList
  values_noReturn _ := List.not_mem_nil
  values_marker type isMarker className := by
    change className ∉ classNames type
    rw [classNames_marker isMarker]
    exact List.not_mem_nil
  values_subtype _ _ _ _ isSubtype := relayApi_isSubtype isSubtype

/-- The functions `inner` and `outer`. -/
inductive RelayName
  | inner
  | outer
  deriving DecidableEq, Repr

/-- Both are declared `async def f() -> Union[None, YieldType[int],
SendType[str]]`. The body of `inner` is `await yield_(0)`, that of `outer` is
`await yield_from_(inner())`. -/
def relayProgram : Program RelayName where
  function _ := {
    signature := {
      argTypes := []
      argKinds := []
      argNames := []
      retType := .union [.noneTyp,
        .inst "trio_typing.YieldType" [.inst "builtins.int" []],
        .inst "trio_typing.SendType" [.inst "builtins.str" []]]
      typeVariables := []
      isEllipsisArgs := false }
    inferredReturnType := .union [.noneTyp,
      .inst "trio_typing.YieldType" [.inst "builtins.int" []],
      .inst "trio_typing.SendType" [.inst "builtins.str" []]]
    isAnnotated := true
    unannotated annotated := by cases annotated }
  calls
    | .inner => [⟨.yield_, [[.inst "builtins.int" []]],
        .inst "typing.Coroutine" [.any .explicit, .any .explicit,
          .any .explicit]⟩]
    | .outer => [⟨.yieldFrom, [[.inst "trio_typing.CompatAsyncGenerator"
          [.inst "builtins.int" [], .inst "builtins.str" [],
            .union [.noneTyp]]]],
        .inst "typing.Coroutine" [.any .explicit, .any .explicit,
          .union [.noneTyp]]⟩]

/-- The bodies of the two functions before and after their call. -/
inductive RelayBody
  | before (name : RelayName)
  | after (name : RelayName)

/-- The function the body belongs to. -/
def RelayBody.name : RelayBody → RelayName
  | .before name => name
  | .after name => name

/-- What the bodies do. -/
def RelayBody.act : RelayBody → Action RelayBody String
  | .before .inner => .yields "builtins.int" fun _ => .after .inner
  | .before .outer => .delegates (.before .inner) fun _ => .after .outer
  | .after _ => .returns "builtins.None"

/-- The two functions at run time. -/
def relayExecution : Execution relayProgram relayMeaning RelayBody where
  acts body action := body.act = action
  function := RelayBody.name
  Ready _ := True
  yields {body} _ _ _ act := by
    cases body with
    | before name =>
        cases name with
        | inner =>
            cases act
            refine ⟨_, List.mem_singleton_self _, rfl,
              ⟨_, rfl, List.mem_singleton_self _⟩, ?_⟩
            exact fun _ _ _ _ => ⟨trivial, rfl⟩
        | outer => cases act
    | after _ => cases act
  delegates {body} _ _ _ act := by
    cases body with
    | before name =>
        cases name with
        | inner => cases act
        | outer =>
            cases act
            refine ⟨trivial, _, List.mem_singleton_self _, rfl, _,
              .union [.noneTyp], rfl, rfl, ?_, Set.Subset.rfl,
              fun _ _ => ⟨trivial, rfl⟩⟩
            rintro yieldType sendType ⟨fullname, -, rest, resolved⟩
            cases resolved
            exact ⟨Set.Subset.rfl, Set.Subset.rfl⟩
    | after _ => cases act
  returns {body} _ _ act := by
    cases body with
    | before name => cases name <;> cases act
    | after _ =>
        cases act
        exact List.mem_singleton_self _

end AsyncGenerator
end TrioTyping
