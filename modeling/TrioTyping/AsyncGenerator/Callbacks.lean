import TrioTyping.AsyncGenerator.Decode

/-!
# The two views of an `@async_generator` function

Callers see the type that `async_generator_callback` gives the decorated
function. Inside the body, `yield_` and `yield_from_` are checked against the
types that `decode_enclosing_agen_types` reads off the enclosing definition.
The first starts from the type inferred for the decorator call, the second from
the function definition; the main result says that they agree.
-/

namespace TrioTyping
namespace AsyncGenerator

/-! ## The callbacks -/

/-- `async_generator_callback`. -/
def asyncGeneratorCallback (ctx : FunctionContext) : Reported Ty :=
  match ctx.defaultReturnType with
  | .callable decoratorReturnType =>
      match getProperType decoratorReturnType.retType with
      | .inst fullname [_, _, returnArg] =>
          if fullname = "trio_typing.CompatAsyncGenerator" then do
            let types ← decodeAgenTypesFromReturnType ctx.api returnArg
            return .callable { decoratorReturnType with
              retType := .inst fullname
                [types.yieldType, types.sendType, types.returnType] }
          else pure ctx.defaultReturnType
      | _ => pure ctx.defaultReturnType
  | _ => pure ctx.defaultReturnType

/-- `decode_enclosing_agen_types`. -/
def decodeEnclosingAgenTypes (ctx : FunctionContext) : Reported (Ty × Ty) :=
  match ctx.api.topFunction with
  | some (.funcDef enclosingFunc) =>
      if !enclosingFunc.isCoroutine || !enclosingFunc.isDecorated then
        outsideAsyncGenerator
      else
        match enclosingFunc.type with
        | some (.callable funcType) =>
            match funcType.retType with
            | .inst fullname [_, _, returnArg] =>
                if fullname = "typing.Coroutine" then do
                  let types ← decodeAgenTypesFromReturnType ctx.api returnArg
                  return (types.yieldType, types.sendType)
                else pure untyped
            | _ => pure untyped
        | _ => pure untyped
  | _ => outsideAsyncGenerator
where
  /-- The enclosing function cannot be an `@async_generator`. -/
  outsideAsyncGenerator : Reported (Ty × Ty) := do
    fail "async_generator.yield_() outside an @async_generator func"
    return (.any .fromError, .any .fromError)
  /-- The enclosing function has no type of the expected form. -/
  untyped : Ty × Ty :=
    (.any .implementationArtifact, .any .implementationArtifact)

/-- The part of `yield_callback` after the type of the argument is known. -/
def yieldArgument (ctx : FunctionContext) (argType : Ty) : Reported Ty := do
  let (yieldType, sendType) ← decodeEnclosingAgenTypes ctx
  ctx.api.checkSubtype argType yieldType
    "yield_ argument" "declared YieldType"
  return ctx.api.namedGenericType "typing.Awaitable" [sendType]

/-- `yield_callback`. -/
def yieldCallback (ctx : FunctionContext) : Reported Ty :=
  match ctx.argTypes with
  | [] => yieldArgument ctx .noneTyp
  | [argType] :: _ => yieldArgument ctx argType
  | _ => pure ctx.defaultReturnType

/-! ## What mypy passes to the callbacks -/

/-- An `async def` decorated directly with `@async_generator`. -/
structure AsyncFunction where
  /-- Its parameters and declared return type; `Any` where an annotation is
  missing. -/
  signature : CallableType
  /-- What mypy solves the type variable of the decorator as. It need not be the
  declared return type: mypy may simplify a union. -/
  inferredReturnType : Ty
  /-- It has some annotation. -/
  isAnnotated : Bool
  /-- Without any annotation nothing is known about the return type. -/
  unannotated : isAnnotated = false → signature.retType = .any .unannotated

namespace AsyncFunction

/-- The definition on the scope stack while the body is checked. An annotated
`async def` returns a coroutine. -/
def funcDef (function : AsyncFunction) : FuncDef where
  isCoroutine := true
  isDecorated := true
  type :=
    if function.isAnnotated then
      some (.callable { function.signature with
        retType := .inst "typing.Coroutine"
          [.any .specialForm, .any .specialForm,
            function.signature.retType] })
    else none

/-- The type inferred for the decorated function from the annotation of
`async_generator`. -/
def decoratedType (function : AsyncFunction) : CallableType :=
  { function.signature with
    retType := .inst "trio_typing.CompatAsyncGenerator"
      [.any .explicit, .any .explicit, function.inferredReturnType] }

end AsyncFunction

/-- What a caller of a generator can do with it: the types of the awaited
results of `__anext__` and `asend`, and of the argument of `asend`. -/
structure AgenInterface where
  /-- Awaited result of `__anext__`. -/
  anextResult : Ty
  /-- Argument of `asend`. -/
  asendValue : Ty
  /-- Awaited result of `asend`. -/
  asendResult : Ty

/-- The interface `CompatAsyncGenerator` declares. -/
def agenInterface : Ty → Option AgenInterface
  | .inst fullname [yieldType, sendType, _] =>
      if fullname = "trio_typing.CompatAsyncGenerator" then
        some ⟨yieldType, sendType, yieldType⟩
      else none
  | _ => none

/-- The same type, except that an `Any` may be of another kind. -/
def SameType (first second : Ty) : Prop :=
  first = second ∨
    ∃ firstKind secondKind, first = .any firstKind ∧ second = .any secondKind

/-! ## Agreement -/

/-- Yield type and send type do not depend on the checker. -/
theorem decodeAgenTypesFromReturnType_api
    (first second : CheckerApi)
    (declared : Ty) :
    (decodeAgenTypesFromReturnType first declared).value.yieldType =
        (decodeAgenTypesFromReturnType second declared).value.yieldType ∧
      (decodeAgenTypesFromReturnType first declared).value.sendType =
        (decodeAgenTypesFromReturnType second declared).value.sendType := by
  unfold decodeAgenTypesFromReturnType
  split
  · exact ⟨rfl, rfl⟩
  · split <;> exact ⟨rfl, rfl⟩

/-- What callers see. -/
theorem asyncGeneratorCallback_decorated
    (function : AsyncFunction)
    (ctx : FunctionContext)
    (decorates : ctx.defaultReturnType = .callable function.decoratedType) :
    (asyncGeneratorCallback ctx).value =
      .callable { function.decoratedType with
        retType := .inst "trio_typing.CompatAsyncGenerator"
          [(decodeAgenTypesFromReturnType ctx.api
              function.inferredReturnType).value.yieldType,
            (decodeAgenTypesFromReturnType ctx.api
              function.inferredReturnType).value.sendType,
            (decodeAgenTypesFromReturnType ctx.api
              function.inferredReturnType).value.returnType] } := by
  unfold asyncGeneratorCallback
  rw [decorates]
  rfl

/-- What the body is checked against. -/
theorem decodeEnclosingAgenTypes_enclosed
    (function : AsyncFunction)
    (ctx : FunctionContext)
    (encloses : ctx.api.topFunction = some (.funcDef function.funcDef)) :
    SameType (decodeEnclosingAgenTypes ctx).value.1
        (decodeAgenTypesFromReturnType ctx.api
          function.signature.retType).value.yieldType ∧
      SameType (decodeEnclosingAgenTypes ctx).value.2
        (decodeAgenTypesFromReturnType ctx.api
          function.signature.retType).value.sendType := by
  unfold decodeEnclosingAgenTypes
  rw [encloses]
  cases annotated : function.isAnnotated with
  | true =>
      simp only [AsyncFunction.funcDef, annotated]
      exact ⟨.inl rfl, .inl rfl⟩
  | false =>
      rw [function.unannotated annotated]
      simp only [AsyncFunction.funcDef, annotated]
      exact ⟨.inr ⟨_, _, rfl, rfl⟩, .inr ⟨_, _, rfl, rfl⟩⟩

/-- A `yield_` call that is reported without error has an argument of the yield
type, and awaiting it gives the send type. -/
theorem yieldArgument_clean
    (ctx : FunctionContext)
    (argType : Ty)
    (clean : (yieldArgument ctx argType).Clean) :
    ctx.api.isSubtype argType (decodeEnclosingAgenTypes ctx).value.1 = true ∧
      (yieldArgument ctx argType).value =
        .inst "typing.Awaitable" [(decodeEnclosingAgenTypes ctx).value.2] := by
  unfold Reported.Clean yieldArgument at clean
  simp only [Reported.reports_bind, List.append_eq_nil_iff,
    CheckerApi.checkSubtype_reports_eq_nil] at clean
  exact ⟨clean.2.1, rfl⟩

/-- The consumer's types are the producer's, whatever the function declares, if
mypy infers the declared return type for the decorated function: the callback
replaces the types of the generator and nothing else, calls of `yield_` are
checked against the same two types, and so every call that is reported without
error passes a value callers can receive and is resumed with the type callers
must send. -/
theorem producer_consumer_agree
    (function : AsyncFunction)
    (producer consumer : FunctionContext)
    (solved : function.inferredReturnType = function.signature.retType)
    (decorates : producer.defaultReturnType = .callable function.decoratedType)
    (encloses : consumer.api.topFunction = some (.funcDef function.funcDef))
    (subtypeAny : ∀ type kind,
      consumer.api.isSubtype type (.any kind) = true) :
    ∃ generator interface,
      (asyncGeneratorCallback producer).value =
          .callable { function.decoratedType with retType := generator } ∧
        agenInterface generator = some interface ∧
        interface.asendResult = interface.anextResult ∧
        SameType (decodeEnclosingAgenTypes consumer).value.1
          interface.anextResult ∧
        SameType (decodeEnclosingAgenTypes consumer).value.2
          interface.asendValue ∧
        ∀ argType,
          consumer.argTypes = [] ∧ argType = .noneTyp ∨
              consumer.argTypes = [[argType]] →
            (yieldCallback consumer).Clean →
              consumer.api.isSubtype argType interface.anextResult = true ∧
                ∃ awaited,
                  (yieldCallback consumer).value =
                      .inst "typing.Awaitable" [awaited] ∧
                    SameType awaited interface.asendValue := by
  have produced := asyncGeneratorCallback_decorated function producer decorates
  rw [solved] at produced
  have consumed := decodeEnclosingAgenTypes_enclosed function consumer encloses
  have sameDecoding := decodeAgenTypesFromReturnType_api producer.api
    consumer.api function.signature.retType
  rw [← sameDecoding.1, ← sameDecoding.2] at consumed
  refine ⟨_, _, produced, rfl, rfl, consumed.1, consumed.2, ?_⟩
  intro argType calls clean
  have called : yieldCallback consumer = yieldArgument consumer argType := by
    unfold yieldCallback
    rcases calls with ⟨noArgument, rfl⟩ | oneArgument
    · rw [noArgument]
    · rw [oneArgument]
  rw [called] at clean ⊢
  obtain ⟨fits, value⟩ := yieldArgument_clean consumer argType clean
  refine ⟨?_, _, value, consumed.2⟩
  rcases consumed.1 with same | ⟨_, _, -, isAny⟩
  · rw [← same]
    exact fits
  · rw [isAny]
    exact subtypeAny _ _

/-- `Tuple[int, int]`. -/
def intPair : Ty :=
  .other "tuple" [.inst "builtins.int" [], .inst "builtins.int" []]

/-- `async def test_agen(x: int, y: str) -> Union[str,
YieldType[Tuple[int, int]], SendType[float]]`. -/
def testAgen : AsyncFunction where
  signature := {
    argTypes := [.inst "builtins.int" [], .inst "builtins.str" []]
    argKinds := [.pos, .pos]
    argNames := [some "x", some "y"]
    retType := .union [.inst "builtins.str" [],
      .inst "trio_typing.YieldType" [intPair],
      .inst "trio_typing.SendType" [.inst "builtins.float" []]]
    typeVariables := []
    isEllipsisArgs := false }
  inferredReturnType := .union [.inst "builtins.str" [],
    .inst "trio_typing.YieldType" [intPair],
    .inst "trio_typing.SendType" [.inst "builtins.float" []]]
  isAnnotated := true
  unannotated annotated := by cases annotated

/-- The checker in the body of `test_agen`, with tuples below tuples and
everything below `Any`. -/
def testAgenApi : CheckerApi where
  isSubtype subtype supertype :=
    match subtype, supertype with
    | _, .any _ => true
    | .other subTag _, .other superTag _ => subTag = superTag
    | _, _ => false
  makeSimplifiedUnion := .union
  topFunction := some (.funcDef testAgen.funcDef)

/-- `yield_((4, 5))` in the body of `test_agen` passes what callers receive. -/
theorem producer_consumer_agree_testAgen :
    ∃ generator interface,
      (asyncGeneratorCallback
          ⟨[], .callable testAgen.decoratedType, testAgenApi⟩).value =
          .callable { testAgen.decoratedType with retType := generator } ∧
        agenInterface generator = some interface ∧
        testAgenApi.isSubtype intPair interface.anextResult = true := by
  obtain ⟨generator, interface, value, found, -, -, -, calls⟩ :=
    producer_consumer_agree testAgen
      ⟨[], .callable testAgen.decoratedType, testAgenApi⟩
      ⟨[[intPair]], .any .explicit, testAgenApi⟩ rfl rfl rfl
      (fun type _ => by cases type <;> rfl)
  exact ⟨generator, interface, value, found,
    (calls intPair (.inr rfl) rfl).1⟩

end AsyncGenerator
end TrioTyping
