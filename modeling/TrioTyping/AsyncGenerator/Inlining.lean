import TrioTyping.AsyncGenerator.Runs
import TrioTyping.Delegation.Inlining

/-!
# Inlining generators

Delegating to another generator with `yield_from_` is meant to do what the body
of that generator would do in the place of the call. The main result says that
the plugin sees it this way: when nothing is reported for a program, nothing is
reported either after the bodies of delegates have been put in the place of
calls of `yield_from_`, to any depth, and every call that is moved in this way
has at least as precise a type as before.
-/

namespace TrioTyping
namespace AsyncGenerator

open Delegation

/-- What mypy's subtyping is like. It need not be transitive where `Any`
occurs. -/
structure TypedSubtyping (isSubtype : Ty → Ty → Bool) : Prop where
  /-- Subtyping is reflexive. -/
  refl : ∀ type, isSubtype type type = true
  /-- Subtyping is transitive between types without `Any`. -/
  trans : ∀ {first second third}, first.mentionsAny = false →
    second.mentionsAny = false → third.mentionsAny = false →
      isSubtype first second = true → isSubtype second third = true →
        isSubtype first third = true
  /-- `AsyncIterable` and `Awaitable` are covariant. -/
  covariant : ∀ fullname ∈ ["typing.AsyncIterable", "typing.Awaitable"],
    ∀ {type type'}, isSubtype type type' = true →
      isSubtype (.inst fullname [type]) (.inst fullname [type']) = true

/-! ## One call in another body -/

/-- The type of a call of `yield_from_` is that of the stub. -/
theorem check_yieldFrom_value
    {call : BodyCall}
    {api : CheckerApi}
    (isYieldFrom : call.callee = .yieldFrom) :
    (call.check api).value = call.defaultReturnType := by
  obtain ⟨callee, argTypes, defaultReturnType⟩ := call
  obtain rfl : callee = .yieldFrom := isYieldFrom
  rcases argTypes with _ | ⟨_ | ⟨first, _ | ⟨second, more⟩⟩, rest⟩
  · rfl
  · rfl
  · rfl
  · rfl

/-- So is the type of a call without an argument to look at. -/
theorem check_value_of_no_argument
    {call : BodyCall}
    {api : CheckerApi}
    (noArgument : call.argument = none) :
    (call.check api).value = call.defaultReturnType := by
  obtain ⟨callee, argTypes, defaultReturnType⟩ := call
  cases callee with
  | yield_ =>
      unfold BodyCall.argument at noArgument
      rcases argTypes with _ | ⟨_ | ⟨first, _ | ⟨second, more⟩⟩, rest⟩
      · cases noArgument
      · rfl
      · cases noArgument
      · rfl
  | yieldFrom => exact check_yieldFrom_value rfl

/-- The yield type and send type of a generator are typed. -/
structure AgenTypes.Typed (types : AgenTypes) : Prop where
  yieldType : types.yieldType.mentionsAny = false
  sendType : types.sendType.mentionsAny = false

/-- A generator can be delegated to by another one: it yields less and can be
sent more. -/
structure AgenTypes.Below
    (isSubtype : Ty → Ty → Bool)
    (inner outer : AgenTypes) : Prop where
  yields : isSubtype inner.yieldType outer.yieldType = true
  sends : isSubtype outer.sendType inner.sendType = true

section Subtyping

variable
  {isSubtype : Ty → Ty → Bool}
  (subtyping : TypedSubtyping isSubtype)

include subtyping

theorem AgenTypes.Below.refl (types : AgenTypes) :
    AgenTypes.Below isSubtype types types :=
  ⟨subtyping.refl _, subtyping.refl _⟩

theorem AgenTypes.Below.trans
    {first second third : AgenTypes}
    (typedFirst : first.Typed)
    (typedSecond : second.Typed)
    (typedThird : third.Typed)
    (below : AgenTypes.Below isSubtype first second)
    (below' : AgenTypes.Below isSubtype second third) :
    AgenTypes.Below isSubtype first third where
  yields := subtyping.trans typedFirst.yieldType typedSecond.yieldType
    typedThird.yieldType below.yields below'.yields
  sends := subtyping.trans typedThird.sendType typedSecond.sendType
    typedFirst.sendType below'.sends below.sends

/-- A delegate that fits a generator fits every generator above it. -/
theorem DelegateFits.mono
    {inner outer : AgenTypes}
    {argType : Ty}
    (typed : argType.mentionsAny = false)
    (typedInner : inner.Typed)
    (typedOuter : outer.Typed)
    (below : AgenTypes.Below isSubtype inner outer)
    (resolved : getProperType argType = argType)
    (fits : DelegateFits isSubtype inner.yieldType inner.sendType argType) :
    DelegateFits isSubtype outer.yieldType outer.sendType argType := by
  constructor
  · intro theirYieldType theirSendType isGenerator
    obtain ⟨yields, sends⟩ := fits.1 theirYieldType theirSendType isGenerator
    rw [← resolved] at isGenerator
    obtain ⟨typedYield, typedSend⟩ := isGenerator.mentionsAny_eq_false typed
    exact ⟨subtyping.trans typedYield typedInner.yieldType typedOuter.yieldType
        yields below.yields,
      subtyping.trans typedOuter.sendType typedInner.sendType typedSend
        below.sends sends⟩
  · intro notGenerator
    have iterable := fits.2 notGenerator
    have covariant := subtyping.covariant "typing.AsyncIterable" (by simp)
      below.yields
    refine subtyping.trans typed ?_ ?_ iterable covariant
    · simp [Ty.mentionsAny, Ty.mentionsAnyList, typedInner.yieldType]
    · simp [Ty.mentionsAny, Ty.mentionsAnyList, typedOuter.yieldType]

/-- A call that fits a generator fits every generator above it. -/
theorem BodyCall.Fits.mono
    {call : BodyCall}
    {inner outer : AgenTypes}
    (typed : ∀ arg, call.argument = some arg → arg.mentionsAny = false)
    (typedInner : inner.Typed)
    (typedOuter : outer.Typed)
    (below : AgenTypes.Below isSubtype inner outer)
    (fits : call.Fits isSubtype inner.yieldType inner.sendType) :
    call.Fits isSubtype outer.yieldType outer.sendType := by
  intro arg isArgument
  have fitsArgument := fits arg isArgument
  have typedArgument := typed arg isArgument
  cases isCallee : call.callee with
  | yield_ =>
      rw [isCallee] at fitsArgument
      exact subtyping.trans typedArgument typedInner.yieldType
        typedOuter.yieldType fitsArgument below.yields
  | yieldFrom =>
      rw [isCallee] at fitsArgument
      intro fullname args resolved
      have typedInstance : (Ty.inst fullname args).mentionsAny = false := by
        rw [← resolved, mentionsAny_getProperType]
        exact typedArgument
      exact (fitsArgument fullname args resolved).mono subtyping typedInstance
        typedInner typedOuter below rfl

/-- A call has a type in a generator that is at least as precise as the one it
has in a generator below. -/
theorem value_check_of_below
    {call : BodyCall}
    {outerApi innerApi : CheckerApi}
    {outer inner : AgenTypes}
    (outerDeclares : decodeEnclosingAgenTypes (call.context outerApi) =
      ⟨(outer.yieldType, outer.sendType), []⟩)
    (innerDeclares : decodeEnclosingAgenTypes (call.context innerApi) =
      ⟨(inner.yieldType, inner.sendType), []⟩)
    (below : AgenTypes.Below isSubtype inner outer) :
    isSubtype (call.check outerApi).value (call.check innerApi).value =
      true := by
  cases isArgument : call.argument with
  | none =>
      rw [check_value_of_no_argument isArgument,
        check_value_of_no_argument isArgument]
      exact subtyping.refl _
  | some arg =>
      cases isCallee : call.callee with
      | yield_ =>
          rw [check_yield_value isCallee isArgument,
            check_yield_value isCallee isArgument, outerDeclares, innerDeclares]
          exact subtyping.covariant "typing.Awaitable" (by simp) below.sends
      | yieldFrom =>
          rw [check_yieldFrom_value isCallee, check_yieldFrom_value isCallee]
          exact subtyping.refl _

end Subtyping

/-! ## Inlined programs -/

namespace Program

variable {Name : Type}

/-- The argument of the call is what calling the decorated function gives. -/
def DelegatesTo
    (program : Program Name)
    (api : CheckerApi)
    (call : BodyCall)
    (inner : Name) : Prop :=
  call.callee = .yieldFrom ∧
    ∃ arg signature,
      call.argument = some arg ∧
      ((program.function inner).decorate api).value = .callable signature ∧
      getProperType arg = signature.retType

/-- The same functions with other calls in their bodies. -/
def withCalls
    (program : Program Name)
    (calls : Name → List BodyCall) : Program Name :=
  { program with calls := calls }

namespace WithoutAny

variable
  {program : Program Name}
  {api : CheckerApi}
  (withoutAny : program.WithoutAny api)

include withoutAny

theorem typed (name : Name) : (program.agenTypes api name).Typed :=
  ⟨withoutAny.yieldType name, withoutAny.sendType name⟩

variable
  (checked : program.Checked api)
  (showsDeclared : program.ShowsDeclared api)

include checked showsDeclared

/-- A delegate is below the function that delegates to it. -/
theorem below_of_delegatesTo
    {name inner : Name}
    {call : BodyCall}
    (member : call ∈ program.calls name)
    (delegatesTo : program.DelegatesTo api call inner) :
    AgenTypes.Below api.isSubtype (program.agenTypes api inner)
      (program.agenTypes api name) := by
  obtain ⟨isYieldFrom, arg, signature, isArgument, isDecorated, called⟩ :=
    delegatesTo
  rw [AsyncFunction.decorate,
    asyncGeneratorCallback_decorated (program.function inner) _ rfl]
    at isDecorated
  cases isDecorated
  have fits := withoutAny.fits checked member arg isArgument
  rw [isYieldFrom] at fits
  obtain ⟨yields, sends⟩ := (fits _ _ called).1 _ _
    ⟨_, List.mem_cons_self, _, rfl⟩
  rw [← showsDeclared inner]
  exact ⟨yields, sends⟩

/-- Where a call comes from after inlining. -/
theorem origin_below
    (subtyping : TypedSubtyping api.isSubtype)
    {name : Name}
    {inlined : List (Name × BodyCall)}
    (isInlined :
      Inlined program.calls (program.DelegatesTo api) name inlined) :
    ∀ origin call, (origin, call) ∈ inlined →
      call ∈ program.calls origin ∧
        AgenTypes.Below api.isSubtype (program.agenTypes api origin)
          (program.agenTypes api name) :=
  @Inlined.origin_below _ _ _ _
    (fun inner outer => AgenTypes.Below api.isSubtype
      (program.agenTypes api inner) (program.agenTypes api outer))
    (fun _ => .refl subtyping _)
    (fun below below' => .trans subtyping (withoutAny.typed _)
      (withoutAny.typed _) (withoutAny.typed _) below below')
    (withoutAny.below_of_delegatesTo checked showsDeclared) _ _ isInlined

end WithoutAny
end Program

/-- Inlining delegates in a checked program in which no `Any` is compared and the
declared types are shown, in any bodies and to any depth, gives such a program
again. A call that ends up in another body has a type there that is a subtype of
the one it had in its own. -/
theorem checked_inlined
    {Name : Type}
    {program : Program Name}
    {api : CheckerApi}
    (checked : program.Checked api)
    (withoutAny : program.WithoutAny api)
    (showsDeclared : program.ShowsDeclared api)
    (subtyping : TypedSubtyping api.isSubtype)
    (inlined : Name → List (Name × BodyCall))
    (isInlined : ∀ name,
      Inlined program.calls (program.DelegatesTo api) name (inlined name)) :
    (program.withCalls fun name => (inlined name).map Prod.snd).Checked api ∧
      (program.withCalls fun name => (inlined name).map Prod.snd).WithoutAny
        api ∧
      ∀ name origin call, (origin, call) ∈ inlined name →
        api.isSubtype (call.check (program.bodyApi api name)).value
          (call.check (program.bodyApi api origin)).value = true := by
  have origin_below (name : Name) := withoutAny.origin_below checked
    showsDeclared subtyping (isInlined name)
  refine ⟨?_, ⟨withoutAny.yieldType, withoutAny.sendType, ?_⟩, ?_⟩
  · intro name
    have decorator := ((withoutAny.check_clean_iff name _).mp (checked name)).2
    refine (withoutAny.check_clean_iff name _).mpr ⟨?_, decorator⟩
    intro call member
    obtain ⟨⟨origin, _⟩, isMember, rfl⟩ := List.mem_map.mp member
    obtain ⟨isCall, below⟩ := origin_below name _ _ isMember
    exact (withoutAny.fits checked isCall).mono subtyping
      (withoutAny.arguments origin _ isCall) (withoutAny.typed origin)
      (withoutAny.typed name) below
  · intro name call member
    obtain ⟨⟨origin, _⟩, isMember, rfl⟩ := List.mem_map.mp member
    exact withoutAny.arguments origin _ (origin_below name _ _ isMember).1
  · intro name origin call member
    exact value_check_of_below subtyping (withoutAny.declares name call)
      (withoutAny.declares origin call) (origin_below name _ _ member).2

/-- A checker that knows that `int` is below `float`. -/
def levelApi : CheckerApi where
  isSubtype := levelSubtype
  makeSimplifiedUnion := .union
  topFunction := none

/-- `yield_(0)`. -/
def intCall : BodyCall :=
  ⟨.yield_, [[.inst "builtins.int" []]], .inst "typing.Coroutine"
    [.any .explicit, .any .explicit, .any .explicit]⟩

/-- `yield_from_(inner())`, with the types that `inner` has below. -/
def innerCall : BodyCall :=
  ⟨.yieldFrom, [[.inst "trio_typing.CompatAsyncGenerator"
      [.inst "builtins.int" [], .inst "builtins.float" [],
        .union [.noneTyp]]]], .inst "typing.Coroutine"
    [.any .explicit, .any .explicit, .union [.noneTyp]]⟩

/-- `Union[None, YieldType[int], SendType[float]]` and the other way round. -/
def numericReturnType : RelayName → Ty
  | .inner => .union [.noneTyp,
      .inst "trio_typing.YieldType" [.inst "builtins.int" []],
      .inst "trio_typing.SendType" [.inst "builtins.float" []]]
  | .outer => .union [.noneTyp,
      .inst "trio_typing.YieldType" [.inst "builtins.float" []],
      .inst "trio_typing.SendType" [.inst "builtins.int" []]]

/-- The body of `inner` is `await yield_(0)`, that of `outer` is `await
yield_from_(inner())`. -/
def numericProgram : Program RelayName where
  function name := {
    signature := {
      argTypes := []
      argKinds := []
      argNames := []
      retType := numericReturnType name
      typeVariables := []
      isEllipsisArgs := false }
    inferredReturnType := numericReturnType name
    isAnnotated := true
    unannotated annotated := by cases annotated }
  calls
    | .inner => [intCall]
    | .outer => [innerCall]

/-- The body of `inner` is accepted in `outer`, and there `yield_` is known to
give an `int`. -/
theorem checked_inlined_numeric :
    ((numericProgram.function .outer).check levelApi [intCall]).Clean ∧
      levelApi.isSubtype
        (intCall.check (numericProgram.bodyApi levelApi .outer)).value
        (intCall.check (numericProgram.bodyApi levelApi .inner)).value =
          true := by
  have checked : numericProgram.Checked levelApi := by
    intro name
    cases name <;> rfl
  have withoutAny : numericProgram.WithoutAny levelApi := by
    refine ⟨?_, ?_, ?_⟩
    · intro name
      cases name <;> rfl
    · intro name
      cases name <;> rfl
    · intro name call member arg isArgument
      cases name <;>
        · obtain rfl := List.mem_singleton.mp member
          cases isArgument
          rfl
  have subtyping : TypedSubtyping levelApi.isSubtype := by
    refine ⟨delegateHierarchy.refl, fun _ _ _ => delegateHierarchy.trans _ _ _, ?_⟩
    intro fullname named type type' isSubtype
    simp only [List.mem_cons, List.not_mem_nil, or_false] at named
    change levelSubtype type type' = true at isSubtype
    change levelSubtype _ _ = true
    simp only [levelSubtype, decide_eq_true_eq] at isSubtype ⊢
    rcases named with rfl | rfl
    · simpa [level] using isSubtype
    · simp [level, generatorClasses]
  have delegatesTo : numericProgram.DelegatesTo levelApi innerCall .inner :=
    ⟨rfl, _, _, rfl, rfl, rfl⟩
  have isInlined : ∀ name, Inlined numericProgram.calls
      (numericProgram.DelegatesTo levelApi) name [(.inner, intCall)] := by
    intro name
    cases name with
    | inner => exact Inlined.body RelayName.inner
    | outer =>
        exact @Inlined.inline RelayName _ _ _ .outer .outer .inner _ [] [] _
          (Inlined.body RelayName.outer) delegatesTo
          (Inlined.body RelayName.inner)
  obtain ⟨checkedInlined, -, precise⟩ :=
    checked_inlined checked withoutAny (.of_verbatim fun _ => rfl) subtyping _
      isInlined
  exact ⟨checkedInlined .outer,
    precise .outer .inner intCall (List.mem_singleton_self _)⟩

end AsyncGenerator
end TrioTyping
