import TrioTyping.AsyncGenerator.Callbacks
import TrioTyping.Mypy.Aliases

/-!
# Checking the argument of `yield_from_`

Inside an `@async_generator` with yield type `Y` and send type `S`, the argument
of `yield_from_` is checked in one of two ways, by its class: an instance of a
generator class, recognized by name, must yield subtypes of `Y` and accept `S`;
any other instance must be an `AsyncIterable[Y]`. Other types are not checked.

The two main results say exactly when the check of a union amounts to checking
its arms, and when a delegate that passes can be delegated to safely.
-/

namespace TrioTyping
namespace AsyncGenerator

/-- The classes whose instances are checked as generators. -/
def generatorClasses : List String :=
  ["trio_typing.CompatAsyncGenerator", "trio_typing.AsyncGenerator",
    "typing.AsyncGenerator"]

/-- The checks of `yield_from_callback` on a resolved argument type. -/
def checkDelegate
    (ctx : FunctionContext)
    (ourYieldType ourSendType argType : Ty) : Reported Unit :=
  match argType with
  | .inst fullname args =>
      if fullname ∈ generatorClasses then
        match args with
        | theirYieldType :: theirSendType :: _ => do
            ctx.api.checkSubtype theirYieldType ourYieldType
              "yield_from_ argument YieldType" "local declared YieldType"
            ctx.api.checkSubtype ourSendType theirSendType
              "local declared SendType" "yield_from_ argument SendType"
        | _ => checkIterable
      else checkIterable
  | _ => pure ()
where
  /-- The check of an instance that is not recognized as a generator. -/
  checkIterable : Reported Unit :=
    ctx.api.checkSubtype argType
      (ctx.api.namedGenericType "typing.AsyncIterable" [ourYieldType])
      "yield_from_ argument type" "expected iterable type"

/-- `yield_from_callback`. -/
def yieldFromCallback (ctx : FunctionContext) : Reported Ty :=
  match ctx.argTypes with
  | [arg] :: _ => do
      let argType := getProperType arg
      let (ourYieldType, ourSendType) ← decodeEnclosingAgenTypes ctx
      checkDelegate ctx ourYieldType ourSendType argType
      return ctx.defaultReturnType
  | _ => pure ctx.defaultReturnType

/-- A call of `yield_from_` with a single argument of the type reports no
error. -/
def AcceptsDelegate (ctx : FunctionContext) (arg : Ty) : Prop :=
  (yieldFromCallback { ctx with argTypes := [[arg]] }).Clean

/-- An instance recognized as a generator, with its yield and send types. -/
def IsGenerator (argType yieldType sendType : Ty) : Prop :=
  ∃ fullname ∈ generatorClasses, ∃ rest,
    argType = .inst fullname (yieldType :: sendType :: rest)

/-! ## When a call is accepted -/

section Enclosed

variable {ctx : FunctionContext} {yieldType sendType : Ty}

/-- Inside a well-formed declaration only the delegate is checked. -/
theorem acceptsDelegate_iff
    (declares : decodeEnclosingAgenTypes ctx = ⟨(yieldType, sendType), []⟩)
    (arg : Ty) :
    AcceptsDelegate ctx arg ↔
      (checkDelegate ctx yieldType sendType (getProperType arg)).Clean := by
  have declaresCall :
      decodeEnclosingAgenTypes { ctx with argTypes := [[arg]] } =
        ⟨(yieldType, sendType), []⟩ := declares
  unfold AcceptsDelegate yieldFromCallback Reported.Clean
  simp only [declaresCall, Reported.reports_bind, Reported.reports_pure,
    List.append_nil, List.nil_append]
  rfl

/-- A generator is accepted when it yields and accepts what the enclosing one
does. -/
theorem checkDelegate_generator
    {argType theirYieldType theirSendType : Ty}
    (isGenerator : IsGenerator argType theirYieldType theirSendType) :
    (checkDelegate ctx yieldType sendType argType).Clean ↔
      ctx.api.isSubtype theirYieldType yieldType = true ∧
        ctx.api.isSubtype sendType theirSendType = true := by
  obtain ⟨fullname, named, rest, rfl⟩ := isGenerator
  unfold checkDelegate Reported.Clean
  simp only [named, if_true, Reported.reports_bind, List.append_eq_nil_iff,
    CheckerApi.checkSubtype_reports_eq_nil]

/-- Any other instance is accepted when it is an iterable of the yield type. -/
theorem checkDelegate_iterable
    {fullname : String}
    {args : List Ty}
    (notGenerator : ∀ theirYieldType theirSendType,
      ¬IsGenerator (.inst fullname args) theirYieldType theirSendType) :
    (checkDelegate ctx yieldType sendType (.inst fullname args)).Clean ↔
      ctx.api.isSubtype (.inst fullname args)
        (.inst "typing.AsyncIterable" [yieldType]) = true := by
  have iterable :
      checkDelegate ctx yieldType sendType (.inst fullname args) =
        checkDelegate.checkIterable ctx yieldType (.inst fullname args) := by
    unfold checkDelegate
    by_cases named : fullname ∈ generatorClasses
    · simp only [named, if_true]
      rcases args with _ | ⟨first, _ | ⟨second, rest⟩⟩
      · rfl
      · rfl
      · exact absurd ⟨fullname, named, rest, rfl⟩ (notGenerator first second)
    · simp only [named, if_false]
  rw [iterable]
  exact CheckerApi.checkSubtype_reports_eq_nil _ _ _ _ _

end Enclosed

/-! ## Unions of delegates -/

/-- What one instance must satisfy to be delegated to, in terms of subtyping. -/
def DelegateFits
    (isSubtype : Ty → Ty → Bool)
    (yieldType sendType : Ty)
    (argType : Ty) : Prop :=
  (∀ theirYieldType theirSendType,
    IsGenerator argType theirYieldType theirSendType →
      isSubtype theirYieldType yieldType = true ∧
        isSubtype sendType theirSendType = true) ∧
  ((∀ theirYieldType theirSendType,
    ¬IsGenerator argType theirYieldType theirSendType) →
      isSubtype argType (.inst "typing.AsyncIterable" [yieldType]) = true)

/-- The yield and send types of a generator are determined. -/
theorem IsGenerator.unique
    {argType firstYield firstSend secondYield secondSend : Ty}
    (first : IsGenerator argType firstYield firstSend)
    (second : IsGenerator argType secondYield secondSend) :
    firstYield = secondYield ∧ firstSend = secondSend := by
  obtain ⟨_, _, _, rfl⟩ := first
  obtain ⟨_, _, _, same⟩ := second
  simp only [Ty.inst.injEq, List.cons.injEq] at same
  exact ⟨same.2.1, same.2.2.1⟩

/-- A single instance is accepted exactly when it fits. -/
theorem acceptsDelegate_inst_iff
    (ctx : FunctionContext)
    {yieldType sendType : Ty}
    (declares : decodeEnclosingAgenTypes ctx = ⟨(yieldType, sendType), []⟩)
    (fullname : String)
    (args : List Ty) :
    AcceptsDelegate ctx (.inst fullname args) ↔
      DelegateFits ctx.api.isSubtype yieldType sendType
        (.inst fullname args) := by
  rw [acceptsDelegate_iff declares, getProperType.eq_2 _ (by simp)]
  by_cases generator : ∃ theirYieldType theirSendType,
      IsGenerator (.inst fullname args) theirYieldType theirSendType
  · obtain ⟨theirYieldType, theirSendType, isGenerator⟩ := generator
    rw [checkDelegate_generator isGenerator]
    constructor
    · intro fits
      refine ⟨?_, fun notGenerator => absurd isGenerator (notGenerator _ _)⟩
      intro otherYield otherSend other
      obtain ⟨rfl, rfl⟩ := isGenerator.unique other
      exact fits
    · intro fits
      exact fits.1 _ _ isGenerator
  · have notGenerator : ∀ theirYieldType theirSendType,
        ¬IsGenerator (.inst fullname args) theirYieldType theirSendType :=
      fun theirYieldType theirSendType isGenerator =>
        generator ⟨theirYieldType, theirSendType, isGenerator⟩
    rw [checkDelegate_iterable notGenerator]
    constructor
    · intro isIterable
      exact ⟨fun _ _ isGenerator => absurd isGenerator (notGenerator _ _),
        fun _ => isIterable⟩
    · intro fits
      exact fits.2 notGenerator

/-- A union of instances, however it is written, is accepted exactly when all its
arms are, if and only if it is no proper union or every arm fits: a proper union
is never checked. -/
theorem acceptsDelegate_union_iff
    (ctx : FunctionContext)
    (yieldType sendType : Ty)
    (declares : decodeEnclosingAgenTypes ctx = ⟨(yieldType, sendType), []⟩)
    (arms : List (String × List Ty))
    (arg : Ty)
    (reaches : arg.unionArms = arms.map fun arm => .inst arm.1 arm.2) :
    (AcceptsDelegate ctx arg ↔
        ∀ arm ∈ arms, AcceptsDelegate ctx (.inst arm.1 arm.2)) ↔
      (∀ items, getProperType arg ≠ .union items) ∨
        ∀ arm ∈ arms,
          DelegateFits ctx.api.isSubtype yieldType sendType
            (.inst arm.1 arm.2) := by
  by_cases isUnion : ∃ items, getProperType arg = .union items
  · obtain ⟨items, resolved⟩ := isUnion
    have unchecked : AcceptsDelegate ctx arg := by
      rw [acceptsDelegate_iff declares, resolved]
      rfl
    simp only [unchecked, true_iff, acceptsDelegate_inst_iff ctx declares]
    constructor
    · exact .inr
    · rintro (notUnion | fits)
      · exact absurd resolved (notUnion items)
      · exact fits
  · have notUnion : ∀ items, getProperType arg ≠ .union items :=
      not_exists.mp isUnion
    refine iff_of_true ?_ (.inl notUnion)
    rw [Ty.unionArms_of_not_union notUnion] at reaches
    obtain ⟨arm, rfl, resolved⟩ := List.map_eq_singleton_iff.mp reaches.symm
    have sameArgument : AcceptsDelegate ctx arg ↔
        AcceptsDelegate ctx (.inst arm.1 arm.2) := by
      rw [acceptsDelegate_iff declares, acceptsDelegate_iff declares, ← resolved]
      rfl
    rw [sameArgument, List.forall_mem_singleton]

/-- The scope in the body of an `@async_generator` that yields `int` and is sent
instances of a class. -/
def intAgenScope (sendName : String) : FuncItem :=
  .funcDef {
    isCoroutine := true
    isDecorated := true
    type := some (.callable {
      argTypes := []
      argKinds := []
      argNames := []
      retType := .inst "typing.Coroutine" [.any .specialForm, .any .specialForm,
        .union [.noneTyp,
          .inst "trio_typing.YieldType" [.inst "builtins.int" []],
          .inst "trio_typing.SendType" [.inst sendName []]]]
      typeVariables := []
      isEllipsisArgs := false }) }

/-- The checker in the body of an `@async_generator` that yields `int` and is
sent `str`, where `bool` is a subtype of `int`. -/
def intAgenApi : CheckerApi where
  isSubtype subtype supertype :=
    match subtype, supertype with
    | .inst subName _, .inst superName _ =>
        subName = superName ||
          subName = "builtins.bool" && superName = "builtins.int"
    | _, _ => false
  makeSimplifiedUnion := .union
  topFunction := some (intAgenScope "builtins.str")

/-- `AsyncGenerator[yieldName, str]`. -/
def agenYielding (yieldName : String) : String × List Ty :=
  ("typing.AsyncGenerator", [.inst yieldName [], .inst "builtins.str" []])

/-- Two generators that fit are accepted, alone and in a union. -/
theorem acceptsDelegate_union_of_fitting :
    AcceptsDelegate ⟨[], .noneTyp, intAgenApi⟩
        (.union [
          .inst "typing.AsyncGenerator"
            [.inst "builtins.int" [], .inst "builtins.str" []],
          .inst "typing.AsyncGenerator"
            [.inst "builtins.bool" [], .inst "builtins.str" []]]) ↔
      ∀ arm ∈ [agenYielding "builtins.int", agenYielding "builtins.bool"],
        AcceptsDelegate ⟨[], .noneTyp, intAgenApi⟩ (.inst arm.1 arm.2) := by
  refine (acceptsDelegate_union_iff ⟨[], .noneTyp, intAgenApi⟩
    (.inst "builtins.int" []) (.inst "builtins.str" []) rfl
    [agenYielding "builtins.int", agenYielding "builtins.bool"] _ rfl).mpr
    (.inr ?_)
  intro arm member
  simp only [List.mem_cons, List.not_mem_nil, or_false] at member
  rcases member with rfl | rfl
  · exact (acceptsDelegate_inst_iff ⟨[], .noneTyp, intAgenApi⟩ rfl _ _).mp rfl
  · exact (acceptsDelegate_inst_iff ⟨[], .noneTyp, intAgenApi⟩ rfl _ _).mp rfl

/-- A union with a generator of strings is accepted where `int` is to be
yielded, although the generator of strings alone is not. -/
theorem acceptsDelegate_union_unchecked :
    decodeEnclosingAgenTypes ⟨[], .noneTyp, intAgenApi⟩ =
        ⟨(.inst "builtins.int" [], .inst "builtins.str" []), []⟩ ∧
      ¬(AcceptsDelegate ⟨[], .noneTyp, intAgenApi⟩
            (.union [
              .inst "typing.AsyncGenerator"
                [.inst "builtins.int" [], .inst "builtins.str" []],
              .inst "typing.AsyncGenerator"
                [.inst "builtins.str" [], .inst "builtins.str" []]]) ↔
          ∀ arm ∈ [agenYielding "builtins.int", agenYielding "builtins.str"],
            AcceptsDelegate ⟨[], .noneTyp, intAgenApi⟩
              (.inst arm.1 arm.2)) := by
  refine ⟨rfl, ?_⟩
  intro agree
  have armAccepted := agree.mp rfl (agenYielding "builtins.str") (by simp)
  cases armAccepted

/-! ## Delegating to a subclass of a generator -/

/-- A class hierarchy, as far as it concerns generators. `generatorArgs` maps an
instance to its type arguments as an `AsyncGenerator`. -/
structure AgenHierarchy (isSubtype : Ty → Ty → Bool) where
  /-- Full name of the class `AsyncGenerator`. -/
  asyncGenerator : String
  /-- The type arguments of the `AsyncGenerator` base of an instance. -/
  generatorArgs : Ty → Option (Ty × Ty)
  /-- Subtyping is reflexive. -/
  refl : ∀ type, isSubtype type type = true
  /-- Subtyping is transitive. -/
  trans : ∀ first second third, isSubtype first second = true →
    isSubtype second third = true → isSubtype first third = true
  /-- `AsyncGenerator` is covariant in the yield type and contravariant in the
  send type. -/
  variance : ∀ yieldType sendType yieldType' sendType',
    isSubtype yieldType yieldType' = true →
    isSubtype sendType' sendType = true →
    isSubtype (.inst asyncGenerator [yieldType, sendType])
      (.inst asyncGenerator [yieldType', sendType']) = true
  /-- A generator is an iterable of its yield type. -/
  iterable : ∀ yieldType sendType,
    isSubtype (.inst asyncGenerator [yieldType, sendType])
      (.inst "typing.AsyncIterable" [yieldType]) = true
  /-- An instance is a subtype of its base. -/
  base : ∀ argType yieldType sendType,
    generatorArgs argType = some (yieldType, sendType) →
    isSubtype argType (.inst asyncGenerator [yieldType, sendType]) = true
  /-- A generator is an iterable only of supertypes of its yield type. -/
  iterableArg : ∀ argType yieldType sendType elementType,
    generatorArgs argType = some (yieldType, sendType) →
    isSubtype argType (.inst "typing.AsyncIterable" [elementType]) = true →
    isSubtype yieldType elementType = true
  /-- The recognized classes pass their first two arguments on. -/
  recognized : ∀ argType yieldType sendType,
    IsGenerator argType yieldType sendType →
    generatorArgs argType = some (yieldType, sendType)

namespace AgenHierarchy

variable {isSubtype : Ty → Ty → Bool} (hierarchy : AgenHierarchy isSubtype)

/-- A generator is an iterable of exactly the supertypes of its yield type. -/
theorem iterable_iff
    {argType yieldType sendType : Ty}
    (base : hierarchy.generatorArgs argType = some (yieldType, sendType))
    (elementType : Ty) :
    isSubtype argType (.inst "typing.AsyncIterable" [elementType]) = true ↔
      isSubtype yieldType elementType = true := by
  constructor
  · exact hierarchy.iterableArg _ _ _ _ base
  · intro yields
    have asGenerator := hierarchy.base _ _ _ base
    have widened := hierarchy.variance yieldType sendType elementType sendType
      yields (hierarchy.refl sendType)
    have asIterable := hierarchy.iterable elementType sendType
    exact hierarchy.trans _ _ _ (hierarchy.trans _ _ _ asGenerator widened)
      asIterable

end AgenHierarchy

/-- A delegate that is accepted is an iterable of the yield type, yields only
subtypes of it, and takes whatever the enclosing generator can be sent. -/
def SoundDelegate
    {ctx : FunctionContext}
    (hierarchy : AgenHierarchy ctx.api.isSubtype)
    (yieldType sendType argType : Ty) : Prop :=
  AcceptsDelegate ctx argType →
    ctx.api.isSubtype argType
        (.inst "typing.AsyncIterable" [yieldType]) = true ∧
      ∀ theirYieldType theirSendType,
        hierarchy.generatorArgs argType =
            some (theirYieldType, theirSendType) →
          ctx.api.isSubtype theirYieldType yieldType = true ∧
            ctx.api.isSubtype sendType theirSendType = true

/-- The check is sound for the recognized classes, for iterables that are no
generators, and for other generators exactly when their send type is wide
enough or their yield type is wrong anyway. -/
theorem soundDelegate_iff
    (ctx : FunctionContext)
    (hierarchy : AgenHierarchy ctx.api.isSubtype)
    (yieldType sendType : Ty)
    (declares : decodeEnclosingAgenTypes ctx = ⟨(yieldType, sendType), []⟩)
    (fullname : String)
    (args : List Ty) :
    SoundDelegate hierarchy yieldType sendType (.inst fullname args) ↔
      (fullname ∈ generatorClasses ∧ 2 ≤ args.length) ∨
        ∀ theirYieldType theirSendType,
          hierarchy.generatorArgs (.inst fullname args) =
              some (theirYieldType, theirSendType) →
            ctx.api.isSubtype theirYieldType yieldType = true →
              ctx.api.isSubtype sendType theirSendType = true := by
  unfold SoundDelegate
  rw [acceptsDelegate_inst_iff ctx declares]
  by_cases recognized : fullname ∈ generatorClasses ∧ 2 ≤ args.length
  · obtain ⟨named, enough⟩ := recognized
    rcases args with _ | ⟨theirYieldType, _ | ⟨theirSendType, rest⟩⟩
    · simp at enough
    · simp at enough
    · have isGenerator : IsGenerator
          (.inst fullname (theirYieldType :: theirSendType :: rest))
          theirYieldType theirSendType := ⟨fullname, named, rest, rfl⟩
      have base := hierarchy.recognized _ _ _ isGenerator
      refine iff_of_true ?_ (.inl ⟨named, enough⟩)
      intro fits
      obtain ⟨yields, sends⟩ := fits.1 _ _ isGenerator
      refine ⟨(hierarchy.iterable_iff base yieldType).mpr yields, ?_⟩
      intro otherYield otherSend otherBase
      rw [base] at otherBase
      cases otherBase
      exact ⟨yields, sends⟩
  · have notGenerator : ∀ theirYieldType theirSendType,
        ¬IsGenerator (.inst fullname args) theirYieldType theirSendType := by
      rintro theirYieldType theirSendType ⟨_, named, rest, same⟩
      simp only [Ty.inst.injEq] at same
      obtain ⟨rfl, rfl⟩ := same
      exact recognized ⟨named, by simp⟩
    rw [or_iff_right recognized]
    constructor
    · intro sound theirYieldType theirSendType base yields
      have asIterable := (hierarchy.iterable_iff base yieldType).mpr yields
      have fits : DelegateFits ctx.api.isSubtype yieldType sendType
          (.inst fullname args) :=
        ⟨fun _ _ isGenerator => absurd isGenerator (notGenerator _ _),
          fun _ => asIterable⟩
      exact ((sound fits).2 _ _ base).2
    · intro sends fits
      have asIterable := fits.2 notGenerator
      refine ⟨asIterable, ?_⟩
      intro theirYieldType theirSendType base
      have yields := (hierarchy.iterable_iff base yieldType).mp asIterable
      exact ⟨yields, sends _ _ base yields⟩

/-- The type arguments as an `AsyncGenerator`, when `app.Delegate` is a class
derived from `AsyncGenerator[int, int]`. -/
def delegateArgs : Ty → Option (Ty × Ty)
  | .inst fullname args =>
      if fullname ∈ generatorClasses then
        match args with
        | yieldType :: sendType :: _ => some (yieldType, sendType)
        | _ => none
      else if fullname = "app.Delegate" ∧ args.length = 0 then
        some (.inst "builtins.int" [], .inst "builtins.int" [])
      else none
  | _ => none

/-- A level for every type: subtypes have lower levels. `int` is below `float`,
and generators and iterables are ordered by what they yield. -/
def level : Ty → Nat
  | .inst fullname (yieldType :: _) =>
      if fullname ∈ "typing.AsyncIterable" :: generatorClasses then
        2 + level yieldType
      else 0
  | .inst fullname [] =>
      if fullname = "builtins.float" then 1
      else if fullname = "app.Delegate" then 2
      else 0
  | _ => 0

/-- Subtyping by levels. -/
def levelSubtype (subtype supertype : Ty) : Bool :=
  level subtype ≤ level supertype

/-- The level of a type with a generator base is that of its yield type, raised
by two. -/
theorem level_of_delegateArgs
    {argType yieldType sendType : Ty}
    (base : delegateArgs argType = some (yieldType, sendType)) :
    level argType = 2 + level yieldType := by
  cases argType with
  | inst fullname args =>
      simp only [delegateArgs] at base
      by_cases named : fullname ∈ generatorClasses
      · rw [if_pos named] at base
        rcases args with _ | ⟨first, _ | ⟨second, rest⟩⟩
        · cases base
        · cases base
        · cases base
          simp [level, named]
      · rw [if_neg named] at base
        split_ifs at base with derived
        simp only [Option.some.injEq, Prod.mk.injEq] at base
        obtain ⟨rfl, rfl⟩ := base
        obtain ⟨rfl, empty⟩ := derived
        rw [List.length_eq_zero_iff] at empty
        subst empty
        rfl
  | _ => cases base

/-- A hierarchy in which `app.Delegate` is derived from
`AsyncGenerator[int, int]`. -/
def delegateHierarchy : AgenHierarchy levelSubtype where
  asyncGenerator := "typing.AsyncGenerator"
  generatorArgs := delegateArgs
  refl _ := by simp [levelSubtype]
  trans _ _ _ first second := by
    simp only [levelSubtype, decide_eq_true_eq] at first second ⊢
    omega
  variance yieldType _ yieldType' _ yields _ := by
    simp only [levelSubtype, decide_eq_true_eq] at yields ⊢
    simpa [level, generatorClasses] using yields
  iterable _ _ := by simp [levelSubtype, level, generatorClasses]
  base _ _ _ base := by
    simp [levelSubtype, level_of_delegateArgs base, level, generatorClasses]
  iterableArg _ _ _ _ base isIterable := by
    simpa [levelSubtype, level_of_delegateArgs base, level] using isIterable
  recognized _ _ _ isGenerator := by
    obtain ⟨_, named, _, rfl⟩ := isGenerator
    simp [delegateArgs, named]

/-- The checker in the body of an `@async_generator` that yields `int` and is
sent `float`. -/
def delegateApi : CheckerApi where
  isSubtype := levelSubtype
  makeSimplifiedUnion := .union
  topFunction := some (intAgenScope "builtins.float")

/-- A plain `AsyncGenerator[int, float]` is checked soundly. -/
theorem soundDelegate_recognized :
    @SoundDelegate ⟨[], .noneTyp, delegateApi⟩ delegateHierarchy
      (.inst "builtins.int" []) (.inst "builtins.float" [])
      (.inst "typing.AsyncGenerator"
        [.inst "builtins.int" [], .inst "builtins.float" []]) :=
  (soundDelegate_iff ⟨[], .noneTyp, delegateApi⟩ delegateHierarchy
    (.inst "builtins.int" []) (.inst "builtins.float" []) rfl
    "typing.AsyncGenerator" _).mpr (.inl ⟨by decide, by decide⟩)

/-- A delegate of a class derived from `AsyncGenerator[int, int]` is accepted
where `float` values can be sent. -/
theorem soundDelegate_fails_derived :
    decodeEnclosingAgenTypes ⟨[], .noneTyp, delegateApi⟩ =
        ⟨(.inst "builtins.int" [], .inst "builtins.float" []), []⟩ ∧
      AcceptsDelegate ⟨[], .noneTyp, delegateApi⟩ (.inst "app.Delegate" []) ∧
      delegateHierarchy.generatorArgs (.inst "app.Delegate" []) =
        some (.inst "builtins.int" [], .inst "builtins.int" []) ∧
      ¬@SoundDelegate ⟨[], .noneTyp, delegateApi⟩ delegateHierarchy
        (.inst "builtins.int" []) (.inst "builtins.float" [])
        (.inst "app.Delegate" []) := by
  refine ⟨rfl, rfl, rfl, ?_⟩
  intro sound
  have sends := ((sound rfl).2 _ _ rfl).2
  cases sends

end AsyncGenerator
end TrioTyping
