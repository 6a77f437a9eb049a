import TrioTyping.Calling.Arity
import TrioTyping.Calling.Fitting
import TrioTyping.TakesCallable.Expansion

/-!
# `Nursery.start_soon` and `Nursery.start` with and without the plugin

Without the plugin the two methods accept any function that fits one of the arms
of a union, in which the arities are listed by hand; with the plugin they have
an overload for each arity. Types of arguments and results are ignored here: a
function fits a callable type when it accepts every call of the form the callable
type admits. The main result says for which functions and numbers of arguments
the plugin accepts nothing that is rejected without it.
-/

namespace TrioTyping
namespace Stubs

open Calling TakesCallable

/-! ## The stubs -/

/-- `Awaitable[Any]`. -/
def awaitableAny : Ty :=
  .inst "typing.Awaitable" [.any .explicit]

/-- An arm that lists an arity: `Callable[[Any, …], Awaitable[Any]]`, perhaps
with a `NamedArg`. -/
def listedArm
    (namedArg : Option (String × Ty))
    (count : Nat) : CallableType where
  argTypes := List.replicate count (.any .explicit) ++
    namedArg.toList.map Prod.snd
  argKinds := List.replicate count .pos ++ namedArg.toList.map fun _ => .named
  argNames := List.replicate count none ++
    namedArg.toList.map fun entry => some entry.1
  retType := awaitableAny
  typeVariables := []
  isEllipsisArgs := false

/-- The last arm: `Callable[[VarArg()], Awaitable[Any]]`, perhaps with a
`NamedArg`. -/
def varArgArm (namedArg : Option (String × Ty)) : CallableType where
  argTypes := .any .explicit :: namedArg.toList.map Prod.snd
  argKinds := .star :: namedArg.toList.map fun _ => .named
  argNames := none :: namedArg.toList.map fun entry => some entry.1
  retType := awaitableAny
  typeVariables := []
  isEllipsisArgs := false

/-- The type of `async_fn`: arms for zero to four arguments and the one with
`VarArg()`. -/
def asyncFnType (namedArg : Option (String × Ty)) : Ty :=
  .union ((List.range 5).map (fun count => .callable (listedArm namedArg count)) ++
    [.callable (varArgArm namedArg)])

/-- `self`, `async_fn`, `*args: Any` and `name: object = None`. -/
def nurseryMethod
    (namedArg : Option (String × Ty))
    (retType : Ty)
    (typeVariables : List TypeVarType) : CallableType where
  argTypes := [.inst "trio.Nursery" [], asyncFnType namedArg, .any .explicit,
    .inst "builtins.object" []]
  argKinds := [.pos, .pos, .star, .namedOpt]
  argNames := [some "self", some "async_fn", some "args", some "name"]
  retType := retType
  typeVariables := typeVariables
  isEllipsisArgs := false

/-- The type variable `_T` of `start`. -/
def startTypeVar : TypeVarType :=
  ⟨"_T", "trio._T", -1, [], .inst "builtins.object" [], none⟩

/-- The two methods. -/
inductive NurseryMethod
  | startSoon
  | start
  deriving DecidableEq, Repr

namespace NurseryMethod

/-- `NamedArg(TaskStatus[_T], "task_status")` in the callables of `start`. -/
def namedArg : NurseryMethod → Option (String × Ty)
  | .startSoon => none
  | .start => some
      ("task_status", .inst "trio_typing.TaskStatus" [.typeVar startTypeVar])

/-- The signature in the stub. -/
def signature : NurseryMethod → CallableType
  | .startSoon => nurseryMethod (namedArg .startSoon) .noneTyp []
  | .start => nurseryMethod (namedArg .start)
      (.inst "typing.Coroutine"
        [.any .specialForm, .any .specialForm, .typeVar startTypeVar])
      [startTypeVar]

/-- The decorator applied to the method. -/
def context (method : NurseryMethod) (api : CheckerApi) : FunctionContext where
  argTypes := [[.callable method.signature]]
  defaultReturnType := .callable method.signature
  api := api

/-- The keywords passed to the function: `task_status` by `start`. -/
def keywords (method : NurseryMethod) : List String :=
  method.namedArg.toList.map Prod.fst

end NurseryMethod

/-! ## Fitting without types -/

/-- The function accepts every call the callable type admits, and has `*args` if
the callable type has. -/
structure FitsShape (f signature : CallableType) : Prop where
  /-- Calls of the callable type are calls of the function. -/
  calls : ∀ shape : CallShape, shape.AcceptedBy signature.formals →
    shape.AcceptedBy f.formals
  /-- `*args` is matched by `*args` only. -/
  star : .star ∈ signature.argKinds → .star ∈ f.argKinds

/-- The function can be passed for a parameter of the type; a union takes what
one of its arms takes. -/
def FunctionFits (f : CallableType) (type : Ty) : Prop :=
  match getProperType type with
  | .callable signature => FitsShape f signature
  | .union items => ∃ signature,
      .callable signature ∈ getProperTypes items ∧ FitsShape f signature
  | _ => True

/-- The arguments of a call of the method. -/
inductive Argument
  | function
  | value
  deriving DecidableEq, Repr

/-- Only the function is looked at. -/
def ArgumentFits (f : CallableType) : Argument → Ty → Prop
  | .function, type => FunctionFits f type
  | .value, _ => True

/-- The receiver, the function and some extra arguments. -/
def methodCall (count : Nat) : Supply Argument :=
  ⟨.value :: .function :: List.replicate count .value, []⟩

/-- Without the plugin, where `takes_callable_and_args: (T) -> T`, the call
type-checks. -/
def PlainAccepts
    (method : NurseryMethod)
    (f : CallableType)
    (count : Nat) : Prop :=
  Accepts (ArgumentFits f) method.signature.formals (methodCall count)

/-- With the plugin, the call type-checks against one of the overloads. -/
def PluginAccepts
    (method : NurseryMethod)
    (api : CheckerApi)
    (hasTypeVarDefault : Bool)
    (f : CallableType)
    (count : Nat) : Prop :=
  ∃ expanded,
    takesCallableAndArgsCallback (method.context api) hasTypeVarDefault =
        .ok (pure (.overloaded expanded)) ∧
      ∃ overload ∈ expanded,
        Accepts (ArgumentFits f) overload.formals (methodCall count)

/-! ## Callable types of a fixed arity -/

/-- The parameters for a `NamedArg`. -/
def namedFormals (namedArg : Option (String × Ty)) : List (Formal Ty) :=
  namedArg.toList.map fun entry => ⟨.named, some entry.1, entry.2⟩

/-- The only call a callable type of a fixed arity admits. -/
def fixedShape (namedArg : Option (String × Ty)) (count : Nat) : CallShape where
  positional := count
  keywords := namedArg.toList.map Prod.fst
  distinct := by cases namedArg <;> simp

theorem consumeAll_namedFormals_iff
    (namedArg : Option (String × Ty))
    (keywords : List String) :
    (∃ after, consumeAll (namedFormals namedArg)
        ⟨[], keywords.map fun name => (name, Place.keyword name)⟩ =
          some (after, ⟨[], []⟩)) ↔
      keywords = namedArg.toList.map Prod.fst := by
  cases namedArg with
  | none => simp [namedFormals]
  | some entry =>
      cases keywords with
      | nil =>
          simp [namedFormals, consumeAll_cons, Formal.consume,
            Formal.consumeKeyword, Formal.takeByName, takeKeyword,
            ArgKind.isRequired]
      | cons key keywords =>
          by_cases same : key = entry.1
          · simp [namedFormals, consumeAll_cons, Formal.consume,
              Formal.consumeKeyword, Formal.takeByName, takeKeyword, same]
          · cases found : takeKeyword entry.1
                (keywords.map fun name => (name, Place.keyword name)) <;>
              simp [namedFormals, consumeAll_cons, Formal.consume,
                Formal.consumeKeyword, Formal.takeByName, takeKeyword, same,
                found, ArgKind.isRequired]

/-- A callable type of a fixed arity admits one call. -/
theorem acceptedBy_fixed_iff
    (types : List Ty)
    (namedArg : Option (String × Ty))
    (shape : CallShape) :
    shape.AcceptedBy (freshFormals types ++ namedFormals namedArg) ↔
      shape.positional = types.length ∧
        shape.keywords = namedArg.toList.map Prod.fst := by
  have keywordOnly : ∀ formal ∈ namedFormals namedArg,
      formal.kind.isKeywordOnly = true := by
    intro formal member
    obtain ⟨entry, -, rfl⟩ := List.mem_map.mp member
    rfl
  have expanded := @bind_expanded_iff Ty Place [] (namedFormals namedArg)
    (freshFormals types) (freshFormals_positionalOnly types) keywordOnly
    shape.supply
  rw [List.nil_append] at expanded
  unfold CallShape.AcceptedBy
  simp only [expanded, consumeAll_nil, Option.some.injEq, Prod.mk.injEq]
  rw [← consumeAll_namedFormals_iff]
  constructor
  · rintro ⟨_, _, _, after, ⟨rfl, rfl⟩, walked, lengths, -⟩
    exact ⟨by simpa [CallShape.supply] using lengths, after, walked⟩
  · rintro ⟨lengths, after, walked⟩
    exact ⟨_, _, _, after, ⟨rfl, rfl⟩, walked,
      by simpa [CallShape.supply] using lengths, rfl⟩

/-- A function fits a callable type of a fixed arity when it accepts the one
call. -/
theorem fitsShape_fixed_iff
    {f signature : CallableType}
    {types : List Ty}
    {namedArg : Option (String × Ty)}
    (formals : signature.formals = freshFormals types ++ namedFormals namedArg)
    (noStar : .star ∉ signature.argKinds) :
    FitsShape f signature ↔
      (fixedShape namedArg types.length).AcceptedBy f.formals := by
  constructor
  · intro fits
    apply fits.calls
    rw [formals, acceptedBy_fixed_iff]
    exact ⟨rfl, rfl⟩
  · intro accepted
    refine ⟨?_, fun isStar => absurd isStar noStar⟩
    rintro ⟨positional, keywords, distinct⟩ admitted
    rw [formals, acceptedBy_fixed_iff] at admitted
    obtain ⟨rfl, rfl⟩ := admitted
    exact accepted

theorem varArgArm_wellFormed (namedArg : Option (String × Ty)) :
    (varArgArm namedArg).WellFormed := by
  cases namedArg with
  | none => exact ⟨rfl, rfl, by decide, by decide, nofun⟩
  | some entry =>
      refine ⟨rfl, rfl, ?_, ?_, nofun⟩
      · change List.Pairwise ArgKind.Precedes [.star, .named]
        decide
      · simp [varArgArm]

/-- The callable in the overload for some number of arguments. -/
theorem insertTypes_varArgArm_formals
    (namedArg : Option (String × Ty))
    (types : List Ty) :
    (insertTypes (varArgArm namedArg) 0 types).formals =
      freshFormals types ++ namedFormals namedArg := by
  rw [insertTypes_formals (varArgArm_wellFormed namedArg)]
  cases namedArg <;> rfl

/-- An arm that lists an arity is the last arm expanded for this arity. -/
theorem listedArm_eq_insertTypes
    (namedArg : Option (String × Ty))
    (count : Nat) :
    listedArm namedArg count =
      insertTypes (varArgArm namedArg) 0
        (List.replicate count (.any .explicit)) := by
  simp [listedArm, insertTypes, varArgArm, splice]

theorem fitsShape_expanded_iff
    (f : CallableType)
    (namedArg : Option (String × Ty))
    (types : List Ty) :
    FitsShape f (insertTypes (varArgArm namedArg) 0 types) ↔
      (fixedShape namedArg types.length).AcceptedBy f.formals := by
  apply fitsShape_fixed_iff (insertTypes_varArgArm_formals namedArg types)
  cases namedArg <;> simp [insertTypes, varArgArm, splice]

/-- The last arm admits the call without extra arguments. -/
theorem varArgArm_acceptedBy (namedArg : Option (String × Ty)) :
    (fixedShape namedArg 0).AcceptedBy (varArgArm namedArg).formals := by
  have wellFormed := varArgArm_wellFormed namedArg
  obtain ⟨star, starAt, isStar⟩ := wellFormed.exists_formal
    (show (varArgArm namedArg).argKinds[0]? = some .star from rfl)
  have expanded := (acceptedBy_fixed_iff [] namedArg
    (fixedShape namedArg 0)).mpr ⟨rfl, rfl⟩
  rw [← insertTypes_varArgArm_formals, insertTypes_formals wellFormed,
    CallShape.acceptedBy_splice_iff wellFormed.formals_ordered starAt isStar
      (freshFormals_positionalOnly [])] at expanded
  exact expanded.1

/-! ## Calls of the two methods -/

/-- The union takes the functions that accept a listed number of arguments; the
last arm takes no others. -/
theorem functionFits_asyncFnType_iff
    (f : CallableType)
    (namedArg : Option (String × Ty)) :
    FunctionFits f (asyncFnType namedArg) ↔
      ∃ count < 5, (fixedShape namedArg count).AcceptedBy f.formals := by
  have listed (count : Nat) :
      FitsShape f (listedArm namedArg count) ↔
        (fixedShape namedArg count).AcceptedBy f.formals := by
    rw [listedArm_eq_insertTypes, fitsShape_expanded_iff, List.length_replicate]
  have arms (signature : CallableType) :
      .callable signature ∈ getProperTypes
          ((List.range 5).map (fun count =>
            .callable (listedArm namedArg count)) ++
            [.callable (varArgArm namedArg)]) ↔
        (∃ count < 5, listedArm namedArg count = signature) ∨
          varArgArm namedArg = signature := by
    simp [getProperTypes, getProperType, eq_comm]
  unfold FunctionFits asyncFnType
  simp only [getProperType, arms]
  constructor
  · rintro ⟨signature, ⟨count, inRange, rfl⟩ | rfl, fits⟩
    · exact ⟨count, inRange, (listed count).mp fits⟩
    · exact ⟨0, by decide, fits.calls _ (varArgArm_acceptedBy namedArg)⟩
  · rintro ⟨count, inRange, accepted⟩
    exact ⟨_, .inl ⟨count, inRange, rfl⟩, (listed count).mpr accepted⟩

namespace NurseryMethod

theorem wellFormed (method : NurseryMethod) : method.signature.WellFormed := by
  cases method <;> exact ⟨rfl, rfl, by decide, by decide, nofun⟩

/-- How a call of the method binds to its signature. -/
theorem bind_methodCall
    (method : NurseryMethod)
    (count : Nat) :
    bind method.signature.formals (methodCall count) =
      some [[.value], [.function], List.replicate count .value, []] := by
  cases method <;> rfl

/-- The callable selected in the signature: the last arm. -/
def selected (method : NurseryMethod) : SelectedCallable :=
  ⟨1, 0, varArgArm method.namedArg⟩

theorem selects (method : NurseryMethod) :
    Selects method.signature 2 method.selected := by
  cases method <;>
    exact
      ⟨⟨rfl, .any .explicit, .explicit, rfl, rfl⟩, rfl,
        ⟨asyncFnType _, rfl, rfl⟩, ⟨rfl, .any .explicit, .explicit, rfl, rfl⟩⟩

theorem accepted
    (method : NurseryMethod)
    (api : CheckerApi)
    (hasTypeVarDefault : Bool) :
    ∃ expanded,
      takesCallableAndArgsCallback (method.context api) hasTypeVarDefault =
        .ok (pure (.overloaded expanded)) := by
  refine ⟨_, (callback_spec (show decoratedType (method.context api) =
    .ok method.signature from rfl)).mpr ⟨2, method.selected, ?_, ?_, rfl⟩⟩
  · cases method <;> rfl
  · cases method <;> rfl

end NurseryMethod

/-- A call of a signature with the parameters of a method checks the function
against the type of `async_fn`. -/
theorem fits_methodCall_iff
    (f : CallableType)
    (asyncFn : Ty)
    (count : Nat)
    (selfType argsType nameType : Ty) :
    Fits (ArgumentFits f)
        [⟨.pos, some "self", selfType⟩, ⟨.pos, some "async_fn", asyncFn⟩,
          ⟨.star, some "args", argsType⟩, ⟨.namedOpt, some "name", nameType⟩]
        [[.value], [.function], List.replicate count .value, []] ↔
      FunctionFits f asyncFn := by
  have values : ∀ argument ∈ List.replicate count Argument.value,
      ArgumentFits f argument argsType := by
    intro argument member
    rw [List.eq_of_mem_replicate member]
    trivial
  constructor
  · intro fits
    rw [Fits, List.forall₂_cons, List.forall₂_cons] at fits
    exact fits.2.1 .function (List.mem_singleton_self _)
  · intro fits
    refine .cons ?_ (.cons ?_ (.cons values (.cons nofun .nil)))
    · exact List.forall_mem_singleton.mpr trivial
    · exact List.forall_mem_singleton.mpr fits

/-- Everything but the function fits. -/
theorem fitsExcept_values
    (f : CallableType)
    (formals : List (Formal Ty)) :
    FitsExcept (ArgumentFits f) 1 formals
      [[.value], [.function], [], []] := by
  intro other formal taken different _ takenAt argument member
  have isValue : argument = .value := by
    rcases other with _ | _ | _ | _ | other
    · cases takenAt
      exact List.mem_singleton.mp member
    · exact absurd rfl different
    · cases takenAt
      cases member
    · cases takenAt
      cases member
    · cases takenAt
  rw [isValue]
  trivial

/-- Without the plugin the function is checked against the union. -/
theorem plainAccepts_iff
    (method : NurseryMethod)
    (f : CallableType)
    (count : Nat) :
    PlainAccepts method f count ↔
      ∃ listed < 5,
        (fixedShape method.namedArg listed).AcceptedBy f.formals := by
  rw [← functionFits_asyncFnType_iff]
  unfold PlainAccepts Accepts
  simp only [method.bind_methodCall, Option.some.injEq, exists_eq_left']
  cases method <;> exact fits_methodCall_iff f _ count _ _ _

/-- The overload for a number of arguments takes calls with as many, and checks
the function against this number. -/
theorem accepts_overload_iff
    (method : NurseryMethod)
    (f : CallableType)
    (count : Nat)
    (typeVars : List TypeVarType) :
    Accepts (ArgumentFits f)
        (expandedFn method.signature 2 method.selected typeVars).formals
        (methodCall count) ↔
      typeVars.length = count ∧
        (fixedShape method.namedArg count).AcceptedBy f.formals := by
  let callableTy := insertTypes (varArgArm method.namedArg) 0
    (typeVars.map .typeVar)
  let withCallable := setArgType method.signature 1 (.callable callableTy)
  have wellFormed : withCallable.WellFormed :=
    setArgType_wellFormed method.wellFormed _ _
  obtain ⟨star, starAt, isStar⟩ := wellFormed.exists_formal
    (show withCallable.argKinds[2]? = some .star by cases method <;> rfl)
  have binds : bind withCallable.formals (methodCall count) =
      some [[.value], [.function], List.replicate count .value, []] := by
    rw [← method.bind_methodCall count]
    exact (bind_congr (sameShape_setArgType _ _ _) _).symm
  have extra :
      List.Forall₂ (fun (formal : Formal Ty) argument =>
          ArgumentFits f argument formal.type)
          (freshFormals (typeVars.map .typeVar))
          ((methodCall count).positional.drop 2) ↔
        typeVars.length = count := by
    rw [List.forall₂_iff_get]
    constructor
    · rintro ⟨lengths, -⟩
      simpa [methodCall] using lengths
    · rintro rfl
      refine ⟨by simp [methodCall], fun idx _ _ => ?_⟩
      simp only [methodCall, List.drop_succ_cons, List.drop_zero,
        List.get_eq_getElem, List.getElem_replicate]
      trivial
  have others :
      FitsExcept (ArgumentFits f) 2 withCallable.formals
          [[.value], [.function], List.replicate count .value, []] ↔
        FitsShape f callableTy := by
    obtain ⟨asyncFn, asyncFnAt, -⟩ := method.wellFormed.exists_formal
      (show method.signature.argKinds[1]? = some .pos by cases method <;> rfl)
    rw [fitsExcept_exchange_iff (by decide) (by simp)
      (setArgType_formals_self asyncFnAt (.callable callableTy))
      (fun _ different => setArgType_formals_ne different _) rfl,
      List.forall_mem_singleton]
    exact and_iff_right (fitsExcept_values f method.signature.formals)
  rw [expandedFn_eq_withTypes, withTypes_formals method.wellFormed]
  refine (accepts_splice_iff wellFormed.formals_ordered starAt isStar
    (freshFormals_positionalOnly _) _).trans ?_
  simp only [binds, Option.some.injEq, exists_eq_left', extra, others,
    callableTy, fitsShape_expanded_iff, List.length_map]
  constructor
  · rintro ⟨fits, rfl⟩
    exact ⟨rfl, fits⟩
  · rintro ⟨rfl, fits⟩
    exact ⟨fits, rfl⟩

/-- With the plugin the function is checked against the number of extra
arguments. -/
theorem pluginAccepts_iff
    (method : NurseryMethod)
    (api : CheckerApi)
    (hasTypeVarDefault : Bool)
    (f : CallableType)
    (count : Nat) :
    PluginAccepts method api hasTypeVarDefault f count ↔
      count ≤ 5 ∧ (fixedShape method.namedArg count).AcceptedBy f.formals := by
  constructor
  · rintro ⟨expanded, accepted, overload, member, accepts⟩
    rw [method.selects.expanded_eq rfl accepted] at member
    obtain ⟨number, isNumber, rfl⟩ := List.mem_map.mp member
    obtain ⟨lengths, fits⟩ := (accepts_overload_iff _ _ _ _).mp accepts
    rw [typeVarTypes_length] at lengths
    have inRange := List.mem_range.mp isNumber
    exact ⟨by omega, fits⟩
  · rintro ⟨atMostFive, fits⟩
    obtain ⟨expanded, accepted⟩ := method.accepted api hasTypeVarDefault
    refine ⟨expanded, accepted, ?_⟩
    rw [method.selects.expanded_eq rfl accepted]
    refine ⟨_, List.mem_map.mpr ⟨count, List.mem_range.mpr (by omega), rfl⟩, ?_⟩
    exact (accepts_overload_iff _ _ _ _).mpr ⟨typeVarTypes_length _ _ _ _, fits⟩

/-- A call that type-checks with the plugin does so without it, unless five
arguments are passed to a function that needs all of them. -/
theorem plugin_implies_plain_iff
    (method : NurseryMethod)
    (api : CheckerApi)
    (hasTypeVarDefault : Bool)
    {f : CallableType}
    (wellFormed : f.WellFormed)
    (count : Nat) :
    (PluginAccepts method api hasTypeVarDefault f count →
        PlainAccepts method f count) ↔
      ¬(count = 5 ∧ requiredPositional f.formals method.keywords = 5 ∧
        (fixedShape method.namedArg 5).AcceptedBy f.formals) := by
  rw [pluginAccepts_iff, plainAccepts_iff]
  constructor
  · rintro implies ⟨rfl, needsFive, accepted⟩
    obtain ⟨listed, inRange, acceptedListed⟩ := implies ⟨Nat.le_refl 5, accepted⟩
    have enough := acceptedListed.requiredPositional_le
    change requiredPositional f.formals method.keywords ≤ listed at enough
    omega
  · rintro notFive ⟨atMostFive, accepted⟩
    by_cases isFive : count = 5
    · subst isFive
      have enough := accepted.requiredPositional_le
      change requiredPositional f.formals method.keywords ≤ 5 at enough
      have fewer : requiredPositional f.formals method.keywords ≤ 4 := by
        by_contra more
        exact notFive ⟨rfl, by omega, accepted⟩
      exact ⟨4, by decide,
        CallShape.acceptedBy_pred wellFormed.formals_ordered accepted fewer⟩
    · exact ⟨count, by omega, accepted⟩

/-- `async def f(a: Any, b: Any, c: Any, d: Any, e: Any = ...) -> Any`. -/
def optionalFifth : CallableType where
  argTypes := List.replicate 5 (.any .explicit)
  argKinds := [.pos, .pos, .pos, .pos, .opt]
  argNames := [some "a", some "b", some "c", some "d", some "e"]
  retType := awaitableAny
  typeVariables := []
  isEllipsisArgs := false

/-- Five arguments for a function that needs only four of them. -/
theorem plugin_implies_plain_optional :
    (PluginAccepts .startSoon ⟨fun _ _ => true, .union, none⟩ true optionalFifth
          5 →
        PlainAccepts .startSoon optionalFifth 5) ↔
      ¬(5 = 5 ∧
        requiredPositional optionalFifth.formals
          NurseryMethod.startSoon.keywords = 5 ∧
        (fixedShape NurseryMethod.startSoon.namedArg 5).AcceptedBy
          optionalFifth.formals) :=
  plugin_implies_plain_iff .startSoon _ true
    ⟨rfl, rfl, by decide, by decide, fun ellipsis => absurd ellipsis (by decide)⟩
    5

/-- A function with a number of required positional parameters, such as
`async def f(a: Any, b: Any, …) -> Any`. -/
def requiringFunction (names : List String) : CallableType where
  argTypes := names.map fun _ => .any .explicit
  argKinds := names.map fun _ => .pos
  argNames := names.map some
  retType := awaitableAny
  typeVariables := []
  isEllipsisArgs := false

/-- Five arguments for a function that needs five of them: the call is accepted
with the plugin and rejected without it. -/
theorem plugin_implies_plain_fails_five :
    ¬(PluginAccepts .startSoon ⟨fun _ _ => true, .union, none⟩ true
        (requiringFunction ["a", "b", "c", "d", "e"]) 5 →
      PlainAccepts .startSoon (requiringFunction ["a", "b", "c", "d", "e"])
        5) := by
  rw [pluginAccepts_iff, plainAccepts_iff]
  intro implies
  obtain ⟨listed, inRange, accepted⟩ := implies ⟨by decide, _, rfl⟩
  have enough := accepted.requiredPositional_le
  have needsFive : requiredPositional
      (requiringFunction ["a", "b", "c", "d", "e"]).formals [] = 5 := by
    decide
  change requiredPositional _ [] ≤ listed at enough
  omega

end Stubs
end TrioTyping
