import TrioTyping.Calling.Leading
import TrioTyping.Calling.Typed
import TrioTyping.Stubs.Nursery
import TrioTyping.TakesCallable.EndToEnd

/-!
# What `Nursery.start` returns

`await nursery.start(f, *args)` waits until the task calls
`task_status.started(value)` and returns the value. The stubs connect the two
types by way of the type of `task_status` alone: `start` takes a function with a
`TaskStatus[_T]` and returns a `_T`, and `TaskStatus` is contravariant. The main
results say that every value the function can pass to `started` is of the type
`start` returns, and that this type can be just the one that `f` declares.
-/

namespace TrioTyping
namespace Stubs

open Calling TakesCallable

/-! ## The stubs -/

/-- `TaskStatus[T]`. -/
def taskStatus (type : Ty) : Ty :=
  .inst "trio_typing.TaskStatus" [type]

/-- `typing.Coroutine[Any, Any, T]`, what an `async def` returns. -/
def coroutine (type : Ty) : Ty :=
  .inst "typing.Coroutine" [.any .specialForm, .any .specialForm, type]

theorem coroutine_injective
    {first second : Ty}
    (same : coroutine first = coroutine second) :
    first = second := by
  injection same with _ args
  injection args with _ args
  injection args with _ args
  injection args

/-- `def started(self: TaskStatus[None]) -> None`. -/
def startedNone : CallableType where
  argTypes := [taskStatus .noneTyp]
  argKinds := [.pos]
  argNames := [some "self"]
  retType := .noneTyp
  typeVariables := []
  isEllipsisArgs := false

/-- `def started(self, value: T) -> None` in `TaskStatus[T]`. -/
def startedValue (type : Ty) : CallableType where
  argTypes := [taskStatus type, type]
  argKinds := [.pos, .pos]
  argNames := [some "self", some "value"]
  retType := .noneTyp
  typeVariables := []
  isEllipsisArgs := false

/-- The overloads of `started` in `TaskStatus[T]`. -/
def startedOverloads (type : Ty) : List CallableType :=
  [startedNone, startedValue type]

/-- `start` with a type for `_T`. -/
def startSignature (type : Ty) : CallableType :=
  nurseryMethod (some ("task_status", taskStatus type)) (coroutine type)
    [startTypeVar]

/-- Its callable. -/
def startCallable (type : Ty) : CallableType :=
  varArgArm (some ("task_status", taskStatus type))

/-- What an instantiation puts for `_T`. -/
def startType (env : Instantiation) : Ty :=
  (env startTypeVar.id).getD (.typeVar startTypeVar)

theorem signature_start_expandType (env : Instantiation) :
    (NurseryMethod.signature .start).expandType env =
      startSignature (startType env) := rfl

theorem selected_start_expandType (env : Instantiation) :
    (NurseryMethod.selected .start).expandType env =
      ⟨1, 0, startCallable (startType env)⟩ := rfl

theorem startSignature_wellFormed (type : Ty) :
    (startSignature type).WellFormed where
  kinds_length := rfl
  names_length := rfl
  ordered := by
    change List.Pairwise ArgKind.Precedes [.pos, .pos, .star, .namedOpt]
    decide
  distinct := by
    change ["self", "async_fn", "args", "name"].Nodup
    decide
  ellipsis := fun ellipsis => absurd ellipsis Bool.false_ne_true

/-- The call `nursery.start(f, *args)`, perhaps with a `name`. -/
def startCall
    (f : CallableType)
    (name : Option Ty)
    (arguments : List Ty) : Supply Actual :=
  callSupply f [.inst "trio.Nursery" []] []
    (name.toList.map fun type => ("name", type)) arguments

theorem bind_startCall
    (type : Ty)
    (f : CallableType)
    (name : Option Ty) :
    bind (startSignature type).formals (startCall f name []) =
      some [[.value (.inst "trio.Nursery" [])], [.function f], [],
        name.toList.map .value] := by
  cases name <;> rfl

section Subtyping

variable [Preorder Ty]

/-! ## The two calls -/

/-- Some overload of `start` accepts the call, and awaiting it gives a value of
the type. -/
def StartReturns
    (api : CheckerApi)
    (hasTypeVarDefault : Bool)
    (f : CallableType)
    (name : Option Ty)
    (arguments : List Ty)
    (result : Ty) : Prop :=
  ∃ expanded,
    takesCallableAndArgsCallback (NurseryMethod.context .start api)
        hasTypeVarDefault = .ok (pure (.overloaded expanded)) ∧
      ∃ overload ∈ expanded, ∃ env,
        Accepts ActualFits (overload.expandType env).formals
            (startCall f name arguments) ∧
          (overload.expandType env).retType = coroutine result

/-- Some overload of `started` accepts the call on an object of the type. -/
def AcceptsStarted (declared : Ty) (call : Supply Ty) : Prop :=
  ∃ type, declared ≤ taskStatus type ∧
    ∃ overload ∈ startedOverloads type,
      Accepts IsOfType overload.formals
        ⟨declared :: call.positional, call.keywords⟩

/-- The value that the call passes on, which is `None` without an argument. -/
def passedOn (call : Supply Ty) : Ty :=
  call.arguments.head?.getD .noneTyp

/-! ## What `started` passes on -/

/-- The value is of the type of some `TaskStatus` the object can stand for. -/
theorem AcceptsStarted.exists_passedOn_le
    {declared : Ty}
    {call : Supply Ty}
    (accepts : AcceptsStarted declared call) :
    ∃ type, declared ≤ taskStatus type ∧ passedOn call ≤ type := by
  obtain ⟨type, isStatus, overload, member, accepted⟩ := accepts
  simp only [startedOverloads, List.mem_cons, List.not_mem_nil,
    or_false] at member
  unfold passedOn
  rcases member with rfl | rfl
  · have formals : startedNone.formals =
        [⟨.pos, some "self", taskStatus .noneTyp⟩] := rfl
    rw [formals] at accepted
    obtain ⟨-, isNoneStatus, withoutSelf⟩ := (accepts_cons_iff rfl).mp accepted
    refine ⟨.noneTyp, isNoneStatus, ?_⟩
    have noArguments : call.arguments = [] := withoutSelf.arguments_eq_nil
    rw [noArguments]
    exact le_refl _
  · have formals : (startedValue type).formals =
        [⟨.pos, some "self", taskStatus type⟩,
          ⟨.pos, some "value", type⟩] := rfl
    rw [formals] at accepted
    obtain ⟨-, -, withoutSelf⟩ := (accepts_cons_iff rfl).mp accepted
    refine ⟨type, isStatus, ?_⟩
    have fits : ∀ argument ∈ call.arguments, argument ≤ type :=
      withoutSelf.forall_arguments
    cases isArguments : call.arguments with
    | nil =>
        obtain ⟨positional, keywords⟩ := call
        obtain ⟨rfl, noKeywords⟩ := List.append_eq_nil_iff.mp isArguments
        obtain rfl := List.map_eq_nil_iff.mp noKeywords
        exact absurd withoutSelf (not_accepts_cons_nil rfl _ [])
    | cons value others =>
        apply fits
        rw [isArguments]
        exact List.mem_cons_self

/-! ## When `start` type-checks -/

/-- Calls of the callable with types in the place of its `VarArg()`. -/
theorem accepts_startCallable_iff
    (type : Ty)
    (types : List Ty)
    (supply : Supply Ty) :
    Accepts IsOfType (insertTypes (startCallable type) 0 types).formals
        supply ↔
      ∃ status, supply.keywords = [("task_status", status)] ∧
        status ≤ taskStatus type ∧
          List.Forall₂ (fun argument type => argument ≤ type)
            supply.positional types := by
  have formals :
      (insertTypes (startCallable type) 0 types).formals =
        freshFormals types ++
          [⟨.named, some "task_status", taskStatus type⟩] :=
    insertTypes_varArgArm_formals _ types
  have positional :
      List.Forall₂ (fun (formal : Formal Ty) argument =>
          IsOfType argument formal.type) (freshFormals types)
          supply.positional ↔
        List.Forall₂ (fun argument type => argument ≤ type)
          supply.positional types := by
    rw [freshFormals, List.forall₂_map_left_iff]
    exact ⟨List.Forall₂.flip, List.Forall₂.flip⟩
  rw [formals, accepts_named_iff (freshFormals_positionalOnly types)]
  simp only [positional]
  rfl

/-- Functions that can be used for it are those that take the arguments together
with a task status. -/
theorem usableAs_startCallable_iff
    (type : Ty)
    (f : CallableType)
    (types : List Ty) :
    UsableAs f (insertTypes (startCallable type) 0 types) ↔
      f.retType ≤ awaitableAny ∧
        AcceptsCall f ⟨types, [("task_status", taskStatus type)]⟩ := by
  constructor
  · intro usable
    refine ⟨usable.result, ?_⟩
    rcases usable.calls with ellipsis | calls
    · exact absurd ellipsis Bool.false_ne_true
    · apply calls ⟨⟨types, [("task_status", taskStatus type)]⟩,
        List.nodup_singleton _⟩
      rw [accepts_startCallable_iff]
      exact ⟨taskStatus type, rfl, le_refl _,
        List.forall₂_same.mpr fun type _ => le_refl type⟩
  · rintro ⟨result, accepts⟩
    refine ⟨result, .inr ?_⟩
    rintro ⟨⟨positional, keywords⟩, distinct⟩ admitted
    obtain ⟨status, rfl, smallerStatus, smaller⟩ :=
      (accepts_startCallable_iff type types _).mp admitted
    exact accepts.imp_right (Accepts.lower_oneKeyword smaller smallerStatus)

/-- Apart from the function, only a `name` is checked. -/
theorem othersFit_start_iff
    (type : Ty)
    (f : CallableType)
    (name : Option Ty) :
    OthersFit (startSignature type) 1 f [.inst "trio.Nursery" []] []
        (name.toList.map fun type => ("name", type)) ↔
      ∀ nameType ∈ name, nameType ≤ .inst "builtins.object" [] := by
  have binds := bind_startCall type f name
  unfold startCall at binds
  unfold OthersFit
  simp only [binds, Option.some.injEq, exists_eq_left']
  constructor
  · intro fits nameType isName
    refine fits 3 _ _ (by decide) rfl rfl (.value nameType) ?_
    exact List.mem_map_of_mem (Option.mem_toList.mpr isName)
  · intro fits other formal taken different formalAt takenAt argument member
    rcases other with _ | _ | _ | _ | other
    · cases formalAt
      cases takenAt
      obtain rfl := List.mem_singleton.mp member
      exact le_refl (Ty.inst "trio.Nursery" [])
    · exact absurd rfl different
    · cases takenAt
      cases member
    · cases formalAt
      cases takenAt
      obtain ⟨nameType, isName, rfl⟩ := List.mem_map.mp member
      exact fits nameType (Option.mem_toList.mp isName)
    · cases takenAt

/-- An overload under an instantiation checks the function against the types it
has for the arguments and for `_T`. -/
theorem accepts_startOverload_iff
    (typeVars : List TypeVarType)
    (env : Instantiation)
    (f : CallableType)
    (name : Option Ty)
    (arguments : List Ty) :
    Accepts ActualFits
        ((expandedFn (NurseryMethod.signature .start) 2
          (NurseryMethod.selected .start) typeVars).expandType env).formals
        (startCall f name arguments) ↔
      (∀ nameType ∈ name, nameType ≤ .inst "builtins.object" []) ∧
        (f.retType ≤ awaitableAny ∧
          AcceptsCall f
            ⟨(typeVars.map .typeVar).map (Ty.expandType env),
              [("task_status", taskStatus (startType env))]⟩) ∧
        List.Forall₂ (fun argument type => argument ≤ type) arguments
          ((typeVars.map .typeVar).map (Ty.expandType env)) := by
  rw [expandedFn_eq_withTypes, withTypes_expandType, signature_start_expandType,
    selected_start_expandType, ← usableAs_startCallable_iff,
    ← othersFit_start_iff (startType env) f name]
  exact @accepts_withTypes_iff _ (startSignature (startType env)) f 2
    ⟨1, 0, startCallable (startType env)⟩ [.inst "trio.Nursery" []] [] arguments
    _ _ (startSignature_wellFormed _) rfl rfl rfl rfl typeVars

/-- The call of `start` type-checks, with a result of a type, exactly when the
function takes the arguments together with a task status of that type. -/
theorem startReturns_iff
    (api : CheckerApi)
    (hasTypeVarDefault : Bool)
    (f : CallableType)
    (name : Option Ty)
    (arguments : List Ty)
    (result : Ty) :
    StartReturns api hasTypeVarDefault f name arguments result ↔
      (∀ nameType ∈ name, nameType ≤ .inst "builtins.object" []) ∧
        arguments.length ≤ 5 ∧ f.retType ≤ awaitableAny ∧
          AcceptsCall f
            ⟨arguments, [("task_status", taskStatus result)]⟩ := by
  have selects := NurseryMethod.selects .start
  constructor
  · rintro ⟨expanded, accepted, overload, member, env, accepts, returns⟩
    rw [selects.expanded_eq rfl accepted] at member
    obtain ⟨count, isCount, rfl⟩ := List.mem_map.mp member
    have inRange := List.mem_range.mp isCount
    obtain ⟨named, ⟨covariant, acceptsTypes⟩, smaller⟩ :=
      (accepts_startOverload_iff _ env f name arguments).mp accepts
    have lengths := smaller.length_eq
    rw [List.length_map, List.length_map, typeVarTypes_length] at lengths
    obtain rfl := coroutine_injective
      (show coroutine (startType env) = coroutine result from returns)
    exact ⟨named, by omega, covariant, acceptsTypes.imp_right
      (Accepts.lower_oneKeyword smaller (le_refl _))⟩
  · rintro ⟨named, atMostFive, covariant, accepts⟩
    obtain ⟨expanded, accepted⟩ :=
      NurseryMethod.accepted .start api hasTypeVarDefault
    let typeVars := typeVarTypes api hasTypeVarDefault
      (NurseryMethod.signature .start) arguments.length
    let original : Instantiation := fun id =>
      if id = startTypeVar.id then some result else none
    let env := original.assign typeVars arguments
    have areTypes : (typeVars.map .typeVar).map (Ty.expandType env) = arguments :=
      Instantiation.map_expandType_assign
        (typeVarTypes_ids_nodup _ _ _ arguments.length)
        (typeVarTypes_length _ _ _ _)
    have notFresh : startTypeVar.id ∉ typeVars.map TypeVarType.id := by
      intro fresh
      obtain ⟨number, lower, -, same⟩ := mem_typeVarTypes_ids.mp fresh
      change (-1 : Int) = -((1 + 1 + number : Nat) : Int) at same
      omega
    have isAssigned : env startTypeVar.id = original startTypeVar.id :=
      Instantiation.assign_of_notMem notFresh
    have isResult : startType env = result := by
      rw [startType, isAssigned]
      rfl
    refine ⟨expanded, accepted,
      expandedFn (NurseryMethod.signature .start) 2
        (NurseryMethod.selected .start) typeVars, ?_, env, ?_, ?_⟩
    · rw [selects.expanded_eq rfl accepted]
      exact List.mem_map.mpr
        ⟨arguments.length, List.mem_range.mpr (by omega), rfl⟩
    · rw [accepts_startOverload_iff, areTypes, isResult]
      exact ⟨named, ⟨covariant, accepts⟩,
        List.forall₂_same.mpr fun type _ => le_refl type⟩
    · rw [← isResult]
      rfl

/-! ## The value and its type -/

/-- The parameter that the task status goes to when the function is started with
some number of arguments. -/
def TakesStatus
    (f : CallableType)
    (count : Nat)
    (formal : Formal Ty) : Prop :=
  ∃ idx, (oneKeyword count "task_status").BindsTo f.formals
    (.keyword "task_status") idx formal

/-- `Nursery.start` returns what `started` is called with: in the body of a
function that has been started, the parameter for the task status has a type for
which `started` takes only values of the type that `start` returns. -/
theorem start_returns_started
    (contravariant : ∀ first second,
      taskStatus first ≤ taskStatus second → second ≤ first)
    {api : CheckerApi}
    {hasTypeVarDefault : Bool}
    {f : CallableType}
    {name : Option Ty}
    {arguments : List Ty}
    {result : Ty}
    (notEllipsis : f.isEllipsisArgs = false)
    (returns :
      StartReturns api hasTypeVarDefault f name arguments result) :
    (∃ formal, TakesStatus f arguments.length formal) ∧
      ∀ formal, TakesStatus f arguments.length formal →
        ∀ call, AcceptsStarted formal.type call → passedOn call ≤ result := by
  obtain ⟨-, -, -, ellipsis | accepts⟩ :=
    (startReturns_iff api hasTypeVarDefault f name arguments result).mp returns
  · exact absurd (notEllipsis.symm.trans ellipsis) Bool.false_ne_true
  · rw [accepts_oneKeyword_iff] at accepts
    obtain ⟨accepted, fits⟩ := accepts
    constructor
    · have isArgument : Place.keyword "task_status" ∈
          (oneKeyword arguments.length "task_status").supply.arguments :=
        List.mem_append_right _ (List.mem_singleton_self _)
      obtain ⟨idx, formal, binds⟩ := accepted.exists_bindsTo isArgument
      exact ⟨formal, idx, binds⟩
    · rintro formal ⟨idx, binds⟩ call started
      have given : taskStatus result ≤ formal.type :=
        fits (.keyword "task_status") idx formal binds
      obtain ⟨type, isStatus, ofType⟩ := started.exists_passedOn_le
      exact le_trans ofType (contravariant _ _ (le_trans given isStatus))

/-- Where the function declares a `TaskStatus` of a type, `start` can return this
type and the larger ones, and no others. -/
theorem startReturns_declared_iff
    (contravariant : ∀ first second,
      taskStatus first ≤ taskStatus second ↔ second ≤ first)
    (api : CheckerApi)
    (hasTypeVarDefault : Bool)
    {f : CallableType}
    (name : Option Ty)
    {arguments : List Ty}
    {formal : Formal Ty}
    {declared : Ty}
    (notEllipsis : f.isEllipsisArgs = false)
    (takesStatus : TakesStatus f arguments.length formal)
    (declares : formal.type = taskStatus declared)
    (result : Ty) :
    StartReturns api hasTypeVarDefault f name arguments result ↔
      StartReturns api hasTypeVarDefault f name arguments declared ∧
        declared ≤ result := by
  obtain ⟨idx, binds⟩ := takesStatus
  simp only [startReturns_iff, AcceptsCall, notEllipsis,
    or_iff_right Bool.false_ne_true]
  constructor
  · rintro ⟨named, atMostFive, covariant, accepts⟩
    have smaller : declared ≤ result := by
      have given := (accepts_oneKeyword_iff _ _ _ _ _).mp accepts |>.2
        (.keyword "task_status") idx formal binds
      rw [declares] at given
      exact (contravariant _ _).mp given
    refine ⟨⟨named, atMostFive, covariant, ?_⟩, smaller⟩
    apply accepts.exchange_keyword
    intro other formal' binds'
    obtain ⟨-, rfl⟩ := binds.unique binds'
    rw [declares]
    exact le_refl (taskStatus declared)
  · rintro ⟨⟨named, atMostFive, covariant, accepts⟩, smaller⟩
    refine ⟨named, atMostFive, covariant, ?_⟩
    exact Accepts.lower_oneKeyword
      (List.forall₂_same.mpr fun type _ => le_refl type)
      ((contravariant _ _).mpr smaller) accepts

end Subtyping

/-! ## Numbers -/

/-- `int` is below `float`, and `TaskStatus` is contravariant. -/
inductive NumericLe : Ty → Ty → Prop
  | refl (type : Ty) : NumericLe type type
  | promotion : NumericLe (.inst "builtins.int" []) (.inst "builtins.float" [])
  | status {first second : Ty} (related : NumericLe second first) :
      NumericLe (taskStatus first) (taskStatus second)

theorem taskStatus_inj {first second : Ty} :
    taskStatus first = taskStatus second ↔ first = second := by
  simp [taskStatus]

namespace NumericLe

/-- Only a `TaskStatus` is related to one. -/
theorem status_left
    {first other : Ty}
    (related : NumericLe (taskStatus first) other) :
    ∃ second, other = taskStatus second ∧ NumericLe second first := by
  generalize isStatus : taskStatus first = smaller at related
  cases related with
  | refl => exact ⟨first, isStatus.symm, .refl first⟩
  | promotion => simp [taskStatus] at isStatus
  | @status _ second related =>
      obtain rfl := taskStatus_inj.mp isStatus
      exact ⟨second, rfl, related⟩

theorem status_right
    {other second : Ty}
    (related : NumericLe other (taskStatus second)) :
    ∃ first, other = taskStatus first ∧ NumericLe second first := by
  generalize isStatus : taskStatus second = larger at related
  cases related with
  | refl => exact ⟨second, isStatus.symm, .refl second⟩
  | promotion => simp [taskStatus] at isStatus
  | @status first _ related =>
      obtain rfl := taskStatus_inj.mp isStatus
      exact ⟨first, rfl, related⟩

/-- `TaskStatus` reverses the order. -/
theorem status_iff {first second : Ty} :
    NumericLe (taskStatus first) (taskStatus second) ↔
      NumericLe second first := by
  constructor
  · intro related
    obtain ⟨other, same, related⟩ := related.status_left
    rw [taskStatus_inj.mp same]
    exact related
  · exact .status

/-- Nothing but itself is below `int` or above `float`. -/
theorem int_right
    {other : Ty}
    (related : NumericLe other (.inst "builtins.int" [])) :
    other = .inst "builtins.int" [] := by
  generalize isInt : Ty.inst "builtins.int" [] = larger at related
  cases related with
  | refl => rfl
  | promotion => simp at isInt
  | status => simp [taskStatus] at isInt

theorem float_left
    {other : Ty}
    (related : NumericLe (.inst "builtins.float" []) other) :
    other = .inst "builtins.float" [] := by
  generalize isFloat : Ty.inst "builtins.float" [] = smaller at related
  cases related with
  | refl => rfl
  | promotion => simp at isFloat
  | status => simp [taskStatus] at isFloat

/-- As `TaskStatus` exchanges the sides, composition on the two sides is proved
at once. -/
theorem trans_both
    {first second : Ty}
    (related : NumericLe first second) :
    (∀ third, NumericLe second third → NumericLe first third) ∧
      ∀ third, NumericLe third first → NumericLe third second := by
  induction related with
  | refl type => exact ⟨fun _ related => related, fun _ related => related⟩
  | promotion =>
      constructor
      · intro third related
        rw [related.float_left]
        exact .promotion
      · intro third related
        rw [related.int_right]
        exact .promotion
  | status _ inductionHypothesis =>
      constructor
      · intro third related
        obtain ⟨inner, rfl, isBelow⟩ := related.status_left
        exact .status (inductionHypothesis.2 inner isBelow)
      · intro third related
        obtain ⟨inner, rfl, isAbove⟩ := related.status_right
        exact .status (inductionHypothesis.1 inner isAbove)

end NumericLe

/-- The order in which `int` is below `float`. -/
abbrev numericOrder : Preorder Ty where
  le := NumericLe
  le_refl := .refl
  le_trans _ _ _ smaller larger := (NumericLe.trans_both smaller).1 _ larger

/-! ## The function of the tests -/

/-- A function with the parameters of `child` in the tests, to be started with
`nursery.start(child, 10)`. -/
def childFn : CallableType where
  argTypes := [.inst "builtins.int" [], taskStatus (.inst "builtins.int" [])]
  argKinds := [.pos, .named]
  argNames := [some "arg", some "task_status"]
  retType := awaitableAny
  typeVariables := []
  isEllipsisArgs := false

/-- Its `int` may be used as a `float`. -/
theorem startReturns_childFn :
    letI := numericOrder
    StartReturns readmeContext.api true childFn none [.inst "builtins.int" []]
      (.inst "builtins.float" []) := by
  let order := numericOrder
  refine (startReturns_iff _ _ _ _ _ _).mpr
    ⟨fun _ isName => absurd isName (Option.not_mem_none _), by decide,
      le_refl _, .inr ⟨[[.inst "builtins.int" []],
        [taskStatus (.inst "builtins.float" [])]], rfl,
        .cons ?_ (.cons ?_ .nil)⟩⟩
  · intro argument member
    rw [List.mem_singleton.mp member]
    exact NumericLe.refl _
  · intro argument member
    rw [List.mem_singleton.mp member]
    exact NumericLe.status .promotion

/-- In `child`, `started` is called with an `int`. -/
theorem start_returns_started_child :
    letI := numericOrder
    (∃ formal, TakesStatus childFn 1 formal) ∧
      ∀ formal, TakesStatus childFn 1 formal →
        ∀ call, AcceptsStarted formal.type call →
          passedOn call ≤ .inst "builtins.float" [] := by
  let order := numericOrder
  exact start_returns_started (fun _ _ => NumericLe.status_iff.mp) rfl
    startReturns_childFn

/-- `await nursery.start(child, 10)` is an `int` and hence a `float`. -/
theorem startReturns_declared_iff_child :
    letI := numericOrder
    StartReturns readmeContext.api true childFn none [.inst "builtins.int" []]
        (.inst "builtins.float" []) ↔
      StartReturns readmeContext.api true childFn none
          [.inst "builtins.int" []] (.inst "builtins.int" []) ∧
        Ty.inst "builtins.int" [] ≤ .inst "builtins.float" [] := by
  let order := numericOrder
  have takesStatus : TakesStatus childFn 1
      ⟨.named, some "task_status", taskStatus (.inst "builtins.int" [])⟩ :=
    ⟨1, [[.positional 0], [.keyword "task_status"]], [.keyword "task_status"],
      rfl, rfl, List.mem_singleton_self _, rfl⟩
  exact startReturns_declared_iff (fun _ _ => NumericLe.status_iff) _ _ _ rfl
    takesStatus rfl _

end Stubs
end TrioTyping
