import TrioTyping.Stubs.TaskStatus
import TrioTyping.Tasks.Pool

/-!
# Programs of tasks

In a program whose calls the checker accepts, tasks are created by passing a
function and its arguments to decorated functions such as `Nursery.start_soon`,
and with `Nursery.start`, which waits for what the new task passes to
`task_status.started()`. These functions take their arguments as `*args`, so
that it is only the plugin that compares them with the parameters of the function.

The main result is what this is for. However the tasks of the program take their
steps, every function that is called takes the arguments it is given, they are of
the types of its parameters, and `start` returns values of the type that was
inferred for it.
-/

namespace TrioTyping
namespace Stubs

open Calling TakesCallable Tasks

/-! ## Decorated functions -/

/-- A decorated function with the overloads that the plugin gives it. -/
structure DecoratedFunction where
  /-- The context in which the decorator is applied. -/
  ctx : FunctionContext
  /-- Whether type variables have a default. -/
  hasTypeVarDefault : Bool
  /-- The function. -/
  fnType : CallableType
  /-- Where its `*args` is. -/
  argsIdx : Nat
  /-- Its callable. -/
  selected : SelectedCallable
  /-- The overloads. -/
  expanded : List CallableType
  /-- The decorator is applied to the function. -/
  decorated : decoratedType ctx = .ok fnType
  /-- The decorator returns the overloads. -/
  accepted : takesCallableAndArgsCallback ctx hasTypeVarDefault =
    .ok (pure (.overloaded expanded))
  /-- Its signature is one mypy makes. -/
  wellFormed : WellFormedFunction fnType
  /-- It is a method or a function at module level. -/
  bindsItsVariables : BindsItsVariables fnType
  /-- The plugin finds `*args` and the callable. -/
  selects : Selects fnType argsIdx selected
  /-- The callable is not written `Callable[..., T]`. -/
  notEllipsis : selected.callableTy.isEllipsisArgs = false

namespace DecoratedFunction

variable (function : DecoratedFunction)

/-- The callable, when the variables of the function stand for some types. -/
def callable (original : Instantiation) : CallableType :=
  function.selected.callableTy.expandType original

/-- A call of the callable with arguments of some types in the place of its
`VarArg()`, and others that fit its own parameters. This is what the body of the
function does with the callable and its `*args`. -/
def Forwards
    [Preorder Ty]
    (original : Instantiation)
    (extra : List Ty)
    (call : Call Ty) : Prop :=
  ∃ bound,
    bind (function.callable original).formals call.toSupply = some bound ∧
      FitsExcept IsOfType function.selected.callableArgsIdx
        (function.callable original).formals bound ∧
      bound[function.selected.callableArgsIdx]? = some extra

end DecoratedFunction

/-- The arguments of a call of a decorated function, apart from the function that
is passed to it, as types. -/
structure DecoratedArguments where
  /-- What the type variables of the decorated function stand for. -/
  original : Instantiation
  /-- The arguments in front of the function. -/
  before : List Ty
  /-- Those behind it that do not belong to `*args`. -/
  after : List Ty
  /-- The keyword arguments. -/
  keywords : List (String × Ty)
  /-- The arguments for `*args`. -/
  extra : List Ty

/-! ## Programs -/

/-- A call in the body of a function. -/
inductive TaskCall (Name : Type)
  /-- A decorated function is passed a function. -/
  | runs (decorated : DecoratedFunction) (function : Name)
      (arguments : DecoratedArguments)
  /-- `await nursery.start(function, *arguments)`, perhaps with a `name`, and with
  a result of a type. -/
  | starts (function : Name) (name : Option Ty) (arguments : List Ty)
      (result : Ty)
  /-- `object.started()`, where the object is of a type. -/
  | started (object : Ty) (call : Supply Ty)

/-- The functions of a program, and the calls in their bodies. -/
structure TaskProgram (Name : Type) where
  signature : Name → CallableType
  calls : List (TaskCall Name)

/-! ## Values -/

/-- An object, or the `task_status` of a call of `start`. -/
inductive TaskValue (Object : Type)
  | object (object : Object)
  | status (handle : Nat)

/-- The function with its arguments, called by `start`. -/
def statusCall
    {Object : Type}
    (values : List (TaskValue Object))
    (handle : Nat) : Supply (TaskValue Object) :=
  ⟨values, [("task_status", .status handle)]⟩

section Subtyping

variable [Preorder Ty]

/-- Some overload accepts the call in which a function is passed for the
callable. -/
structure DecoratedFunction.AcceptsCall
    (decorated : DecoratedFunction)
    (f : CallableType)
    (arguments : DecoratedArguments) : Prop where
  beforeLength : arguments.before.length = decorated.selected.callableIdx
  totalLength : arguments.before.length + 1 + arguments.after.length =
    decorated.argsIdx
  accepts : ∃ overload ∈ decorated.expanded, ∃ env,
    Instantiates decorated.fnType overload arguments.original env ∧
      Accepts ActualFits (overload.expandType env).formals
        (callSupply f arguments.before arguments.after arguments.keywords
          arguments.extra)

/-- The function that is passed accepts the calls the decorated function makes. -/
theorem DecoratedFunction.AcceptsCall.acceptsCall_of_forwards
    {decorated : DecoratedFunction}
    {f : CallableType}
    {arguments : DecoratedArguments}
    (accepts : decorated.AcceptsCall f arguments)
    {call : Call Ty}
    (forwards :
      decorated.Forwards arguments.original arguments.extra call) :
    TakesCallable.AcceptsCall f call.toSupply := by
  obtain ⟨overload, member, env, instantiates, acceptsCall⟩ := accepts.accepts
  obtain ⟨bound, binds, others, extraAt⟩ := forwards
  have splatted := acceptsSplatted_of_accepts decorated.decorated
    decorated.wellFormed decorated.bindsItsVariables decorated.selects
    decorated.accepted accepts.beforeLength accepts.totalLength
    decorated.notEllipsis member instantiates acceptsCall
  exact splatted.calls call bound binds others extraAt

/-- The checker accepts the call. -/
def TaskCall.Checked
    {Name : Type}
    (api : CheckerApi)
    (hasTypeVarDefault : Bool)
    (signature : Name → CallableType) : TaskCall Name → Prop
  | .runs decorated function arguments =>
      decorated.AcceptsCall (signature function) arguments
  | .starts function name arguments result =>
      StartReturns api hasTypeVarDefault (signature function) name arguments
        result
  | .started object call => AcceptsStarted object call

/-- The checker accepts all the calls, and the functions declare their
parameters. -/
structure TaskProgram.Checked
    {Name : Type}
    (program : TaskProgram Name)
    (api : CheckerApi)
    (hasTypeVarDefault : Bool) : Prop where
  calls : ∀ call ∈ program.calls,
    call.Checked api hasTypeVarDefault program.signature
  notEllipsis : ∀ name, (program.signature name).isEllipsisArgs = false

variable {Object : Type} (classOf : Object → Ty)

/-- The value is of the type. A `task_status` is one for the values of the type
inferred for its call of `start`; these types are listed. -/
def HasType (results : List Ty) : TaskValue Object → Ty → Prop
  | .object object, type => classOf object ≤ type
  | .status handle, type => ∃ result, results[handle]? = some result ∧
      taskStatus result ≤ type

/-- A value of a type. -/
structure TypedValue (results : List Ty) where
  value : TaskValue Object
  type : Ty
  hasType : HasType classOf results value type

variable {classOf} {results results' : List Ty}

/-- A value of a type is one of every larger type. -/
theorem HasType.upwards
    {value : TaskValue Object}
    {smaller larger : Ty}
    (hasType : HasType classOf results value smaller)
    (related : smaller ≤ larger) :
    HasType classOf results value larger := by
  cases value with
  | object object => exact le_trans hasType related
  | status handle =>
      obtain ⟨result, resultAt, isStatus⟩ := hasType
      exact ⟨result, resultAt, le_trans isStatus related⟩

/-- Further calls of `start` do not matter. -/
theorem HasType.mono
    (isPrefix : results <+: results')
    {value : TaskValue Object}
    {type : Ty}
    (hasType : HasType classOf results value type) :
    HasType classOf results' value type := by
  cases value with
  | object object => exact hasType
  | status handle =>
      obtain ⟨result, resultAt, isStatus⟩ := hasType
      exact ⟨result, getElem?_of_prefix isPrefix resultAt, isStatus⟩

/-- Nor do they for the arguments of a call. -/
theorem fits_mono
    (isPrefix : results <+: results')
    {formals : List (Formal Ty)}
    {bound : List (List (TaskValue Object))}
    (fits : Fits (HasType classOf results) formals bound) :
    Fits (HasType classOf results') formals bound := by
  refine List.Forall₂.imp ?_ fits
  intro formal taken fitsEach value member
  exact (fitsEach value member).mono isPrefix

/-! ## Executions -/

/-- What a task may do next. -/
inductive TaskAction (Name Object Body : Type)
  /-- It has a function called with some values. -/
  | runs (function : Name) (values : Supply (TaskValue Object)) (next : Body)
  /-- It calls `start`, which is inferred to have a result of a type. -/
  | starts (function : Name) (result : Ty) (values : List (TaskValue Object))
      (next : TaskValue Object → Body)
  /-- It passes a value to `started`. -/
  | started (handle : Nat) (value : TaskValue Object) (next : Body)

/-- The bodies of the functions at run time. What is asked of them is that the
rest of the type checker does its work: as long as a body is given values of the
types of its parameters and of its calls of `start`, the arguments of its calls
are of the types the checker inferred. -/
structure TaskExecution
    {Name : Type}
    (program : TaskProgram Name)
    (classOf : Object → Ty)
    (Body : Type) where
  /-- What a body may do next. -/
  acts : Body → TaskAction Name Object Body → Prop
  /-- The body of a function with what its parameters are bound to. -/
  enter : Name → List (List (TaskValue Object)) → Body
  /-- The body has been given only values of the expected types. -/
  Ready : List Ty → Body → Prop
  ready_mono : ∀ {results results' body}, results <+: results' →
    Ready results body → Ready results' body
  /-- Arguments of the types of the parameters are what is expected. -/
  enters : ∀ {results name bound},
    Fits (HasType classOf results) (program.signature name).formals bound →
      Ready results (enter name bound)
  /-- A decorated function calls what it is passed as its callable allows. -/
  runs : ∀ {results body function values next}, Ready results body →
    acts body (.runs function values next) →
      Ready results next ∧
      ∃ decorated arguments,
        ∃ call : Call (TypedValue classOf results),
          values = call.toSupply.map TypedValue.value ∧
          decorated.Forwards arguments.original arguments.extra
            (call.map TypedValue.type) ∧
          .runs decorated function arguments ∈ program.calls
  /-- So are values of the inferred type as results of `start`. -/
  starts : ∀ {results body function result values next}, Ready results body →
    acts body (.starts function result values next) →
      (∀ {results'}, results <+: results' → ∀ value,
        HasType classOf results' value result → Ready results' (next value)) ∧
      ∃ name,
        ∃ arguments : List (TypedValue classOf results),
          values = arguments.map TypedValue.value ∧
          .starts function name (arguments.map TypedValue.type) result ∈
            program.calls
  /-- The value is the argument of `started`, or `None`. -/
  started : ∀ {results body handle value next}, Ready results body →
    acts body (.started handle value next) →
      Ready results next ∧
      ∃ object call, .started object call ∈ program.calls ∧
        HasType classOf results (.status handle) object ∧
        HasType classOf results value (passedOn call)

namespace TaskExecution

variable
  {Name Body : Type}
  {program : TaskProgram Name}
  (execution : TaskExecution program classOf Body)

/-- What the actions of a body do to the tasks. A function is entered only if
it takes the arguments. -/
inductive Acts : Body → Action Body (TaskValue Object) Ty → Prop
  | runs {body : Body} {function : Name} {values : Supply (TaskValue Object)}
      {next : Body} {bound : List (List (TaskValue Object))}
      (act : execution.acts body (.runs function values next))
      (binds : bind (program.signature function).formals values =
        some bound) :
      Acts body (.spawns (execution.enter function bound) next)
  | starts {body : Body} {function : Name} {result : Ty}
      {values : List (TaskValue Object)} {next : TaskValue Object → Body}
      {bound : Nat → List (List (TaskValue Object))}
      (act : execution.acts body (.starts function result values next))
      (binds : ∀ handle, bind (program.signature function).formals
        (statusCall values handle) = some (bound handle)) :
      Acts body (.starts result
        (fun handle => execution.enter function (bound handle)) next)
  | started {body : Body} {handle : Nat} {value : TaskValue Object}
      {next : Body}
      (act : execution.acts body (.started handle value next)) :
      Acts body (.reports handle value next)

end TaskExecution

/-! ## Calls that are accepted -/

/-- The same value when there have been further calls of `start`. -/
def TypedValue.lift
    (isPrefix : results <+: results')
    (argument : TypedValue classOf results) : TypedValue classOf results' :=
  ⟨argument.value, argument.type, argument.hasType.mono isPrefix⟩

/-- A function that accepts arguments of some types takes values of these. -/
theorem accepts_values
    {f : CallableType}
    (notEllipsis : f.isEllipsisArgs = false)
    {supply : Supply (TypedValue classOf results)}
    (accepts : AcceptsCall f (supply.map TypedValue.type)) :
    Accepts (HasType classOf results) f.formals
      (supply.map TypedValue.value) := by
  rcases accepts with ellipsis | accepted
  · exact absurd (notEllipsis.symm.trans ellipsis) Bool.false_ne_true
  · refine Accepts.exchange ?_ accepted
    intro argument type related
    exact argument.hasType.upwards related

/-- A function that may be started takes a `task_status` for the result. -/
theorem accepts_statusCall
    {api : CheckerApi}
    {hasTypeVarDefault : Bool}
    {f : CallableType}
    (notEllipsis : f.isEllipsisArgs = false)
    {arguments : List (TypedValue classOf results)}
    {name : Option Ty}
    {result : Ty}
    (returns : StartReturns api hasTypeVarDefault f name
      (arguments.map TypedValue.type) result) :
    Accepts (HasType classOf (results ++ [result])) f.formals
      (statusCall (arguments.map TypedValue.value) results.length) := by
  have isPrefix : results <+: results ++ [result] :=
    List.prefix_append results [result]
  have resultAt : (results ++ [result])[results.length]? = some result := by
    simp
  let status : TypedValue classOf (results ++ [result]) :=
    ⟨.status results.length, taskStatus result, result, resultAt, le_refl _⟩
  let supply : Supply (TypedValue classOf (results ++ [result])) :=
    ⟨arguments.map (TypedValue.lift isPrefix), [("task_status", status)]⟩
  have values : supply.map TypedValue.value =
      statusCall (arguments.map TypedValue.value) results.length := by
    simp [supply, status, Supply.map, statusCall, TypedValue.lift]
  have types : supply.map TypedValue.type =
      ⟨arguments.map TypedValue.type,
        [("task_status", taskStatus result)]⟩ := by
    simp [supply, status, Supply.map, TypedValue.lift]
  rw [← values]
  apply accepts_values notEllipsis
  rw [types]
  exact ((startReturns_iff _ _ _ _ _ _).mp returns).2.2.2

/-- What is passed to `started` is of the type inferred for the call of `start`
that waits for it. -/
theorem hasType_of_started
    (contravariant : ∀ first second,
      taskStatus first ≤ taskStatus second → second ≤ first)
    {handle : Nat}
    {object : Ty}
    (isStatus : HasType classOf results (.status handle) object)
    {call : Supply Ty}
    (accepts : AcceptsStarted object call)
    {value : TaskValue Object}
    (isPassedOn : HasType classOf results value (passedOn call)) :
    ∃ result, results[handle]? = some result ∧
      HasType classOf results value result := by
  obtain ⟨result, resultAt, related⟩ := isStatus
  obtain ⟨type, standsFor, ofType⟩ := accepts.exists_passedOn_le
  have smaller := contravariant _ _ (le_trans related standsFor)
  exact ⟨result, resultAt, isPassedOn.upwards (le_trans ofType smaller)⟩

/-! ## Every run of the tasks -/

namespace TaskExecution

variable
  {Name Body : Type}
  {program : TaskProgram Name}
  {execution : TaskExecution program classOf Body}
  {api : CheckerApi}
  {hasTypeVarDefault : Bool}
  (checked : program.Checked api hasTypeVarDefault)
  {body : Body}
  (ready : execution.Ready results body)

include checked ready

/-- A function that is run takes the arguments it is called with. -/
theorem accepts_runs
    {function : Name}
    {values : Supply (TaskValue Object)}
    {next : Body}
    (act : execution.acts body (.runs function values next)) :
    Accepts (HasType classOf results) (program.signature function).formals
      values := by
  obtain ⟨-, decorated, arguments, call, rfl, forwards, isCall⟩ :=
    execution.runs ready act
  have acceptsCall : decorated.AcceptsCall (program.signature function)
      arguments := checked.calls _ isCall
  exact accepts_values (checked.notEllipsis function)
    (acceptsCall.acceptsCall_of_forwards forwards)

/-- So does a function that is started, together with the `task_status`. -/
theorem accepts_starts
    {function : Name}
    {result : Ty}
    {values : List (TaskValue Object)}
    {next : TaskValue Object → Body}
    (act : execution.acts body (.starts function result values next)) :
    Accepts (HasType classOf (results ++ [result]))
      (program.signature function).formals
      (statusCall values results.length) := by
  obtain ⟨-, name, arguments, rfl, isCall⟩ := execution.starts ready act
  exact accepts_statusCall (checked.notEllipsis function)
    (checked.calls _ isCall)

omit ready

/-- Bodies that have been given what they expect call functions with what these
expect, and report what is waited for. -/
def discipline
    (contravariant : ∀ first second,
      taskStatus first ≤ taskStatus second → second ≤ first) :
    Discipline execution.Acts where
  Ready := execution.Ready
  Accepts results result value := HasType classOf results value result
  ready_mono := execution.ready_mono
  accepts_mono isPrefix hasType := hasType.mono isPrefix
  spawns := by
    intro results body _ next ready act
    cases act with
    | runs act binds =>
        obtain ⟨bound, binds', fits⟩ := accepts_runs checked ready act
        obtain rfl := Option.some.inj (binds.symm.trans binds')
        exact ⟨execution.enters fits, (execution.runs ready act).1⟩
  starts := by
    intro results body result _ next ready act
    cases act with
    | starts act binds =>
        obtain ⟨bound, binds', fits⟩ := accepts_starts checked ready act
        obtain rfl := Option.some.inj ((binds _).symm.trans binds')
        refine ⟨execution.enters fits, ?_⟩
        intro results' isPrefix
        exact (execution.starts ready act).1
          ((List.prefix_append _ _).trans isPrefix)
  reports := by
    intro results body handle value next ready act
    cases act with
    | started act =>
        obtain ⟨nextReady, object, call, isCall, isStatus, isPassedOn⟩ :=
          execution.started ready act
        exact ⟨hasType_of_started contravariant isStatus
          (checked.calls _ isCall) isPassedOn, nextReady⟩

end TaskExecution

/-- What the checks are for. However the tasks of a checked program have taken
their steps, every task has been given only values of the expected types, every
function that it may call, by way of decorated functions or of `start`, takes the
arguments, which are of the types of its parameters, and whatever has been passed
to `started` is of the type inferred for the call of `start` that waits for it. -/
theorem tasks_safe
    (contravariant : ∀ first second,
      taskStatus first ≤ taskStatus second → second ≤ first)
    {Name Body : Type}
    {program : TaskProgram Name}
    {api : CheckerApi}
    {hasTypeVarDefault : Bool}
    (checked : program.Checked api hasTypeVarDefault)
    (execution : TaskExecution program classOf Body)
    {main : Name}
    {bound : List (List (TaskValue Object))}
    (arguments :
      Fits (HasType classOf []) (program.signature main).formals bound)
    {pool : Pool Body (TaskValue Object) Ty}
    (reaches : Reaches execution.Acts
      (Pool.single (execution.enter main bound)) pool) :
    (∀ body, .running body ∈ pool.tasks →
      execution.Ready pool.handles body ∧
      (∀ function values next,
        execution.acts body (.runs function values next) →
          Accepts (HasType classOf pool.handles)
            (program.signature function).formals values) ∧
      ∀ function result values next,
        execution.acts body (.starts function result values next) →
          Accepts (HasType classOf (pool.handles ++ [result]))
            (program.signature function).formals
            (statusCall values pool.handles.length)) ∧
    ∀ handle value, (handle, value) ∈ pool.reports →
      ∃ result, pool.handles[handle]? = some result ∧
        HasType classOf pool.handles value result := by
  let discipline : Discipline execution.Acts :=
    TaskExecution.discipline checked contravariant
  have ready : discipline.Ready [] (execution.enter main bound) :=
    execution.enters arguments
  have keeps := Discipline.keeps_of_ready ready reaches
  constructor
  · intro body member
    have bodyReady : execution.Ready pool.handles body := keeps.tasks _ member
    exact ⟨bodyReady,
      fun _ _ _ act => TaskExecution.accepts_runs checked bodyReady act,
      fun _ _ _ _ act => TaskExecution.accepts_starts checked bodyReady act⟩
  · intro handle value member
    exact keeps.reports _ member

end Subtyping

/-! ## `Nursery.start_soon` -/

/-- `Nursery.start_soon` with its overloads. -/
def startSoon : DecoratedFunction where
  ctx := NurseryMethod.context .startSoon readmeContext.api
  hasTypeVarDefault := true
  fnType := NurseryMethod.signature .startSoon
  argsIdx := 2
  selected := ⟨1, 0, varArgArm none⟩
  expanded := expandedFns readmeContext.api true
    (NurseryMethod.signature .startSoon) 2 ⟨1, 0, varArgArm none⟩
  decorated := rfl
  accepted := rfl
  wellFormed := by
    refine ⟨NurseryMethod.wellFormed .startSoon, ?_⟩
    intro type member callableTy choice
    simp only [NurseryMethod.signature, nurseryMethod, List.mem_cons,
      List.not_mem_nil, or_false] at member
    rcases member with rfl | rfl | rfl | rfl
    · cases choice
    · cases choice
      exact varArgArm_wellFormed none
    · cases choice
    · cases choice
  bindsItsVariables := by
    intro type member id occurs
    simp only [NurseryMethod.signature, nurseryMethod, List.mem_cons,
      List.not_mem_nil, or_false] at member
    rcases member with rfl | rfl | rfl | rfl <;> cases occurs
  selects := NurseryMethod.selects .startSoon
  notEllipsis := rfl

/-- The arguments of `nursery.start_soon(function, *arguments)`. -/
def startSoonArguments (arguments : List Ty) : DecoratedArguments where
  original := fun _ => none
  before := [.inst "trio.Nursery" []]
  after := []
  keywords := []
  extra := arguments

section Subtyping

variable [Preorder Ty]

/-- `start_soon` has the function called with its own extra arguments. -/
theorem startSoon_forwards (types : List Ty) :
    startSoon.Forwards (fun _ => none) types
      ⟨⟨types, []⟩, List.nodup_nil⟩ := by
  refine ⟨[types], rfl, ?_, rfl⟩
  intro other formal taken different _ takenAt
  cases other with
  | zero => exact absurd rfl different
  | succ other => cases takenAt

/-- The only call of its callable with given types is the one with these as
arguments. -/
theorem acceptsSplatted_varArgArm
    {f : CallableType}
    {types : List Ty}
    (result : f.retType ≤ awaitableAny)
    (accepts : AcceptsCall f ⟨types, []⟩) :
    AcceptsSplatted f (varArgArm none) 0 types := by
  refine ⟨result, ?_⟩
  rintro ⟨⟨positional, keywords⟩, distinct⟩ bound binds - typesAt
  have ordered := (varArgArm_wellFormed none).formals_ordered
  obtain rfl : positional = types := by
    have atStar : bound[0]? = some (positional.drop 0) :=
      bind_star ordered rfl rfl binds
    exact Option.some.inj (atStar.symm.trans typesAt)
  have single : bound = [positional] := by
    have lengths : bound.length = 1 := bind_length binds
    obtain ⟨taken, rfl⟩ := List.length_eq_one_iff.mp lengths
    exact congrArg (fun taken => [taken]) (Option.some.inj typesAt)
  have noKeywords : keywords = [] := by
    have lengths := (bind_perm binds).length_eq
    rw [single] at lengths
    simpa [Supply.arguments] using lengths
  subst noKeywords
  exact accepts

/-- `start_soon` takes the functions that take the arguments. -/
theorem startSoon_acceptsCall
    {f : CallableType}
    {types : List Ty}
    (atMostFive : types.length ≤ 5)
    (result : f.retType ≤ awaitableAny)
    (accepts : AcceptsCall f ⟨types, []⟩) :
    startSoon.AcceptsCall f (startSoonArguments types) := by
  refine ⟨rfl, rfl, exists_accepts_of_acceptsSplatted startSoon.decorated
    startSoon.wellFormed startSoon.bindsItsVariables startSoon.selects
    startSoon.accepted rfl rfl ?_ atMostFive
    (acceptsSplatted_varArgArm result accepts)⟩
  refine ⟨[[.value (.inst "trio.Nursery" [])], [.function f], [], []], rfl, ?_⟩
  intro other formal taken different formalAt takenAt argument member
  rcases other with _ | _ | _ | _ | other
  · cases formalAt
    cases takenAt
    obtain rfl := List.mem_singleton.mp member
    exact le_refl (Ty.inst "trio.Nursery" [])
  · exact absurd rfl different
  · cases takenAt
    cases member
  · cases takenAt
    cases member
  · cases takenAt

end Subtyping

/-! ## Tasks that pass a number on -/

/-- The functions `main`, `child` and `worker`. -/
inductive ChildName
  | main
  | child
  | worker
  deriving DecidableEq, Repr

/-- `async def worker(arg: float) -> Any`. -/
def workerFn : CallableType where
  argTypes := [.inst "builtins.float" []]
  argKinds := [.pos]
  argNames := [some "arg"]
  retType := awaitableAny
  typeVariables := []
  isEllipsisArgs := false

/-- In `main`, a `float` comes from `await nursery.start(child, 10)` and goes to
`nursery.start_soon(worker, number)`; in `child`, an `int` is passed to
`started`. -/
def childProgram : TaskProgram ChildName where
  signature
    | .main => {
        argTypes := []
        argKinds := []
        argNames := []
        retType := awaitableAny
        typeVariables := []
        isEllipsisArgs := false }
    | .child => childFn
    | .worker => workerFn
  calls :=
    [.starts .child none [.inst "builtins.int" []] (.inst "builtins.float" []),
      .runs startSoon .worker (startSoonArguments [.inst "builtins.float" []]),
      .started (taskStatus (.inst "builtins.int" []))
        ⟨[.inst "builtins.int" []], []⟩]

/-- The bodies of the functions. -/
inductive ChildBody
  | main
  /-- `main` has the number. -/
  | started (number : TaskValue Int)
  | child (bound : List (List (TaskValue Int)))
  | worker (bound : List (List (TaskValue Int)))
  | finished

/-- What the bodies do. -/
def ChildBody.act : ChildBody → Option (TaskAction ChildName Int ChildBody)
  | .main =>
      some (.starts .child (.inst "builtins.float" []) [.object 10] .started)
  | .started number => some (.runs .worker ⟨[number], []⟩ .finished)
  | .child [[argument], [.status handle]] =>
      some (.started handle argument .finished)
  | _ => none

/-- All objects are integers. -/
def intClass (_ : Int) : Ty :=
  .inst "builtins.int" []

section Subtyping

variable [Preorder Ty]

/-- The bodies have what they expect. -/
def ChildBody.Ready (results : List Ty) : ChildBody → Prop
  | .started number =>
      HasType intClass results number (.inst "builtins.float" [])
  | .child bound => Fits (HasType intClass results) childFn.formals bound
  | .worker bound => Fits (HasType intClass results) workerFn.formals bound
  | _ => True

/-- The functions at run time. -/
def childExecution : TaskExecution childProgram intClass ChildBody where
  acts body action := body.act = some action
  enter
    | .main, _ => .main
    | .child, bound => .child bound
    | .worker, bound => .worker bound
  Ready := ChildBody.Ready
  ready_mono {_ _ body} isPrefix ready := by
    cases body with
    | started number => exact HasType.mono isPrefix ready
    | child bound => exact fits_mono isPrefix ready
    | worker bound => exact fits_mono isPrefix ready
    | _ => trivial
  enters {_ name _} fits := by
    cases name with
    | main => trivial
    | child => exact fits
    | worker => exact fits
  runs {_ body _ _ _} ready act := by
    unfold ChildBody.act at act
    split at act
    · cases act
    · cases act
      exact ⟨trivial, startSoon, startSoonArguments [.inst "builtins.float" []],
        ⟨⟨[⟨_, .inst "builtins.float" [], ready⟩], []⟩, List.nodup_nil⟩, rfl,
        startSoon_forwards _, List.mem_cons_of_mem _ List.mem_cons_self⟩
    all_goals cases act
  starts {_ body _ _ _ _} _ act := by
    unfold ChildBody.act at act
    split at act
    · cases act
      exact ⟨fun _ _ hasType => hasType, none,
        [⟨.object 10, .inst "builtins.int" [], le_refl _⟩], rfl,
        List.mem_cons_self⟩
    all_goals cases act
  started {_ body _ _ _} ready act := by
    unfold ChildBody.act at act
    split at act
    · cases act
    · cases act
    · cases act
      cases ready with
      | cons fitsArgument rest =>
          cases rest with
          | cons fitsStatus _ =>
              exact ⟨trivial, _, _,
                List.mem_cons_of_mem _
                  (List.mem_cons_of_mem _ (List.mem_singleton_self _)),
                fitsStatus _ (List.mem_singleton_self _),
                fitsArgument _ (List.mem_singleton_self _)⟩
    · cases act

end Subtyping

/-- `main` may pass the number on to `worker`. -/
theorem tasks_safe_child :
    letI := numericOrder
    Accepts (HasType intClass [.inst "builtins.float" []]) workerFn.formals
      ⟨[.object 10], []⟩ := by
  let order := numericOrder
  have started : AcceptsStarted (taskStatus (.inst "builtins.int" []))
      ⟨[.inst "builtins.int" []], []⟩ := by
    refine ⟨_, le_refl _, _, List.mem_cons_of_mem _ (List.mem_singleton_self _),
      [[taskStatus (.inst "builtins.int" [])], [.inst "builtins.int" []]], rfl,
      .cons ?_ (.cons ?_ .nil)⟩
    · exact fun _ member => (List.mem_singleton.mp member).le
    · exact fun _ member => (List.mem_singleton.mp member).le
  have acceptsNumber :
      AcceptsCall workerFn ⟨[.inst "builtins.float" []], []⟩ := by
    refine .inr ⟨[[.inst "builtins.float" []]], rfl, .cons ?_ .nil⟩
    exact fun _ member => (List.mem_singleton.mp member).le
  have checked : childProgram.Checked readmeContext.api true := by
    refine ⟨?_, fun name => by cases name <;> rfl⟩
    intro call member
    simp only [childProgram, List.mem_cons, List.not_mem_nil, or_false] at member
    rcases member with rfl | rfl | rfl
    · exact startReturns_childFn
    · exact startSoon_acceptsCall (by decide) (le_refl _) acceptsNumber
    · exact started
  have arguments : Fits (HasType intClass [])
      (childProgram.signature .main).formals [] := .nil
  have starts : childExecution.Acts .main
      (.starts (.inst "builtins.float" [])
        (fun handle => .child [[.object 10], [.status handle]]) .started) :=
    @TaskExecution.Acts.starts _ _ _ _ _ _ childExecution .main .child _
      [.object 10] .started (fun handle => [[.object 10], [.status handle]]) rfl
      fun _ => rfl
  have reports : childExecution.Acts (.child [[.object 10], [.status 0]])
      (.reports 0 (.object 10) .finished) := .started rfl
  have reaches : Reaches childExecution.Acts
      (Pool.single (childExecution.enter .main []))
      ⟨[.running .finished, .running (.started (.object 10))],
        [.inst "builtins.float" []], [(0, .object 10)]⟩ :=
    .tail (.tail (.single (@Step.starts _ _ _ _ [] [] [] [] _ _ _ _ starts))
        (@Step.reports _ _ _ _ [] _ _ _ _ _ _ _ reports List.not_mem_nil))
      (@Step.resumes _ _ _ _ [_] [] _ _ _ _ _ (List.mem_singleton_self _))
  obtain ⟨running, -⟩ := tasks_safe (fun _ _ => NumericLe.status_iff.mp) checked
    childExecution arguments reaches
  exact (running (.started (.object 10))
    (List.mem_cons_of_mem _ (List.mem_singleton_self _))).2.1 .worker _ _ rfl

end Stubs
end TrioTyping
