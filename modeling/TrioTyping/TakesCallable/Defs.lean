import TrioTyping.Mypy.Checker
import TrioTyping.Mypy.TypeVariables

/-!
# The decorator `@takes_callable_and_args`

The decorated function takes a callable with a `VarArg()` parameter and passes
its own `*args: Any` on to it. The callback scans the signature for the two
parameters and returns an overload for each number of extra arguments from zero
to five. In the overload for `n` of them `*args` and the `VarArg()` are both
replaced by the same `n` fresh type variables, as required positional-only
parameters.
-/

namespace TrioTyping
namespace TakesCallable

open Calling

/-! ## Scanning the signature -/

/-- `callable_idx`, `callable_args_idx` and `callable_ty`, which are assigned
together. -/
structure SelectedCallable where
  /-- Index of the callable among the parameters of the function. -/
  callableIdx : Nat
  /-- Index of its `VarArg()` among its own parameters. -/
  callableArgsIdx : Nat
  /-- Its type. -/
  callableTy : CallableType

/-- The variables of the scan; `-1` stands for an index not found yet. -/
structure ScanState where
  /-- The callable, once it has been found. -/
  selected : Option SelectedCallable
  /-- `args_idx`, the index of `*args: Any`. -/
  argsIdx : Option Nat

/-- A parameter `*args: Any`, and in a callable a `VarArg()`. -/
def isStarAny (kind : ArgKind) (type : Ty) : Bool :=
  match getProperType type, kind with
  | .any _, .star => true
  | _, _ => false

/-- The test by which the arm of a union is chosen. -/
def acceptsStar (arm : CallableType) : Bool :=
  !arm.isEllipsisArgs && arm.argKinds.any fun kind => kind == .star

/-- The arm, if it is a callable that passes the test. -/
def callableArm : Ty → Option CallableType
  | .callable arm => if acceptsStar arm then some arm else none
  | _ => none

/-- The callable whose parameters are scanned for a parameter of a resolved
type: the type itself, or the first arm of a union that passes the test. -/
def candidate : Ty → Option CallableType
  | .callable callableTy => some callableTy
  | .union items => (getProperTypes items).findSome? callableArm
  | _ => none

/-- Look at one parameter of a callable. -/
def scanCallableParameter
    (callableIdx : Nat)
    (callableTy : CallableType)
    (state : ScanState)
    (parameter : (ArgKind × Ty) × Nat) : Except PyError ScanState :=
  let ((kind, type), idx) := parameter
  if isStarAny kind type then
    if state.selected.isSome then
      .error (.valueError
        ⟨"decorated function may only take one callable " ++
          "that has an argument of type VarArg()"⟩)
    else
      .ok { state with selected := some ⟨callableIdx, idx, callableTy⟩ }
  else .ok state

/-- Look at one parameter of the decorated function. -/
def scanParameter
    (state : ScanState)
    (parameter : (ArgKind × Ty) × Nat) : Except PyError ScanState :=
  let ((kind, type), idx) := parameter
  if isStarAny kind type then
    -- `assert args_idx == -1`
    if state.argsIdx.isSome then .error .assertionError
    else .ok { state with argsIdx := some idx }
  else if kind = .pos then
    match candidate (getProperType type) with
    | some callableTy =>
        (callableTy.argKinds.zip callableTy.argTypes).zipIdx.foldlM
          (scanCallableParameter idx callableTy) state
    | none => .ok state
  else .ok state

/-- The scan together with the two checks after it: index of `*args: Any` and
the selected callable. -/
def scan (fnType : CallableType) : Except PyError (Nat × SelectedCallable) := do
  let state ← (fnType.argKinds.zip fnType.argTypes).zipIdx.foldlM
    scanParameter ⟨none, none⟩
  match state.argsIdx, state.selected with
  | none, _ =>
      throw (.valueError ⟨"decorated function must take *args: Any"⟩)
  | _, none =>
      throw (.valueError
        ⟨"decorated function must take a callable that has a " ++
          "argument of type mypy_extensions.VarArg()"⟩)
  | some argsIdx, some selected => return (argsIdx, selected)

/-! ## Building the overloads -/

/-- `__T1`, `__T2`, …; mypy takes a default for a type variable from version
1.4 on. -/
def typeVarType
    (api : CheckerApi)
    (hasTypeVarDefault : Bool)
    (fnType : CallableType)
    (argIdx : Nat) : TypeVarType where
  name := "__T" ++ toString argIdx
  fullname := "__T" ++ toString argIdx
  id := -(fnType.typeVariables.length : Int) - argIdx - 1
  values := []
  upperBound := api.namedGenericType "builtins.object" []
  default := if hasTypeVarDefault then some (.any .fromOmittedGenerics)
    else none

/-- A signature with one parameter replaced by required positional-only
parameters whose types are the given type variables. -/
def replaceParameter
    (signature : CallableType)
    (idx : Nat)
    (typeVarTypes : List TypeVarType) : CallableType :=
  { signature with
    argTypes := splice signature.argTypes idx (typeVarTypes.map .typeVar)
    argKinds := splice signature.argKinds idx
      (List.replicate typeVarTypes.length .pos)
    argNames := splice signature.argNames idx
      (List.replicate typeVarTypes.length none) }

/-- One overload. The fresh type variables are bound by the overload and not by
the callable in it. -/
def expandedFn
    (fnType : CallableType)
    (argsIdx : Nat)
    (selected : SelectedCallable)
    (typeVarTypes : List TypeVarType) : CallableType :=
  -- the index of the callable is one of the list, so that the assignment
  -- `arg_types[callable_idx] = …` does not fail
  let argTypes := fnType.argTypes.set selected.callableIdx
    (.callable (replaceParameter selected.callableTy selected.callableArgsIdx
      typeVarTypes))
  let expanded := replaceParameter { fnType with argTypes := argTypes } argsIdx
    typeVarTypes
  { expanded with typeVariables := fnType.typeVariables ++ typeVarTypes }

/-- The loop over `range(1, 7)`, which builds an overload of the type variables
made so far and then makes another one. -/
def expandedFns
    (api : CheckerApi)
    (hasTypeVarDefault : Bool)
    (fnType : CallableType)
    (argsIdx : Nat)
    (selected : SelectedCallable) : List CallableType :=
  ((List.range' 1 6).foldl
    (fun (expandedFns, typeVarTypes) argIdx =>
      (expandedFns ++ [expandedFn fnType argsIdx selected typeVarTypes],
        typeVarTypes ++ [typeVarType api hasTypeVarDefault fnType argIdx]))
    ([], [])).1

/-! ## The callback -/

/-- The decorated function's type, if the decorator is applied as one. -/
def decoratedType (ctx : FunctionContext) : Except PyError CallableType :=
  match ctx.argTypes with
  | [type] :: _ =>
      match getProperType type, getProperType ctx.defaultReturnType with
      | .callable fnType, .callable _ => .ok fnType
      | _, _ => .error (.valueError ⟨"must be used as a decorator"⟩)
  | _ => .error (.valueError ⟨"must be used as a decorator"⟩)

/-- The body of the `try` block. -/
def overloads
    (ctx : FunctionContext)
    (hasTypeVarDefault : Bool) : Except PyError (List CallableType) := do
  let fnType ← decoratedType ctx
  let (argsIdx, selected) ← scan fnType
  return expandedFns ctx.api hasTypeVarDefault fnType argsIdx selected

/-- `takes_callable_and_args_callback`. An exception other than `ValueError`
is passed on. -/
def takesCallableAndArgsCallback
    (ctx : FunctionContext)
    (hasTypeVarDefault : Bool) : Except PyError (Reported Ty) :=
  match overloads ctx hasTypeVarDefault with
  | .ok expanded => .ok (pure (.overloaded expanded))
  | .error (.valueError ex) => .ok do
      fail ("invalid use of @takes_callable_and_args: " ++ ex.message)
      return ctx.defaultReturnType
  | .error error => .error error

end TakesCallable
end TrioTyping
