import TrioTyping.Mypy.Types

/-!
# What a plugin hook sees of the type checker

A hook is called with a context: the types of the actual arguments, formal by
formal, the type the call would have without the plugin, and the checker itself.
The checker answers subtype questions, simplifies unions, knows the function
whose body it is in, and collects the errors a hook reports.
-/

namespace TrioTyping

/-- A `ValueError` with its message. -/
structure ValueError where
  /-- `str(ex)`. -/
  message : String
  deriving DecidableEq, Repr

/-- An exception raised by Python code. -/
inductive PyError
  | valueError (error : ValueError)
  | assertionError
  deriving DecidableEq, Repr

/-- An error reported to the user. -/
inductive Report
  /-- `ctx.api.fail(message, ctx.context)`. -/
  | fail (message : String)
  /-- `message_registry.INCOMPATIBLE_TYPES` with the two labelled types. -/
  | incompatibleTypes
      (subtype supertype : Ty)
      (subtypeLabel supertypeLabel : String)

/-- A result together with the errors reported on the way to it. -/
structure Reported (α : Type) where
  /-- The result. -/
  value : α
  /-- The errors, in order. -/
  reports : List Report

namespace Reported

instance : Monad Reported where
  pure value := ⟨value, []⟩
  bind first next :=
    ⟨(next first.value).value, first.reports ++ (next first.value).reports⟩

variable {α β : Type}

@[simp] theorem value_pure (value : α) :
    (pure value : Reported α).value = value := rfl

@[simp] theorem reports_pure (value : α) :
    (pure value : Reported α).reports = [] := rfl

@[simp] theorem value_bind
    (first : Reported α)
    (next : α → Reported β) :
    (first >>= next).value = (next first.value).value := rfl

@[simp] theorem reports_bind
    (first : Reported α)
    (next : α → Reported β) :
    (first >>= next).reports =
      first.reports ++ (next first.value).reports := rfl

/-- No error has been reported. -/
def Clean (run : Reported α) : Prop :=
  run.reports = []

end Reported

/-- Report a message. -/
def fail (message : String) : Reported Unit :=
  ⟨(), [.fail message]⟩

@[simp] theorem reports_fail (message : String) :
    (fail message).reports = [.fail message] := rfl

/-- A function definition, as far as the plugin looks at it. -/
structure FuncDef where
  /-- Declared with `async def`. -/
  isCoroutine : Bool
  /-- Some decorator is applied to it. -/
  isDecorated : Bool
  /-- Its type; there is none without any annotation. -/
  type : Option Ty

/-- A function whose body can be on the checker's scope stack. -/
inductive FuncItem
  | funcDef (definition : FuncDef)
  | lambdaExpr

/-- The services of the type checker. -/
structure CheckerApi where
  /-- `is_subtype`. -/
  isSubtype : Ty → Ty → Bool
  /-- `make_simplified_union`. -/
  makeSimplifiedUnion : List Ty → Ty
  /-- `scope.top_function()`: the innermost enclosing function. -/
  topFunction : Option FuncItem

namespace CheckerApi

/-- `named_generic_type`. -/
def namedGenericType (_api : CheckerApi) (fullname : String) (args : List Ty) :
    Ty :=
  .inst fullname args

/-- `check_subtype`: report incompatible types unless the first is a subtype of
the second. -/
def checkSubtype
    (api : CheckerApi)
    (subtype supertype : Ty)
    (subtypeLabel supertypeLabel : String) : Reported Unit :=
  if api.isSubtype subtype supertype then pure ()
  else
    ⟨(), [.incompatibleTypes subtype supertype subtypeLabel supertypeLabel]⟩

/-- A subtype check reports nothing exactly when the relation holds. -/
@[simp] theorem checkSubtype_reports_eq_nil
    (api : CheckerApi)
    (subtype supertype : Ty)
    (subtypeLabel supertypeLabel : String) :
    (api.checkSubtype subtype supertype subtypeLabel
        supertypeLabel).reports = [] ↔
      api.isSubtype subtype supertype = true := by
  unfold checkSubtype
  split <;> simp_all

end CheckerApi

/-- The context in which a hook runs. -/
structure FunctionContext where
  /-- Types of the actual arguments of every formal. -/
  argTypes : List (List Ty)
  /-- Type of the call as inferred without the plugin. -/
  defaultReturnType : Ty
  /-- The type checker. -/
  api : CheckerApi

end TrioTyping
