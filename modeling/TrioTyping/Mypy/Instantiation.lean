import TrioTyping.Mypy.Checker
import TrioTyping.Mypy.TypeVariables

/-!
# Instantiating what a hook gets

mypy puts types for the variables of a class whenever it looks up a method in an
object, and for the variables of a function whenever it is called. A hook has run
by then, on types in which the variables are still variables. It may miss what a
variable turns out to be: the variable conceals it.

mypy also makes every union anew after its arms have been instantiated, for they
may have become unions themselves, or equal. What it makes of the arms is a
parameter here.
-/

namespace TrioTyping

mutual

/-- `expand_type`: put the assigned types for the type variables of a type, and
make its unions anew. -/
def Ty.expandTypeWith
    (makeUnion : List Ty → Ty)
    (env : Instantiation) : Ty → Ty
  | .any kind => .any kind
  | .noneTyp => .noneTyp
  | .uninhabited isNoreturn => .uninhabited isNoreturn
  | .typeVar typeVariable =>
      (env typeVariable.id).getD (.typeVar typeVariable)
  | .inst fullname args =>
      .inst fullname (Ty.expandTypesWith makeUnion env args)
  | .callable signature => .callable (signature.expandTypeWith makeUnion env)
  | .overloaded items =>
      .overloaded (CallableType.expandTypesWith makeUnion env items)
  | .union items => makeUnion (Ty.expandTypesWith makeUnion env items)
  | .typeAlias name target =>
      .typeAlias name (target.expandTypeWith makeUnion env)
  | .other tag components =>
      .other tag (Ty.expandTypesWith makeUnion env components)

/-- Instantiate the parameter types and the result type of a signature. -/
def CallableType.expandTypeWith
    (makeUnion : List Ty → Ty)
    (env : Instantiation) : CallableType → CallableType
  | ⟨argTypes, argKinds, argNames, retType, typeVariables, isEllipsisArgs⟩ =>
      ⟨Ty.expandTypesWith makeUnion env argTypes, argKinds, argNames,
        retType.expandTypeWith makeUnion env, typeVariables, isEllipsisArgs⟩

/-- Instantiate every type of a list. -/
def Ty.expandTypesWith
    (makeUnion : List Ty → Ty)
    (env : Instantiation) : List Ty → List Ty
  | [] => []
  | type :: types =>
      type.expandTypeWith makeUnion env ::
        Ty.expandTypesWith makeUnion env types

/-- Instantiate every signature of a list. -/
def CallableType.expandTypesWith
    (makeUnion : List Ty → Ty)
    (env : Instantiation) : List CallableType → List CallableType
  | [] => []
  | signature :: signatures =>
      signature.expandTypeWith makeUnion env ::
        CallableType.expandTypesWith makeUnion env signatures

end

mutual

/-- With unions left as they are, types are put for the variables and nothing
else happens. -/
theorem Ty.expandTypeWith_union (env : Instantiation) :
    ∀ type : Ty, type.expandTypeWith .union env = type.expandType env
  | .any _ => rfl
  | .noneTyp => rfl
  | .uninhabited _ => rfl
  | .typeVar _ => rfl
  | .inst _ args => by
      rw [Ty.expandTypeWith, Ty.expandType, Ty.expandTypesWith_union env args]
  | .callable signature => by
      rw [Ty.expandTypeWith, Ty.expandType,
        CallableType.expandTypeWith_union env signature]
  | .overloaded items => by
      rw [Ty.expandTypeWith, Ty.expandType,
        CallableType.expandTypesWith_union env items]
  | .union items => by
      rw [Ty.expandTypeWith, Ty.expandType, Ty.expandTypesWith_union env items]
  | .typeAlias _ target => by
      rw [Ty.expandTypeWith, Ty.expandType, Ty.expandTypeWith_union env target]
  | .other _ components => by
      rw [Ty.expandTypeWith, Ty.expandType,
        Ty.expandTypesWith_union env components]

theorem CallableType.expandTypeWith_union (env : Instantiation) :
    ∀ signature : CallableType,
      signature.expandTypeWith .union env = signature.expandType env
  | ⟨argTypes, _, _, retType, _, _⟩ => by
      rw [CallableType.expandTypeWith, CallableType.expandType,
        Ty.expandTypesWith_union env argTypes,
        Ty.expandTypeWith_union env retType]

theorem Ty.expandTypesWith_union (env : Instantiation) :
    ∀ types : List Ty,
      Ty.expandTypesWith .union env types = Ty.expandTypes env types
  | [] => rfl
  | type :: types => by
      rw [Ty.expandTypesWith, Ty.expandTypes, Ty.expandTypeWith_union env type,
        Ty.expandTypesWith_union env types]

theorem CallableType.expandTypesWith_union (env : Instantiation) :
    ∀ signatures : List CallableType,
      CallableType.expandTypesWith .union env signatures =
        CallableType.expandTypes env signatures
  | [] => rfl
  | signature :: signatures => by
      rw [CallableType.expandTypesWith, CallableType.expandTypes,
        CallableType.expandTypeWith_union env signature,
        CallableType.expandTypesWith_union env signatures]

end

section Instantiated

variable (makeUnion : List Ty → Ty) (env : Instantiation)

/-- Instantiate every type a hook gets. -/
def FunctionContext.expandTypeWith (ctx : FunctionContext) : FunctionContext :=
  { ctx with
    argTypes := ctx.argTypes.map (List.map (Ty.expandTypeWith makeUnion env))
    defaultReturnType := ctx.defaultReturnType.expandTypeWith makeUnion env }

/-! ## Reading the list functions as list operations -/

theorem Ty.expandTypesWith_eq_map (types : List Ty) :
    Ty.expandTypesWith makeUnion env types =
      types.map (Ty.expandTypeWith makeUnion env) := by
  induction types with
  | nil => rfl
  | cons type types inductionHypothesis =>
      rw [Ty.expandTypesWith, List.map_cons, inductionHypothesis]

theorem CallableType.expandTypesWith_eq_map (signatures : List CallableType) :
    CallableType.expandTypesWith makeUnion env signatures =
      signatures.map (CallableType.expandTypeWith makeUnion env) := by
  induction signatures with
  | nil => rfl
  | cons signature signatures inductionHypothesis =>
      rw [CallableType.expandTypesWith, List.map_cons, inductionHypothesis]

namespace CallableType

variable (signature : CallableType)

theorem expandTypeWith_eq :
    signature.expandTypeWith makeUnion env =
      { signature with
        argTypes := signature.argTypes.map (Ty.expandTypeWith makeUnion env)
        retType := signature.retType.expandTypeWith makeUnion env } := by
  cases signature
  rw [expandTypeWith, Ty.expandTypesWith_eq_map]

@[simp] theorem expandTypeWith_argTypes :
    (signature.expandTypeWith makeUnion env).argTypes =
      signature.argTypes.map (Ty.expandTypeWith makeUnion env) := by
  rw [expandTypeWith_eq]

@[simp] theorem expandTypeWith_argKinds :
    (signature.expandTypeWith makeUnion env).argKinds = signature.argKinds := by
  rw [expandTypeWith_eq]

@[simp] theorem expandTypeWith_isEllipsisArgs :
    (signature.expandTypeWith makeUnion env).isEllipsisArgs =
      signature.isEllipsisArgs := by
  rw [expandTypeWith_eq]

end CallableType

/-! ## What a variable conceals -/

/-- A resolved type is instantiated before or after it is resolved. -/
theorem getProperType_expandTypeWith (type : Ty) :
    getProperType (type.expandTypeWith makeUnion env) =
      getProperType ((getProperType type).expandTypeWith makeUnion env) := by
  induction type using getProperType.induct with
  | case1 name target inductionHypothesis =>
      rw [Ty.expandTypeWith, getProperType_typeAlias, getProperType_typeAlias]
      exact inductionHypothesis
  | case2 type notAlias => rw [getProperType.eq_2 type notAlias]

/-- Instantiating the type does not bring to light what is looked for. -/
structure ConcealsNo (sought : Ty → Prop) (type : Ty) : Prop where
  /-- If the type is a variable, what is put for it is not of the kind that is
  looked for. -/
  replacement : ∀ typeVariable replacement,
    getProperType type = .typeVar typeVariable →
      env typeVariable.id = some replacement →
        ¬sought (getProperType replacement)
  /-- If it is a union, its instantiated arms still make the union of them: none
  has become a union, and none is superfluous. -/
  keepsUnion : ∀ items, getProperType type = .union items →
    makeUnion (items.map (Ty.expandTypeWith makeUnion env)) =
      .union (items.map (Ty.expandTypeWith makeUnion env))

/-- A type that is neither a variable nor a union conceals nothing. -/
theorem concealsNo_of_ne
    {type : Ty}
    (noVariable : ∀ typeVariable, getProperType type ≠ .typeVar typeVariable)
    (noUnion : ∀ items, getProperType type ≠ .union items)
    (sought : Ty → Prop) :
    ConcealsNo makeUnion env sought type where
  replacement typeVariable _ isVariable :=
    absurd isVariable (noVariable typeVariable)
  keepsUnion items isUnion := absurd isUnion (noUnion items)

end Instantiated

/-- Where nothing is concealed, a look at the instantiated type finds what a look
at the type itself finds. -/
theorem ConcealsNo.look_expandTypeWith
    {β : Type}
    {makeUnion : List Ty → Ty}
    {env : Instantiation}
    {type : Ty}
    {look : Ty → Option β}
    {change : β → β}
    (concealsNo : ConcealsNo makeUnion env (fun resolved => look resolved ≠ none)
      type)
    (lookVariable : ∀ typeVariable, look (.typeVar typeVariable) = none)
    (lookOther : (∀ typeVariable, getProperType type ≠ .typeVar typeVariable) →
      look (getProperType ((getProperType type).expandTypeWith makeUnion env)) =
        (look (getProperType type)).map change) :
    look (getProperType (type.expandTypeWith makeUnion env)) =
      (look (getProperType type)).map change := by
  rw [getProperType_expandTypeWith]
  by_cases isVariable : ∃ typeVariable, getProperType type = .typeVar typeVariable
  · obtain ⟨typeVariable, resolved⟩ := isVariable
    rw [resolved, lookVariable, Option.map_none, Ty.expandTypeWith]
    cases replaced : env typeVariable.id with
    | none => exact lookVariable typeVariable
    | some replacement =>
        exact of_not_not
          (concealsNo.replacement typeVariable replacement resolved replaced)
  · exact lookOther (not_exists.mp isVariable)

end TrioTyping
