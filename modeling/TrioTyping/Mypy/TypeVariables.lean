import TrioTyping.Mypy.Types

/-!
# Type variables and their instantiation

An instantiation gives some type variables, by their ids, a type. As in mypy it
replaces every variable with that id, in whatever scope the variable was bound;
which variables a type mentions is therefore all that decides whether an
instantiation changes it.
-/

namespace TrioTyping

open Calling

/-- An assignment of types to the ids of type variables. -/
abbrev Instantiation := Int → Option Ty

mutual

/-- Ids of the type variables that occur in a type, as a type or as one of the
variables a signature binds. -/
def Ty.typeVarIds : Ty → List Int
  | .any _ => []
  | .noneTyp => []
  | .uninhabited _ => []
  | .typeVar typeVariable => [typeVariable.id]
  | .inst _ args => Ty.typeVarIdsList args
  | .callable signature => signature.typeVarIds
  | .overloaded items => CallableType.typeVarIdsList items
  | .union items => Ty.typeVarIdsList items
  | .typeAlias _ target => target.typeVarIds
  | .other _ components => Ty.typeVarIdsList components

/-- Ids of the type variables that occur in a signature. -/
def CallableType.typeVarIds : CallableType → List Int
  | ⟨argTypes, _, _, retType, typeVariables, _⟩ =>
      Ty.typeVarIdsList argTypes ++ retType.typeVarIds ++
        typeVariables.map TypeVarType.id

/-- Ids of the type variables that occur in some type of a list. -/
def Ty.typeVarIdsList : List Ty → List Int
  | [] => []
  | type :: types => type.typeVarIds ++ Ty.typeVarIdsList types

/-- Ids of the type variables that occur in some signature of a list. -/
def CallableType.typeVarIdsList : List CallableType → List Int
  | [] => []
  | signature :: signatures =>
      signature.typeVarIds ++ CallableType.typeVarIdsList signatures

end

mutual

/-- Put the assigned types for the type variables of a type, as `expand_type`
does. Unions are left as they are, while mypy takes care that no arm of one is a
union itself or superfluous. -/
def Ty.expandType (env : Instantiation) : Ty → Ty
  | .any kind => .any kind
  | .noneTyp => .noneTyp
  | .uninhabited isNoreturn => .uninhabited isNoreturn
  | .typeVar typeVariable =>
      (env typeVariable.id).getD (.typeVar typeVariable)
  | .inst fullname args => .inst fullname (Ty.expandTypes env args)
  | .callable signature => .callable (signature.expandType env)
  | .overloaded items => .overloaded (CallableType.expandTypes env items)
  | .union items => .union (Ty.expandTypes env items)
  | .typeAlias name target => .typeAlias name (target.expandType env)
  | .other tag components => .other tag (Ty.expandTypes env components)

/-- Instantiate the parameter types and the result type of a signature. -/
def CallableType.expandType (env : Instantiation) :
    CallableType → CallableType
  | ⟨argTypes, argKinds, argNames, retType, typeVariables, isEllipsisArgs⟩ =>
      ⟨Ty.expandTypes env argTypes, argKinds, argNames,
        retType.expandType env, typeVariables, isEllipsisArgs⟩

/-- Instantiate every type of a list. -/
def Ty.expandTypes (env : Instantiation) : List Ty → List Ty
  | [] => []
  | type :: types => type.expandType env :: Ty.expandTypes env types

/-- Instantiate every signature of a list. -/
def CallableType.expandTypes (env : Instantiation) :
    List CallableType → List CallableType
  | [] => []
  | signature :: signatures =>
      signature.expandType env :: CallableType.expandTypes env signatures

end

/-! ## Reading the list functions as list operations -/

theorem Ty.typeVarIdsList_eq_flatMap (types : List Ty) :
    Ty.typeVarIdsList types = types.flatMap Ty.typeVarIds := by
  induction types with
  | nil => rfl
  | cons type types inductionHypothesis =>
      rw [Ty.typeVarIdsList, List.flatMap_cons, inductionHypothesis]

theorem Ty.expandTypes_eq_map
    (env : Instantiation)
    (types : List Ty) :
    Ty.expandTypes env types = types.map (Ty.expandType env) := by
  induction types with
  | nil => rfl
  | cons type types inductionHypothesis =>
      rw [Ty.expandTypes, List.map_cons, inductionHypothesis]

/-- A variable occurs in a list of types when it occurs in one of them. -/
theorem Ty.mem_typeVarIdsList
    {types : List Ty}
    {id : Int} :
    id ∈ Ty.typeVarIdsList types ↔ ∃ type ∈ types, id ∈ type.typeVarIds := by
  rw [Ty.typeVarIdsList_eq_flatMap, List.mem_flatMap]

namespace CallableType

/-- A variable occurs in a signature when it occurs in a parameter type, in the
result type, or is bound by the signature. -/
theorem mem_typeVarIds
    {signature : CallableType}
    {id : Int} :
    id ∈ signature.typeVarIds ↔
      (∃ type ∈ signature.argTypes, id ∈ type.typeVarIds) ∨
        id ∈ signature.retType.typeVarIds ∨
        id ∈ signature.typeVariables.map TypeVarType.id := by
  obtain ⟨argTypes, argKinds, argNames, retType, typeVariables, ellipsis⟩ :=
    signature
  simp only [typeVarIds, List.mem_append, Ty.mem_typeVarIdsList, or_assoc]

section Fields

variable (env : Instantiation) (signature : CallableType)

theorem expandType_eq :
    signature.expandType env =
      { signature with
        argTypes := signature.argTypes.map (Ty.expandType env)
        retType := signature.retType.expandType env } := by
  cases signature
  rw [expandType, Ty.expandTypes_eq_map]

@[simp] theorem expandType_argTypes :
    (signature.expandType env).argTypes =
      signature.argTypes.map (Ty.expandType env) := by
  rw [expandType_eq]

@[simp] theorem expandType_argKinds :
    (signature.expandType env).argKinds = signature.argKinds := by
  rw [expandType_eq]

@[simp] theorem expandType_argNames :
    (signature.expandType env).argNames = signature.argNames := by
  rw [expandType_eq]

@[simp] theorem expandType_isEllipsisArgs :
    (signature.expandType env).isEllipsisArgs =
      signature.isEllipsisArgs := by
  rw [expandType_eq]

theorem WellFormed.expandType
    {signature : CallableType}
    (wellFormed : signature.WellFormed)
    (env : Instantiation) :
    (signature.expandType env).WellFormed where
  kinds_length := by simpa using wellFormed.kinds_length
  names_length := by simpa using wellFormed.names_length
  ordered := by simpa using wellFormed.ordered
  distinct := by simpa using wellFormed.distinct
  ellipsis := by simpa using wellFormed.ellipsis

end Fields

end CallableType

/-! ## Instantiations that agree on the variables of a type -/

mutual

/-- Two instantiations that agree on the variables of a type have the same
effect on it. -/
theorem Ty.expandType_congr
    {first second : Instantiation} :
    ∀ type : Ty, (∀ id ∈ type.typeVarIds, first id = second id) →
      type.expandType first = type.expandType second
  | .any _, _ => rfl
  | .noneTyp, _ => rfl
  | .uninhabited _, _ => rfl
  | .typeVar typeVariable, agree => by
      simp only [Ty.expandType,
        agree typeVariable.id (by simp [Ty.typeVarIds])]
  | .inst _ args, agree => by
      rw [Ty.expandType, Ty.expandType, Ty.expandTypes_congr args agree]
  | .callable signature, agree => by
      rw [Ty.expandType, Ty.expandType,
        CallableType.expandType_congr signature agree]
  | .overloaded items, agree => by
      rw [Ty.expandType, Ty.expandType,
        CallableType.expandTypes_congr items agree]
  | .union items, agree => by
      rw [Ty.expandType, Ty.expandType, Ty.expandTypes_congr items agree]
  | .typeAlias _ target, agree => by
      rw [Ty.expandType, Ty.expandType, Ty.expandType_congr target agree]
  | .other _ components, agree => by
      rw [Ty.expandType, Ty.expandType, Ty.expandTypes_congr components agree]

theorem CallableType.expandType_congr
    {first second : Instantiation} :
    ∀ signature : CallableType,
      (∀ id ∈ signature.typeVarIds, first id = second id) →
        signature.expandType first = signature.expandType second
  | ⟨argTypes, _, _, retType, _, _⟩, agree => by
      have inParameters := Ty.expandTypes_congr argTypes
        (fun id member => agree id (by simp [CallableType.typeVarIds, member]))
      have inResult := Ty.expandType_congr retType
        (fun id member => agree id (by simp [CallableType.typeVarIds, member]))
      rw [CallableType.expandType, CallableType.expandType, inParameters,
        inResult]

theorem Ty.expandTypes_congr
    {first second : Instantiation} :
    ∀ types : List Ty,
      (∀ id ∈ Ty.typeVarIdsList types, first id = second id) →
        Ty.expandTypes first types = Ty.expandTypes second types
  | [], _ => rfl
  | type :: types, agree => by
      have here := Ty.expandType_congr type
        (fun id member => agree id (by simp [Ty.typeVarIdsList, member]))
      have later := Ty.expandTypes_congr types
        (fun id member => agree id (by simp [Ty.typeVarIdsList, member]))
      rw [Ty.expandTypes, Ty.expandTypes, here, later]

theorem CallableType.expandTypes_congr
    {first second : Instantiation} :
    ∀ signatures : List CallableType,
      (∀ id ∈ CallableType.typeVarIdsList signatures, first id = second id) →
        CallableType.expandTypes first signatures =
          CallableType.expandTypes second signatures
  | [], _ => rfl
  | signature :: signatures, agree => by
      have here := CallableType.expandType_congr signature
        (fun id member =>
          agree id (by simp [CallableType.typeVarIdsList, member]))
      have later := CallableType.expandTypes_congr signatures
        (fun id member =>
          agree id (by simp [CallableType.typeVarIdsList, member]))
      rw [CallableType.expandTypes, CallableType.expandTypes, here, later]

end

mutual

/-- The empty instantiation changes nothing. -/
theorem Ty.expandType_none :
    ∀ type : Ty, type.expandType (fun _ => none) = type
  | .any _ => rfl
  | .noneTyp => rfl
  | .uninhabited _ => rfl
  | .typeVar _ => rfl
  | .inst _ args => by rw [Ty.expandType, Ty.expandTypes_none args]
  | .callable signature => by
      rw [Ty.expandType, CallableType.expandType_none signature]
  | .overloaded items => by
      rw [Ty.expandType, CallableType.expandTypes_none items]
  | .union items => by rw [Ty.expandType, Ty.expandTypes_none items]
  | .typeAlias _ target => by rw [Ty.expandType, Ty.expandType_none target]
  | .other _ components => by
      rw [Ty.expandType, Ty.expandTypes_none components]

theorem CallableType.expandType_none :
    ∀ signature : CallableType,
      signature.expandType (fun _ => none) = signature
  | ⟨argTypes, _, _, retType, _, _⟩ => by
      rw [CallableType.expandType, Ty.expandTypes_none argTypes,
        Ty.expandType_none retType]

theorem Ty.expandTypes_none :
    ∀ types : List Ty, Ty.expandTypes (fun _ => none) types = types
  | [] => rfl
  | type :: types => by
      rw [Ty.expandTypes, Ty.expandType_none type, Ty.expandTypes_none types]

theorem CallableType.expandTypes_none :
    ∀ signatures : List CallableType,
      CallableType.expandTypes (fun _ => none) signatures = signatures
  | [] => rfl
  | signature :: signatures => by
      rw [CallableType.expandTypes, CallableType.expandType_none signature,
        CallableType.expandTypes_none signatures]

end

/-- An instantiation of variables that do not occur in a signature leaves it as
it is. -/
theorem CallableType.expandType_eq_self
    {env : Instantiation}
    (signature : CallableType)
    (absent : ∀ id ∈ signature.typeVarIds, env id = none) :
    signature.expandType env = signature := by
  rw [CallableType.expandType_congr signature absent,
    CallableType.expandType_none]

/-! ## Assigning types to some variables -/

/-- Assign the types to the type variables, one by one, and leave every other
variable to another instantiation. -/
def Instantiation.assign (env : Instantiation) :
    List TypeVarType → List Ty → Instantiation
  | typeVar :: typeVars, type :: types => fun id =>
      if id = typeVar.id then some type
      else Instantiation.assign env typeVars types id
  | _, _ => env

/-- Other variables are left to the other instantiation. -/
theorem Instantiation.assign_of_notMem
    {env : Instantiation}
    {typeVars : List TypeVarType}
    {types : List Ty}
    {id : Int}
    (other : id ∉ typeVars.map TypeVarType.id) :
    env.assign typeVars types id = env id := by
  induction typeVars generalizing types with
  | nil => rfl
  | cons typeVar typeVars inductionHypothesis =>
      rw [List.map_cons, List.mem_cons, not_or] at other
      cases types with
      | nil => rfl
      | cons type types =>
          simp only [Instantiation.assign, if_neg other.1]
          exact inductionHypothesis other.2

/-- Distinct variables are replaced by the types assigned to them. -/
theorem Instantiation.map_expandType_assign
    {env : Instantiation}
    {typeVars : List TypeVarType}
    {types : List Ty}
    (distinct : (typeVars.map TypeVarType.id).Nodup)
    (lengths : typeVars.length = types.length) :
    (typeVars.map Ty.typeVar).map
        (Ty.expandType (env.assign typeVars types)) = types := by
  induction typeVars generalizing types with
  | nil => exact (List.length_eq_zero_iff.mp lengths.symm).symm
  | cons typeVar typeVars inductionHypothesis =>
      cases types with
      | nil => cases lengths
      | cons type types =>
          rw [List.map_cons, List.nodup_cons] at distinct
          have later := inductionHypothesis distinct.2
            (Nat.succ.inj lengths)
          have sameLater :
              (typeVars.map Ty.typeVar).map (Ty.expandType
                  (env.assign (typeVar :: typeVars) (type :: types))) =
                (typeVars.map Ty.typeVar).map
                  (Ty.expandType (env.assign typeVars types)) := by
            rw [List.map_map, List.map_map]
            apply List.map_congr_left
            intro other member
            have different : other.id ≠ typeVar.id := by
              intro same
              exact distinct.1 (same ▸ List.mem_map_of_mem member)
            simp only [Function.comp_apply, Ty.expandType,
              Instantiation.assign, if_neg different]
          rw [List.map_cons, List.map_cons, sameLater, later]
          simp only [Ty.expandType, Instantiation.assign, if_true,
            Option.getD_some]

/-- Resolving aliases brings in no type variable. -/
theorem typeVarIds_getProperType (type : Ty) :
    (getProperType type).typeVarIds = type.typeVarIds := by
  induction type using getProperType.induct with
  | case1 _ _ inductionHypothesis =>
      rw [getProperType_typeAlias, inductionHypothesis, Ty.typeVarIds]
  | case2 type notAlias => rw [getProperType.eq_2 type notAlias]

end TrioTyping
