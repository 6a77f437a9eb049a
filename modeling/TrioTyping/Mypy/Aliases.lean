import TrioTyping.Mypy.Types

/-!
# Types with every alias expanded and every union flattened

`getProperType` resolves the outermost aliases of a type only, and a union keeps
an arm that is an alias even if the alias stands for a union. `Ty.normalize`
goes all the way: it expands aliases at every depth and puts the arms of nested
unions in place. Types with the same normal form differ only in how they are
written.
-/

namespace TrioTyping

/-- The arms of a union, or the type itself. -/
def Ty.arms : Ty → List Ty
  | .union items => items
  | type => [type]

mutual

/-- Expand every alias and flatten every union. -/
def Ty.normalize : Ty → Ty
  | .any kind => .any kind
  | .noneTyp => .noneTyp
  | .uninhabited isNoreturn => .uninhabited isNoreturn
  | .typeVar typeVariable => .typeVar typeVariable
  | .inst fullname args => .inst fullname (Ty.normalizeList args)
  | .callable signature => .callable signature.normalize
  | .overloaded items => .overloaded (CallableType.normalizeList items)
  | .union items => .union (Ty.normalizeArms items)
  | .typeAlias _ target => target.normalize
  | .other tag components => .other tag (Ty.normalizeList components)

/-- Normalize the parameter types and the result type of a signature. -/
def CallableType.normalize : CallableType → CallableType
  | ⟨argTypes, argKinds, argNames, retType, typeVariables, isEllipsisArgs⟩ =>
      ⟨Ty.normalizeList argTypes, argKinds, argNames, retType.normalize,
        typeVariables, isEllipsisArgs⟩

/-- Normalize every type of a list. -/
def Ty.normalizeList : List Ty → List Ty
  | [] => []
  | type :: types => type.normalize :: Ty.normalizeList types

/-- Normalize the arms of a union and put the arms of those that are unions
themselves in their place. -/
def Ty.normalizeArms : List Ty → List Ty
  | [] => []
  | item :: items => item.normalize.arms ++ Ty.normalizeArms items

/-- Normalize every signature of a list. -/
def CallableType.normalizeList : List CallableType → List CallableType
  | [] => []
  | signature :: signatures =>
      signature.normalize :: CallableType.normalizeList signatures

end

/-! ## Reading the list functions as list operations -/

theorem Ty.normalizeList_eq_map (types : List Ty) :
    Ty.normalizeList types = types.map Ty.normalize := by
  induction types with
  | nil => rfl
  | cons type types inductionHypothesis =>
      rw [Ty.normalizeList, List.map_cons, inductionHypothesis]

theorem Ty.normalizeArms_eq_flatMap (items : List Ty) :
    Ty.normalizeArms items = items.flatMap fun item => item.normalize.arms := by
  induction items with
  | nil => rfl
  | cons item items inductionHypothesis =>
      rw [Ty.normalizeArms, List.flatMap_cons, inductionHypothesis]

theorem Ty.normalizeArms_append (first second : List Ty) :
    Ty.normalizeArms (first ++ second) =
      Ty.normalizeArms first ++ Ty.normalizeArms second := by
  simp only [Ty.normalizeArms_eq_flatMap, List.flatMap_append]

theorem Ty.mem_normalizeArms
    {items : List Ty}
    {arm : Ty} :
    arm ∈ Ty.normalizeArms items ↔
      ∃ item ∈ items, arm ∈ item.normalize.arms := by
  rw [Ty.normalizeArms_eq_flatMap, List.mem_flatMap]

theorem CallableType.normalizeList_eq_map (signatures : List CallableType) :
    CallableType.normalizeList signatures =
      signatures.map CallableType.normalize := by
  induction signatures with
  | nil => rfl
  | cons signature signatures inductionHypothesis =>
      rw [CallableType.normalizeList, List.map_cons, inductionHypothesis]

/-! ## Normal forms -/

/-- The arms of a normal form are normal. -/
theorem Ty.normalizeArms_arms
    {type : Ty}
    (normal : type.normalize = type) :
    Ty.normalizeArms type.arms = type.arms := by
  cases type with
  | union items =>
      rw [Ty.normalize, Ty.union.injEq] at normal
      exact normal
  | _ =>
      simp only [Ty.arms, Ty.normalizeArms, normal, List.append_nil]

mutual

/-- Normalizing twice is normalizing once. -/
theorem Ty.normalize_idem :
    ∀ type : Ty, type.normalize.normalize = type.normalize
  | .any _ => rfl
  | .noneTyp => rfl
  | .uninhabited _ => rfl
  | .typeVar _ => rfl
  | .inst _ args => by
      rw [Ty.normalize, Ty.normalize, Ty.normalizeList_idem args]
  | .callable signature => by
      rw [Ty.normalize, Ty.normalize, CallableType.normalize_idem signature]
  | .overloaded items => by
      rw [Ty.normalize, Ty.normalize, CallableType.normalizeList_idem items]
  | .union items => by
      rw [Ty.normalize, Ty.normalize, Ty.normalizeArms_idem items]
  | .typeAlias _ target => by
      rw [Ty.normalize, Ty.normalize_idem target]
  | .other _ components => by
      rw [Ty.normalize, Ty.normalize, Ty.normalizeList_idem components]

theorem CallableType.normalize_idem :
    ∀ signature : CallableType,
      signature.normalize.normalize = signature.normalize
  | ⟨argTypes, _, _, retType, _, _⟩ => by
      rw [CallableType.normalize, CallableType.normalize,
        Ty.normalizeList_idem argTypes, Ty.normalize_idem retType]

theorem Ty.normalizeList_idem :
    ∀ types : List Ty,
      Ty.normalizeList (Ty.normalizeList types) = Ty.normalizeList types
  | [] => rfl
  | type :: types => by
      rw [Ty.normalizeList, Ty.normalizeList, Ty.normalize_idem type,
        Ty.normalizeList_idem types]

theorem Ty.normalizeArms_idem :
    ∀ items : List Ty,
      Ty.normalizeArms (Ty.normalizeArms items) = Ty.normalizeArms items
  | [] => rfl
  | item :: items => by
      rw [Ty.normalizeArms, Ty.normalizeArms_append,
        Ty.normalizeArms_arms (Ty.normalize_idem item),
        Ty.normalizeArms_idem items]

theorem CallableType.normalizeList_idem :
    ∀ signatures : List CallableType,
      CallableType.normalizeList (CallableType.normalizeList signatures) =
        CallableType.normalizeList signatures
  | [] => rfl
  | signature :: signatures => by
      rw [CallableType.normalizeList, CallableType.normalizeList,
        CallableType.normalize_idem signature,
        CallableType.normalizeList_idem signatures]

end

/-- Resolving the outermost aliases does not change the normal form. -/
@[simp] theorem Ty.normalize_getProperType (type : Ty) :
    (getProperType type).normalize = type.normalize := by
  induction type using getProperType.induct with
  | case1 _ _ inductionHypothesis =>
      rw [getProperType_typeAlias, inductionHypothesis, Ty.normalize]
  | case2 type notAlias => rw [getProperType.eq_2 type notAlias]

/-- The type resolves to a union. -/
def Ty.ResolvesToUnion (type : Ty) : Prop :=
  ∃ items, getProperType type = .union items

/-- A normal form is never an alias. -/
theorem Ty.getProperType_normalize (type : Ty) :
    getProperType type.normalize = type.normalize := by
  rw [← Ty.normalize_getProperType]
  have notAlias := getProperType_ne_typeAlias type
  cases resolved : getProperType type with
  | typeAlias name target => exact absurd resolved (notAlias name target)
  | _ => rfl

/-- A normal form resolves to the normal form of what the type resolves to. -/
theorem Ty.getProperType_normalize_comm (type : Ty) :
    getProperType type.normalize = (getProperType type).normalize := by
  rw [Ty.getProperType_normalize, Ty.normalize_getProperType]

/-- Normalizing neither makes nor removes a union at the top. -/
theorem Ty.resolvesToUnion_normalize (type : Ty) :
    type.normalize.ResolvesToUnion ↔ type.ResolvesToUnion := by
  unfold Ty.ResolvesToUnion
  rw [Ty.getProperType_normalize_comm]
  have notAlias := getProperType_ne_typeAlias type
  cases resolved : getProperType type with
  | typeAlias name target => exact absurd resolved (notAlias name target)
  | _ => simp [Ty.normalize]

/-- A type that resolves to no union is a single arm in normal form. -/
theorem Ty.arms_normalize_of_not_union
    {type : Ty}
    (notUnion : ¬type.ResolvesToUnion) :
    type.normalize.arms = [type.normalize] := by
  rw [← Ty.resolvesToUnion_normalize] at notUnion
  cases normalForm : type.normalize with
  | union items => exact absurd ⟨items, by rw [normalForm]; rfl⟩ notUnion
  | _ => rfl

/-! ## The arms reached through unions and aliases -/

mutual

/-- The arms of a type, nested unions and aliases of unions seen through. The
arms themselves stay as they are. -/
def Ty.unionArms : Ty → List Ty
  | .typeAlias _ target => target.unionArms
  | .union items => Ty.unionArmsList items
  | type => [type]

/-- The arms of every type of a list. -/
def Ty.unionArmsList : List Ty → List Ty
  | [] => []
  | item :: items => item.unionArms ++ Ty.unionArmsList items

end

/-- A type that does not resolve to a union is its only arm. -/
theorem Ty.unionArms_of_not_union
    {type : Ty}
    (notUnion : ∀ items, getProperType type ≠ .union items) :
    type.unionArms = [getProperType type] := by
  induction type using getProperType.induct with
  | case1 _ target inductionHypothesis =>
      rw [Ty.unionArms]
      exact inductionHypothesis notUnion
  | case2 type notAlias =>
      rw [getProperType.eq_2 type notAlias] at notUnion ⊢
      exact Ty.unionArms.eq_3 type notAlias notUnion

mutual

/-- The arms of a normal form are the normal forms of the arms reached. -/
theorem Ty.arms_normalize :
    ∀ type : Ty, type.normalize.arms = type.unionArms.map Ty.normalize
  | .any _ => rfl
  | .noneTyp => rfl
  | .uninhabited _ => rfl
  | .typeVar _ => rfl
  | .inst _ _ => rfl
  | .callable _ => rfl
  | .overloaded _ => rfl
  | .union items => Ty.normalizeArms_eq_map items
  | .typeAlias _ target => Ty.arms_normalize target
  | .other _ _ => rfl

theorem Ty.normalizeArms_eq_map :
    ∀ items : List Ty,
      Ty.normalizeArms items = (Ty.unionArmsList items).map Ty.normalize
  | [] => rfl
  | item :: items => by
      rw [Ty.normalizeArms, Ty.unionArmsList, List.map_append,
        Ty.arms_normalize item, Ty.normalizeArms_eq_map items]

end

/-- No arm of a normal form is an alias. -/
theorem Ty.getProperType_of_mem_arms_normalize
    (type : Ty)
    (arm : Ty)
    (member : arm ∈ type.normalize.arms) :
    getProperType arm = arm := by
  rw [Ty.arms_normalize] at member
  obtain ⟨reached, -, rfl⟩ := List.mem_map.mp member
  exact Ty.getProperType_normalize reached

theorem Ty.getProperType_of_mem_normalizeArms
    (items : List Ty)
    (arm : Ty)
    (member : arm ∈ Ty.normalizeArms items) :
    getProperType arm = arm := by
  rw [Ty.normalizeArms_eq_map] at member
  obtain ⟨reached, -, rfl⟩ := List.mem_map.mp member
  exact Ty.getProperType_normalize reached

mutual

/-- The arms reached are no aliases. -/
theorem Ty.getProperType_of_mem_unionArms :
    ∀ type : Ty, ∀ arm ∈ type.unionArms, getProperType arm = arm
  | .union items, arm, member =>
      Ty.getProperType_of_mem_unionArmsList items arm member
  | .typeAlias _ target, arm, member =>
      Ty.getProperType_of_mem_unionArms target arm member
  | .any _, _, .head _ => rfl
  | .noneTyp, _, .head _ => rfl
  | .uninhabited _, _, .head _ => rfl
  | .typeVar _, _, .head _ => rfl
  | .inst _ _, _, .head _ => rfl
  | .callable _, _, .head _ => rfl
  | .overloaded _, _, .head _ => rfl
  | .other _ _, _, .head _ => rfl

theorem Ty.getProperType_of_mem_unionArmsList :
    ∀ items : List Ty, ∀ arm ∈ Ty.unionArmsList items,
      getProperType arm = arm
  | item :: items, arm, member => by
      rw [Ty.unionArmsList, List.mem_append] at member
      rcases member with here | later
      · exact Ty.getProperType_of_mem_unionArms item arm here
      · exact Ty.getProperType_of_mem_unionArmsList items arm later

end

/-- A type with the arms of its union flattened; the arms stay as they are. -/
def Ty.flattenUnion (type : Ty) : Ty :=
  match getProperType type with
  | .union items => .union (Ty.unionArmsList items)
  | resolved => resolved

/-! ## Signatures field by field -/

namespace CallableType

section Fields

variable (signature : CallableType)

theorem normalize_eq :
    signature.normalize =
      { signature with
        argTypes := signature.argTypes.map Ty.normalize
        retType := signature.retType.normalize } := by
  cases signature
  rw [normalize, Ty.normalizeList_eq_map]

@[simp] theorem normalize_argTypes :
    signature.normalize.argTypes = signature.argTypes.map Ty.normalize := by
  rw [normalize_eq]

@[simp] theorem normalize_argKinds :
    signature.normalize.argKinds = signature.argKinds := by
  rw [normalize_eq]

@[simp] theorem normalize_isEllipsisArgs :
    signature.normalize.isEllipsisArgs = signature.isEllipsisArgs := by
  rw [normalize_eq]

@[simp] theorem normalize_typeVariables :
    signature.normalize.typeVariables = signature.typeVariables := by
  rw [normalize_eq]

end Fields

/-- A signature with the unions of its parameters flattened. -/
def flattenUnions (signature : CallableType) : CallableType :=
  { signature with argTypes := signature.argTypes.map Ty.flattenUnion }

end CallableType

/-! ## Simplifying unions -/

/-- What mypy's union simplification is relied on for: nested and aliased
unions are flattened first, so only the normal forms of the arms matter, and no
arm of one of the given classes appears that was not among them. -/
structure FlattensUnions
    (classes : List String)
    (makeSimplifiedUnion : List Ty → Ty) : Prop where
  /-- Only the flattened arms matter. -/
  flattens : ∀ items,
    (makeSimplifiedUnion items).normalize =
      (makeSimplifiedUnion (Ty.normalizeArms items)).normalize
  /-- Instances of the classes are not made up. -/
  faithful : ∀ items fullname args, fullname ∈ classes →
    .inst fullname args ∈ (makeSimplifiedUnion items).normalize.arms →
      .inst fullname args ∈ Ty.normalizeArms items

/-- Forming a union without any simplification flattens. -/
theorem flattensUnions_union (classes : List String) :
    FlattensUnions classes .union where
  flattens items := by
    rw [Ty.normalize, Ty.normalize, Ty.normalizeArms_idem]
  faithful items fullname args _ member := by
    rw [Ty.normalize] at member
    exact member

end TrioTyping
