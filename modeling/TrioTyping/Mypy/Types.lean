import TrioTyping.Calling.Variadic

/-!
# The types the plugin works on

The plugin reads and builds mypy's type objects. This module models those it
distinguishes; every type it never looks into is an `other` type with its
component types. A type alias carries its target, so an alias written in terms
of other aliases is a chain of `typeAlias` nodes. Line and column numbers do not
take part in the equality of types and are left out.
-/

namespace TrioTyping

open Calling

/-- Where an `Any` comes from. -/
inductive TypeOfAny
  | unannotated
  | explicit
  | fromError
  | specialForm
  | implementationArtifact
  | fromOmittedGenerics
  deriving DecidableEq, Repr

mutual

/-- A type. -/
inductive Ty
  /-- `AnyType`. -/
  | any (kind : TypeOfAny)
  /-- `NoneTyp`, the type of `None`. -/
  | noneTyp
  /-- `UninhabitedType`; with `isNoreturn` it is what `NoReturn` stands for. -/
  | uninhabited (isNoreturn : Bool)
  /-- `TypeVarType`. -/
  | typeVar (typeVariable : TypeVarType)
  /-- `Instance`: a class, given by its full name, with type arguments. -/
  | inst (fullname : String) (args : List Ty)
  /-- `CallableType`. -/
  | callable (signature : CallableType)
  /-- `Overloaded`. -/
  | overloaded (items : List CallableType)
  /-- `UnionType`. -/
  | union (items : List Ty)
  /-- `TypeAliasType`: an alias with the type it stands for. -/
  | typeAlias (name : String) (target : Ty)
  /-- Any other type, such as a tuple or a literal. -/
  | other (tag : String) (components : List Ty)

/-- A type variable. Two of them are the same when their ids are equal. -/
structure TypeVarType where
  /-- Short name. -/
  name : String
  /-- Qualified name. -/
  fullname : String
  /-- Positive for variables of a class, negative for those of a function. -/
  id : Int
  /-- Allowed values of a constrained variable. -/
  values : List Ty
  /-- Upper bound. -/
  upperBound : Ty
  /-- Default type, which mypy has only from version 1.4 on. -/
  default : Option Ty

/-- The type of a function, with three parallel lists for its parameters. -/
structure CallableType where
  /-- Types of the parameters. -/
  argTypes : List Ty
  /-- Kinds of the parameters. -/
  argKinds : List ArgKind
  /-- Names of the parameters; positional-only ones have none. -/
  argNames : List (Option String)
  /-- Result type. -/
  retType : Ty
  /-- Type variables bound by the signature (`CallableType.variables`). -/
  typeVariables : List TypeVarType
  /-- The type was written `Callable[..., T]`. -/
  isEllipsisArgs : Bool

end

/-- `get_proper_type`: expand the outermost chain of aliases. -/
def getProperType : Ty → Ty
  | .typeAlias _ target => getProperType target
  | type => type

/-- `get_proper_types`. -/
def getProperTypes (types : List Ty) : List Ty :=
  types.map getProperType

@[simp] theorem getProperType_typeAlias (name : String) (target : Ty) :
    getProperType (.typeAlias name target) = getProperType target := rfl

/-- A resolved type is not an alias. -/
theorem getProperType_ne_typeAlias
    (type : Ty)
    (name : String)
    (target : Ty) :
    getProperType type ≠ .typeAlias name target := by
  induction type using getProperType.induct with
  | case1 _ _ inductionHypothesis => exact inductionHypothesis
  | case2 type notAlias =>
      rw [getProperType.eq_2 type notAlias]
      exact notAlias name target

namespace CallableType

/-- The parameters of a signature, the three lists read in step. -/
def formals (signature : CallableType) : List (Formal Ty) :=
  List.zipWith (fun shape type => ⟨shape.1, shape.2, type⟩)
    (signature.argKinds.zip signature.argNames) signature.argTypes

/-- What mypy guarantees of every signature: the lists are in step, parameters
come in the order positional, optional, `*args`, keyword-only, `**kwargs`,
names are distinct, and `Callable[..., T]` has the parameters
`*args, **kwargs`. -/
structure WellFormed (signature : CallableType) : Prop where
  /-- As many kinds as types. -/
  kinds_length : signature.argKinds.length = signature.argTypes.length
  /-- As many names as types. -/
  names_length : signature.argNames.length = signature.argTypes.length
  /-- The order of the parameters. -/
  ordered : signature.argKinds.Pairwise ArgKind.Precedes
  /-- No name is used twice. -/
  distinct : (signature.argNames.filterMap id).Nodup
  /-- The parameters behind the ellipsis. -/
  ellipsis : signature.isEllipsisArgs = true →
    signature.argKinds = [.star, .star2]

/-- The signature has one `*args` at most, of whatever type. -/
def AtMostOneStar (signature : CallableType) : Prop :=
  signature.argKinds.count .star ≤ 1

/-! ## Signatures parameter by parameter -/

namespace WellFormed

variable {signature : CallableType}

theorem map_kind_formals (wellFormed : signature.WellFormed) :
    signature.formals.map Formal.kind = signature.argKinds := by
  have names := wellFormed.names_length
  have kinds := wellFormed.kinds_length
  apply List.ext_getElem
  · simp [formals, names, kinds]
  · intro idx _ _
    simp [formals]

/-- The kinds of the parameters are in order. -/
theorem formals_ordered (wellFormed : signature.WellFormed) :
    (signature.formals.map Formal.kind).Pairwise ArgKind.Precedes := by
  rw [wellFormed.map_kind_formals]
  exact wellFormed.ordered

/-- Every index of a kind is that of a parameter. -/
theorem exists_formal
    (wellFormed : signature.WellFormed)
    {idx : Nat}
    {kind : ArgKind}
    (kindAt : signature.argKinds[idx]? = some kind) :
    ∃ formal, signature.formals[idx]? = some formal ∧ formal.kind = kind := by
  rw [← wellFormed.map_kind_formals, List.getElem?_map,
    Option.map_eq_some_iff] at kindAt
  exact kindAt

/-- Parameters before `*args` have smaller indices. -/
theorem lt_of_precedes
    (wellFormed : signature.WellFormed)
    {first second : Nat}
    {kind kind' : ArgKind}
    (firstAt : signature.argKinds[first]? = some kind)
    (secondAt : signature.argKinds[second]? = some kind')
    (notAfter : ¬kind'.Precedes kind)
    (different : kind ≠ kind') :
    first < second := by
  obtain ⟨firstInRange, rfl⟩ := List.getElem?_eq_some_iff.mp firstAt
  obtain ⟨secondInRange, rfl⟩ := List.getElem?_eq_some_iff.mp secondAt
  have ordered := List.pairwise_iff_getElem.mp wellFormed.ordered
  by_contra notLess
  rcases Nat.lt_or_eq_of_le (Nat.le_of_not_lt notLess) with greater | rfl
  · exact notAfter (ordered second first secondInRange firstInRange greater)
  · exact different rfl

/-- There is at most one `*args`. -/
theorem star_unique
    (wellFormed : signature.WellFormed)
    {first second : Nat}
    (firstAt : signature.argKinds[first]? = some .star)
    (secondAt : signature.argKinds[second]? = some .star) :
    first = second := by
  obtain ⟨firstInRange, firstKind⟩ := List.getElem?_eq_some_iff.mp firstAt
  obtain ⟨secondInRange, secondKind⟩ := List.getElem?_eq_some_iff.mp secondAt
  have ordered := List.pairwise_iff_getElem.mp wellFormed.ordered
  have notRepeated : ¬ArgKind.star.Precedes .star := by decide
  rcases Nat.lt_trichotomy first second with less | same | greater
  · have step := ordered first second firstInRange secondInRange less
    rw [firstKind, secondKind] at step
    exact absurd step notRepeated
  · exact same
  · have step := ordered second first secondInRange firstInRange greater
    rw [firstKind, secondKind] at step
    exact absurd step notRepeated

theorem atMostOneStar (wellFormed : signature.WellFormed) :
    signature.AtMostOneStar := by
  have ordered := wellFormed.ordered
  unfold AtMostOneStar
  generalize signature.argKinds = kinds at ordered
  induction ordered with
  | nil => exact Nat.zero_le 1
  | @cons kind kinds precedes _ inductionHypothesis =>
      by_cases isStar : kind = .star
      · subst isStar
        have noOther : ArgKind.star ∉ kinds := fun again =>
          absurd (precedes .star again) (by decide)
        have counted : (ArgKind.star :: kinds).count .star = 1 := by
          rw [List.count_cons_self, List.count_eq_zero.mpr noOther]
        exact Nat.le_of_eq counted
      · rw [List.count_cons_of_ne isStar]
        exact inductionHypothesis

/-- The index of `*args`. -/
theorem idxOf_star
    (wellFormed : signature.WellFormed)
    {idx : Nat}
    (starAt : signature.argKinds[idx]? = some .star) :
    signature.argKinds.idxOf .star = idx := by
  have inRange := List.idxOf_lt_length_iff.mpr (List.mem_of_getElem? starAt)
  apply wellFormed.star_unique _ starAt
  rw [List.getElem?_eq_getElem inRange, List.getElem_idxOf inRange]

end WellFormed

end CallableType

end TrioTyping
