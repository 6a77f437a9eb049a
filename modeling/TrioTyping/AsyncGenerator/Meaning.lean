import Mathlib.Data.Set.Basic
import TrioTyping.AsyncGenerator.Decode

/-!
# What the types of a generator stand for

A type stands for a set of values. The markers `YieldType` and `SendType` are
only useful with the plugin and have no values; a union has the values of its
arms. Under this reading, decoding a declaration does not change which values
the function may return, whatever the declaration is.
-/

namespace TrioTyping

mutual

/-- `Any` occurs in the type. -/
def Ty.mentionsAny : Ty → Bool
  | .any _ => true
  | .noneTyp => false
  | .uninhabited _ => false
  | .typeVar _ => false
  | .inst _ args => Ty.mentionsAnyList args
  | .callable signature => signature.mentionsAny
  | .overloaded items => CallableType.mentionsAnyList items
  | .union items => Ty.mentionsAnyList items
  | .typeAlias _ target => target.mentionsAny
  | .other _ components => Ty.mentionsAnyList components

/-- `Any` occurs in the signature. -/
def CallableType.mentionsAny : CallableType → Bool
  | ⟨argTypes, _, _, retType, _, _⟩ =>
      Ty.mentionsAnyList argTypes || retType.mentionsAny

/-- `Any` occurs in some type of a list. -/
def Ty.mentionsAnyList : List Ty → Bool
  | [] => false
  | type :: types => type.mentionsAny || Ty.mentionsAnyList types

/-- `Any` occurs in some signature of a list. -/
def CallableType.mentionsAnyList : List CallableType → Bool
  | [] => false
  | signature :: signatures =>
      signature.mentionsAny || CallableType.mentionsAnyList signatures

end

/-- Resolving an alias does not bring up or remove an `Any`. -/
@[simp] theorem mentionsAny_getProperType (type : Ty) :
    (getProperType type).mentionsAny = type.mentionsAny := by
  induction type using getProperType.induct with
  | case1 name target inductionHypothesis =>
      rw [getProperType_typeAlias, inductionHypothesis, Ty.mentionsAny]
  | case2 type notAlias => rw [getProperType.eq_2 type notAlias]

namespace AsyncGenerator

/-- The values of types, as far as the plugin and the type checker rely on
them. Between types with `Any` the subtype relation says nothing about values.
-/
structure TypeMeaning (api : CheckerApi) (Value : Type) where
  /-- The values of a type. -/
  values : Ty → Set Value
  /-- An alias stands for its target. -/
  values_typeAlias : ∀ name target,
    values (.typeAlias name target) = values target
  /-- A union has the values of its arms. -/
  values_union : ∀ items value,
    value ∈ values (.union items) ↔ ∃ item ∈ items, value ∈ values item
  /-- Simplifying a union does not change its values. -/
  values_simplifiedUnion : ∀ items value,
    value ∈ values (api.makeSimplifiedUnion items) ↔
      ∃ item ∈ items, value ∈ values item
  /-- Nothing is returned where the type is `NoReturn`. -/
  values_noReturn : ∀ value, value ∉ values (.uninhabited true)
  /-- The markers are never instantiated. -/
  values_marker : ∀ type, markerOf type ≠ none → ∀ value, value ∉ values type
  /-- Subtyping is sound. -/
  values_subtype : ∀ subtype supertype, subtype.mentionsAny = false →
    supertype.mentionsAny = false → api.isSubtype subtype supertype = true →
      values subtype ⊆ values supertype

namespace TypeMeaning

variable {api : CheckerApi} {Value : Type} (meaning : TypeMeaning api Value)

/-- A type has the values of the type it resolves to. -/
theorem values_getProperType (type : Ty) :
    meaning.values (getProperType type) = meaning.values type := by
  induction type using getProperType.induct with
  | case1 name target inductionHypothesis =>
      rw [getProperType_typeAlias, inductionHypothesis,
        meaning.values_typeAlias]
  | case2 type notAlias => rw [getProperType.eq_2 type notAlias]

/-- A declared type has the values of its arms. -/
theorem mem_values_iff_returnArms
    (declared : Ty)
    (value : Value) :
    value ∈ meaning.values declared ↔
      ∃ arm ∈ returnArms declared, value ∈ meaning.values arm := by
  unfold returnArms
  cases resolved : getProperType declared with
  | union items =>
      rw [← meaning.values_getProperType, resolved]
      exact meaning.values_union items value
  | _ => simp only [List.mem_singleton, exists_eq_left]

/-- Removing the markers removes no values. -/
theorem exists_mem_otherArms_iff
    {arms otherArms : List Ty}
    {found : MarkerKind → Option Ty}
    (encodes : Encodes arms otherArms found)
    (value : Value) :
    (∃ arm ∈ otherArms, value ∈ meaning.values arm) ↔
      ∃ arm ∈ arms, value ∈ meaning.values arm := by
  induction encodes with
  | nil => rfl
  | other _ _ inductionHypothesis =>
      simp only [List.exists_mem_cons_iff, inductionHypothesis]
  | @marker arm _ _ _ _ _ isMarker _ _ inductionHypothesis =>
      have noValue : value ∉ meaning.values arm := by
        apply meaning.values_marker
        rw [isMarker]
        exact Option.some_ne_none _
      simp only [List.exists_mem_cons_iff, inductionHypothesis, noValue,
        false_or]

/-- The type made of the other arms has their values. -/
theorem mem_values_returnTypeOf
    (otherArms : List Ty)
    (value : Value) :
    value ∈ meaning.values (returnTypeOf api otherArms) ↔
      ∃ arm ∈ otherArms, value ∈ meaning.values arm := by
  unfold returnTypeOf
  cases otherArms with
  | nil =>
      refine iff_of_false (meaning.values_noReturn value) ?_
      rintro ⟨_, member, -⟩
      cases member
  | cons arm arms => exact meaning.values_simplifiedUnion _ value

/-- Decoding a declaration does not change which values the function may return,
be the declaration well-formed or not. -/
theorem values_returnType (declared : Ty) :
    meaning.values
        (decodeAgenTypesFromReturnType api declared).value.returnType =
      meaning.values declared := by
  by_cases malformed : Malformed (returnArms declared)
  · obtain ⟨_, -, decoded⟩ :=
      decodeAgenTypesFromReturnType_of_malformed api malformed
    rw [decoded]
  · obtain ⟨otherArms, found, encodes⟩ := encodes_of_not_malformed _ malformed
    rw [decodeAgenTypesFromReturnType_of_encodes api encodes]
    split
    · rfl
    · ext value
      change value ∈ meaning.values (returnTypeOf api otherArms) ↔ _
      rw [meaning.mem_values_returnTypeOf,
        meaning.exists_mem_otherArms_iff encodes,
        ← meaning.mem_values_iff_returnArms]

end TypeMeaning

end AsyncGenerator
end TrioTyping
