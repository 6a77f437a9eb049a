import TrioTyping.Calling.Shape
import TrioTyping.TakesCallable.Expansion

/-!
# The overloads refine the original signature

Read as a set of accepted calls, the six overloads split the calls of the
original signature by the number of arguments that fall into `*args`: every call
with at most five of them is accepted by exactly one overload, every other call
by none. The accepting overload sends each argument to a parameter of the same
kind, name and type, except for the arguments of `*args` and for the callable.
-/

namespace TrioTyping
namespace TakesCallable

open Calling

/-- The type of the callable in the overload with the given type variables. -/
def expandedCallable
    (selected : SelectedCallable)
    (typeVars : List TypeVarType) : CallableType :=
  replaceParameter selected.callableTy selected.callableArgsIdx typeVars

/-- The decorated function with the callable's own `VarArg()` replaced. -/
def withCallable
    (fnType : CallableType)
    (selected : SelectedCallable)
    (typeVars : List TypeVarType) : CallableType :=
  setArgType fnType selected.callableIdx
    (.callable (expandedCallable selected typeVars))

theorem withCallable_wellFormed
    {fnType : CallableType}
    (wellFormed : fnType.WellFormed)
    (selected : SelectedCallable)
    (typeVars : List TypeVarType) :
    (withCallable fnType selected typeVars).WellFormed :=
  setArgType_wellFormed wellFormed _ _

theorem sameShape_withCallable
    (fnType : CallableType)
    (selected : SelectedCallable)
    (typeVars : List TypeVarType) :
    SameShape fnType.formals
      (withCallable fnType selected typeVars).formals :=
  sameShape_setArgType fnType _ _

/-- The parameters of an overload. -/
theorem expandedFn_formals
    {fnType : CallableType}
    (wellFormed : fnType.WellFormed)
    (argsIdx : Nat)
    (selected : SelectedCallable)
    (typeVars : List TypeVarType) :
    (expandedFn fnType argsIdx selected typeVars).formals =
      splice (withCallable fnType selected typeVars).formals argsIdx
        (freshFormals (typeVars.map .typeVar)) := by
  rw [expandedFn_eq_withTypes, withTypes_formals wellFormed,
    ← replaceParameter_eq_insertTypes]
  rfl

/-- How a parameter of an overload corresponds to the parameter of the decorated
function to which the same argument goes. -/
def Corresponds
    (argsIdx : Nat)
    (selected : SelectedCallable)
    (typeVars : List TypeVarType)
    (place : Place)
    (idx : Nat)
    (formal formal' : Formal Ty) : Prop :=
  if idx = argsIdx then
    ∃ number typeVariable, place = .positional (argsIdx + number) ∧
      typeVars[number]? = some typeVariable ∧
      formal' = ⟨.pos, none, .typeVar typeVariable⟩
  else if idx = selected.callableIdx then
    formal' =
      { formal with type := .callable (expandedCallable selected typeVars) }
  else formal' = formal

/-- The overloads, numbered by their type variables, refine a signature. -/
structure Refines
    (fnType : CallableType)
    (argsIdx : Nat)
    (selected : SelectedCallable)
    (typeVars : Nat → List TypeVarType)
    (expanded : List CallableType) : Prop where
  /-- There are overloads for zero to five extra arguments. -/
  count : expanded.length = 6
  /-- An overload accepts the calls that pass as many arguments to `*args` as it
  is made for. -/
  accepts_iff : ∀ (shape : CallShape) (number : Nat) (overload : CallableType),
    expanded[number]? = some overload →
      (shape.AcceptedBy overload.formals ↔
        shape.AcceptedBy fnType.formals ∧
          number = shape.positional - argsIdx)
  /-- The arguments that fall into `*args`. -/
  extra : ∀ (shape : CallShape) bound,
    bind fnType.formals shape.supply = some bound →
      bound[argsIdx]? = some
        ((List.range' argsIdx (shape.positional - argsIdx)).map .positional)
  /-- A call with at most five such arguments is accepted exactly once. -/
  exactly_one : ∀ shape : CallShape, shape.AcceptedBy fnType.formals →
    shape.positional - argsIdx ≤ 5 →
      ∃! number : Nat, ∃ overload : CallableType,
        expanded[number]? = some overload ∧
          shape.AcceptedBy overload.formals
  /-- A call with more of them is not accepted at all. -/
  none_beyond : ∀ shape : CallShape, 5 < shape.positional - argsIdx →
    ∀ overload ∈ expanded, ¬shape.AcceptedBy overload.formals
  /-- Every argument goes to the parameter that corresponds to its original
  one. -/
  corresponds : ∀ (shape : CallShape) (number : Nat) (overload : CallableType),
    expanded[number]? = some overload →
      shape.AcceptedBy overload.formals →
        ∀ place ∈ shape.supply.arguments, ∃ idx formal idx' formal',
          shape.BindsTo fnType.formals place idx formal ∧
          shape.BindsTo overload.formals place idx' formal' ∧
          Corresponds argsIdx selected (typeVars number) place idx formal
            formal'
  /-- In the callable the `VarArg()` is replaced by the same type variables in
  the same order. -/
  callable : ∀ number,
    (expandedCallable selected (typeVars number)).formals =
      splice selected.callableTy.formals selected.callableArgsIdx
        (freshFormals ((typeVars number).map .typeVar))

section Overload

variable
  {fnType : CallableType}
  {argsIdx : Nat}
  {selected : SelectedCallable}
  (wellFormed : WellFormedFunction fnType)
  (selects : Selects fnType argsIdx selected)

include wellFormed selects

/-- `*args` is still there once the callable has been replaced. -/
theorem withCallable_star (typeVars : List TypeVarType) :
    ∃ star, (withCallable fnType selected typeVars).formals[argsIdx]? =
        some star ∧ star.kind = .star :=
  (withCallable_wellFormed wellFormed.signature selected
    typeVars).exists_formal selects.args.1

/-- An overload accepts the calls that pass as many arguments to `*args` as it
has type variables. -/
theorem expandedFn_acceptedBy
    (typeVars : List TypeVarType)
    (shape : CallShape) :
    shape.AcceptedBy (expandedFn fnType argsIdx selected typeVars).formals ↔
      shape.AcceptedBy fnType.formals ∧
        shape.positional - argsIdx = typeVars.length := by
  obtain ⟨star, starAt, isStar⟩ :=
    withCallable_star wellFormed selects typeVars
  have ordered := (withCallable_wellFormed wellFormed.signature selected
    typeVars).formals_ordered
  rw [expandedFn_formals wellFormed.signature,
    CallShape.acceptedBy_splice_iff ordered starAt isStar
      (freshFormals_positionalOnly _), freshFormals_length, List.length_map,
    ← CallShape.acceptedBy_congr shape
      (sameShape_withCallable fnType selected typeVars)]

/-- Every argument goes to the corresponding parameter of an overload. -/
theorem expandedFn_corresponds
    {typeVars : List TypeVarType}
    {shape : CallShape}
    (lengths : shape.positional - argsIdx = typeVars.length)
    {place : Place}
    {idx : Nat}
    {formal : Formal Ty}
    (binds : shape.BindsTo fnType.formals place idx formal) :
    ∃ idx' formal',
      shape.BindsTo (expandedFn fnType argsIdx selected typeVars).formals place
        idx' formal' ∧
      Corresponds argsIdx selected typeVars place idx formal formal' := by
  have callableBefore := selects.callableIdx_lt wellFormed.signature
  obtain ⟨star, starAt, isStar⟩ :=
    withCallable_star wellFormed selects typeVars
  have ordered := (withCallable_wellFormed wellFormed.signature selected
    typeVars).formals_ordered
  have formalAt := setArgType_formals_getElem? fnType selected.callableIdx idx
    (.callable (expandedCallable selected typeVars))
  have ⟨_, _, _, _, _, originalAt⟩ := binds
  rw [originalAt, Option.map_some] at formalAt
  have bindsCallable :=
    binds.congr (sameShape_withCallable fnType selected typeVars) formalAt
  have freshLength :
      shape.positional - argsIdx =
        (freshFormals (typeVars.map .typeVar)).length := by
    rw [freshFormals_length, List.length_map, lengths]
  obtain ⟨idx', formal', bindsOverload, before, atArgs, after⟩ :=
    bindsCallable.splice ordered starAt isStar (freshFormals_positionalOnly _)
      freshLength
  refine ⟨idx', formal', ?_, ?_⟩
  · rw [expandedFn_formals wellFormed.signature]
    exact bindsOverload
  · unfold Corresponds
    rcases Nat.lt_trichotomy idx argsIdx with less | same | greater
    · rw [if_neg (Nat.ne_of_lt less), (before less).2]
      by_cases isCallable : idx = selected.callableIdx
      · rw [if_pos isCallable, if_pos isCallable.symm]
      · rw [if_neg isCallable, if_neg (Ne.symm isCallable)]
    · obtain ⟨number, placeIs, freshAt⟩ := atArgs same
      simp only [freshFormals, List.getElem?_map,
        Option.map_eq_some_iff] at freshAt
      obtain ⟨_, ⟨typeVariable, variableAt, rfl⟩, rfl⟩ := freshAt
      rw [if_pos same]
      exact ⟨number, typeVariable, placeIs, variableAt, rfl⟩
    · rw [if_neg (Nat.ne_of_gt greater), if_neg (by omega), after greater,
        if_neg (by omega)]

end Overload

/-- The overloads of an accepted function refine its signature. -/
theorem overloads_refine
    {ctx : FunctionContext}
    {hasTypeVarDefault : Bool}
    {fnType : CallableType}
    {expanded : List CallableType}
    (decorated : decoratedType ctx = .ok fnType)
    (wellFormed : WellFormedFunction fnType)
    (accepted : takesCallableAndArgsCallback ctx hasTypeVarDefault =
      .ok (pure (.overloaded expanded))) :
    ∃ selected, Selects fnType (fnType.argKinds.idxOf .star) selected ∧
      Refines fnType (fnType.argKinds.idxOf .star) selected
        (typeVarTypes ctx.api hasTypeVarDefault fnType) expanded := by
  obtain ⟨argsIdx, selected, indices, found, rfl⟩ :=
    (callback_spec decorated).mp accepted
  have selects := Selects.of_scan indices found
  rw [wellFormed.signature.idxOf_star selects.args.1]
  have acceptedBy (shape : CallShape) (count : Nat) :=
    expandedFn_acceptedBy wellFormed selects
      (typeVarTypes ctx.api hasTypeVarDefault fnType count) shape
  simp only [typeVarTypes_length] at acceptedBy
  refine ⟨selected, selects, ?_⟩
  exact {
    count := by simp
    accepts_iff := by
      intro shape number overload overloadIs
      obtain ⟨-, rfl⟩ := getElem?_map_range.mp overloadIs
      rw [acceptedBy]
      exact and_congr_right' eq_comm
    extra := by
      intro shape bound binds
      obtain ⟨star, starAt, isStar⟩ :=
        wellFormed.signature.exists_formal selects.args.1
      rw [bind_star wellFormed.signature.formals_ordered starAt isStar binds]
      simp [CallShape.supply, List.range_eq_range', ← List.map_drop,
        List.drop_range']
    exactly_one := by
      intro shape acceptedCall within
      refine ⟨shape.positional - argsIdx, ?_, ?_⟩
      · exact ⟨_, getElem?_map_range.mpr ⟨by omega, rfl⟩,
          (acceptedBy shape _).mpr ⟨acceptedCall, rfl⟩⟩
      · rintro number ⟨overload, overloadIs, acceptedOverload⟩
        obtain ⟨-, rfl⟩ := getElem?_map_range.mp overloadIs
        exact ((acceptedBy shape number).mp acceptedOverload).2.symm
    none_beyond := by
      intro shape beyond overload member acceptedOverload
      obtain ⟨number, isNumber, rfl⟩ := List.mem_map.mp member
      have inRange := List.mem_range.mp isNumber
      have extra := ((acceptedBy shape number).mp acceptedOverload).2
      omega
    corresponds := by
      intro shape number overload overloadIs acceptedOverload place isArgument
      obtain ⟨-, rfl⟩ := getElem?_map_range.mp overloadIs
      obtain ⟨acceptedCall, extra⟩ :=
        (acceptedBy shape number).mp acceptedOverload
      obtain ⟨idx, formal, binds⟩ := acceptedCall.exists_bindsTo isArgument
      obtain ⟨idx', formal', bindsOverload, correspond⟩ :=
        expandedFn_corresponds wellFormed selects
          (extra.trans (typeVarTypes_length _ _ _ _).symm) binds
      exact ⟨idx, formal, idx', formal', binds, bindsOverload, correspond⟩
    callable := by
      intro number
      rw [expandedCallable, replaceParameter_eq_insertTypes]
      exact insertTypes_formals (selects.callable_wellFormed wellFormed) _ _ }

/-- The overloads of `start_soon` refine its signature. -/
theorem overloads_refine_readme :
    ∃ selected, Selects readmeStartSoon 1 selected ∧
      Refines readmeStartSoon 1 selected
        (typeVarTypes readmeContext.api true readmeStartSoon)
        readmeOverloads :=
  overloads_refine rfl readme_wellFormed readme_accepted

end TakesCallable
end TrioTyping
