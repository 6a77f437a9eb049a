import Mathlib.Data.List.Nodup
import TrioTyping.TakesCallable.Expansion

/-!
# Ids of the generated type variables

The callback numbers its type variables `-v - 2`, `-v - 3`, … with `v` the number
of variables the decorated function binds itself. mypy numbers the variables of a
function downwards, too, but continues after those of the enclosing functions.
The main result says exactly when the two ranges stay apart: this is so at module
level and in classes, but not in general for nested functions.
-/

namespace TrioTyping
namespace TakesCallable

open Calling

/-! ## Which variables a callable mentions -/

/-- The callable chosen for a parameter mentions no variable that the type of
the parameter does not mention. -/
theorem typeVarIds_candidate
    {type : Ty}
    {callableTy : CallableType}
    (choice : candidate (getProperType type) = some callableTy)
    {id : Int}
    (occurs : id ∈ callableTy.typeVarIds) :
    id ∈ type.typeVarIds := by
  rw [← typeVarIds_getProperType]
  unfold candidate at choice
  split at choice
  · rename_i signature resolved
    cases choice
    rw [resolved]
    exact occurs
  · rename_i items resolved
    obtain ⟨arm, isArm, found⟩ := List.exists_of_findSome?_eq_some choice
    obtain ⟨item, isItem, rfl⟩ := List.mem_map.mp isArm
    rw [resolved, Ty.typeVarIds, Ty.mem_typeVarIdsList]
    refine ⟨item, isItem, ?_⟩
    rw [← typeVarIds_getProperType, ((callableArm_eq_some_iff _ _).mp found).1]
    exact occurs
  · cases choice

theorem Selects.typeVarIds_callable
    {fnType : CallableType}
    {argsIdx : Nat}
    {selected : SelectedCallable}
    (selects : Selects fnType argsIdx selected) :
    ∃ type ∈ fnType.argTypes,
      ∀ id ∈ selected.callableTy.typeVarIds, id ∈ type.typeVarIds := by
  obtain ⟨type, typeAt, choice⟩ := selects.callable_type
  exact ⟨type, List.mem_of_getElem? typeAt,
    fun _ occurs => typeVarIds_candidate choice occurs⟩

/-! ## Ids of the fresh variables -/

theorem typeVarTypes_ids
    (api : CheckerApi)
    (hasTypeVarDefault : Bool)
    (fnType : CallableType)
    (count : Nat) :
    (typeVarTypes api hasTypeVarDefault fnType count).map TypeVarType.id =
      (List.range' 1 count).map fun number =>
        -((fnType.typeVariables.length + 1 + number : Nat) : Int) := by
  rw [typeVarTypes, List.map_map]
  apply List.map_congr_left
  intro number _
  simp only [Function.comp_apply, typeVarType]
  omega

/-- The fresh variables are told apart by their ids. -/
theorem typeVarTypes_ids_nodup
    (api : CheckerApi)
    (hasTypeVarDefault : Bool)
    (fnType : CallableType)
    (count : Nat) :
    ((typeVarTypes api hasTypeVarDefault fnType count).map
      TypeVarType.id).Nodup := by
  rw [typeVarTypes_ids]
  refine List.Nodup.map ?_ List.nodup_range'
  intro first second same
  dsimp only at same
  omega

/-- The ids in use lie directly below the place after that of the function's own
variables. -/
theorem mem_typeVarTypes_ids
    {api : CheckerApi}
    {hasTypeVarDefault : Bool}
    {fnType : CallableType}
    {count : Nat}
    {id : Int} :
    id ∈ (typeVarTypes api hasTypeVarDefault fnType count).map
        TypeVarType.id ↔
      ∃ number, 1 ≤ number ∧ number ≤ count ∧
        id = -((fnType.typeVariables.length + 1 + number : Nat) : Int) := by
  rw [typeVarTypes_ids, List.mem_map]
  constructor
  · rintro ⟨number, isNumber, rfl⟩
    obtain ⟨lower, upper⟩ := List.mem_range'_1.mp isNumber
    exact ⟨number, lower, by omega, rfl⟩
  · rintro ⟨number, lower, upper, rfl⟩
    exact ⟨number, List.mem_range'_1.mpr ⟨lower, by omega⟩, rfl⟩

/-! ## Hygiene of one overload -/

/-- The type variables an overload has beyond those of the decorated
function. -/
def addedTypeVars (fnType overload : CallableType) : List TypeVarType :=
  overload.typeVariables.drop fnType.typeVariables.length

/-- The added type variables are distinct from each other and from every
variable of the decorated function, and instantiating them changes only what the
callback has inserted. -/
structure Hygienic
    (fnType : CallableType)
    (argsIdx : Nat)
    (selected : SelectedCallable)
    (overload : CallableType) : Prop where
  /-- No two of them are the same. -/
  distinct : ((addedTypeVars fnType overload).map TypeVarType.id).Nodup
  /-- None of them occurs in the decorated function. -/
  fresh : ∀ typeVariable ∈ addedTypeVars fnType overload,
    typeVariable.id ∉ fnType.typeVarIds
  /-- Instantiation puts the types where the variables have been inserted. -/
  instantiation : ∀ env : Instantiation,
    (∀ id, id ∉ (addedTypeVars fnType overload).map TypeVarType.id →
      env id = none) →
    overload.expandType env =
      withTypes fnType argsIdx selected (addedTypeVars fnType overload)
        ((addedTypeVars fnType overload).map fun typeVariable =>
          (Ty.typeVar typeVariable).expandType env)

theorem addedTypeVars_expandedFn
    (fnType : CallableType)
    (argsIdx : Nat)
    (selected : SelectedCallable)
    (typeVars : List TypeVarType) :
    addedTypeVars fnType (expandedFn fnType argsIdx selected typeVars) =
      typeVars := by
  simp [addedTypeVars, expandedFn]

/-- Variables with new ids make a hygienic overload. -/
theorem hygienic_of_fresh
    {fnType : CallableType}
    {argsIdx : Nat}
    {selected : SelectedCallable}
    {typeVars : List TypeVarType}
    (selects : Selects fnType argsIdx selected)
    (distinct : (typeVars.map TypeVarType.id).Nodup)
    (fresh : ∀ typeVariable ∈ typeVars, typeVariable.id ∉ fnType.typeVarIds) :
    Hygienic fnType argsIdx selected
      (expandedFn fnType argsIdx selected typeVars) := by
  refine ⟨?_, ?_, ?_⟩
  all_goals rw [addedTypeVars_expandedFn]
  · exact distinct
  · exact fresh
  · intro env support
    have absent : ∀ id ∈ fnType.typeVarIds, env id = none := by
      intro id occurs
      apply support
      intro added
      obtain ⟨typeVariable, isAdded, rfl⟩ := List.mem_map.mp added
      exact fresh typeVariable isAdded occurs
    obtain ⟨type, member, mentions⟩ := selects.typeVarIds_callable
    have absentCallable : ∀ id ∈ selected.callableTy.typeVarIds,
        env id = none := by
      intro id occurs
      exact absent id (CallableType.mem_typeVarIds.mpr
        (.inl ⟨type, member, mentions id occurs⟩))
    have sameSelected : selected.expandType env = selected := by
      rw [SelectedCallable.expandType,
        CallableType.expandType_eq_self _ absentCallable]
    rw [expandedFn_eq_withTypes, withTypes_expandType,
      CallableType.expandType_eq_self _ absent, sameSelected, List.map_map]
    rfl

/-! ## Where the ids can meet -/

/-- The function binds its variables at the places after those of the enclosing
functions; the variable at a place has the negated place as its id. -/
def NumberedAfter (enclosing : Nat) (fnType : CallableType) : Prop :=
  fnType.typeVariables.map TypeVarType.id =
    (List.range' 1 fnType.typeVariables.length).map fun number =>
      -((enclosing + number : Nat) : Int)

/-- The places of the function's variables, and of the other variables it
mentions, are not those the callback uses. -/
structure KeepsApart (enclosing : Nat) (fnType : CallableType) : Prop where
  /-- The function binds no variables, or at most one variable is bound outside,
  or so many that its own places come after those used. -/
  own : fnType.typeVariables.length = 0 ∨ enclosing ≤ 1 ∨
    fnType.typeVariables.length + 6 ≤ enclosing
  /-- No variable of an enclosing function or of a generic callable inside the
  signature is at one of the five places used. -/
  others : ∀ place : Nat,
    place ≤ enclosing ∨ enclosing + fnType.typeVariables.length < place →
      fnType.typeVariables.length + 2 ≤ place →
        place ≤ fnType.typeVariables.length + 6 →
          -(place : Int) ∉ fnType.typeVarIds

/-- A variable at one of the places of the function occurs in it. -/
theorem NumberedAfter.occurs
    {enclosing : Nat}
    {fnType : CallableType}
    (numbered : NumberedAfter enclosing fnType)
    {place : Nat}
    (lower : enclosing < place)
    (upper : place ≤ enclosing + fnType.typeVariables.length) :
    -(place : Int) ∈ fnType.typeVarIds := by
  apply CallableType.mem_typeVarIds.mpr
  refine .inr (.inr ?_)
  rw [numbered, List.mem_map]
  refine ⟨place - enclosing, ?_, ?_⟩
  · rw [List.mem_range'_1]
    omega
  · congr 2
    omega

/-- The five places the callback uses are free exactly when they are kept apart
from those of the function. -/
theorem keepsApart_iff
    {enclosing : Nat}
    {fnType : CallableType}
    (numbered : NumberedAfter enclosing fnType) :
    KeepsApart enclosing fnType ↔
      ∀ number, 1 ≤ number → number ≤ 5 →
        -((fnType.typeVariables.length + 1 + number : Nat) : Int) ∉
          fnType.typeVarIds := by
  constructor
  · rintro ⟨own, others⟩ number lower upper
    apply others <;> omega
  · intro free
    have unused (place : Nat)
        (lower : fnType.typeVariables.length + 2 ≤ place)
        (upper : place ≤ fnType.typeVariables.length + 6) :
        -(place : Int) ∉ fnType.typeVarIds := by
      obtain ⟨number, rfl⟩ := Nat.exists_eq_add_of_le
        (show fnType.typeVariables.length + 1 ≤ place by omega)
      exact free number (by omega) (by omega)
    refine ⟨?_, fun place _ lower upper => unused place lower upper⟩
    by_contra overlap
    -- the first place that belongs to both ranges
    have used := numbered.occurs
      (show enclosing <
        max (enclosing + 1) (fnType.typeVariables.length + 2) by omega)
      (by omega)
    exact unused _ (by omega) (by omega) used

/-- The overloads are hygienic exactly when the places are kept apart. -/
theorem hygienic_iff
    {ctx : FunctionContext}
    {hasTypeVarDefault : Bool}
    {fnType : CallableType}
    {argsIdx enclosing : Nat}
    {selected : SelectedCallable}
    {expanded : List CallableType}
    (decorated : decoratedType ctx = .ok fnType)
    (numbered : NumberedAfter enclosing fnType)
    (selects : Selects fnType argsIdx selected)
    (accepted : takesCallableAndArgsCallback ctx hasTypeVarDefault =
      .ok (pure (.overloaded expanded))) :
    (∀ overload ∈ expanded, Hygienic fnType argsIdx selected overload) ↔
      KeepsApart enclosing fnType := by
  rw [keepsApart_iff numbered, selects.expanded_eq decorated accepted]
  constructor
  · intro hygienic number lower upper
    have last := (hygienic _
      (List.mem_map.mpr ⟨5, by decide, rfl⟩)).fresh
    rw [addedTypeVars_expandedFn] at last
    obtain ⟨typeVariable, isAdded, sameId⟩ := List.mem_map.mp
      (mem_typeVarTypes_ids.mpr ⟨number, lower, upper, rfl⟩)
    rw [← sameId]
    exact last typeVariable isAdded
  · intro free overload member
    obtain ⟨count, isCount, rfl⟩ := List.mem_map.mp member
    have inRange := List.mem_range.mp isCount
    refine hygienic_of_fresh selects
      (typeVarTypes_ids_nodup ctx.api hasTypeVarDefault fnType count) ?_
    intro typeVariable isAdded
    obtain ⟨number, lower, upper, sameId⟩ := mem_typeVarTypes_ids.mp
      (List.mem_map_of_mem isAdded)
    rw [sameId]
    exact free number lower (by omega)

/-- `start_soon` is defined at module level, and its overloads are hygienic. -/
theorem hygienic_readme :
    (∀ overload ∈ readmeOverloads,
      Hygienic readmeStartSoon 1 readmeSelected overload) ↔
      KeepsApart 0 readmeStartSoon :=
  hygienic_iff rfl rfl readme_selects readme_accepted

/-! ## A capture -/

/-- The second type variable of an enclosing function. -/
def outerTypeVar : TypeVarType :=
  ⟨"U", "U", -2, [], .inst "builtins.object" [], none⟩

/-- `Callable[[VarArg()], U]`. -/
def nestedCallable : CallableType :=
  { readmeCallable with retType := .typeVar outerTypeVar }

/-- A function without type variables of its own, defined in a function that
binds `T` and `U`, with a parameter `async_fn: Callable[[VarArg()], U]`. -/
def nestedFunction : CallableType where
  argTypes := [.callable nestedCallable, .any .explicit]
  argKinds := [.pos, .star]
  argNames := [some "async_fn", some "args"]
  retType := .typeVar outerTypeVar
  typeVariables := []
  isEllipsisArgs := false

/-- The decorator applied to it. -/
def nestedContext : FunctionContext where
  argTypes := [[.callable nestedFunction]]
  defaultReturnType := .callable nestedFunction
  api := readmeContext.api

/-- `__T1` is the same type variable as `U`. -/
theorem nestedFunction_captures :
    decoratedType nestedContext = .ok nestedFunction ∧
      NumberedAfter 2 nestedFunction ∧
      Selects nestedFunction 1 ⟨0, 0, nestedCallable⟩ ∧
      ∃ expanded,
        takesCallableAndArgsCallback nestedContext true =
            .ok (pure (.overloaded expanded)) ∧
          ¬∀ overload ∈ expanded,
            Hygienic nestedFunction 1 ⟨0, 0, nestedCallable⟩ overload := by
  have selects : Selects nestedFunction 1 ⟨0, 0, nestedCallable⟩ :=
    { args := ⟨rfl, .any .explicit, .explicit, rfl, rfl⟩
      callable_kind := rfl
      callable_type := ⟨.callable nestedCallable, rfl, rfl⟩
      varArg := ⟨rfl, .any .explicit, .explicit, rfl, rfl⟩ }
  refine ⟨rfl, rfl, selects,
    expandedFns nestedContext.api true nestedFunction 1 ⟨0, 0, nestedCallable⟩,
    rfl, ?_⟩
  intro hygienic
  have member : expandedFn nestedFunction 1 ⟨0, 0, nestedCallable⟩
      (typeVarTypes nestedContext.api true nestedFunction 1) ∈
        expandedFns nestedContext.api true nestedFunction 1
          ⟨0, 0, nestedCallable⟩ := by
    rw [expandedFns_eq]
    exact List.mem_map.mpr ⟨1, by decide, rfl⟩
  have fresh := (hygienic _ member).fresh
  rw [addedTypeVars_expandedFn] at fresh
  exact fresh _ (List.mem_singleton_self _) (by decide)

end TakesCallable
end TrioTyping
