import Mathlib.Data.List.Forall2
import Mathlib.Data.Option.Defs
import TrioTyping.AsyncGenerator.YieldFrom
import TrioTyping.TakesCallable.Hygiene

/-!
# The plugin for each version of mypy

mypy asks the entry point for a plugin class, given its own version, and the
class for a hook, given the full name of the function that is called. Type
variables have a default from version 1.4 on, which is why there are two classes.
The main result says that nothing else depends on the version: the same calls
have a hook, the same uses are rejected in the same words, and the overloads of
two versions are the same once their type variables are instantiated.
-/

namespace TrioTyping

open TakesCallable AsyncGenerator

/-! ## Plugin classes and their hooks -/

/-- A hook, which computes the type of a call. -/
abbrev Hook := FunctionContext → Except PyError (Reported Ty)

/-- The two plugin classes. -/
inductive PluginClass
  | trioPlugin
  | trioPlugin13
  deriving DecidableEq, Repr

namespace PluginClass

/-- `TrioPlugin.get_function_hook`. -/
def trioPluginHook (fullname : String) : Option Hook :=
  if fullname = "trio_typing.takes_callable_and_args" then
    some fun ctx => takesCallableAndArgsCallback ctx true
  else if fullname = "async_generator.async_generator" then
    some fun ctx => .ok (asyncGeneratorCallback ctx)
  else if fullname = "async_generator.yield_" then
    some fun ctx => .ok (yieldCallback ctx)
  else if fullname = "async_generator.yield_from_" then
    some fun ctx => .ok (yieldFromCallback ctx)
  else none

/-- `get_function_hook` of each class. `TrioPlugin13` overrides the hook of the
decorator and leaves the others to `TrioPlugin`. -/
def getFunctionHook : PluginClass → String → Option Hook
  | .trioPlugin, fullname => trioPluginHook fullname
  | .trioPlugin13, fullname =>
      if fullname = "trio_typing.takes_callable_and_args" then
        some fun ctx => takesCallableAndArgsCallback ctx false
      else trioPluginHook fullname

/-- The `has_type_var_default` with which the class calls the callback. -/
def hasTypeVarDefault : PluginClass → Bool
  | .trioPlugin => true
  | .trioPlugin13 => false

/-- The hook of the decorator. -/
theorem getFunctionHook_takesCallableAndArgs (pluginClass : PluginClass) :
    pluginClass.getFunctionHook "trio_typing.takes_callable_and_args" =
      some fun ctx =>
        takesCallableAndArgsCallback ctx pluginClass.hasTypeVarDefault := by
  cases pluginClass with
  | trioPlugin => rfl
  | trioPlugin13 => rfl

/-- The other hooks are those of `TrioPlugin`. -/
theorem getFunctionHook_of_ne
    (pluginClass : PluginClass)
    {fullname : String}
    (other : fullname ≠ "trio_typing.takes_callable_and_args") :
    pluginClass.getFunctionHook fullname = trioPluginHook fullname := by
  cases pluginClass with
  | trioPlugin => rfl
  | trioPlugin13 => exact if_neg other

end PluginClass

/-- A `RuntimeError` with its message. -/
structure RuntimeError where
  /-- `str(ex)`. -/
  message : String
  deriving DecidableEq, Repr

/-- What the plugin uses of the library `packaging`. -/
structure Packaging where
  /-- `packaging.version.Version`. -/
  Version : Type
  /-- `packaging.version.parse`. -/
  parse : String → Version
  /-- The order of versions. -/
  lt : Version → Version → Bool

/-- The first version is older than the second. -/
def Packaging.older (packaging : Packaging) (first second : String) : Bool :=
  packaging.lt (packaging.parse first) (packaging.parse second)

/-- `plugin`, the entry point. -/
def plugin
    (packaging : Packaging)
    (version : String) : Except RuntimeError PluginClass :=
  if packaging.older version "1.0" then
    .error
      ⟨"This version of trio-typing requires at least mypy 1.0."⟩
  else if packaging.older version "1.4" then .ok .trioPlugin13
  else .ok .trioPlugin

/-! ## Outcomes that differ in defaults only -/

/-- A type variable without its default. -/
def TypeVarType.withoutDefault (typeVariable : TypeVarType) : TypeVarType :=
  { typeVariable with default := none }

/-- The same overload, up to the defaults of the type variables it binds:
instantiating these gives the same signature. -/
structure SameOverload (first second : CallableType) : Prop where
  /-- The same variables. -/
  typeVariables : first.typeVariables.map TypeVarType.withoutDefault =
    second.typeVariables.map TypeVarType.withoutDefault
  /-- The same signature once they are instantiated. -/
  instantiated : ∀ env : Instantiation,
    (∀ typeVariable ∈ first.typeVariables, env typeVariable.id ≠ none) →
      { first.expandType env with typeVariables := [] } =
        { second.expandType env with typeVariables := [] }

/-- The same outcome of a hook, up to the defaults of type variables. -/
inductive SameOutcome :
    Except PyError (Reported Ty) → Except PyError (Reported Ty) → Prop
  | refl (outcome : Except PyError (Reported Ty)) : SameOutcome outcome outcome
  | overloaded {first second : List CallableType}
      (same : List.Forall₂ SameOverload first second) :
      SameOutcome (.ok (pure (.overloaded first)))
        (.ok (pure (.overloaded second)))

section Overloads

variable
  (api : CheckerApi)
  (fnType : CallableType)
  (argsIdx : Nat)
  (selected : SelectedCallable)
  (first second : Bool)
  (count : Nat)

theorem typeVarTypes_withoutDefault :
    (typeVarTypes api first fnType count).map TypeVarType.withoutDefault =
      (typeVarTypes api second fnType count).map
        TypeVarType.withoutDefault := by
  rw [typeVarTypes, typeVarTypes, List.map_map, List.map_map]
  rfl

/-- The fresh variables are instantiated by their ids, whatever their default.
-/
theorem map_expandType_typeVarTypes
    {env : Instantiation}
    (assigned : ∀ typeVariable ∈ typeVarTypes api first fnType count,
      env typeVariable.id ≠ none) :
    ((typeVarTypes api first fnType count).map .typeVar).map
        (Ty.expandType env) =
      ((typeVarTypes api second fnType count).map .typeVar).map
        (Ty.expandType env) := by
  unfold typeVarTypes at assigned ⊢
  simp only [List.map_map]
  apply List.map_congr_left
  intro number member
  obtain ⟨type, isAssigned⟩ := Option.ne_none_iff_exists'.mp
    (assigned _ (List.mem_map_of_mem member))
  have assignedSecond :
      env (typeVarType api second fnType number).id = some type := isAssigned
  simp only [Function.comp_apply, Ty.expandType, isAssigned, assignedSecond]
  rfl

/-- An overload with and without defaults. -/
theorem sameOverload_expandedFn :
    SameOverload
      (expandedFn fnType argsIdx selected
        (typeVarTypes api first fnType count))
      (expandedFn fnType argsIdx selected
        (typeVarTypes api second fnType count)) := by
  constructor
  · have binds (hasTypeVarDefault : Bool) :
        (expandedFn fnType argsIdx selected
          (typeVarTypes api hasTypeVarDefault fnType count)).typeVariables =
          fnType.typeVariables ++
            typeVarTypes api hasTypeVarDefault fnType count := rfl
    rw [binds, binds, List.map_append, List.map_append,
      typeVarTypes_withoutDefault]
  · intro env assigned
    have assignedFresh : ∀ typeVariable ∈ typeVarTypes api first fnType count,
        env typeVariable.id ≠ none :=
      fun typeVariable member =>
        assigned typeVariable (List.mem_append_right _ member)
    rw [expandedFn_eq_withTypes, expandedFn_eq_withTypes, withTypes_expandType,
      withTypes_expandType,
      map_expandType_typeVarTypes api fnType first second count assignedFresh]
    rfl

/-- All the overloads with and without defaults. -/
theorem sameOverload_expandedFns :
    List.Forall₂ SameOverload
      (expandedFns api first fnType argsIdx selected)
      (expandedFns api second fnType argsIdx selected) := by
  rw [expandedFns_eq, expandedFns_eq, List.forall₂_map_left_iff,
    List.forall₂_map_right_iff, List.forall₂_same]
  intro count _
  exact sameOverload_expandedFn api fnType argsIdx selected first second count

end Overloads

/-- Whether variables have defaults does not change which uses of the decorator
are rejected, nor how. -/
theorem callback_sameOutcome
    (ctx : FunctionContext)
    (first second : Bool) :
    SameOutcome (takesCallableAndArgsCallback ctx first)
      (takesCallableAndArgsCallback ctx second) := by
  cases decorated : decoratedType ctx with
  | error error =>
      have failed (hasTypeVarDefault : Bool) :
          overloads ctx hasTypeVarDefault = .error error := by
        rw [overloads, decorated]
        rfl
      rw [takesCallableAndArgsCallback, takesCallableAndArgsCallback,
        failed, failed]
      exact .refl _
  | ok fnType =>
      rw [takesCallableAndArgsCallback, takesCallableAndArgsCallback,
        overloads_eq decorated, overloads_eq decorated]
      cases scan fnType with
      | error error => exact .refl _
      | ok found =>
          exact .overloaded
            (sameOverload_expandedFns ctx.api fnType found.1 found.2 first second)

/-- The two classes have hooks for the same functions, with the same outcomes.
-/
theorem getFunctionHook_sameOutcome
    (first second : PluginClass)
    (fullname : String) :
    Option.Rel (fun hook hook' : Hook => ∀ ctx, SameOutcome (hook ctx) (hook' ctx))
      (first.getFunctionHook fullname) (second.getFunctionHook fullname) := by
  by_cases decorator : fullname = "trio_typing.takes_callable_and_args"
  · subst decorator
    rw [PluginClass.getFunctionHook_takesCallableAndArgs,
      PluginClass.getFunctionHook_takesCallableAndArgs]
    exact .some fun ctx => callback_sameOutcome ctx _ _
  · rw [PluginClass.getFunctionHook_of_ne _ decorator,
      PluginClass.getFunctionHook_of_ne _ decorator]
    cases PluginClass.trioPluginHook fullname with
    | none => exact .none
    | some hook => exact .some fun ctx => .refl (hook ctx)

/-! ## The entry point -/

section Versions

variable {packaging : Packaging} {version : String}

/-- The class for a supported version has defaults when the version does. -/
theorem hasTypeVarDefault_iff
    {pluginClass : PluginClass}
    (supported : plugin packaging version = .ok pluginClass) :
    pluginClass.hasTypeVarDefault = true ↔
      packaging.older version "1.4" = false := by
  unfold plugin at supported
  split at supported
  · cases supported
  · cases older : packaging.older version "1.4" with
    | true =>
        rw [older, if_pos rfl] at supported
        cases supported
        exact iff_of_false Bool.false_ne_true (by decide)
    | false =>
        rw [older, if_neg Bool.false_ne_true] at supported
        cases supported
        exact iff_of_true rfl rfl

/-- What an overload has for a fresh variable's default. -/
theorem default_of_mem_addedTypeVars
    {api : CheckerApi}
    {hasTypeVarDefault : Bool}
    {fnType : CallableType}
    {argsIdx count : Nat}
    {selected : SelectedCallable}
    {typeVariable : TypeVarType}
    (member : typeVariable ∈ addedTypeVars fnType
      (expandedFn fnType argsIdx selected
        (typeVarTypes api hasTypeVarDefault fnType count))) :
    typeVariable.default =
      if hasTypeVarDefault then some (.any .fromOmittedGenerics) else none := by
  rw [addedTypeVars_expandedFn] at member
  obtain ⟨number, -, rfl⟩ := List.mem_map.mp member
  rfl

/-- The plugin for every supported version. Its hooks are for the same functions
as those for any other supported version and have the same outcomes up to
defaults, and it gives the fresh type variables of an overload a default exactly
when type variables have one in that version. -/
theorem plugin_versions
    {pluginClass : PluginClass}
    (supported : plugin packaging version = .ok pluginClass) :
    (∀ otherVersion otherClass,
      plugin packaging otherVersion = .ok otherClass →
        ∀ fullname,
          Option.Rel
            (fun hook hook' : Hook => ∀ ctx, SameOutcome (hook ctx) (hook' ctx))
            (pluginClass.getFunctionHook fullname)
            (otherClass.getFunctionHook fullname)) ∧
      ∀ hook,
        pluginClass.getFunctionHook "trio_typing.takes_callable_and_args" =
            some hook →
          ∀ ctx fnType expanded,
            decoratedType ctx = .ok fnType →
              hook ctx = .ok (pure (.overloaded expanded)) →
                ∀ overload ∈ expanded,
                  ∀ typeVariable ∈ addedTypeVars fnType overload,
                    typeVariable.default ≠ none ↔
                      packaging.older version "1.4" = false := by
  constructor
  · intro _ otherClass _ fullname
    exact getFunctionHook_sameOutcome pluginClass otherClass fullname
  · intro hook isHook ctx fnType expanded decorated returned overload member
      typeVariable added
    rw [PluginClass.getFunctionHook_takesCallableAndArgs,
      Option.some.injEq] at isHook
    subst isHook
    obtain ⟨argsIdx, selected, -, -, rfl⟩ :=
      (callback_spec decorated).mp returned
    obtain ⟨count, -, rfl⟩ := List.mem_map.mp member
    rw [default_of_mem_addedTypeVars added, ← hasTypeVarDefault_iff supported]
    cases pluginClass.hasTypeVarDefault with
    | true => exact iff_of_true (Option.some_ne_none _) rfl
    | false => exact iff_of_false (fun absent => absent rfl) Bool.false_ne_true

/-- A few versions, parsed to numbers that are ordered as they are. -/
def knownVersions : Packaging where
  Version := Nat
  parse version :=
    if version = "1.0" then 100
    else if version = "1.3" then 103
    else if version = "1.4" then 104
    else 107
  lt first second := first < second

/-- With mypy 1.3 the fresh variable in the documentation's example has no
default. -/
theorem plugin_versions_readme :
    (typeVarType readmeContext.api false readmeStartSoon 1).default ≠ none ↔
      knownVersions.older "1.3" "1.4" = false := by
  have supported : plugin knownVersions "1.3" = .ok .trioPlugin13 := rfl
  have member :
      expandedFn readmeStartSoon 1 readmeSelected
          (typeVarTypes readmeContext.api false readmeStartSoon 1) ∈
        expandedFns readmeContext.api false readmeStartSoon 1 readmeSelected := by
    rw [expandedFns_eq]
    exact List.mem_map_of_mem (List.mem_range.mpr (by decide))
  refine (plugin_versions supported).2 _ rfl readmeContext readmeStartSoon _ rfl
    rfl _ member _ ?_
  rw [addedTypeVars_expandedFn]
  exact List.mem_singleton_self _

end Versions

end TrioTyping
