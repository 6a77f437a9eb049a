import TrioTyping.TakesCallable.Scan

/-!
# The overloads the callback returns

A successful run returns six signatures, one for each number of fresh type
variables from zero to five. Parameter by parameter, such a signature is the
original one with the `VarArg()` of the callable and its own `*args` replaced.
-/

namespace TrioTyping
namespace TakesCallable

open Calling

/-! ## Successful runs -/

/-- The type variables of the overload for `count` extra arguments. -/
def typeVarTypes
    (api : CheckerApi)
    (hasTypeVarDefault : Bool)
    (fnType : CallableType)
    (count : Nat) : List TypeVarType :=
  (List.range' 1 count).map (typeVarType api hasTypeVarDefault fnType)

@[simp] theorem typeVarTypes_length
    (api : CheckerApi)
    (hasTypeVarDefault : Bool)
    (fnType : CallableType)
    (count : Nat) :
    (typeVarTypes api hasTypeVarDefault fnType count).length = count := by
  simp [typeVarTypes]

/-- The loop returns an overload for each number of type variables. -/
theorem expandedFns_eq
    (api : CheckerApi)
    (hasTypeVarDefault : Bool)
    (fnType : CallableType)
    (argsIdx : Nat)
    (selected : SelectedCallable) :
    expandedFns api hasTypeVarDefault fnType argsIdx selected =
      (List.range 6).map fun count =>
        expandedFn fnType argsIdx selected
          (typeVarTypes api hasTypeVarDefault fnType count) := by
  have run (count : Nat) :
      (List.range' 1 count).foldl
          (fun (state : List CallableType × List TypeVarType) argIdx =>
            (state.1 ++ [expandedFn fnType argsIdx selected state.2],
              state.2 ++ [typeVarType api hasTypeVarDefault fnType argIdx]))
          ([], []) =
        ((List.range count).map fun earlier =>
            expandedFn fnType argsIdx selected
              (typeVarTypes api hasTypeVarDefault fnType earlier),
          typeVarTypes api hasTypeVarDefault fnType count) := by
    induction count with
    | zero => rfl
    | succ count inductionHypothesis =>
        rw [List.range'_1_concat, List.foldl_append, inductionHypothesis]
        simp [typeVarTypes, List.range_succ, List.range'_1_concat]
  exact congrArg Prod.fst (run 6)

/-- The callback returns overloads without an error exactly when the body of
its `try` block does. -/
theorem callback_eq_overloaded_iff
    (ctx : FunctionContext)
    (hasTypeVarDefault : Bool)
    (expanded : List CallableType) :
    takesCallableAndArgsCallback ctx hasTypeVarDefault =
        .ok (pure (.overloaded expanded)) ↔
      overloads ctx hasTypeVarDefault = .ok expanded := by
  unfold takesCallableAndArgsCallback
  cases overloads ctx hasTypeVarDefault with
  | ok found =>
      constructor
      · intro returned
        cases returned
        rfl
      · intro returned
        cases returned
        rfl
  | error error =>
      cases error with
      | assertionError => simp
      | valueError ex =>
          constructor
          · intro returned
            have reports := congrArg Reported.reports
              (Except.ok.inj returned)
            simp at reports
          · intro returned
            cases returned

/-- The body of the `try` block, once the decorated function is known. -/
theorem overloads_eq
    {ctx : FunctionContext}
    {fnType : CallableType}
    (decorated : decoratedType ctx = .ok fnType)
    (hasTypeVarDefault : Bool) :
    overloads ctx hasTypeVarDefault =
      (scan fnType).map fun found =>
        expandedFns ctx.api hasTypeVarDefault fnType found.1 found.2 := by
  unfold overloads
  rw [decorated]
  change (scan fnType >>= fun found => pure
    (expandedFns ctx.api hasTypeVarDefault fnType found.1 found.2)) = _
  cases scan fnType <;> rfl

/-- What a successful run has found, and what it returns. -/
theorem callback_spec
    {ctx : FunctionContext}
    {hasTypeVarDefault : Bool}
    {fnType : CallableType}
    {expanded : List CallableType}
    (decorated : decoratedType ctx = .ok fnType) :
    takesCallableAndArgsCallback ctx hasTypeVarDefault =
        .ok (pure (.overloaded expanded)) ↔
      ∃ argsIdx selected,
        starAnyIndices fnType = [argsIdx] ∧ slots fnType = [selected] ∧
        expanded = (List.range 6).map fun count =>
          expandedFn fnType argsIdx selected
            (typeVarTypes ctx.api hasTypeVarDefault fnType count) := by
  rw [callback_eq_overloaded_iff, overloads_eq decorated]
  constructor
  · intro returned
    cases scanned : scan fnType with
    | error error =>
        rw [scanned] at returned
        cases returned
    | ok found =>
        obtain ⟨argsIdx, selected⟩ := found
        obtain ⟨indices, found⟩ :=
          (scan_eq_ok_iff fnType argsIdx selected).mp scanned
        rw [scanned] at returned
        cases returned
        exact ⟨argsIdx, selected, indices, found, expandedFns_eq _ _ _ _ _⟩
  · rintro ⟨argsIdx, selected, indices, found, rfl⟩
    rw [(scan_eq_ok_iff fnType argsIdx selected).mpr ⟨indices, found⟩,
      ← expandedFns_eq]
    rfl

/-- The entries of a list that is given by a function on indices. -/
theorem getElem?_map_range
    {α : Type}
    {f : Nat → α}
    {count idx : Nat}
    {entry : α} :
    ((List.range count).map f)[idx]? = some entry ↔
      idx < count ∧ f idx = entry := by
  rw [List.getElem?_map, Option.map_eq_some_iff]
  constructor
  · rintro ⟨idx', idxAt, equal⟩
    obtain ⟨inRange, rfl⟩ := List.getElem?_eq_some_iff.mp idxAt
    rw [List.getElem_range] at equal
    exact ⟨by simpa using inRange, equal⟩
  · rintro ⟨inRange, equal⟩
    exact ⟨idx, List.getElem?_range inRange, equal⟩

/-! ## The two parameters that are replaced -/

/-- What mypy guarantees of a decorated function: its own signature and those
of the callables it takes are well-formed. -/
structure WellFormedFunction (fnType : CallableType) : Prop where
  /-- The signature of the function. -/
  signature : fnType.WellFormed
  /-- The callables among its parameters. -/
  callables : ∀ type ∈ fnType.argTypes, ∀ callableTy,
    candidate (getProperType type) = some callableTy → callableTy.WellFormed

/-- The parameters a successful scan has selected. -/
structure Selects
    (fnType : CallableType)
    (argsIdx : Nat)
    (selected : SelectedCallable) : Prop where
  /-- `*args: Any`. -/
  args : StarAnyAt fnType argsIdx
  /-- The callable is taken by a required positional parameter. -/
  callable_kind : fnType.argKinds[selected.callableIdx]? = some .pos
  /-- The callable comes from the type of that parameter. -/
  callable_type : ∃ type, fnType.argTypes[selected.callableIdx]? = some type ∧
    candidate (getProperType type) = some selected.callableTy
  /-- Its `VarArg()`. -/
  varArg : StarAnyAt selected.callableTy selected.callableArgsIdx

theorem Selects.of_scan
    {fnType : CallableType}
    {argsIdx : Nat}
    {selected : SelectedCallable}
    (indices : starAnyIndices fnType = [argsIdx])
    (found : slots fnType = [selected]) :
    Selects fnType argsIdx selected := by
  have isIndex : argsIdx ∈ starAnyIndices fnType := by simp [indices]
  have isSlot : selected ∈ slots fnType := by simp [found]
  obtain ⟨kindAt, typeAt, varArg⟩ := mem_slots.mp isSlot
  exact ⟨mem_starAnyIndices.mp isIndex, kindAt, typeAt, varArg⟩

namespace Selects

variable {fnType : CallableType} {argsIdx : Nat} {selected : SelectedCallable}

theorem callable_wellFormed
    (selects : Selects fnType argsIdx selected)
    (wellFormed : WellFormedFunction fnType) :
    selected.callableTy.WellFormed := by
  obtain ⟨type, typeAt, choice⟩ := selects.callable_type
  exact wellFormed.callables type (List.mem_of_getElem? typeAt) _ choice

/-- The callable is passed before `*args`. -/
theorem callableIdx_lt
    (selects : Selects fnType argsIdx selected)
    (wellFormed : fnType.WellFormed) :
    selected.callableIdx < argsIdx :=
  wellFormed.lt_of_precedes selects.callable_kind selects.args.1 (by decide)
    (by decide)

/-- The selection of a successful scan is the only one. -/
theorem eq_of_scan
    {argsIdx' : Nat}
    {selected' : SelectedCallable}
    (selects : Selects fnType argsIdx selected)
    (indices : starAnyIndices fnType = [argsIdx'])
    (found : slots fnType = [selected']) :
    argsIdx' = argsIdx ∧ selected' = selected := by
  have isIndex := mem_starAnyIndices.mpr selects.args
  have isSlot := mem_slots.mpr
    ⟨selects.callable_kind, selects.callable_type, selects.varArg⟩
  rw [indices, List.mem_singleton] at isIndex
  rw [found, List.mem_singleton] at isSlot
  exact ⟨isIndex.symm, isSlot.symm⟩

end Selects

/-- The overloads returned when the given parameters are selected. -/
theorem Selects.expanded_eq
    {ctx : FunctionContext}
    {hasTypeVarDefault : Bool}
    {fnType : CallableType}
    {argsIdx : Nat}
    {selected : SelectedCallable}
    {expanded : List CallableType}
    (selects : Selects fnType argsIdx selected)
    (decorated : decoratedType ctx = .ok fnType)
    (accepted : takesCallableAndArgsCallback ctx hasTypeVarDefault =
      .ok (pure (.overloaded expanded))) :
    expanded = (List.range 6).map fun count =>
      expandedFn fnType argsIdx selected
        (typeVarTypes ctx.api hasTypeVarDefault fnType count) := by
  obtain ⟨argsIdx', selected', indices, found, rfl⟩ :=
    (callback_spec decorated).mp accepted
  obtain ⟨rfl, rfl⟩ := selects.eq_of_scan indices found
  rfl

/-! ## Overloads with any types in the place of the variables -/

/-- A signature with one parameter replaced by required positional-only
parameters of the given types. -/
def insertTypes
    (signature : CallableType)
    (idx : Nat)
    (types : List Ty) : CallableType :=
  { signature with
    argTypes := splice signature.argTypes idx types
    argKinds := splice signature.argKinds idx
      (List.replicate types.length .pos)
    argNames := splice signature.argNames idx
      (List.replicate types.length none) }

/-- A signature with the type of one parameter exchanged. -/
def setArgType
    (signature : CallableType)
    (idx : Nat)
    (type : Ty) : CallableType :=
  { signature with argTypes := signature.argTypes.set idx type }

/-- An overload with the given types in the place of its own type variables, in
`*args` and in the `VarArg()` of the callable. -/
def withTypes
    (fnType : CallableType)
    (argsIdx : Nat)
    (selected : SelectedCallable)
    (typeVars : List TypeVarType)
    (types : List Ty) : CallableType :=
  { insertTypes
      (setArgType fnType selected.callableIdx
        (.callable
          (insertTypes selected.callableTy selected.callableArgsIdx types)))
      argsIdx types with
    typeVariables := fnType.typeVariables ++ typeVars }

theorem replaceParameter_eq_insertTypes
    (signature : CallableType)
    (idx : Nat)
    (typeVars : List TypeVarType) :
    replaceParameter signature idx typeVars =
      insertTypes signature idx (typeVars.map .typeVar) := by
  simp [replaceParameter, insertTypes]

/-- The overload itself has the type variables in these places. -/
theorem expandedFn_eq_withTypes
    (fnType : CallableType)
    (argsIdx : Nat)
    (selected : SelectedCallable)
    (typeVars : List TypeVarType) :
    expandedFn fnType argsIdx selected typeVars =
      withTypes fnType argsIdx selected typeVars (typeVars.map .typeVar) := by
  simp only [expandedFn, withTypes, replaceParameter_eq_insertTypes, setArgType]

/-- Required positional-only parameters of the given types. -/
def freshFormals (types : List Ty) : List (Formal Ty) :=
  types.map fun type => ⟨.pos, none, type⟩

theorem freshFormals_positionalOnly
    (types : List Ty) :
    ∀ formal ∈ freshFormals types, PositionalOnly formal := by
  intro formal member
  obtain ⟨type, -, rfl⟩ := List.mem_map.mp member
  exact ⟨rfl, rfl⟩

@[simp] theorem freshFormals_length (types : List Ty) :
    (freshFormals types).length = types.length :=
  List.length_map _

/-- Replacing a parameter in the three lists replaces it in the signature. -/
theorem insertTypes_formals
    {signature : CallableType}
    (wellFormed : signature.WellFormed)
    (idx : Nat)
    (types : List Ty) :
    (insertTypes signature idx types).formals =
      splice signature.formals idx (freshFormals types) := by
  have fresh :
      List.zipWith (fun shape type => (⟨shape.1, shape.2, type⟩ : Formal Ty))
          ((List.replicate types.length ArgKind.pos).zip
            (List.replicate types.length none))
          types =
        freshFormals types := by
    induction types with
    | nil => rfl
    | cons type types inductionHypothesis =>
        simp only [List.length_cons, List.replicate_succ, List.zip_cons_cons,
          List.zipWith_cons_cons, inductionHypothesis, freshFormals,
          List.map_cons]
  have names := wellFormed.names_length
  have kinds := wellFormed.kinds_length
  unfold insertTypes CallableType.formals
  dsimp only
  rw [List.zip, zipWith_splice _ _ _ _ _ _ (by omega) (by simp),
    zipWith_splice _ _ _ _ _ _ (by simp [names, kinds]) (by simp)]
  exact congrArg _ fresh

theorem setArgType_wellFormed
    {signature : CallableType}
    (wellFormed : signature.WellFormed)
    (idx : Nat)
    (type : Ty) :
    (setArgType signature idx type).WellFormed where
  kinds_length := by simpa [setArgType] using wellFormed.kinds_length
  names_length := by simpa [setArgType] using wellFormed.names_length
  ordered := wellFormed.ordered
  distinct := wellFormed.distinct
  ellipsis := wellFormed.ellipsis

/-- Exchanging the type of one parameter. -/
theorem setArgType_formals_getElem?
    (signature : CallableType)
    (idx other : Nat)
    (type : Ty) :
    (setArgType signature idx type).formals[other]? =
      signature.formals[other]?.map fun formal =>
        if idx = other then { formal with type := type } else formal := by
  simp only [setArgType, CallableType.formals, List.getElem?_zipWith,
    List.getElem?_set']
  by_cases same : idx = other
  · subst same
    cases (signature.argKinds.zip signature.argNames)[idx]? <;>
      cases signature.argTypes[idx]? <;> simp
  · simp [same]

theorem setArgType_formals_self
    {signature : CallableType}
    {idx : Nat}
    {formal : Formal Ty}
    (formalAt : signature.formals[idx]? = some formal)
    (type : Ty) :
    (setArgType signature idx type).formals[idx]? =
      some { formal with type := type } := by
  rw [setArgType_formals_getElem?, formalAt, Option.map_some, if_pos rfl]

theorem setArgType_formals_ne
    {signature : CallableType}
    {idx other : Nat}
    (different : other ≠ idx)
    (type : Ty) :
    (setArgType signature idx type).formals[other]? =
      signature.formals[other]? := by
  simp only [setArgType_formals_getElem?, if_neg (Ne.symm different),
    Option.map_id']

/-- Annotations are not part of the shape. -/
theorem sameShape_setArgType
    (signature : CallableType)
    (idx : Nat)
    (type : Ty) :
    SameShape signature.formals (setArgType signature idx type).formals := by
  have lengths :
      signature.formals.length = (setArgType signature idx type).formals.length := by
    simp [CallableType.formals, setArgType]
  refine List.forall₂_iff_get.mpr ⟨lengths, fun other inRange inRange' => ?_⟩
  have formalAt := setArgType_formals_getElem? signature idx other type
  rw [List.getElem?_eq_getElem inRange, List.getElem?_eq_getElem inRange',
    Option.map_some, Option.some.injEq] at formalAt
  rw [List.get_eq_getElem, List.get_eq_getElem, formalAt]
  split <;> exact ⟨rfl, rfl⟩

/-- The parameters of an overload. -/
theorem withTypes_formals
    {fnType : CallableType}
    (wellFormed : fnType.WellFormed)
    (argsIdx : Nat)
    (selected : SelectedCallable)
    (typeVars : List TypeVarType)
    (types : List Ty) :
    (withTypes fnType argsIdx selected typeVars types).formals =
      splice
        (setArgType fnType selected.callableIdx
          (.callable (insertTypes selected.callableTy selected.callableArgsIdx
            types))).formals
        argsIdx (freshFormals types) :=
  insertTypes_formals (setArgType_wellFormed wellFormed _ _) argsIdx types

/-! ## Instantiating an overload -/

/-- Instantiate the type of the selected callable. -/
def SelectedCallable.expandType
    (env : Instantiation)
    (selected : SelectedCallable) : SelectedCallable :=
  { selected with callableTy := selected.callableTy.expandType env }

/-- An overload is instantiated part by part. -/
theorem withTypes_expandType
    (env : Instantiation)
    (fnType : CallableType)
    (argsIdx : Nat)
    (selected : SelectedCallable)
    (typeVars : List TypeVarType)
    (types : List Ty) :
    (withTypes fnType argsIdx selected typeVars types).expandType env =
      withTypes (fnType.expandType env) argsIdx (selected.expandType env)
        typeVars (types.map (Ty.expandType env)) := by
  simp only [withTypes, insertTypes, setArgType, SelectedCallable.expandType,
    CallableType.expandType_eq, splice_map, List.map_set, Ty.expandType,
    List.length_map]

/-! ## The signature of the documentation -/

/-- The type variable of the function. -/
def readmeTypeVar : TypeVarType :=
  ⟨"T", "T", -1, [], .inst "builtins.object" [], none⟩

/-- `Callable[[VarArg()], Awaitable[T]]`. -/
def readmeCallable : CallableType where
  argTypes := [.any .explicit]
  argKinds := [.star]
  argNames := [none]
  retType := .inst "typing.Awaitable" [.typeVar readmeTypeVar]
  typeVariables := []
  isEllipsisArgs := false

/-- `start_soon` with its `async_fn`, `*args` and `other_keywords`. -/
def readmeStartSoon : CallableType where
  argTypes :=
    [.callable readmeCallable, .any .explicit, .inst "builtins.str" []]
  argKinds := [.pos, .star, .namedOpt]
  argNames := [some "async_fn", some "args", some "other_keywords"]
  retType := .noneTyp
  typeVariables := [readmeTypeVar]
  isEllipsisArgs := false

/-- The decorator applied to it. -/
def readmeContext : FunctionContext where
  argTypes := [[.callable readmeStartSoon]]
  defaultReturnType := .callable readmeStartSoon
  api := ⟨fun _ _ => true, .union, none⟩

/-- The selected callable. -/
def readmeSelected : SelectedCallable := ⟨0, 0, readmeCallable⟩

theorem readme_wellFormed : WellFormedFunction readmeStartSoon where
  signature :=
    { kinds_length := rfl
      names_length := rfl
      ordered := by decide
      distinct := by decide
      ellipsis := nofun }
  callables := by
    intro type member callableTy choice
    simp only [readmeStartSoon, List.mem_cons, List.not_mem_nil,
      or_false] at member
    rcases member with rfl | rfl | rfl
    · cases choice
      exact
        { kinds_length := rfl
          names_length := rfl
          ordered := by decide
          distinct := by decide
          ellipsis := nofun }
    · cases choice
    · cases choice

theorem readme_selects : Selects readmeStartSoon 1 readmeSelected where
  args := ⟨rfl, .any .explicit, .explicit, rfl, rfl⟩
  callable_kind := rfl
  callable_type := ⟨.callable readmeCallable, rfl, rfl⟩
  varArg := ⟨rfl, .any .explicit, .explicit, rfl, rfl⟩

/-- The overloads for it. -/
def readmeOverloads : List CallableType :=
  expandedFns readmeContext.api true readmeStartSoon 1 readmeSelected

theorem readme_accepted :
    takesCallableAndArgsCallback readmeContext true =
      .ok (pure (.overloaded readmeOverloads)) := rfl

end TakesCallable
end TrioTyping
