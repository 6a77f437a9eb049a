import TrioTyping.TakesCallable.Outcome

/-!
# A callable on its own and in a union

A parameter may take a callable, or a union of the callable with other types.
The scan passes over `Callable[..., T]` among the arms of a union but not when
it is the type of the parameter, where its `*args: Any` counts as a `VarArg()`.
The main result says for which signatures this makes no difference.
-/

namespace TrioTyping
namespace TakesCallable

open Calling

/-! ## Exchanging the type of a parameter -/

/-- What a function finds in a list when one entry is exchanged. -/
theorem flatMap_zipIdx_set
    {α β : Type}
    {entries : List α}
    {idx : Nat}
    (inRange : idx < entries.length)
    (found : α × Nat → List β)
    (entry : α) :
    (entries.set idx entry).zipIdx.flatMap found =
      (entries.take idx).zipIdx.flatMap found ++ found (entry, idx) ++
        ((entries.drop (idx + 1)).zipIdx (idx + 1)).flatMap found := by
  rw [List.set_eq_take_append_cons_drop, if_pos inRange, List.zipIdx_append,
    List.length_take, Nat.min_eq_left (Nat.le_of_lt inRange),
    List.zipIdx_cons, List.flatMap_append, List.flatMap_cons, Nat.zero_add,
    List.append_assoc]

/-- The parameters of a signature with the type of one exchanged. -/
theorem zip_setArgType
    {signature : CallableType}
    {idx : Nat}
    {kind : ArgKind}
    (kindAt : signature.argKinds[idx]? = some kind)
    (type : Ty) :
    (setArgType signature idx type).argKinds.zip
        (setArgType signature idx type).argTypes =
      (signature.argKinds.zip signature.argTypes).set idx (kind, type) := by
  apply List.ext_getElem?
  intro other
  simp only [setArgType, List.zip, List.getElem?_set', List.getElem?_zipWith]
  by_cases same : idx = other
  · subst same
    rw [if_pos rfl, kindAt]
    cases signature.argTypes[idx]? <;> simp
  · rw [if_neg same]
    simp [same]

/-- What is found at the other parameters stays when the type of one is
exchanged. -/
theorem exists_found_setArgType
    {β : Type}
    {signature : CallableType}
    {idx : Nat}
    {kind : ArgKind}
    (kindAt : signature.argKinds[idx]? = some kind)
    (inRange : idx < signature.argTypes.length)
    (found : (ArgKind × Ty) × Nat → List β) :
    ∃ before after,
      (∀ value ∈ before ++ after, ∃ entry other, other ≠ idx ∧
        value ∈ found (entry, other)) ∧
      ∀ type,
        ((setArgType signature idx type).argKinds.zip
            (setArgType signature idx type).argTypes).zipIdx.flatMap found =
          before ++ found ((kind, type), idx) ++ after := by
  have kindInRange := (List.getElem?_eq_some_iff.mp kindAt).1
  have zipInRange :
      idx < (signature.argKinds.zip signature.argTypes).length := by
    rw [List.length_zip]
    exact Nat.lt_min.mpr ⟨kindInRange, inRange⟩
  let entries := signature.argKinds.zip signature.argTypes
  refine ⟨(entries.take idx).zipIdx.flatMap found,
    ((entries.drop (idx + 1)).zipIdx (idx + 1)).flatMap found, ?_, ?_⟩
  · intro value member
    rw [List.mem_append, List.mem_flatMap, List.mem_flatMap] at member
    rcases member with ⟨⟨entry, other⟩, isBefore, isFound⟩ |
      ⟨⟨entry, other⟩, isAfter, isFound⟩
    · have less := List.snd_lt_of_mem_zipIdx isBefore
      rw [List.length_take] at less
      exact ⟨entry, other, by omega, isFound⟩
    · have greater := List.le_snd_of_mem_zipIdx isAfter
      exact ⟨entry, other, by omega, isFound⟩
  · intro type
    rw [zip_setArgType kindAt, flatMap_zipIdx_set zipInRange]

theorem setArgType_self
    {signature : CallableType}
    {idx : Nat}
    {type : Ty}
    (typeAt : signature.argTypes[idx]? = some type) :
    setArgType signature idx type = signature := by
  obtain ⟨inRange, rfl⟩ := List.getElem?_eq_some_iff.mp typeAt
  cases signature
  simp only [setArgType, List.set_getElem_self]

/-- The `*args: Any` of a signature do not depend on a parameter that is none,
before or after its type is exchanged. -/
theorem starAnyIndices_setArgType
    {signature : CallableType}
    {idx : Nat}
    {kind : ArgKind}
    {old new : Ty}
    (kindAt : signature.argKinds[idx]? = some kind)
    (typeAt : signature.argTypes[idx]? = some old)
    (notOld : isStarAny kind old = false)
    (notNew : isStarAny kind new = false) :
    starAnyIndices (setArgType signature idx new) =
      starAnyIndices signature := by
  obtain ⟨before, after, -, parts⟩ := exists_found_setArgType kindAt
    (List.getElem?_eq_some_iff.mp typeAt).1 starAnyIndex
  have oldParts := parts old
  rw [setArgType_self typeAt] at oldParts
  rw [starAnyIndices, starAnyIndices, parts new, oldParts]
  simp [starAnyIndex, notOld, notNew]

/-! ## The two forms of a parameter -/

/-- A positional parameter whose type is a callable, and a union of the callable
with types that are no callables. -/
structure CallableParameter
    (fnType : CallableType)
    (idx : Nat)
    (kind : ArgKind)
    (bare unionType : Ty)
    (callableTy : CallableType) : Prop where
  /-- The signature of the function. -/
  wellFormed : fnType.WellFormed
  /-- The kind of the parameter. -/
  kindAt : fnType.argKinds[idx]? = some kind
  /-- It is positional. -/
  positional : kind.isPositional = true
  /-- The type of the parameter. -/
  typeAt : fnType.argTypes[idx]? = some bare
  /-- It is the callable. -/
  bare_type : getProperType bare = .callable callableTy
  /-- The union. -/
  union_type : ∃ items earlier later, getProperType unionType = .union items ∧
    getProperTypes items = earlier ++ .callable callableTy :: later ∧
    ∀ signature, .callable signature ∉ earlier ++ later
  /-- `Callable[..., T]` has the parameters `*Any, **Any`. -/
  ellipsis : callableTy.isEllipsisArgs = true →
    callableTy.argKinds = [.star, .star2] ∧
      ∃ source source', getProperTypes callableTy.argTypes =
        [.any source, .any source']

/-- The slots for extra arguments at the other parameters. -/
def otherSlots (fnType : CallableType) (idx : Nat) : List SelectedCallable :=
  (slots fnType).filter fun slot => slot.callableIdx != idx

namespace CallableParameter

variable {fnType : CallableType} {idx : Nat} {kind : ArgKind}
variable {bare unionType : Ty} {callableTy : CallableType}

theorem ne_star
    (parameter : CallableParameter fnType idx kind bare unionType callableTy) :
    kind ≠ .star := by
  rintro rfl
  exact absurd parameter.positional (by decide)

/-- The two forms of the signature have the same `*args: Any`. -/
theorem starAnyIndices_union
    (parameter : CallableParameter fnType idx kind bare unionType callableTy) :
    starAnyIndices (setArgType fnType idx unionType) =
      starAnyIndices fnType := by
  have notStarAny (type : Ty) : isStarAny kind type = false := by
    rw [← Bool.not_eq_true, isStarAny_iff]
    exact fun isStar => parameter.ne_star isStar.1
  exact starAnyIndices_setArgType parameter.kindAt parameter.typeAt
    (notStarAny bare) (notStarAny unionType)

/-- The slots of the two forms, those of the other parameters apart. -/
theorem slots_parts
    (parameter : CallableParameter fnType idx kind bare unionType callableTy) :
    ∃ before after, otherSlots fnType idx = before ++ after ∧
      slots fnType = before ++ slotsOfParameter ((kind, bare), idx) ++ after ∧
      slots (setArgType fnType idx unionType) =
        before ++ slotsOfParameter ((kind, unionType), idx) ++ after := by
  obtain ⟨before, after, others, parts⟩ :=
    exists_found_setArgType parameter.kindAt
      (List.getElem?_eq_some_iff.mp parameter.typeAt).1 slotsOfParameter
  have bareParts := parts bare
  rw [setArgType_self parameter.typeAt] at bareParts
  refine ⟨before, after, ?_, bareParts, parts unionType⟩
  have elsewhere : ∀ slot ∈ before ++ after, slot.callableIdx ≠ idx := by
    intro slot member
    obtain ⟨entry, other, different, found⟩ := others slot member
    rw [callableIdx_of_mem_slotsOfParameter found]
    exact different
  have here : (slotsOfParameter ((kind, bare), idx)).filter
      (fun slot => slot.callableIdx != idx) = [] := by
    rw [List.filter_eq_nil_iff]
    intro slot member
    rw [callableIdx_of_mem_slotsOfParameter member]
    simp
  rw [otherSlots, slots, bareParts, List.filter_append, List.filter_append, here,
    List.append_nil, ← List.filter_append, List.filter_eq_self]
  intro slot member
  simpa using elsewhere slot member

/-- The union stands for the callable if that takes an `*args`. -/
theorem candidate_union_eq
    (parameter : CallableParameter fnType idx kind bare unionType callableTy) :
    candidate (getProperType unionType) =
      callableArm (.callable callableTy) := by
  obtain ⟨items, earlier, later, resolved, arms, noOther⟩ :=
    parameter.union_type
  have noArm : ∀ arm ∈ earlier ++ later, callableArm arm = none := by
    intro arm member
    cases arm with
    | callable signature => exact absurd member (noOther signature)
    | _ => rfl
  have noEarlier : earlier.findSome? callableArm = none :=
    List.findSome?_eq_none_iff.mpr fun arm member =>
      noArm arm (List.mem_append_left _ member)
  have noLater : later.findSome? callableArm = none :=
    List.findSome?_eq_none_iff.mpr fun arm member =>
      noArm arm (List.mem_append_right _ member)
  rw [resolved, candidate, arms, List.findSome?_append, noEarlier,
    List.findSome?_cons, noLater]
  cases callableArm (.callable callableTy) <;> rfl

/-- The slots of the parameter in its bare form. -/
theorem slotsOfParameter_bare
    (parameter : CallableParameter fnType idx .pos bare unionType callableTy) :
    slotsOfParameter ((.pos, bare), idx) =
      (starAnyIndices callableTy).map fun callableArgsIdx =>
        ⟨idx, callableArgsIdx, callableTy⟩ := by
  rw [slotsOfParameter, if_pos rfl, parameter.bare_type]
  rfl

/-- A callable that was not written with an ellipsis offers the same slots in
both forms. -/
theorem slotsOfParameter_union
    (parameter : CallableParameter fnType idx kind bare unionType callableTy)
    (unaffected : callableTy.isEllipsisArgs = false ∨ kind ≠ .pos) :
    slotsOfParameter ((kind, unionType), idx) =
      slotsOfParameter ((kind, bare), idx) := by
  by_cases isPos : kind = .pos
  · subst isPos
    have notEllipsis := unaffected.resolve_right fun different => different rfl
    rw [parameter.slotsOfParameter_bare, slotsOfParameter, if_pos rfl,
      parameter.candidate_union_eq, callableArm]
    by_cases accepts : acceptsStar callableTy = true
    · rw [if_pos accepts]
    · have noIndex : starAnyIndices callableTy = [] := by
        rw [List.eq_nil_iff_forall_not_mem]
        intro callableArgsIdx member
        exact accepts ((acceptsStar_iff callableTy).mpr
          ⟨notEllipsis, (mem_starAnyIndices.mp member).star_mem⟩)
      rw [if_neg accepts, noIndex]
      rfl
  · rw [slotsOfParameter, slotsOfParameter, if_neg isPos, if_neg isPos]

/-- `Callable[..., T]` offers a slot in its bare form only. -/
theorem slotsOfParameter_ellipsis
    (parameter : CallableParameter fnType idx .pos bare unionType callableTy)
    (isEllipsis : callableTy.isEllipsisArgs = true) :
    slotsOfParameter ((.pos, bare), idx) = [⟨idx, 0, callableTy⟩] ∧
      slotsOfParameter ((.pos, unionType), idx) = [] := by
  obtain ⟨kinds, source, source', types⟩ := parameter.ellipsis isEllipsis
  constructor
  · have indices : starAnyIndices callableTy = [0] := by
      simp only [getProperTypes, List.map_eq_cons_iff,
        List.map_eq_nil_iff] at types
      obtain ⟨first, _, typesAre, isAny, second, _, rfl, -, rfl⟩ := types
      simp [starAnyIndices, starAnyIndex, isStarAny, kinds, typesAre, isAny]
    rw [parameter.slotsOfParameter_bare, indices]
    rfl
  · have rejects : ¬acceptsStar callableTy = true := by
      simp [acceptsStar, isEllipsis]
    rw [slotsOfParameter, if_pos rfl, parameter.candidate_union_eq, callableArm,
      if_neg rejects]

end CallableParameter

/-! ## The overloads for the two forms -/

section Overloads

variable {fnType : CallableType} {argsIdx idx : Nat}
variable {selected : SelectedCallable}

/-- The type of the parameter that is expanded does not matter. -/
theorem expandedFn_setArgType_self
    (expands : selected.callableIdx = idx)
    (type : Ty)
    (typeVars : List TypeVarType) :
    expandedFn (setArgType fnType idx type) argsIdx selected typeVars =
      expandedFn fnType argsIdx selected typeVars := by
  subst expands
  simp only [expandedFn, setArgType, List.set_set]

/-- The type of a parameter that is not expanded is passed on. -/
theorem expandedFn_argTypes_getElem?
    (inRange : argsIdx < fnType.argTypes.length)
    (before : idx < argsIdx)
    (notExpanded : selected.callableIdx ≠ idx)
    (typeVars : List TypeVarType) :
    (expandedFn fnType argsIdx selected typeVars).argTypes[idx]? =
      fnType.argTypes[idx]? := by
  simp only [expandedFn, replaceParameter]
  rw [splice_getElem?_before (by rwa [List.length_set]) before,
    List.getElem?_set_ne notExpanded]

theorem expandedFn_setArgType
    (inRange : argsIdx < fnType.argTypes.length)
    (before : idx < argsIdx)
    (notExpanded : selected.callableIdx ≠ idx)
    (type : Ty)
    (typeVars : List TypeVarType) :
    expandedFn (setArgType fnType idx type) argsIdx selected typeVars =
      setArgType (expandedFn fnType argsIdx selected typeVars) idx type := by
  simp only [expandedFn, replaceParameter, setArgType]
  rw [List.set_comm _ _ notExpanded.symm,
    splice_set (by rwa [List.length_set]) before]

end Overloads

/-! ## The same outcome -/

/-- Overloads that are equal up to the type of one parameter, which then is not
expanded. -/
def SameUpToParameter
    (idx : Nat)
    (bare unionType : Ty)
    (overload overload' : CallableType) : Prop :=
  overload' = overload ∨
    overload.argTypes[idx]? = some bare ∧
      overload' = setArgType overload idx unionType

/-- The callback has the same outcome in two contexts: overloads that are equal
up to the type of the parameter, or the same error, with the default type of the
context. -/
inductive TreatedAlike
    (ctx ctx' : FunctionContext)
    (hasTypeVarDefault : Bool)
    (idx : Nat)
    (bare unionType : Ty) : Prop
  | expanded
      (overloads overloads' : List CallableType)
      (accepted : takesCallableAndArgsCallback ctx hasTypeVarDefault =
        .ok (pure (.overloaded overloads)))
      (accepted' : takesCallableAndArgsCallback ctx' hasTypeVarDefault =
        .ok (pure (.overloaded overloads')))
      (same : List.Forall₂ (SameUpToParameter idx bare unionType)
        overloads overloads')
  | rejected
      (ex : ValueError)
      (rejects : Rejects ctx hasTypeVarDefault ex)
      (rejects' : Rejects ctx' hasTypeVarDefault ex)

/-- The parameter is not taken for one that has a `VarArg()`: no overload
changes it, and it does not make a `VarArg()` elsewhere one too many. -/
structure NotTakenForVarArg
    (ctx : FunctionContext)
    (hasTypeVarDefault : Bool)
    (fnType : CallableType)
    (idx : Nat)
    (bare : Ty) : Prop where
  /-- Every overload leaves it as it is. -/
  untouched : ∀ overloads : List CallableType,
    takesCallableAndArgsCallback ctx hasTypeVarDefault =
      .ok (pure (.overloaded overloads)) →
    ∀ overload ∈ overloads, overload.argTypes[idx]? = some bare
  /-- It is not counted. -/
  not_counted : (otherSlots fnType idx).length ≤ 1 →
    ¬Rejects ctx hasTypeVarDefault tooManyCallables

/-- It does not matter for the callback whether a parameter takes a callable or
a union of the callable with other types. -/
structure FormIrrelevant
    (ctx ctx' : FunctionContext)
    (hasTypeVarDefault : Bool)
    (fnType : CallableType)
    (idx : Nat)
    (bare unionType : Ty)
    (callableTy : CallableType) : Prop where
  /-- The outcomes are the same. -/
  alike : TreatedAlike ctx ctx' hasTypeVarDefault idx bare unionType
  /-- `Callable[..., T]` has no `VarArg()`. -/
  ellipsis : callableTy.isEllipsisArgs = true →
    NotTakenForVarArg ctx hasTypeVarDefault fnType idx bare

namespace CallableParameter

variable {fnType : CallableType} {idx : Nat} {kind : ArgKind}
variable {bare unionType : Ty} {callableTy : CallableType}
variable {ctx ctx' : FunctionContext}

/-- A positional parameter stands before `*args`. -/
theorem lt_argsIdx
    (parameter : CallableParameter fnType idx kind bare unionType callableTy)
    {argsIdx : Nat}
    (starAnyAt : StarAnyAt fnType argsIdx) :
    idx < argsIdx := by
  have notAfter : ¬ArgKind.star.Precedes kind := by
    have positional := parameter.positional
    revert positional
    cases kind <;> decide
  exact parameter.wellFormed.lt_of_precedes parameter.kindAt starAnyAt.1 notAfter
    parameter.ne_star

theorem union_wellFormed
    (parameter : CallableParameter fnType idx kind bare unionType callableTy) :
    (setArgType fnType idx unionType).WellFormed :=
  setArgType_wellFormed parameter.wellFormed idx unionType

/-- If both forms offer the same slots, they are treated alike. -/
theorem treatedAlike
    (parameter : CallableParameter fnType idx kind bare unionType callableTy)
    (decorated : decoratedType ctx = .ok fnType)
    (decorated' : decoratedType ctx' = .ok (setArgType fnType idx unionType))
    (hasTypeVarDefault : Bool)
    (sameSlots : slots (setArgType fnType idx unionType) = slots fnType) :
    TreatedAlike ctx ctx' hasTypeVarDefault idx bare unionType := by
  have outcome := callback_eq_conclude decorated
    parameter.wellFormed.atMostOneStar hasTypeVarDefault
  have outcome' := callback_eq_conclude decorated'
    parameter.union_wellFormed.atMostOneStar hasTypeVarDefault
  rw [parameter.starAnyIndices_union, sameSlots] at outcome'
  cases result : verdict (starAnyIndices fnType) (slots fnType) with
  | error ex =>
      rw [result] at outcome outcome'
      exact .rejected ex outcome outcome'
  | ok found =>
      obtain ⟨argsIdx, selected⟩ := found
      rw [result] at outcome outcome'
      obtain ⟨indices, -⟩ := (verdict_eq_ok_iff (starAnyIndices_length_le
        parameter.wellFormed.atMostOneStar) argsIdx selected).mp result
      have starAnyAt : StarAnyAt fnType argsIdx :=
        mem_starAnyIndices.mp (by simp [indices])
      refine .expanded _ _ outcome outcome' ?_
      rw [expandedFns_eq, expandedFns_eq, List.forall₂_map_left_iff,
        List.forall₂_map_right_iff, List.forall₂_same]
      intro count _
      by_cases expands : selected.callableIdx = idx
      · exact .inl (expandedFn_setArgType_self expands unionType _)
      · have before := parameter.lt_argsIdx starAnyAt
        refine .inr ⟨?_, ?_⟩
        · rw [expandedFn_argTypes_getElem? starAnyAt.lt_length before expands]
          exact parameter.typeAt
        · exact expandedFn_setArgType starAnyAt.lt_length before expands
            unionType _

/-- What it means for the two verdicts that the forms are treated alike. -/
theorem verdicts_of_treatedAlike
    (parameter : CallableParameter fnType idx kind bare unionType callableTy)
    (decorated : decoratedType ctx = .ok fnType)
    (decorated' : decoratedType ctx' = .ok (setArgType fnType idx unionType))
    {hasTypeVarDefault : Bool}
    (alike : TreatedAlike ctx ctx' hasTypeVarDefault idx bare unionType) :
    (slots (setArgType fnType idx unionType)).length =
        (slots fnType).length ∨
      ∃ ex, verdict (starAnyIndices fnType) (slots fnType) = .error ex ∧
        verdict (starAnyIndices fnType)
          (slots (setArgType fnType idx unionType)) = .error ex := by
  cases alike with
  | expanded overloads overloads' accepted accepted' _ =>
      obtain ⟨_, selected, -, found, -⟩ := (callback_spec decorated).mp accepted
      obtain ⟨_, selected', -, found', -⟩ :=
        (callback_spec decorated').mp accepted'
      rw [found, found']
      exact .inl rfl
  | rejected ex rejects rejects' =>
      rw [rejects_iff decorated parameter.wellFormed.atMostOneStar] at rejects
      rw [rejects_iff decorated' parameter.union_wellFormed.atMostOneStar,
        parameter.starAnyIndices_union] at rejects'
      exact .inr ⟨ex, rejects, rejects'⟩

/-- An optional parameter has nothing to do with the overloads. -/
theorem notTakenForVarArg_of_optional
    (parameter : CallableParameter fnType idx kind bare unionType callableTy)
    (decorated : decoratedType ctx = .ok fnType)
    (hasTypeVarDefault : Bool)
    (optional : kind ≠ .pos) :
    NotTakenForVarArg ctx hasTypeVarDefault fnType idx bare where
  untouched := by
    intro overloads accepted overload member
    obtain ⟨argsIdx, selected, indices, found, rfl⟩ :=
      (callback_spec decorated).mp accepted
    obtain ⟨count, -, rfl⟩ := List.mem_map.mp member
    have selects := Selects.of_scan indices found
    have notExpanded : selected.callableIdx ≠ idx := by
      rintro rfl
      exact optional (Option.some.inj
        (parameter.kindAt.symm.trans selects.callable_kind))
    rw [expandedFn_argTypes_getElem? selects.args.lt_length
      (parameter.lt_argsIdx selects.args) notExpanded]
    exact parameter.typeAt
  not_counted := by
    intro few rejects
    rw [rejects_iff decorated parameter.wellFormed.atMostOneStar] at rejects
    have several := verdict_eq_tooManyCallables_iff.mp rejects
    obtain ⟨before, after, others, bareSlots, -⟩ := parameter.slots_parts
    rw [slotsOfParameter, if_neg optional, List.append_nil, ← others]
      at bareSlots
    rw [bareSlots] at several
    exact Nat.not_le_of_lt several few

/-- Nor has a parameter of a signature that is rejected anyhow. -/
theorem notTakenForVarArg_of_rejects
    {hasTypeVarDefault : Bool}
    {ex : ValueError}
    (rejects : Rejects ctx hasTypeVarDefault ex)
    (anyhow : (otherSlots fnType idx).length ≤ 1 → ex ≠ tooManyCallables) :
    NotTakenForVarArg ctx hasTypeVarDefault fnType idx bare where
  untouched overloads accepted :=
    absurd accepted (rejects.not_accepted overloads)
  not_counted few tooMany := by
    have reported := rejects.symm.trans tooMany
    simp only [Except.ok.injEq, Reported.mk.injEq, List.cons.injEq, true_and,
      and_true] at reported
    exact anyhow few (invalidUse_injective reported)

/-- `Callable[..., T]` counts as a slot more in its bare form. -/
theorem slots_of_ellipsis
    (parameter : CallableParameter fnType idx .pos bare unionType callableTy)
    (isEllipsis : callableTy.isEllipsisArgs = true) :
    (slots fnType).length = (otherSlots fnType idx).length + 1 ∧
      slots (setArgType fnType idx unionType) = otherSlots fnType idx := by
  obtain ⟨before, after, others, bareSlots, unionSlots⟩ := parameter.slots_parts
  obtain ⟨bareForm, unionForm⟩ := parameter.slotsOfParameter_ellipsis isEllipsis
  rw [bareForm] at bareSlots
  rw [unionForm, List.append_nil] at unionSlots
  rw [bareSlots, unionSlots, others]
  simp only [List.length_append, List.length_singleton, and_true]
  omega

/-- The verdict on the bare form of `Callable[..., T]` when the signature is
rejected for its other parameters, and that on the union. -/
theorem verdicts_of_ellipsis
    (parameter : CallableParameter fnType idx .pos bare unionType callableTy)
    (isEllipsis : callableTy.isEllipsisArgs = true)
    (rejected : 2 ≤ (otherSlots fnType idx).length ∨
      otherSlots fnType idx = [] ∧ starAnyIndices fnType = []) :
    ∃ ex, verdict (starAnyIndices fnType) (slots fnType) = .error ex ∧
      verdict (starAnyIndices fnType)
        (slots (setArgType fnType idx unionType)) = .error ex ∧
      ((otherSlots fnType idx).length ≤ 1 → ex ≠ tooManyCallables) := by
  obtain ⟨oneMore, unionSlots⟩ := parameter.slots_of_ellipsis isEllipsis
  rw [unionSlots]
  rcases rejected with several | ⟨noOther, noIndex⟩
  · exact ⟨tooManyCallables, verdict_tooManyCallables (by omega) _,
      verdict_tooManyCallables several _,
      fun few => absurd several (Nat.not_le_of_lt (Nat.lt_succ_of_le few))⟩
  · rw [noOther, List.length_nil, Nat.zero_add] at oneMore
    obtain ⟨slot, single⟩ := List.length_eq_one_iff.mp oneMore
    rw [noOther, noIndex, single]
    exact ⟨noStarArgs, rfl, rfl, fun _ => noStarArgs_ne_tooManyCallables⟩

/-- Conversely, equal verdicts mean that the signature is rejected for its other
parameters. -/
theorem rejected_of_verdicts
    (parameter : CallableParameter fnType idx .pos bare unionType callableTy)
    (isEllipsis : callableTy.isEllipsisArgs = true)
    {ex : ValueError}
    (bareVerdict : verdict (starAnyIndices fnType) (slots fnType) = .error ex)
    (unionVerdict : verdict (starAnyIndices fnType)
      (slots (setArgType fnType idx unionType)) = .error ex) :
    2 ≤ (otherSlots fnType idx).length ∨
      otherSlots fnType idx = [] ∧ starAnyIndices fnType = [] := by
  obtain ⟨oneMore, unionSlots⟩ := parameter.slots_of_ellipsis isEllipsis
  rw [unionSlots] at unionVerdict
  by_cases several : 2 ≤ (slots fnType).length
  · rw [verdict_tooManyCallables several, Except.error.injEq] at bareVerdict
    subst bareVerdict
    exact .inl (verdict_eq_tooManyCallables_iff.mp unionVerdict)
  · have single : (slots fnType).length = 1 := by omega
    obtain ⟨slot, isSingle⟩ := List.length_eq_one_iff.mp single
    refine .inr ⟨List.length_eq_zero_iff.mp (by omega), ?_⟩
    rw [isSingle] at bareVerdict
    cases indices : starAnyIndices fnType with
    | nil => rfl
    | cons argsIdx rest =>
        rw [indices] at bareVerdict
        cases bareVerdict

/-- The form of a parameter does not matter exactly when its callable was not
written `Callable[..., T]`, or the parameter is optional, or the signature is
rejected for its other parameters: two of them have a `VarArg()`, or none has
and there is no `*args: Any` either. -/
theorem formIrrelevant_iff
    (parameter : CallableParameter fnType idx kind bare unionType callableTy)
    (decorated : decoratedType ctx = .ok fnType)
    (decorated' : decoratedType ctx' = .ok (setArgType fnType idx unionType))
    (hasTypeVarDefault : Bool) :
    FormIrrelevant ctx ctx' hasTypeVarDefault fnType idx bare unionType
        callableTy ↔
      callableTy.isEllipsisArgs = false ∨ kind ≠ .pos ∨
        2 ≤ (otherSlots fnType idx).length ∨
        otherSlots fnType idx = [] ∧ starAnyIndices fnType = [] := by
  constructor
  · intro irrelevant
    by_contra exposed
    simp only [not_or, Bool.not_eq_false, ne_eq, Decidable.not_not] at exposed
    obtain ⟨isEllipsis, rfl, notRejected⟩ := exposed
    obtain ⟨oneMore, unionSlots⟩ := parameter.slots_of_ellipsis isEllipsis
    rcases parameter.verdicts_of_treatedAlike decorated decorated'
      irrelevant.alike with sameLength | ⟨ex, bareVerdict, unionVerdict⟩
    · rw [unionSlots, oneMore] at sameLength
      omega
    · exact absurd (parameter.rejected_of_verdicts isEllipsis bareVerdict
        unionVerdict) (not_or.mpr notRejected)
  · intro harmless
    by_cases unaffected : callableTy.isEllipsisArgs = false ∨ kind ≠ .pos
    · obtain ⟨before, after, -, bareSlots, unionSlots⟩ := parameter.slots_parts
      rw [parameter.slotsOfParameter_union unaffected, ← bareSlots] at unionSlots
      refine ⟨parameter.treatedAlike decorated decorated' _ unionSlots,
        fun isEllipsis => ?_⟩
      apply parameter.notTakenForVarArg_of_optional decorated
      exact unaffected.resolve_left (by simp [isEllipsis])
    · simp only [not_or, Bool.not_eq_false, ne_eq, Decidable.not_not]
        at unaffected
      obtain ⟨isEllipsis, rfl⟩ := unaffected
      have rejected := (harmless.resolve_left (by simp [isEllipsis])).resolve_left
        fun different => different rfl
      obtain ⟨ex, bareVerdict, unionVerdict, anyhow⟩ :=
        parameter.verdicts_of_ellipsis isEllipsis rejected
      rw [← rejects_iff decorated parameter.wellFormed.atMostOneStar
        hasTypeVarDefault] at bareVerdict
      rw [← parameter.starAnyIndices_union,
        ← rejects_iff decorated' parameter.union_wellFormed.atMostOneStar
          hasTypeVarDefault] at unionVerdict
      exact ⟨.rejected ex bareVerdict unionVerdict,
        fun _ => notTakenForVarArg_of_rejects bareVerdict anyhow⟩

end CallableParameter

/-! ## The function of the documentation -/

/-- `Optional` of a callable. -/
def optionalCallable (callableTy : CallableType) : Ty :=
  .union [.callable callableTy, .noneTyp]

theorem optionalCallable_union_type (callableTy : CallableType) :
    ∃ items earlier later,
      getProperType (optionalCallable callableTy) = .union items ∧
      getProperTypes items = earlier ++ .callable callableTy :: later ∧
      ∀ signature, .callable signature ∉ earlier ++ later :=
  ⟨_, [], [.noneTyp], rfl, rfl, by simp⟩

/-- The decorator applied to a function. -/
def decoratorContext (fnType : CallableType) : FunctionContext where
  argTypes := [[.callable fnType]]
  defaultReturnType := .callable fnType
  api := readmeContext.api

/-- In the function of the documentation the callable may be optional. -/
theorem readme_formIrrelevant :
    FormIrrelevant readmeContext
      (decoratorContext
        (setArgType readmeStartSoon 0 (optionalCallable readmeCallable)))
      true readmeStartSoon 0 (.callable readmeCallable)
      (optionalCallable readmeCallable) readmeCallable := by
  have parameter : CallableParameter readmeStartSoon 0 .pos
      (.callable readmeCallable) (optionalCallable readmeCallable)
      readmeCallable :=
    { wellFormed := readme_wellFormed.signature
      kindAt := rfl
      positional := rfl
      typeAt := rfl
      bare_type := rfl
      union_type := optionalCallable_union_type readmeCallable
      ellipsis := fun isEllipsis => absurd isEllipsis (by decide) }
  exact (parameter.formIrrelevant_iff rfl rfl true).mpr (.inl rfl)

/-- `Callable[..., Awaitable[T]]`. -/
def ellipsisCallable : CallableType where
  argTypes := [.any .explicit, .any .explicit]
  argKinds := [.star, .star2]
  argNames := [none, none]
  retType := readmeCallable.retType
  typeVariables := []
  isEllipsisArgs := true

/-- `start_soon` with a parameter of this type instead. -/
def ellipsisStartSoon : CallableType :=
  setArgType readmeStartSoon 0 (.callable ellipsisCallable)

/-- On its own `Callable[..., Awaitable[T]]` is taken for the callable with the
`VarArg()`, and the overloads accept whatever is passed with it; as an arm of a
union it is not, and there is an error. -/
theorem ellipsisStartSoon_not_formIrrelevant :
    CallableParameter ellipsisStartSoon 0 .pos (.callable ellipsisCallable)
        (optionalCallable ellipsisCallable) ellipsisCallable ∧
      (∃ overloads : List CallableType,
        takesCallableAndArgsCallback (decoratorContext ellipsisStartSoon) true =
            .ok (pure (.overloaded overloads)) ∧
          ∀ overload ∈ overloads, ∃ callableTy,
            overload.argTypes[0]? = some (.callable callableTy) ∧
              callableTy.isEllipsisArgs = true) ∧
      Rejects
        (decoratorContext (setArgType ellipsisStartSoon 0
          (optionalCallable ellipsisCallable))) true noCallable ∧
      ¬FormIrrelevant (decoratorContext ellipsisStartSoon)
        (decoratorContext (setArgType ellipsisStartSoon 0
          (optionalCallable ellipsisCallable)))
        true ellipsisStartSoon 0 (.callable ellipsisCallable)
        (optionalCallable ellipsisCallable) ellipsisCallable := by
  have accepted :
      takesCallableAndArgsCallback (decoratorContext ellipsisStartSoon) true =
        .ok (pure (.overloaded (expandedFns readmeContext.api true
          ellipsisStartSoon 1 ⟨0, 0, ellipsisCallable⟩))) := rfl
  have rejects :
      Rejects
        (decoratorContext (setArgType ellipsisStartSoon 0
          (optionalCallable ellipsisCallable))) true noCallable := rfl
  refine ⟨?_, ⟨_, accepted, ?_⟩, rejects, ?_⟩
  · exact
      { wellFormed := setArgType_wellFormed readme_wellFormed.signature _ _
        kindAt := rfl
        positional := rfl
        typeAt := rfl
        bare_type := rfl
        union_type := optionalCallable_union_type ellipsisCallable
        ellipsis := fun _ => ⟨rfl, .explicit, .explicit, rfl⟩ }
  · intro overload member
    rw [expandedFns_eq] at member
    obtain ⟨count, -, rfl⟩ := List.mem_map.mp member
    exact ⟨_, rfl, rfl⟩
  · intro irrelevant
    cases irrelevant.alike with
    | expanded overloads overloads' _ accepted' _ =>
        exact rejects.not_accepted overloads' accepted'
    | rejected ex bareRejects _ =>
        exact bareRejects.not_accepted _ accepted

end TakesCallable
end TrioTyping
