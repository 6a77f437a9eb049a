import TrioTyping.Calling.Fitting
import TrioTyping.TakesCallable.Hygiene

/-!
# What a call of the decorated function checks

`start_soon(f, *args)` is meant to be an error exactly when `f(*args)` is one.
Subtyping of argument types is any preorder; a function may be used in the place
of another one when it accepts every call the other one accepts. Then the call
with `f` and some extra arguments type-checks against one of the overloads, under
some instantiation of its type variables, exactly when `f` accepts the calls in
which these arguments stand in the place of the `VarArg()`.
-/

namespace TrioTyping
namespace TakesCallable

open Calling

/-! ## The arguments of a call -/

/-- An actual argument of the decorated function. -/
inductive Actual
  /-- A value of a type. -/
  | value (type : Ty)
  /-- A function. -/
  | function (f : CallableType)

/-- The arguments for the parameters before `*args`: a function for the callable
and values for the others. -/
def ownArguments
    (f : CallableType)
    (before after : List Ty) : List Actual :=
  before.map .value ++ .function f :: after.map .value

/-- The call with some extra arguments. -/
def callSupply
    (f : CallableType)
    (before after : List Ty)
    (keywords : List (String × Ty))
    (extra : List Ty) : Supply Actual where
  positional := ownArguments f before after ++ extra.map .value
  keywords := keywords.map fun (name, argument) => (name, .value argument)

theorem ownArguments_length
    (f : CallableType)
    (before after : List Ty) :
    (ownArguments f before after).length =
      before.length + 1 + after.length := by
  simp only [ownArguments, List.length_append, List.length_cons,
    List.length_map]
  omega

/-- Calls that differ in the extra arguments only bind in the same way. -/
theorem bind_callSupply
    {fnType f : CallableType}
    {argsIdx : Nat}
    {before after extra : List Ty}
    {keywords : List (String × Ty)}
    (wellFormed : fnType.WellFormed)
    (isStar : fnType.argKinds[argsIdx]? = some .star)
    (totalLength : before.length + 1 + after.length = argsIdx)
    {bound : List (List Actual)}
    (binds : bind fnType.formals (callSupply f before after keywords extra) =
      some bound)
    (extra' : List Ty) :
    bind fnType.formals (callSupply f before after keywords extra') =
      some (bound.set argsIdx (extra'.map .value)) := by
  obtain ⟨star, starAt, starKind⟩ := wellFormed.exists_formal isStar
  have ownLength := (ownArguments_length f before after).trans totalLength
  have exchanged := bind_exchange_star wellFormed.formals_ordered starAt
    starKind binds (by simp [ownLength]) (extra'.map .value)
  rw [List.take_left' ownLength] at exchanged
  exact exchanged

/-! ## Functions as arguments -/

section Subtyping

variable [Preorder Ty]

/-- The argument is of the type of the parameter. -/
def IsOfType (argument type : Ty) : Prop :=
  argument ≤ type

/-- A function accepts a call; `Callable[..., T]` accepts every one. -/
def AcceptsCall (f : CallableType) (supply : Supply Ty) : Prop :=
  f.isEllipsisArgs = true ∨ Accepts IsOfType f.formals supply

/-- A function can be used in the place of another one: its result is of the
other's result type, and it accepts the calls the other one accepts. -/
structure UsableAs (f signature : CallableType) : Prop where
  /-- Results are covariant. -/
  result : f.retType ≤ signature.retType
  /-- Parameters are contravariant. -/
  calls : signature.isEllipsisArgs = true ∨
    ∀ call : Call Ty, Accepts IsOfType signature.formals call.toSupply →
      AcceptsCall f call.toSupply

/-- The function accepts every call of the callable in which its `VarArg()`
holds exactly arguments of the given types. -/
structure AcceptsSplatted
    (f callableTy : CallableType)
    (callableArgsIdx : Nat)
    (extra : List Ty) : Prop where
  /-- Results are covariant. -/
  result : f.retType ≤ callableTy.retType
  /-- The other arguments of the call fit the callable's own parameters. -/
  calls : ∀ (call : Call Ty) bound,
    bind callableTy.formals call.toSupply = some bound →
      FitsExcept IsOfType callableArgsIdx callableTy.formals bound →
        bound[callableArgsIdx]? = some extra →
          AcceptsCall f call.toSupply

/-- The argument may be passed for a parameter of the type. -/
def ActualFits : Actual → Ty → Prop
  | .value argument, type => IsOfType argument type
  | .function f, type =>
      match getProperType type with
      | .callable signature => UsableAs f signature
      | other => IsOfType (.callable f) other

/-! ## The callable and its `VarArg()` -/

section Callable

variable
  {f callableTy : CallableType}
  {callableArgsIdx : Nat}
  (wellFormed : callableTy.WellFormed)
  (isStar : callableTy.argKinds[callableArgsIdx]? = some .star)

include wellFormed isStar

/-- Calls of a callable with types in the place of its `VarArg()`. -/
theorem accepts_insertTypes_iff
    (types : List Ty)
    (supply : Supply Ty) :
    Accepts IsOfType (insertTypes callableTy callableArgsIdx types).formals
        supply ↔
      ∃ bound extra, bind callableTy.formals supply = some bound ∧
        FitsExcept IsOfType callableArgsIdx callableTy.formals bound ∧
        bound[callableArgsIdx]? = some extra ∧
        extra = supply.positional.drop callableArgsIdx ∧
        List.Forall₂ (fun argument type => argument ≤ type) extra types := by
  obtain ⟨star, starAt, starKind⟩ := wellFormed.exists_formal isStar
  rw [insertTypes_formals wellFormed, accepts_splice_iff
    wellFormed.formals_ordered starAt starKind (freshFormals_positionalOnly _)]
  have extraIff (extra : List Ty) :
      List.Forall₂ (fun (formal : Formal Ty) argument =>
          IsOfType argument formal.type) (freshFormals types) extra ↔
        List.Forall₂ (fun argument type => argument ≤ type) extra types := by
    rw [freshFormals, List.forall₂_map_left_iff]
    exact ⟨List.Forall₂.flip, List.Forall₂.flip⟩
  simp only [extraIff]
  constructor
  · rintro ⟨bound, binds, others, extra⟩
    exact ⟨bound, _, binds, others,
      bind_star wellFormed.formals_ordered starAt starKind binds, rfl, extra⟩
  · rintro ⟨bound, _, binds, others, -, rfl, extra⟩
    exact ⟨bound, binds, others, extra⟩

/-- A function that can be used for the callable with the given types accepts
smaller extra arguments. -/
theorem acceptsSplatted_of_usableAs
    {types extra : List Ty}
    (notEllipsis : callableTy.isEllipsisArgs = false)
    (usable : UsableAs f (insertTypes callableTy callableArgsIdx types))
    (smaller : List.Forall₂ (fun argument type => argument ≤ type)
      extra types) :
    AcceptsSplatted f callableTy callableArgsIdx extra := by
  refine ⟨usable.result, ?_⟩
  intro call bound binds others extraAt
  rcases usable.calls with ellipsis | calls
  · exact absurd (notEllipsis.symm.trans ellipsis) (by decide)
  · obtain ⟨star, starAt, starKind⟩ := wellFormed.exists_formal isStar
    have atStar := bind_star wellFormed.formals_ordered starAt starKind binds
    apply calls
    exact (accepts_insertTypes_iff wellFormed isStar types call.toSupply).mpr
      ⟨bound, extra, binds, others, extraAt,
        Option.some.inj (extraAt.symm.trans atStar), smaller⟩

/-- A function that accepts extra arguments of exactly the given types can be
used for the callable with these types. -/
theorem usableAs_of_acceptsSplatted
    {extra : List Ty}
    (accepts : AcceptsSplatted f callableTy callableArgsIdx extra) :
    UsableAs f (insertTypes callableTy callableArgsIdx extra) := by
  refine ⟨accepts.result, .inr ?_⟩
  intro call accepted
  obtain ⟨bound, smaller, binds, others, atStar, rfl, related⟩ :=
    (accepts_insertTypes_iff wellFormed isStar extra call.toSupply).mp accepted
  obtain ⟨star, starAt, starKind⟩ := wellFormed.exists_formal isStar
  obtain ⟨⟨positional, keywords⟩, distinct⟩ := call
  have lengths := related.length_eq
  rcases Nat.lt_or_ge positional.length callableArgsIdx with fewer | enough
  · -- no argument reaches the `VarArg()`
    have noExtra : positional.drop callableArgsIdx = [] :=
      List.drop_eq_nil_of_le (Nat.le_of_lt fewer)
    rw [noExtra] at lengths atStar
    obtain rfl : extra = [] := List.length_eq_zero_iff.mp lengths.symm
    exact accepts.calls ⟨⟨positional, keywords⟩, distinct⟩ bound binds others
      atStar
  · have exchanged := bind_exchange_star wellFormed.formals_ordered starAt
      starKind binds enough extra
    have inRange : callableArgsIdx < bound.length :=
      (List.getElem?_eq_some_iff.mp atStar).1
    have acceptedExact : AcceptsCall f
        ⟨positional.take callableArgsIdx ++ extra, keywords⟩ := by
      refine accepts.calls
        ⟨⟨positional.take callableArgsIdx ++ extra, keywords⟩, distinct⟩ _
        exchanged ?_ (List.getElem?_set_self inRange)
      intro other formal taken different formalAt takenAt
      rw [List.getElem?_set_ne (Ne.symm different)] at takenAt
      exact others other formal taken different formalAt takenAt
    rcases acceptedExact with ellipsis | acceptedExact
    · exact .inl ellipsis
    · right
      have lowered := acceptedExact.lower_extra related
      rw [List.take_append_drop] at lowered
      exact lowered

end Callable

/-! ## The call of an overload -/

/-- Without extra arguments, everything but the function fits. -/
def OthersFit
    (fnType : CallableType)
    (callableIdx : Nat)
    (f : CallableType)
    (before after : List Ty)
    (keywords : List (String × Ty)) : Prop :=
  ∃ bound, bind fnType.formals (callSupply f before after keywords []) =
      some bound ∧
    FitsExcept ActualFits callableIdx fnType.formals bound

section Call

variable
  {fnType f signature : CallableType}
  {argsIdx callableIdx : Nat}
  {selected : SelectedCallable}
  {before after extra types : List Ty}
  {keywords : List (String × Ty)}
  (wellFormed : fnType.WellFormed)
  (isStar : fnType.argKinds[argsIdx]? = some .star)
  (totalLength : before.length + 1 + after.length = argsIdx)

include wellFormed isStar totalLength

/-- With the callable's type exchanged, the function is checked against the new
type and every other argument as before. -/
theorem fitsExcept_setArgType_iff
    {bound : List (List Actual)}
    (beforeLength : before.length = callableIdx)
    (isPos : fnType.argKinds[callableIdx]? = some .pos)
    (binds : bind fnType.formals (callSupply f before after keywords extra) =
      some bound) :
    FitsExcept ActualFits argsIdx
        (setArgType fnType callableIdx (.callable signature)).formals bound ↔
      FitsExcept ActualFits callableIdx fnType.formals (bound.set argsIdx []) ∧
        UsableAs f signature := by
  obtain ⟨star, starAt, starKind⟩ := wellFormed.exists_formal isStar
  obtain ⟨callable, callableAt, -⟩ := wellFormed.exists_formal isPos
  have callableBefore : callableIdx < argsIdx := by omega
  have argsInRange : argsIdx < bound.length := by
    rw [bind_length binds]
    exact (List.getElem?_eq_some_iff.mp starAt).1
  have functionAt : bound[callableIdx]? = some [.function f] := by
    apply bind_positional wellFormed.formals_ordered starAt starKind binds
      callableBefore
    simp [callSupply, ownArguments, ← beforeLength]
  rw [fitsExcept_exchange_iff (Nat.ne_of_lt callableBefore) argsInRange
    (setArgType_formals_self callableAt _)
    (fun _ different => setArgType_formals_ne different _) functionAt,
    List.forall_mem_singleton]
  rfl

/-- The call of an overload with types in the place of its variables checks the
function against the callable with these types, and the extra arguments against
the types. -/
theorem accepts_withTypes_iff
    (beforeLength : before.length = selected.callableIdx)
    (isPos : fnType.argKinds[selected.callableIdx]? = some .pos)
    (typeVars : List TypeVarType) :
    Accepts ActualFits
        (withTypes fnType argsIdx selected typeVars types).formals
        (callSupply f before after keywords extra) ↔
      OthersFit fnType selected.callableIdx f before after keywords ∧
        UsableAs f
          (insertTypes selected.callableTy selected.callableArgsIdx types) ∧
        List.Forall₂ (fun argument type => argument ≤ type) extra types := by
  have ownLength := (ownArguments_length f before after).trans totalLength
  have setWellFormed := setArgType_wellFormed wellFormed selected.callableIdx
    (.callable (insertTypes selected.callableTy selected.callableArgsIdx types))
  obtain ⟨star, starAt, starKind⟩ := setWellFormed.exists_formal isStar
  have extraIff :
      List.Forall₂ (fun (formal : Formal Ty) argument =>
          ActualFits argument formal.type) (freshFormals types)
          ((callSupply f before after keywords extra).positional.drop argsIdx) ↔
        List.Forall₂ (fun argument type => argument ≤ type) extra types := by
    rw [callSupply, List.drop_left' ownLength, freshFormals,
      List.forall₂_map_left_iff, List.forall₂_map_right_iff]
    exact ⟨List.Forall₂.flip, List.Forall₂.flip⟩
  rw [withTypes_formals wellFormed, accepts_splice_iff
    setWellFormed.formals_ordered starAt starKind
    (freshFormals_positionalOnly _), extraIff,
    ← bind_congr (sameShape_setArgType fnType _ _)]
  constructor
  · rintro ⟨bound, binds, fits, related⟩
    obtain ⟨others, usable⟩ := (fitsExcept_setArgType_iff wellFormed isStar
      totalLength beforeLength isPos binds).mp fits
    exact ⟨⟨_, bind_callSupply wellFormed isStar totalLength binds [], others⟩,
      usable, related⟩
  · rintro ⟨⟨bound, binds, others⟩, usable, related⟩
    have bindsExtra :=
      bind_callSupply wellFormed isStar totalLength binds extra
    have unchanged : (bound.set argsIdx (extra.map .value)).set argsIdx [] =
        bound := by
      have atStar := bind_callSupply wellFormed isStar totalLength binds []
      rw [List.set_set, ← Option.some.inj (atStar.symm.trans binds)]
      simp
    refine ⟨_, bindsExtra, ?_, related⟩
    refine (fitsExcept_setArgType_iff wellFormed isStar totalLength beforeLength
      isPos bindsExtra).mpr ⟨?_, usable⟩
    rw [unchanged]
    exact others

end Call

/-! ## The law -/

/-- The parameter types mention only variables that the function binds itself or
that belong to a class. This is so for functions at module level and for
methods. -/
def BindsItsVariables (fnType : CallableType) : Prop :=
  ∀ type ∈ fnType.argTypes, ∀ id ∈ type.typeVarIds,
    0 < id ∨ -(fnType.typeVariables.length : Int) ≤ id

/-- An instantiation of the variables of an overload, on top of one of the
original variables. -/
def Instantiates
    (fnType overload : CallableType)
    (original env : Instantiation) : Prop :=
  ∀ id, id ∉ (addedTypeVars fnType overload).map TypeVarType.id →
    env id = original id

section Original

omit [Preorder Ty]

variable
  {api : CheckerApi}
  {hasTypeVarDefault : Bool}
  {fnType : CallableType}
  {argsIdx count : Nat}
  {selected : SelectedCallable}
  {original env : Instantiation}
  (bindsItsVariables : BindsItsVariables fnType)
  (instantiates : Instantiates fnType
    (expandedFn fnType argsIdx selected
      (typeVarTypes api hasTypeVarDefault fnType count)) original env)

/-- The `VarArg()` stays where it is. -/
theorem Selects.isStar_expandType
    (selects : Selects fnType argsIdx selected)
    (original : Instantiation) :
    (selected.callableTy.expandType original).argKinds[
      selected.callableArgsIdx]? = some .star := by
  rw [CallableType.expandType_argKinds]
  exact selects.varArg.1

include bindsItsVariables instantiates

/-- The parameter types do not mention the variables of an overload. -/
theorem instantiates_agree
    {type : Ty}
    (member : type ∈ fnType.argTypes) :
    ∀ id ∈ type.typeVarIds, env id = original id := by
  intro id occurs
  apply instantiates
  rw [addedTypeVars_expandedFn]
  intro added
  obtain ⟨number, lower, -, rfl⟩ := mem_typeVarTypes_ids.mp added
  have range := bindsItsVariables type member _ occurs
  omega

theorem instantiates_formals :
    (fnType.expandType env).formals = (fnType.expandType original).formals := by
  have sameTypes :
      fnType.argTypes.map (Ty.expandType env) =
        fnType.argTypes.map (Ty.expandType original) := by
    apply List.map_congr_left
    intro type member
    exact Ty.expandType_congr type
      (instantiates_agree bindsItsVariables instantiates member)
  simp only [CallableType.formals, CallableType.expandType_argTypes,
    CallableType.expandType_argKinds, CallableType.expandType_argNames,
    sameTypes]

theorem instantiates_callable
    (selects : Selects fnType argsIdx selected) :
    selected.callableTy.expandType env =
      selected.callableTy.expandType original := by
  obtain ⟨type, member, mentions⟩ := selects.typeVarIds_callable
  apply CallableType.expandType_congr
  intro id occurs
  exact instantiates_agree bindsItsVariables instantiates member id
    (mentions id occurs)

end Original

/-- The call of an overload under an instantiation checks the function and the
extra arguments against what its own variables are instantiated to, and the other
arguments as without extra ones. -/
theorem accepts_overload_iff
    {api : CheckerApi}
    {hasTypeVarDefault : Bool}
    {fnType f : CallableType}
    {argsIdx count : Nat}
    {selected : SelectedCallable}
    {original env : Instantiation}
    {before after extra : List Ty}
    {keywords : List (String × Ty)}
    (wellFormed : WellFormedFunction fnType)
    (bindsItsVariables : BindsItsVariables fnType)
    (selects : Selects fnType argsIdx selected)
    (instantiates : Instantiates fnType
      (expandedFn fnType argsIdx selected
        (typeVarTypes api hasTypeVarDefault fnType count)) original env)
    (beforeLength : before.length = selected.callableIdx)
    (totalLength : before.length + 1 + after.length = argsIdx)
    (types : List Ty)
    (areTypes : ((typeVarTypes api hasTypeVarDefault fnType count).map
      .typeVar).map (Ty.expandType env) = types) :
    Accepts ActualFits
        ((expandedFn fnType argsIdx selected (typeVarTypes api hasTypeVarDefault
          fnType count)).expandType env).formals
        (callSupply f before after keywords extra) ↔
      OthersFit (fnType.expandType original) selected.callableIdx f before after
          keywords ∧
        UsableAs f
          (insertTypes (selected.callableTy.expandType original)
            selected.callableArgsIdx types) ∧
        List.Forall₂ (fun argument type => argument ≤ type) extra types := by
  have sameFormals := instantiates_formals bindsItsVariables instantiates
  have sameCallable :=
    instantiates_callable bindsItsVariables instantiates selects
  have isStar : (fnType.expandType env).argKinds[argsIdx]? = some .star := by
    rw [CallableType.expandType_argKinds]
    exact selects.args.1
  have isPos : (fnType.expandType env).argKinds[selected.callableIdx]? =
      some .pos := by
    rw [CallableType.expandType_argKinds]
    exact selects.callable_kind
  have sameOverload :
      (expandedFn fnType argsIdx selected (typeVarTypes api hasTypeVarDefault
          fnType count)).expandType env =
        withTypes (fnType.expandType env) argsIdx (selected.expandType env)
          (typeVarTypes api hasTypeVarDefault fnType count) types := by
    rw [expandedFn_eq_withTypes, withTypes_expandType, areTypes]
  have call := @accepts_withTypes_iff _ (fnType.expandType env) f argsIdx
    (selected.expandType env) before after extra types keywords
    (wellFormed.signature.expandType env) isStar totalLength beforeLength isPos
    (typeVarTypes api hasTypeVarDefault fnType count)
  rw [sameOverload, call]
  simp only [OthersFit, SelectedCallable.expandType, sameCallable, sameFormals]

section Law

variable
  {ctx : FunctionContext}
  {hasTypeVarDefault : Bool}
  {fnType f : CallableType}
  {argsIdx : Nat}
  {selected : SelectedCallable}
  {expanded : List CallableType}
  (decorated : decoratedType ctx = .ok fnType)
  (wellFormed : WellFormedFunction fnType)
  (bindsItsVariables : BindsItsVariables fnType)
  (selects : Selects fnType argsIdx selected)
  (accepted : takesCallableAndArgsCallback ctx hasTypeVarDefault =
    .ok (pure (.overloaded expanded)))
  {original : Instantiation}
  {before after extra : List Ty}
  {keywords : List (String × Ty)}
  (beforeLength : before.length = selected.callableIdx)
  (totalLength : before.length + 1 + after.length = argsIdx)

include decorated wellFormed bindsItsVariables selects accepted beforeLength
  totalLength

/-- A function that an overload accepts with some extra arguments accepts them in
the place of the `VarArg()`. -/
theorem acceptsSplatted_of_accepts
    (notEllipsis : selected.callableTy.isEllipsisArgs = false)
    {overload : CallableType}
    (member : overload ∈ expanded)
    {env : Instantiation}
    (instantiates : Instantiates fnType overload original env)
    (acceptsCall : Accepts ActualFits (overload.expandType env).formals
      (callSupply f before after keywords extra)) :
    AcceptsSplatted f (selected.callableTy.expandType original)
      selected.callableArgsIdx extra := by
  have callableWellFormed :=
    (selects.callable_wellFormed wellFormed).expandType original
  have isVarArg := selects.isStar_expandType original
  rw [selects.expanded_eq decorated accepted] at member
  obtain ⟨count, -, rfl⟩ := List.mem_map.mp member
  obtain ⟨-, usable, smaller⟩ := (accepts_overload_iff wellFormed
    bindsItsVariables selects instantiates beforeLength totalLength _
    rfl).mp acceptsCall
  apply acceptsSplatted_of_usableAs callableWellFormed isVarArg _ usable smaller
  rw [CallableType.expandType_isEllipsisArgs]
  exact notEllipsis

/-- A function that accepts at most five extra arguments is accepted with them by
the overload with as many variables. -/
theorem exists_accepts_of_acceptsSplatted
    (others : OthersFit (fnType.expandType original) selected.callableIdx f
      before after keywords)
    (atMostFive : extra.length ≤ 5)
    (accepts : AcceptsSplatted f (selected.callableTy.expandType original)
      selected.callableArgsIdx extra) :
    ∃ overload ∈ expanded, ∃ env,
      Instantiates fnType overload original env ∧
        Accepts ActualFits (overload.expandType env).formals
          (callSupply f before after keywords extra) := by
  have callableWellFormed :=
    (selects.callable_wellFormed wellFormed).expandType original
  have isVarArg := selects.isStar_expandType original
  -- the variables are instantiated to the types of the arguments
  let typeVars := typeVarTypes ctx.api hasTypeVarDefault fnType extra.length
  have instantiates : Instantiates fnType
      (expandedFn fnType argsIdx selected typeVars) original
      (original.assign typeVars extra) := by
    intro id other
    rw [addedTypeVars_expandedFn] at other
    exact Instantiation.assign_of_notMem other
  have areTypes := @Instantiation.map_expandType_assign original _ extra
    (typeVarTypes_ids_nodup ctx.api hasTypeVarDefault fnType extra.length)
    (typeVarTypes_length _ _ _ _)
  rw [selects.expanded_eq decorated accepted]
  refine ⟨_, List.mem_map.mpr ⟨extra.length, ?_, rfl⟩,
    original.assign typeVars extra, instantiates, ?_⟩
  · exact List.mem_range.mpr (by omega)
  · refine (accepts_overload_iff wellFormed bindsItsVariables selects
      instantiates beforeLength totalLength extra areTypes).mpr ?_
    exact ⟨others,
      usableAs_of_acceptsSplatted callableWellFormed isVarArg accepts,
      List.forall₂_same.mpr fun type _ => le_refl type⟩

end Law

/-- With at most five extra arguments, the call of the decorated function
type-checks exactly when the function accepts the extra arguments in the place
of the `VarArg()`. -/
theorem call_iff_acceptsSplatted
    {ctx : FunctionContext}
    {hasTypeVarDefault : Bool}
    {fnType : CallableType}
    {argsIdx : Nat}
    {selected : SelectedCallable}
    {expanded : List CallableType}
    (decorated : decoratedType ctx = .ok fnType)
    (wellFormed : WellFormedFunction fnType)
    (bindsItsVariables : BindsItsVariables fnType)
    (selects : Selects fnType argsIdx selected)
    (notEllipsis : selected.callableTy.isEllipsisArgs = false)
    (accepted : takesCallableAndArgsCallback ctx hasTypeVarDefault =
      .ok (pure (.overloaded expanded)))
    (original : Instantiation)
    {f : CallableType}
    {before after extra : List Ty}
    {keywords : List (String × Ty)}
    (beforeLength : before.length = selected.callableIdx)
    (totalLength : before.length + 1 + after.length = argsIdx)
    (others : OthersFit (fnType.expandType original) selected.callableIdx f
      before after keywords)
    (atMostFive : extra.length ≤ 5) :
    (∃ overload ∈ expanded, ∃ env,
        Instantiates fnType overload original env ∧
          Accepts ActualFits (overload.expandType env).formals
            (callSupply f before after keywords extra)) ↔
      AcceptsSplatted f (selected.callableTy.expandType original)
        selected.callableArgsIdx extra := by
  constructor
  · rintro ⟨overload, member, env, instantiates, acceptsCall⟩
    exact acceptsSplatted_of_accepts decorated wellFormed bindsItsVariables
      selects accepted beforeLength totalLength notEllipsis member instantiates
      acceptsCall
  · exact exists_accepts_of_acceptsSplatted decorated wellFormed
      bindsItsVariables selects accepted beforeLength totalLength others
      atMostFive

end Subtyping

/-! ## The example of the documentation -/

/-- Only equal types are subtypes of each other. -/
abbrev equalityOrder : Preorder Ty where
  le first second := first = second
  le_refl _ := rfl
  le_trans _ _ _ := Eq.trans

/-- `T` stands for `int`. -/
def readmeInstantiation : Instantiation := fun id =>
  if id = -1 then some (.inst "builtins.int" []) else none

/-- `async def f(text: str) -> int`. -/
def readmeAsyncFn : CallableType where
  argTypes := [.inst "builtins.str" []]
  argKinds := [.pos]
  argNames := [some "text"]
  retType := .inst "typing.Awaitable" [.inst "builtins.int" []]
  typeVariables := []
  isEllipsisArgs := false

/-- The call `start_soon(f, text)`. -/
theorem call_iff_acceptsSplatted_readme :
    letI := equalityOrder
    (∃ overload ∈ readmeOverloads, ∃ env,
        Instantiates readmeStartSoon overload readmeInstantiation env ∧
          Accepts ActualFits (overload.expandType env).formals
            (callSupply readmeAsyncFn [] [] [] [.inst "builtins.str" []])) ↔
      AcceptsSplatted readmeAsyncFn
        (readmeCallable.expandType readmeInstantiation) 0
        [.inst "builtins.str" []] := by
  let order := equalityOrder
  have bindsItsVariables : BindsItsVariables readmeStartSoon := by
    intro type member id occurs
    simp only [readmeStartSoon, List.mem_cons, List.not_mem_nil,
      or_false] at member
    rcases member with rfl | rfl | rfl
    · simp only [Ty.typeVarIds, readmeCallable, CallableType.typeVarIds,
        Ty.typeVarIdsList, readmeTypeVar, List.map_nil, List.append_nil,
        List.nil_append, List.mem_singleton] at occurs
      subst occurs
      exact .inr (by decide)
    · cases occurs
    · cases occurs
  have others : OthersFit (readmeStartSoon.expandType readmeInstantiation)
      readmeSelected.callableIdx readmeAsyncFn [] [] [] := by
    refine ⟨[[.function readmeAsyncFn], [], []], rfl, ?_⟩
    intro other formal taken different _ takenAt argument member
    rcases other with _ | _ | _ | other
    · exact absurd rfl different
    · cases takenAt
      cases member
    · cases takenAt
      cases member
    · cases takenAt
  exact call_iff_acceptsSplatted rfl readme_wellFormed bindsItsVariables
    readme_selects rfl readme_accepted readmeInstantiation rfl rfl others
    (by decide)

end TakesCallable
end TrioTyping
