import TrioTyping.TakesCallable.Expansion

/-!
# The arm of a union that is expanded

A parameter of union type stands for its arm with a `VarArg()`. The arm is chosen
by one test and judged by a stricter one: the first arm that has any `*args` is
taken, whatever the type of its `*args`, and only afterwards the type is looked
at. The main result says which arrangements of the arms let the right arm
through.
-/

namespace TrioTyping
namespace TakesCallable

open Calling

/-- The arm is a callable with a `VarArg()`, and not `Callable[..., T]`. -/
def IsVarArgArm (arm : Ty) : Prop :=
  ∃ signature idx, arm = .callable signature ∧
    signature.isEllipsisArgs = false ∧ StarAnyAt signature idx

/-- The arm is a callable that passes the test for being chosen. -/
def PassesTest (arm : Ty) : Prop :=
  ∃ signature, arm = .callable signature ∧ acceptsStar signature = true

/-- A decorated function with `*args: Any`, and one parameter of union type that
has a single arm with a `VarArg()`; the arms come in the given order. -/
structure UnionSignature
    (fnType : CallableType)
    (argsIdx unionIdx : Nat)
    (earlier : List Ty)
    (callableTy : CallableType)
    (later : List Ty) : Prop where
  /-- The signature of the function. -/
  wellFormed : fnType.WellFormed
  /-- `*args: Any`. -/
  args : StarAnyAt fnType argsIdx
  /-- The union belongs to a required positional parameter. -/
  union_kind : fnType.argKinds[unionIdx]? = some .pos
  /-- The arms of the union. -/
  union_type : ∃ type items, fnType.argTypes[unionIdx]? = some type ∧
    getProperType type = .union items ∧
    getProperTypes items = earlier ++ .callable callableTy :: later
  /-- No other positional parameter takes a callable or a union. -/
  others : ∀ idx type, idx ≠ unionIdx →
    fnType.argKinds[idx]? = some .pos → fnType.argTypes[idx]? = some type →
      (∀ signature, getProperType type ≠ .callable signature) ∧
        ∀ items, getProperType type ≠ .union items
  /-- The signature of the arm. -/
  arm_wellFormed : callableTy.WellFormed
  /-- It has a `VarArg()`. -/
  isVarArg : IsVarArgArm (.callable callableTy)
  /-- No other arm has one. -/
  only : ∀ arm ∈ earlier ++ later, ¬IsVarArgArm arm

/-- The callback reports no error and expands the given callable. -/
def ExpandsArm
    (ctx : FunctionContext)
    (hasTypeVarDefault : Bool)
    (fnType : CallableType)
    (argsIdx unionIdx : Nat)
    (callableTy : CallableType) : Prop :=
  ∃ callableArgsIdx, StarAnyAt callableTy callableArgsIdx ∧
    takesCallableAndArgsCallback ctx hasTypeVarDefault =
      .ok (pure (.overloaded ((List.range 6).map fun count =>
        expandedFn fnType argsIdx ⟨unionIdx, callableArgsIdx, callableTy⟩
          (typeVarTypes ctx.api hasTypeVarDefault fnType count))))

/-! ## Which arm is chosen -/

theorem StarAnyAt.star_mem
    {signature : CallableType}
    {idx : Nat}
    (starAnyAt : StarAnyAt signature idx) :
    ArgKind.star ∈ signature.argKinds :=
  List.mem_of_getElem? starAnyAt.1

/-- An arm with a `VarArg()` passes the test. -/
theorem IsVarArgArm.passesTest
    {signature : CallableType}
    (isVarArg : IsVarArgArm (.callable signature)) :
    acceptsStar signature = true := by
  obtain ⟨_, idx, same, notEllipsis, starAnyAt⟩ := isVarArg
  cases same
  rw [acceptsStar, notEllipsis, Bool.not_false, Bool.true_and, List.any_eq_true]
  exact ⟨.star, starAnyAt.star_mem, by decide⟩

/-- The callable is the first arm that passes the test. -/
def FirstPassing (arms : List Ty) (callableTy : CallableType) : Prop :=
  ∃ earlier later, arms = earlier ++ .callable callableTy :: later ∧
    acceptsStar callableTy = true ∧ ∀ arm ∈ earlier, ¬PassesTest arm

theorem callableArm_eq_none_iff (arm : Ty) :
    callableArm arm = none ↔ ¬PassesTest arm := by
  rw [Option.eq_none_iff_forall_ne_some]
  simp only [ne_eq, callableArm_eq_some_iff, PassesTest, not_exists]

theorem findSome?_callableArm_eq_some_iff
    (arms : List Ty)
    (callableTy : CallableType) :
    arms.findSome? callableArm = some callableTy ↔
      FirstPassing arms callableTy := by
  rw [List.findSome?_eq_some_iff]
  simp only [callableArm_eq_some_iff, callableArm_eq_none_iff]
  constructor
  · rintro ⟨earlier, _, later, parts, ⟨rfl, passes⟩, others⟩
    exact ⟨earlier, later, parts, passes, others⟩
  · rintro ⟨earlier, later, parts, passes, others⟩
    exact ⟨earlier, _, later, parts, ⟨rfl, passes⟩, others⟩

theorem findSome?_callableArm_eq_none_iff (arms : List Ty) :
    arms.findSome? callableArm = none ↔ ∀ arm ∈ arms, ¬PassesTest arm := by
  rw [List.findSome?_eq_none_iff]
  simp only [callableArm_eq_none_iff]

/-- The callable chosen from a union is its first arm that passes the test. -/
theorem candidate_union
    (items : List Ty)
    (callableTy : CallableType) :
    candidate (.union items) = some callableTy ↔
      FirstPassing (getProperTypes items) callableTy :=
  findSome?_callableArm_eq_some_iff (getProperTypes items) callableTy

/-! ## When the right arm is expanded -/

/-- Only the union has a callable to be scanned. -/
theorem UnionSignature.candidate_other
    {fnType : CallableType}
    {argsIdx unionIdx : Nat}
    {earlier later : List Ty}
    {callableTy : CallableType}
    (signature : UnionSignature fnType argsIdx unionIdx earlier callableTy later)
    {other : Nat}
    {type : Ty}
    (different : other ≠ unionIdx)
    (kindAt : fnType.argKinds[other]? = some .pos)
    (typeAt : fnType.argTypes[other]? = some type) :
    candidate (getProperType type) = none := by
  obtain ⟨notCallable, notUnion⟩ :=
    signature.others other type different kindAt typeAt
  cases resolved : getProperType type with
  | callable callableTy => exact absurd resolved (notCallable callableTy)
  | union items => exact absurd resolved (notUnion items)
  | _ => rfl

/-- The arm with the `VarArg()` is expanded exactly when no arm before it passes
the test. -/
theorem expandsArm_iff
    {ctx : FunctionContext}
    {fnType : CallableType}
    {argsIdx unionIdx : Nat}
    {earlier later : List Ty}
    {callableTy : CallableType}
    (decorated : decoratedType ctx = .ok fnType)
    (signature : UnionSignature fnType argsIdx unionIdx earlier callableTy later)
    (hasTypeVarDefault : Bool) :
    ExpandsArm ctx hasTypeVarDefault fnType argsIdx unionIdx callableTy ↔
      ∀ arm ∈ earlier, ¬PassesTest arm := by
  obtain ⟨type, items, typeAt, resolved, arms⟩ := signature.union_type
  constructor
  · rintro ⟨callableArgsIdx, starAnyAt, accepted⟩ arm isEarlier passes
    obtain ⟨_, selected, -, found, -⟩ := (callback_spec decorated).mp accepted
    have isSlot : selected ∈ slots fnType := by
      rw [found]
      exact List.mem_singleton_self selected
    obtain ⟨kindAt, ⟨type', typeAt', choice⟩, varArg⟩ := mem_slots.mp isSlot
    have atUnion : selected.callableIdx = unionIdx := by
      by_contra different
      rw [signature.candidate_other different kindAt typeAt'] at choice
      cases choice
    rw [atUnion, typeAt] at typeAt'
    obtain rfl := Option.some.inj typeAt'
    rw [resolved, candidate_union] at choice
    obtain ⟨earlier', later', arms', passes', nonePasses⟩ := choice
    have isVarArg : IsVarArgArm (.callable selected.callableTy) := by
      rw [acceptsStar, Bool.and_eq_true, Bool.not_eq_true'] at passes'
      exact ⟨_, _, rfl, passes'.1, varArg⟩
    -- the chosen arm has a `VarArg()`, so that it stands where the right one does
    rcases List.append_eq_append_iff.mp (arms.symm.trans arms') with
      ⟨between, rfl, -⟩ | ⟨between, rfl, parts⟩
    · exact nonePasses arm (List.mem_append_left _ isEarlier) passes
    · cases between with
      | nil =>
          rw [List.append_nil] at isEarlier
          exact nonePasses arm isEarlier passes
      | cons first between =>
          rw [List.cons_append, List.cons.injEq] at parts
          obtain ⟨rfl, -⟩ := parts
          exact signature.only _ (by simp) isVarArg
  · intro nonePasses
    have choice : candidate (getProperType type) = some callableTy := by
      rw [resolved, candidate_union]
      exact ⟨earlier, later, arms, signature.isVarArg.passesTest, nonePasses⟩
    obtain ⟨_, callableArgsIdx, same, -, starAnyAt⟩ := signature.isVarArg
    cases same
    refine ⟨callableArgsIdx, starAnyAt, ?_⟩
    have indices := starAnyIndices_eq signature.wellFormed signature.args
    have found := slots_eq signature.union_kind typeAt choice
      fun _ _ different kindAt typeAt =>
        signature.candidate_other different kindAt typeAt
    rw [starAnyIndices_eq signature.arm_wellFormed starAnyAt] at found
    exact (callback_spec decorated).mpr ⟨argsIdx, _, indices, found, rfl⟩

/-- `Callable[[VarArg(int)], T]`. -/
def intArgsCallable : CallableType :=
  { readmeCallable with argTypes := [.inst "builtins.int" []] }

/-- A function with a parameter of type
`Union[Callable[[VarArg(int)], T], Callable[[VarArg()], T]]`, its arms in the
given order. -/
def unionFunction (arms : List Ty) : CallableType where
  argTypes := [.union arms, .any .explicit]
  argKinds := [.pos, .star]
  argNames := [some "async_fn", some "args"]
  retType := .noneTyp
  typeVariables := [readmeTypeVar]
  isEllipsisArgs := false

theorem unionFunction_wellFormed (arms : List Ty) :
    (unionFunction arms).WellFormed where
  kinds_length := rfl
  names_length := rfl
  ordered := by
    change List.Pairwise ArgKind.Precedes [.pos, .star]
    decide
  distinct := by
    change (List.filterMap id [some "async_fn", some "args"]).Nodup
    decide
  ellipsis := nofun

/-- The decorator applied to it. -/
def unionContext (arms : List Ty) : FunctionContext where
  argTypes := [[.callable (unionFunction arms)]]
  defaultReturnType := .callable (unionFunction arms)
  api := readmeContext.api

theorem intArgsCallable_not_isVarArgArm :
    ¬IsVarArgArm (.callable intArgsCallable) := by
  rintro ⟨_, idx, same, -, -, type, source, typeAt, resolved⟩
  cases same
  rcases idx with _ | idx
  · cases typeAt
    cases resolved
  · cases typeAt

/-- Any order of the two arms makes such a signature. -/
theorem unionFunction_signature
    {arms earlier later : List Ty}
    (parts : getProperTypes arms = earlier ++ .callable readmeCallable :: later)
    (others : ∀ arm ∈ earlier ++ later, arm = .callable intArgsCallable) :
    UnionSignature (unionFunction arms) 1 0 earlier readmeCallable later where
  wellFormed := unionFunction_wellFormed arms
  args := ⟨rfl, .any .explicit, .explicit, rfl, rfl⟩
  union_kind := rfl
  union_type := ⟨.union arms, arms, rfl, rfl, parts⟩
  others := by
    intro idx type different kindAt _
    rcases idx with _ | _ | idx
    · exact absurd rfl different
    · cases kindAt
    · cases kindAt
  arm_wellFormed :=
    readme_wellFormed.callables (.callable readmeCallable) (by
      simp [readmeStartSoon]) readmeCallable rfl
  isVarArg :=
    ⟨readmeCallable, 0, rfl, rfl, rfl, .any .explicit, .explicit, rfl, rfl⟩
  only := by
    intro arm member
    rw [others arm member]
    exact intArgsCallable_not_isVarArgArm

/-- With the right arm first, it is expanded. -/
theorem expandsArm_first :
    ExpandsArm
        (unionContext [.callable readmeCallable, .callable intArgsCallable]) true
        (unionFunction [.callable readmeCallable, .callable intArgsCallable]) 1 0
        readmeCallable ↔
      ∀ arm ∈ ([] : List Ty), ¬PassesTest arm :=
  expandsArm_iff rfl
    (unionFunction_signature rfl fun _ member => List.mem_singleton.mp member)
    true

/-- With the right arm second, an error is reported. -/
theorem expandsArm_second_fails :
    UnionSignature
        (unionFunction [.callable intArgsCallable, .callable readmeCallable]) 1 0
        [.callable intArgsCallable] readmeCallable [] ∧
      takesCallableAndArgsCallback
          (unionContext [.callable intArgsCallable, .callable readmeCallable])
          true =
        .ok ⟨.callable
            (unionFunction
              [.callable intArgsCallable, .callable readmeCallable]),
          [.fail ("invalid use of @takes_callable_and_args: " ++
            "decorated function must take a callable that has a " ++
            "argument of type mypy_extensions.VarArg()")]⟩ ∧
      ¬ExpandsArm
        (unionContext [.callable intArgsCallable, .callable readmeCallable]) true
        (unionFunction [.callable intArgsCallable, .callable readmeCallable]) 1 0
        readmeCallable := by
  have reported :
      takesCallableAndArgsCallback
          (unionContext [.callable intArgsCallable, .callable readmeCallable])
          true =
        .ok ⟨.callable
            (unionFunction
              [.callable intArgsCallable, .callable readmeCallable]),
          [.fail ("invalid use of @takes_callable_and_args: " ++
            "decorated function must take a callable that has a " ++
            "argument of type mypy_extensions.VarArg()")]⟩ := rfl
  refine ⟨unionFunction_signature rfl fun arm member => ?_, reported, ?_⟩
  · simpa using member
  · rintro ⟨_, -, accepted⟩
    have reports := congrArg (Except.map Reported.reports)
      (reported.symm.trans accepted)
    simp [Except.map] at reports

end TakesCallable
end TrioTyping
