import TrioTyping.Mypy.Checker

/-!
# Decoding the declared return type of an `@async_generator` function

The declared return type is a union of the actual return type with markers
`YieldType[Y]` and `SendType[S]`. Decoding separates the markers from the other
arms in one pass and stops at the first marker that is malformed or repeated.

`Encodes` describes the accepted unions without reference to the pass: the arms
are an interleaving of the arms of the actual return type with at most one
marker of each kind. The main result says that decoding inverts this encoding
and rejects exactly what does not belong to it.
-/

namespace TrioTyping
namespace AsyncGenerator

/-! ## The decoder -/

/-- The accumulators of the pass over the arms. -/
structure DecodeState where
  /-- Argument of the `YieldType` seen so far. -/
  yieldType : Option Ty
  /-- Argument of the `SendType` seen so far. -/
  sendType : Option Ty
  /-- The arms that are no markers. -/
  otherArms : List Ty

/-- Process one arm. -/
def decodeArm
    (state : DecodeState)
    (origArm : Ty) : Except ValueError DecodeState :=
  match getProperType origArm with
  | .inst fullname args =>
      if fullname = "trio_typing.YieldType" then
        match args with
        | [arg] =>
            if state.yieldType.isSome then
              .error (⟨"YieldType specified multiple times"⟩)
            else .ok { state with yieldType := some arg }
        | _ => .error (⟨"YieldType must take one argument"⟩)
      else if fullname = "trio_typing.SendType" then
        match args with
        | [arg] =>
            if state.sendType.isSome then
              .error (⟨"SendType specified multiple times"⟩)
            else .ok { state with sendType := some arg }
        | _ => .error (⟨"SendType must take one argument"⟩)
      else .ok { state with otherArms := state.otherArms ++ [origArm] }
  | _ => .ok { state with otherArms := state.otherArms ++ [origArm] }

/-- The arms of a declared return type: those of the union it resolves to, or
the type itself. -/
def returnArms (originalAsyncReturnType : Ty) : List Ty :=
  match getProperType originalAsyncReturnType with
  | .union items => items
  | _ => [originalAsyncReturnType]

theorem returnArms_of_union
    {originalAsyncReturnType : Ty}
    {items : List Ty}
    (resolved : getProperType originalAsyncReturnType = .union items) :
    returnArms originalAsyncReturnType = items := by
  rw [returnArms, resolved]

theorem returnArms_of_not_union
    {originalAsyncReturnType : Ty}
    (notUnion : ∀ items, getProperType originalAsyncReturnType ≠ .union items) :
    returnArms originalAsyncReturnType = [originalAsyncReturnType] := by
  unfold returnArms
  split
  · rename_i items resolved
    exact absurd resolved (notUnion items)
  · rfl

/-- The arms of a union are kept as they are written. -/
@[simp] theorem returnArms_union (items : List Ty) :
    returnArms (.union items) = items :=
  returnArms_of_union rfl

/-- An alias of a union has the arms of the union. -/
@[simp] theorem returnArms_typeAlias_union
    (name : String)
    (items : List Ty) :
    returnArms (.typeAlias name (.union items)) = items :=
  returnArms_of_union rfl

/-- A lone marker, like any other instance, is the only arm. -/
@[simp] theorem returnArms_inst
    (fullname : String)
    (args : List Ty) :
    returnArms (.inst fullname args) = [.inst fullname args] :=
  returnArms_of_not_union fun _ isUnion => by cases isUnion

/-- The three types that go into `CompatAsyncGenerator`. -/
structure AgenTypes where
  /-- Type of the values the generator yields. -/
  yieldType : Ty
  /-- Type of the values it can be sent. -/
  sendType : Ty
  /-- Type of the value it returns. -/
  returnType : Ty

/-- The actual return type made of the arms that are no markers. -/
def returnTypeOf (api : CheckerApi) (otherArms : List Ty) : Ty :=
  if otherArms.isEmpty then .uninhabited true
  else api.makeSimplifiedUnion otherArms

/-- Text of the error for an invalid declaration. -/
def invalidReturnType (error : ValueError) : String :=
  "invalid @async_generator return type: " ++ error.message

/-- `decode_agen_types_from_return_type`. -/
def decodeAgenTypesFromReturnType
    (api : CheckerApi)
    (originalAsyncReturnType : Ty) : Reported AgenTypes :=
  match (returnArms originalAsyncReturnType).foldlM decodeArm
      ⟨none, none, []⟩ with
  | .error error => do
      fail (invalidReturnType error)
      return ⟨.any .fromError, .any .fromError, originalAsyncReturnType⟩
  | .ok state =>
      if state.yieldType.isNone && state.sendType.isNone then
        pure ⟨.any .unannotated, .any .unannotated, originalAsyncReturnType⟩
      else
        pure ⟨state.yieldType.getD .noneTyp, state.sendType.getD .noneTyp,
          returnTypeOf api state.otherArms⟩

/-! ## Markers -/

/-- The two kinds of marker. -/
inductive MarkerKind
  | yieldType
  | sendType
  deriving DecidableEq, Repr

/-- The class that marks the kind. -/
def MarkerKind.fullname : MarkerKind → String
  | .yieldType => "trio_typing.YieldType"
  | .sendType => "trio_typing.SendType"

/-- The marker an arm resolves to, with its type arguments. -/
def markerOf (arm : Ty) : Option (MarkerKind × List Ty) :=
  match getProperType arm with
  | .inst fullname args =>
      if fullname = MarkerKind.fullname .yieldType then some (.yieldType, args)
      else if fullname = MarkerKind.fullname .sendType then
        some (.sendType, args)
      else none
  | _ => none

/-- The argument the pass has recorded for a kind of marker. -/
def DecodeState.recorded (state : DecodeState) : MarkerKind → Option Ty
  | .yieldType => state.yieldType
  | .sendType => state.sendType

/-- Record the argument of a marker. -/
def DecodeState.record
    (state : DecodeState) (arg : Ty) : MarkerKind → DecodeState
  | .yieldType => { state with yieldType := some arg }
  | .sendType => { state with sendType := some arg }

/-- The complaint about a marker without or with several arguments. -/
def MarkerKind.wrongArguments : MarkerKind → ValueError
  | .yieldType => ⟨"YieldType must take one argument"⟩
  | .sendType => ⟨"SendType must take one argument"⟩

/-- The complaint about a second marker of the kind. -/
def MarkerKind.repeated : MarkerKind → ValueError
  | .yieldType => ⟨"YieldType specified multiple times"⟩
  | .sendType => ⟨"SendType specified multiple times"⟩

/-- What one step does, in terms of the marker the arm resolves to. -/
theorem decodeArm_eq
    (state : DecodeState)
    (arm : Ty) :
    decodeArm state arm =
      match markerOf arm with
      | none => .ok { state with otherArms := state.otherArms ++ [arm] }
      | some (kind, [arg]) =>
          if (state.recorded kind).isSome then .error kind.repeated
          else .ok (state.record arg kind)
      | some (kind, _) => .error kind.wrongArguments := by
  unfold decodeArm markerOf
  cases getProperType arm with
  | inst fullname args =>
      dsimp only [MarkerKind.fullname]
      by_cases isYield : fullname = "trio_typing.YieldType"
      · simp only [isYield, if_true]
        rcases args with _ | ⟨arg, _ | ⟨second, rest⟩⟩ <;> rfl
      · by_cases isSend : fullname = "trio_typing.SendType"
        · simp only [isSend]
          rcases args with _ | ⟨arg, _ | ⟨second, rest⟩⟩ <;> rfl
        · simp only [isYield, isSend, if_false]
  | _ => rfl

section Steps

variable {state : DecodeState} {arm : Ty} {kind : MarkerKind} {args : List Ty}

theorem decodeArm_of_other (isOther : markerOf arm = none) :
    decodeArm state arm =
      .ok { state with otherArms := state.otherArms ++ [arm] } := by
  rw [decodeArm_eq, isOther]

theorem decodeArm_of_marker
    {arg : Ty}
    (isMarker : markerOf arm = some (kind, [arg])) :
    decodeArm state arm =
      if (state.recorded kind).isSome then .error kind.repeated
      else .ok (state.record arg kind) := by
  rw [decodeArm_eq, isMarker]

theorem decodeArm_of_wrongArguments
    (isMarker : markerOf arm = some (kind, args))
    (wrong : args.length ≠ 1) :
    decodeArm state arm = .error kind.wrongArguments := by
  rw [decodeArm_eq, isMarker]
  rcases args with _ | ⟨arg, _ | ⟨second, rest⟩⟩
  · rfl
  · exact absurd rfl wrong
  · rfl

/-- A step complains about a marker with other than one argument or about one of
a kind that has been recorded. -/
theorem decodeArm_error
    {error : ValueError}
    (failed : decodeArm state arm = .error error) :
    (∃ kind args, markerOf arm = some (kind, args) ∧ args.length ≠ 1 ∧
        error = kind.wrongArguments) ∨
      ∃ kind arg, markerOf arm = some (kind, [arg]) ∧
        state.recorded kind ≠ none ∧ error = kind.repeated := by
  cases marker : markerOf arm with
  | none =>
      rw [decodeArm_of_other marker] at failed
      cases failed
  | some pair =>
      obtain ⟨kind, args⟩ := pair
      by_cases oneArgument : args.length = 1
      · obtain ⟨arg, rfl⟩ := List.length_eq_one_iff.mp oneArgument
        rw [decodeArm_of_marker marker] at failed
        split at failed
        · rename_i present
          cases failed
          exact .inr ⟨kind, arg, rfl, Option.isSome_iff_ne_none.mp present, rfl⟩
        · cases failed
      · rw [decodeArm_of_wrongArguments marker oneArgument] at failed
        cases failed
        exact .inl ⟨kind, args, rfl, oneArgument, rfl⟩

end Steps

/-! ## The encoding -/

/-- The arms interleave the other arms, in their order, with at most one marker
of each kind; `found` gives the argument of the marker that is present. -/
inductive Encodes : List Ty → List Ty → (MarkerKind → Option Ty) → Prop
  | nil : Encodes [] [] fun _ => none
  | other {arm : Ty} {arms otherArms : List Ty} {found : MarkerKind → Option Ty}
      (isOther : markerOf arm = none)
      (rest : Encodes arms otherArms found) :
      Encodes (arm :: arms) (arm :: otherArms) found
  | marker {arm arg : Ty} {arms otherArms : List Ty}
      {found : MarkerKind → Option Ty} {kind : MarkerKind}
      (isMarker : markerOf arm = some (kind, [arg]))
      (absent : found kind = none)
      (rest : Encodes arms otherArms found) :
      Encodes (arm :: arms) otherArms (Function.update found kind (some arg))

/-- The arm resolves to a marker of the kind. -/
def isMarkerOf (kind : MarkerKind) (arm : Ty) : Bool :=
  match markerOf arm with
  | none => false
  | some (other, _) => other = kind

/-- Some marker does not have exactly one argument, or a kind of marker occurs
twice. -/
def Malformed (arms : List Ty) : Prop :=
  (∃ arm ∈ arms, ∃ kind args,
    markerOf arm = some (kind, args) ∧ args.length ≠ 1) ∨
  ∃ kind, 2 ≤ arms.countP (isMarkerOf kind)

/-- What is wrong with an arm that follows others: it is a marker with other than
one argument, or a second marker of its kind. -/
inductive Complaint (earlier : List Ty) (arm : Ty) : ValueError → Prop
  | wrongArguments {kind : MarkerKind} {args : List Ty}
      (isMarker : markerOf arm = some (kind, args))
      (wrong : args.length ≠ 1) :
      Complaint earlier arm kind.wrongArguments
  | repeated {kind : MarkerKind} {arg : Ty}
      (isMarker : markerOf arm = some (kind, [arg]))
      (again : ∃ other ∈ earlier, isMarkerOf kind other = true) :
      Complaint earlier arm kind.repeated

/-- The complaint about the first arm that gives rise to one. -/
def FirstComplaint (arms : List Ty) (error : ValueError) : Prop :=
  ∃ earlier arm later, arms = earlier ++ arm :: later ∧ ¬Malformed earlier ∧
    Complaint earlier arm error

namespace Encodes

variable {arms otherArms : List Ty} {found : MarkerKind → Option Ty}

/-- Every marker has one argument. -/
theorem marker_args
    (encodes : Encodes arms otherArms found)
    {arm : Ty}
    (member : arm ∈ arms)
    {kind : MarkerKind}
    {args : List Ty}
    (isMarker : markerOf arm = some (kind, args)) :
    args.length = 1 := by
  induction encodes with
  | nil => cases member
  | other isOther _ inductionHypothesis =>
      cases member with
      | head => simp [isOther] at isMarker
      | tail _ later => exact inductionHypothesis later
  | marker here _ _ inductionHypothesis =>
      cases member with
      | head =>
          rw [here] at isMarker
          cases isMarker
          rfl
      | tail _ later => exact inductionHypothesis later

/-- A kind of marker occurs once when it is found, and otherwise not at all. -/
theorem countP_isMarkerOf
    (encodes : Encodes arms otherArms found)
    (kind : MarkerKind) :
    arms.countP (isMarkerOf kind) = (found kind).toList.length := by
  induction encodes with
  | nil => rfl
  | other isOther _ inductionHypothesis =>
      rw [List.countP_cons, inductionHypothesis]
      simp [isMarkerOf, isOther]
  | @marker _ _ _ _ found here isMarker absent _ inductionHypothesis =>
      rw [List.countP_cons, inductionHypothesis]
      by_cases same : here = kind
      · subst same
        simp [isMarkerOf, isMarker, absent]
      · simp [isMarkerOf, isMarker, same, Function.update_of_ne (Ne.symm same)]

/-- A kind of marker is found exactly when some arm is one of it. -/
theorem found_ne_none_iff
    (encodes : Encodes arms otherArms found)
    (kind : MarkerKind) :
    found kind ≠ none ↔ ∃ arm ∈ arms, isMarkerOf kind arm = true := by
  rw [← List.countP_pos_iff, encodes.countP_isMarkerOf]
  cases found kind <;> simp

/-- Every arm is used exactly once: as one of the other arms or as a marker. -/
theorem length_eq
    (encodes : Encodes arms otherArms found) :
    arms.length =
      otherArms.length + (found .yieldType).toList.length +
        (found .sendType).toList.length := by
  induction encodes with
  | nil => rfl
  | other _ _ inductionHypothesis =>
      simp only [List.length_cons, inductionHypothesis]
      omega
  | @marker _ _ _ _ found kind _ absent _ inductionHypothesis =>
      rw [List.length_cons, inductionHypothesis]
      cases kind with
      | yieldType =>
          simp only [absent, Function.update_self, Option.toList_none,
            Option.toList_some, List.length_nil, List.length_singleton, ne_eq,
            reduceCtorEq, not_false_eq_true, Function.update_of_ne]
          omega
      | sendType => simp [absent]

/-- Without markers every arm is one of the other arms. -/
theorem of_no_marker
    (noMarker : ∀ arm ∈ arms, markerOf arm = none) :
    Encodes arms arms fun _ => none := by
  induction arms with
  | nil => exact .nil
  | cons arm arms inductionHypothesis =>
      exact .other (noMarker arm (by simp))
        (inductionHypothesis fun other member =>
          noMarker other (by simp [member]))

/-- What an encoding is at an arm that is no marker. -/
theorem cons_other_iff
    {arm : Ty}
    (isOther : markerOf arm = none) :
    Encodes (arm :: arms) otherArms found ↔
      ∃ later, otherArms = arm :: later ∧ Encodes arms later found := by
  constructor
  · intro encodes
    cases encodes with
    | other _ rest => exact ⟨_, rfl, rest⟩
    | marker isMarker => simp [isOther] at isMarker
  · rintro ⟨later, rfl, rest⟩
    exact .other isOther rest

/-- What an encoding is at a marker with one argument. -/
theorem cons_marker_iff
    {arm arg : Ty}
    {kind : MarkerKind}
    (isMarker : markerOf arm = some (kind, [arg])) :
    Encodes (arm :: arms) otherArms found ↔
      ∃ later, later kind = none ∧ Encodes arms otherArms later ∧
        found = Function.update later kind (some arg) := by
  constructor
  · intro encodes
    cases encodes with
    | other isOther => simp [isMarker] at isOther
    | marker sameMarker absent rest =>
        rw [isMarker] at sameMarker
        cases sameMarker
        exact ⟨_, absent, rest, rfl⟩
  · rintro ⟨later, absent, rest, rfl⟩
    exact .marker isMarker absent rest

end Encodes

/-- A list of arms without malformed or repeated markers is an encoding. -/
theorem encodes_of_not_malformed
    (arms : List Ty)
    (wellFormed : ¬Malformed arms) :
    ∃ otherArms found, Encodes arms otherArms found := by
  induction arms with
  | nil => exact ⟨[], _, .nil⟩
  | cons arm arms inductionHypothesis =>
      have tailWellFormed : ¬Malformed arms := by
        rintro (⟨other, member, wrong⟩ | ⟨kind, twice⟩)
        · exact wellFormed (.inl ⟨other, by simp [member], wrong⟩)
        · refine wellFormed (.inr ⟨kind, Nat.le_trans twice ?_⟩)
          rw [List.countP_cons]
          exact Nat.le_add_right _ _
      obtain ⟨otherArms, found, encodes⟩ := inductionHypothesis tailWellFormed
      cases marker : markerOf arm with
      | none => exact ⟨_, _, .other marker encodes⟩
      | some pair =>
          obtain ⟨kind, args⟩ := pair
          have oneArgument : args.length = 1 := by
            by_contra wrong
            exact wellFormed (.inl ⟨arm, by simp, kind, args, marker, wrong⟩)
          obtain ⟨arg, rfl⟩ := List.length_eq_one_iff.mp oneArgument
          have absent : found kind = none := by
            by_contra present
            refine wellFormed (.inr ⟨kind, ?_⟩)
            obtain ⟨first, foundFirst⟩ := Option.ne_none_iff_exists'.mp present
            rw [List.countP_cons, encodes.countP_isMarkerOf, foundFirst]
            simp [isMarkerOf, marker]
          exact ⟨_, _, .marker marker absent encodes⟩

/-- The arms that encode a declaration are those without a malformed or
repeated marker. -/
theorem malformed_iff_not_encodes (arms : List Ty) :
    Malformed arms ↔ ¬∃ otherArms found, Encodes arms otherArms found := by
  constructor
  · rintro malformed ⟨otherArms, found, encodes⟩
    rcases malformed with
      ⟨arm, member, kind, args, isMarker, wrong⟩ | ⟨kind, twice⟩
    · exact wrong (encodes.marker_args member isMarker)
    · rw [encodes.countP_isMarkerOf] at twice
      cases present : found kind <;> simp [present] at twice
  · intro notEncodes
    by_contra wellFormed
    exact notEncodes (encodes_of_not_malformed arms wellFormed)

/-! ## The pass over the arms -/

namespace DecodeState

@[simp] theorem recorded_record
    (state : DecodeState)
    (arg : Ty)
    (kind other : MarkerKind) :
    (state.record arg kind).recorded other =
      if other = kind then some arg else state.recorded other := by
  cases kind <;> cases other <;> rfl

/-- The accumulators after a further encoding has been read. -/
def merge
    (state : DecodeState)
    (otherArms : List Ty)
    (found : MarkerKind → Option Ty) : DecodeState where
  yieldType := (found .yieldType).or state.yieldType
  sendType := (found .sendType).or state.sendType
  otherArms := state.otherArms ++ otherArms

/-- Reading a marker first or merging it afterwards is the same. -/
theorem merge_record
    (state : DecodeState)
    (otherArms : List Ty)
    (found : MarkerKind → Option Ty)
    (arg : Ty)
    (kind : MarkerKind)
    (absent : found kind = none) :
    (state.record arg kind).merge otherArms found =
      state.merge otherArms (Function.update found kind (some arg)) := by
  cases kind <;> simp [merge, record, absent]

end DecodeState

/-- The step at a well-formed marker, given the pass over the arms after it. -/
theorem foldlM_decodeMarker_ok_iff
    {arm arg : Ty}
    {arms : List Ty}
    {kind : MarkerKind}
    {state final : DecodeState}
    (later : ∀ state : DecodeState,
      arms.foldlM decodeArm state = .ok final ↔
        ∃ otherArms found, Encodes arms otherArms found ∧
          (∀ kind, found kind = none ∨ state.recorded kind = none) ∧
          final = state.merge otherArms found)
    (isMarker : markerOf arm = some (kind, [arg])) :
    (arm :: arms).foldlM decodeArm state = .ok final ↔
      ∃ otherArms found, Encodes (arm :: arms) otherArms found ∧
        (∀ kind, found kind = none ∨ state.recorded kind = none) ∧
        final = state.merge otherArms found := by
  rw [List.foldlM_cons, decodeArm_of_marker isMarker]
  simp only [Encodes.cons_marker_iff isMarker]
  cases recorded : state.recorded kind with
  | some first =>
      constructor
      · intro finished
        cases finished
      · rintro ⟨otherArms, _, ⟨found, -, -, rfl⟩, compatible, -⟩
        have conflict := compatible kind
        simp [recorded] at conflict
  | none =>
      change arms.foldlM decodeArm (state.record arg kind) = _ ↔ _
      rw [later]
      constructor
      · rintro ⟨otherArms, found, encodes, compatible, rfl⟩
        have absent : found kind = none := by
          simpa using compatible kind
        refine ⟨otherArms, _, ⟨found, absent, encodes, rfl⟩, ?_,
          state.merge_record otherArms found arg kind absent⟩
        intro other
        by_cases same : other = kind
        · subst same
          exact .inr recorded
        · simpa [same] using compatible other
      · rintro ⟨otherArms, _, ⟨found, absent, encodes, rfl⟩, compatible, rfl⟩
        refine ⟨otherArms, found, encodes, ?_,
          (state.merge_record otherArms found arg kind absent).symm⟩
        intro other
        by_cases same : other = kind
        · subst same
          exact .inl absent
        · simpa [same] using compatible other

/-- The pass succeeds exactly on encodings whose markers have not been recorded
before, and then merges them into the accumulators. -/
theorem foldlM_decodeArm_ok_iff
    (arms : List Ty)
    (state final : DecodeState) :
    arms.foldlM decodeArm state = .ok final ↔
      ∃ otherArms found, Encodes arms otherArms found ∧
        (∀ kind, found kind = none ∨ state.recorded kind = none) ∧
        final = state.merge otherArms found := by
  induction arms generalizing state with
  | nil =>
      constructor
      · intro finished
        cases finished
        exact ⟨[], _, .nil, fun _ => .inl rfl, by simp [DecodeState.merge]⟩
      · rintro ⟨otherArms, found, encodes, -, rfl⟩
        cases encodes
        simp [DecodeState.merge]
        rfl
  | cons arm arms inductionHypothesis =>
      cases marker : markerOf arm with
      | none =>
          rw [List.foldlM_cons, decodeArm_of_other marker]
          change arms.foldlM decodeArm _ = _ ↔ _
          simp only [inductionHypothesis, Encodes.cons_other_iff marker]
          constructor
          · rintro ⟨otherArms, found, encodes, compatible, rfl⟩
            exact ⟨arm :: otherArms, found, ⟨otherArms, rfl, encodes⟩,
              compatible, by simp [DecodeState.merge]⟩
          · rintro ⟨_, found, ⟨otherArms, rfl, encodes⟩, compatible, rfl⟩
            exact ⟨otherArms, found, encodes, compatible,
              by simp [DecodeState.merge]⟩
      | some pair =>
          obtain ⟨kind, args⟩ := pair
          by_cases oneArgument : args.length = 1
          · obtain ⟨arg, rfl⟩ := List.length_eq_one_iff.mp oneArgument
            exact foldlM_decodeMarker_ok_iff inductionHypothesis marker
          · rw [List.foldlM_cons,
              decodeArm_of_wrongArguments marker oneArgument]
            constructor
            · intro finished
              cases finished
            · rintro ⟨otherArms, found, encodes, -⟩
              exact absurd (encodes.marker_args (by simp) marker) oneArgument

/-- A loop that fails has succeeded up to the entry at which it fails. -/
theorem exists_of_foldlM_eq_error
    {α σ ε : Type}
    {step : σ → α → Except ε σ}
    {entries : List α}
    {state : σ}
    {error : ε}
    (failed : entries.foldlM step state = .error error) :
    ∃ earlier entry later reached, entries = earlier ++ entry :: later ∧
      earlier.foldlM step state = .ok reached ∧
      step reached entry = .error error := by
  induction entries generalizing state with
  | nil => cases failed
  | cons first entries inductionHypothesis =>
      rw [List.foldlM_cons] at failed
      cases stepped : step state first with
      | error other =>
          rw [stepped] at failed
          cases failed
          exact ⟨[], first, entries, state, rfl, rfl, stepped⟩
      | ok next =>
          rw [stepped] at failed
          obtain ⟨earlier, entry, later, reached, rfl, passed, stops⟩ :=
            inductionHypothesis failed
          refine ⟨first :: earlier, entry, later, reached, rfl, ?_, stops⟩
          rw [List.foldlM_cons, stepped]
          exact passed

/-- The pass over an encoding. -/
theorem Encodes.foldlM_eq
    {arms otherArms : List Ty}
    {found : MarkerKind → Option Ty}
    (encodes : Encodes arms otherArms found) :
    arms.foldlM decodeArm ⟨none, none, []⟩ =
      .ok ⟨found .yieldType, found .sendType, otherArms⟩ := by
  rw [foldlM_decodeArm_ok_iff]
  refine ⟨otherArms, found, encodes, fun kind => .inr ?_, ?_⟩
  · cases kind <;> rfl
  · simp [DecodeState.merge]

theorem DecodeState.recorded_mk
    (found : MarkerKind → Option Ty)
    (otherArms : List Ty)
    (kind : MarkerKind) :
    recorded ⟨found .yieldType, found .sendType, otherArms⟩ kind =
      found kind := by
  cases kind <;> rfl

/-- The pass stops with the first complaint. -/
theorem firstComplaint_of_foldlM
    {arms : List Ty}
    {error : ValueError}
    (failed : arms.foldlM decodeArm ⟨none, none, []⟩ = .error error) :
    FirstComplaint arms error := by
  obtain ⟨earlier, arm, later, reached, rfl, passed, stops⟩ :=
    exists_of_foldlM_eq_error failed
  obtain ⟨otherArms, found, encodes, -⟩ :=
    (foldlM_decodeArm_ok_iff earlier _ _).mp passed
  rw [encodes.foldlM_eq] at passed
  cases passed
  refine ⟨earlier, arm, later, rfl, ?_, ?_⟩
  · rw [malformed_iff_not_encodes, not_not]
    exact ⟨otherArms, found, encodes⟩
  · rcases decodeArm_error stops with
      ⟨kind, args, isMarker, wrong, rfl⟩ | ⟨kind, arg, isMarker, present, rfl⟩
    · exact .wrongArguments isMarker wrong
    · rw [DecodeState.recorded_mk, encodes.found_ne_none_iff] at present
      exact .repeated isMarker present

/-- If there is a first complaint, the pass stops with it. -/
theorem FirstComplaint.foldlM_eq
    {arms : List Ty}
    {error : ValueError}
    (complaint : FirstComplaint arms error) :
    arms.foldlM decodeArm ⟨none, none, []⟩ = .error error := by
  obtain ⟨earlier, arm, later, rfl, wellFormed, complaint⟩ := complaint
  obtain ⟨otherArms, found, encodes⟩ := encodes_of_not_malformed _ wellFormed
  rw [List.foldlM_append, encodes.foldlM_eq]
  change List.foldlM decodeArm _ (arm :: later) = _
  rw [List.foldlM_cons]
  cases complaint with
  | wrongArguments isMarker wrong =>
      rw [decodeArm_of_wrongArguments isMarker wrong]
      rfl
  | repeated isMarker again =>
      rw [← encodes.found_ne_none_iff, ← Option.isSome_iff_ne_none] at again
      rw [decodeArm_of_marker isMarker, DecodeState.recorded_mk, if_pos again]
      rfl

/-- A malformed declaration gives rise to a complaint. -/
theorem malformed_iff_exists_firstComplaint (arms : List Ty) :
    Malformed arms ↔ ∃ error, FirstComplaint arms error := by
  rw [malformed_iff_not_encodes]
  constructor
  · intro notEncodes
    cases pass : arms.foldlM decodeArm ⟨none, none, []⟩ with
    | error error => exact ⟨error, firstComplaint_of_foldlM pass⟩
    | ok state =>
        obtain ⟨otherArms, found, encodes, -⟩ :=
          (foldlM_decodeArm_ok_iff _ _ _).mp pass
        exact absurd ⟨otherArms, found, encodes⟩ notEncodes
  · rintro ⟨error, complaint⟩ ⟨otherArms, found, encodes⟩
    have stops := complaint.foldlM_eq
    rw [encodes.foldlM_eq] at stops
    cases stops

/-- Decoding in terms of the outcome of the pass. -/
theorem decodeAgenTypesFromReturnType_of_encodes
    (api : CheckerApi)
    {originalAsyncReturnType : Ty}
    {otherArms : List Ty}
    {found : MarkerKind → Option Ty}
    (encodes : Encodes (returnArms originalAsyncReturnType) otherArms found) :
    decodeAgenTypesFromReturnType api originalAsyncReturnType =
      if (found .yieldType).isNone && (found .sendType).isNone then
        pure ⟨.any .unannotated, .any .unannotated, originalAsyncReturnType⟩
      else
        pure ⟨(found .yieldType).getD .noneTyp, (found .sendType).getD .noneTyp,
          returnTypeOf api otherArms⟩ := by
  rw [decodeAgenTypesFromReturnType, encodes.foldlM_eq]

/-- The first complaint about a declaration is reported once. -/
theorem decodeAgenTypesFromReturnType_of_firstComplaint
    (api : CheckerApi)
    {originalAsyncReturnType : Ty}
    {error : ValueError}
    (complaint : FirstComplaint (returnArms originalAsyncReturnType) error) :
    decodeAgenTypesFromReturnType api originalAsyncReturnType =
      ⟨⟨.any .fromError, .any .fromError, originalAsyncReturnType⟩,
        [.fail (invalidReturnType error)]⟩ := by
  rw [decodeAgenTypesFromReturnType, complaint.foldlM_eq]
  rfl

/-- A malformed declaration is reported once, with the first complaint. -/
theorem decodeAgenTypesFromReturnType_of_malformed
    (api : CheckerApi)
    {originalAsyncReturnType : Ty}
    (malformed : Malformed (returnArms originalAsyncReturnType)) :
    ∃ error, FirstComplaint (returnArms originalAsyncReturnType) error ∧
      decodeAgenTypesFromReturnType api originalAsyncReturnType =
        ⟨⟨.any .fromError, .any .fromError, originalAsyncReturnType⟩,
          [.fail (invalidReturnType error)]⟩ := by
  obtain ⟨error, complaint⟩ :=
    (malformed_iff_exists_firstComplaint _).mp malformed
  exact ⟨error, complaint,
    decodeAgenTypesFromReturnType_of_firstComplaint api complaint⟩

/-- Decoding inverts the encoding, whatever the order of the markers among the
arms: it returns what the markers say, with `None` for a missing one, and the
union of the other arms. Without markers the generator is untyped and keeps its
return type. Every declaration outside the encoding is reported once, with the
complaint about the first arm that gives rise to one, and becomes untyped. -/
theorem decodeAgenTypesFromReturnType_inverts
    (api : CheckerApi)
    (originalAsyncReturnType : Ty) :
    (∀ otherArms found,
      Encodes (returnArms originalAsyncReturnType) otherArms found →
      (∃ kind, found kind ≠ none) →
        (returnArms originalAsyncReturnType).length =
            otherArms.length + (found .yieldType).toList.length +
              (found .sendType).toList.length ∧
        decodeAgenTypesFromReturnType api originalAsyncReturnType =
          ⟨⟨(found .yieldType).getD .noneTyp, (found .sendType).getD .noneTyp,
              if otherArms = [] then .uninhabited true
              else api.makeSimplifiedUnion otherArms⟩,
            []⟩ ∧
        ∀ permutedReturnType,
          Encodes (returnArms permutedReturnType) otherArms found →
            decodeAgenTypesFromReturnType api permutedReturnType =
              decodeAgenTypesFromReturnType api originalAsyncReturnType) ∧
    ((∀ arm ∈ returnArms originalAsyncReturnType, markerOf arm = none) →
      decodeAgenTypesFromReturnType api originalAsyncReturnType =
        ⟨⟨.any .unannotated, .any .unannotated, originalAsyncReturnType⟩,
          []⟩) ∧
    (Malformed (returnArms originalAsyncReturnType) →
      ∃ error, FirstComplaint (returnArms originalAsyncReturnType) error ∧
        decodeAgenTypesFromReturnType api originalAsyncReturnType =
          ⟨⟨.any .fromError, .any .fromError, originalAsyncReturnType⟩,
            [.fail (invalidReturnType error)]⟩) ∧
    (Malformed (returnArms originalAsyncReturnType) ↔
      ¬∃ otherArms found,
        Encodes (returnArms originalAsyncReturnType) otherArms found) := by
  refine ⟨?_, ?_, decodeAgenTypesFromReturnType_of_malformed api,
    malformed_iff_not_encodes _⟩
  · intro otherArms found encodes present
    have notBothAbsent :
        ((found .yieldType).isNone && (found .sendType).isNone) = false := by
      obtain ⟨kind, present⟩ := present
      cases kind <;> simp [Option.isNone_eq_false_iff, Option.isSome_iff_ne_none,
        present]
    have decoded :
        ∀ returnType, Encodes (returnArms returnType) otherArms found →
          decodeAgenTypesFromReturnType api returnType =
            ⟨⟨(found .yieldType).getD .noneTyp,
                (found .sendType).getD .noneTyp,
                if otherArms = [] then .uninhabited true
                else api.makeSimplifiedUnion otherArms⟩,
              []⟩ := by
      intro returnType encodes
      rw [decodeAgenTypesFromReturnType_of_encodes api encodes, notBothAbsent]
      simp only [Bool.false_eq_true, if_false, returnTypeOf, List.isEmpty_iff]
      rfl
    refine ⟨encodes.length_eq, decoded _ encodes, ?_⟩
    intro permutedReturnType permuted
    rw [decoded _ permuted, decoded _ encodes]
  · intro noMarker
    rw [decodeAgenTypesFromReturnType_of_encodes api
      (Encodes.of_no_marker noMarker)]
    rfl

/-- An alias of `Union[SendType[str], None, Yields]`, where `Yields` is an alias
of `YieldType[int]`. -/
def aliasedAgen : Ty :=
  .typeAlias "Agen"
    (.union [.inst "trio_typing.SendType" [.inst "builtins.str" []], .noneTyp,
      .typeAlias "Yields"
        (.inst "trio_typing.YieldType" [.inst "builtins.int" []])])

/-- The order of the arms does not matter, nor do the aliases. -/
theorem decodeAgenTypesFromReturnType_inverts_aliased :
    decodeAgenTypesFromReturnType ⟨fun _ _ => true, .union, none⟩ aliasedAgen =
      ⟨⟨.inst "builtins.int" [], .inst "builtins.str" [], .union [.noneTyp]⟩,
        []⟩ := by
  have encodes : Encodes (returnArms aliasedAgen) [.noneTyp]
      (Function.update
        (Function.update (fun _ => none) .yieldType
          (some (.inst "builtins.int" [])))
        .sendType (some (.inst "builtins.str" []))) := by
    rw [aliasedAgen, returnArms_typeAlias_union]
    exact .marker rfl rfl (.other rfl (.marker rfl rfl .nil))
  obtain ⟨-, decoded, -⟩ :=
    (decodeAgenTypesFromReturnType_inverts ⟨fun _ _ => true, .union, none⟩
      aliasedAgen).1 _ _ encodes ⟨.sendType, by simp⟩
  exact decoded

end AsyncGenerator
end TrioTyping
