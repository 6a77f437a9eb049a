import TrioTyping.Stubs.OpenedFile

/-!
# Files that are opened with constants

For a constant mode and buffering, the result type of `open_file` can be compared
with the file that is opened more closely. The main result says that the promised
class is the exact one with two exceptions. For a binary file with a buffer of a
given size only a file is promised, and for one that is opened with arguments for
text, which have to be `None` then, nothing is.
-/

namespace TrioTyping
namespace Stubs

open Calling

/-! ## What is constant, and what is known -/

/-- What literals are subtypes of. -/
structure LiteralSubtyping (isSubtype : Ty → Ty → Bool) : Prop where
  /-- A string is of a type that lists it. -/
  str_iff : ∀ {name : String} {text : String} {texts : List String},
    isSubtype (literalStr text)
        (.typeAlias name (.union (texts.map literalStr))) = true ↔
      text ∈ texts
  /-- A number is of a type that lists it. -/
  ints_iff : ∀ {number : Int} {numbers : List Int},
    isSubtype (literalInt number) (.union (numbers.map literalInt)) = true ↔
      number ∈ numbers
  /-- It is of the type of no other number. -/
  int_iff : ∀ {number number' : Int},
    isSubtype (literalInt number) (literalInt number') = true ↔
      number = number'
  /-- Every number is an `int`. -/
  int : ∀ number : Int,
    isSubtype (literalInt number) (.inst "builtins.int" []) = true

/-- The mode and the buffering are constants, and the mode is listed. -/
structure OpenArguments.Constant
    (typeshed : Typeshed)
    (arguments : OpenArguments (Ty × OpenValue)) : Prop where
  mode : ∀ argument ∈ arguments.mode, ∃ text,
    argument = (literalStr text, .str text) ∧
      (text ∈ typeshed.textModes ∨ text ∈ typeshed.binaryModes)
  buffering : ∀ argument ∈ arguments.buffering, ∃ number,
    argument = (literalInt number, .int number)

/-- The arguments for text. -/
def OpenArguments.forText
    {α : Type}
    (arguments : OpenArguments α) : List α :=
  arguments.encoding.toList ++ arguments.errors.toList ++
    arguments.newline.toList

/-- They fit when each of them does. -/
theorem OpenArguments.fitText_iff
    {α : Type}
    {fits : α → Ty → Prop}
    {text : Ty}
    {arguments : OpenArguments α} :
    arguments.FitText fits text ↔
      ∀ argument ∈ arguments.forText, fits argument text := by
  simp only [forText, List.mem_append, Option.mem_toList, or_imp, forall_and]
  exact ⟨fun ⟨encoding, errors, newline⟩ => ⟨⟨encoding, errors⟩, newline⟩,
    fun ⟨⟨encoding, errors⟩, newline⟩ => ⟨encoding, errors, newline⟩⟩

/-- The types of the arguments tell that none of those for text is given. -/
def OpenArguments.knowsNoText
    (isSubtype : Ty → Ty → Bool)
    (arguments : OpenArguments Ty) : Bool :=
  arguments.forText.all fun type => isSubtype type .noneTyp

/-- This is what the declarations for binary modes ask for. -/
theorem OpenArguments.knowsNoText_iff
    {isSubtype : Ty → Ty → Bool}
    {arguments : OpenArguments (Ty × OpenValue)} :
    (arguments.map Prod.fst).knowsNoText isSubtype = true ↔
      arguments.FitText (fun argument type => isSubtype argument.1 type = true)
        .noneTyp := by
  have forText_map : (arguments.map Prod.fst).forText =
      arguments.forText.map Prod.fst := by
    simp [forText, OpenArguments.map, Option.toList_map]
  rw [knowsNoText, fitText_iff, forText_map, List.all_eq_true,
    List.forall_mem_map]

/-! ## The declarations one by one -/

section Constant

variable
  {isSubtype : Ty → Ty → Bool}
  (literals : LiteralSubtyping isSubtype)
  {typeshed : Typeshed}
  {arguments : OpenArguments (Ty × OpenValue)}
  (constant : arguments.Constant typeshed)

include literals constant

/-- A constant mode is accepted as a text mode exactly when it is one. -/
theorem fits_openTextMode_iff
    {mode : String}
    (isMode : (arguments.map Prod.snd).modeValue = .str mode) :
    (∀ argument ∈ arguments.mode,
        isSubtype argument.1 typeshed.openTextMode = true) ↔
      'b' ∉ mode.toList := by
  rcases modeValue_cases isMode with ⟨absent, rfl⟩ | ⟨argument, passed, isValue⟩
  · exact iff_of_true (by simp [absent]) (by decide)
  · obtain ⟨text, rfl, listed⟩ := constant.mode argument passed
    cases isValue
    simp only [passed, Option.mem_some_iff, forall_eq', Typeshed.openTextMode,
      literals.str_iff]
    constructor
    · exact typeshed.text mode
    · intro isText
      exact listed.resolve_right fun isBinary =>
        isText (typeshed.binary mode isBinary)

/-- A mode is accepted as a binary mode exactly when it is passed and is one. -/
theorem fits_openBinaryMode_iff
    {mode : String}
    (isMode : (arguments.map Prod.snd).modeValue = .str mode) :
    (arguments.mode ≠ none ∧ ∀ argument ∈ arguments.mode,
        isSubtype argument.1 typeshed.openBinaryMode = true) ↔
      'b' ∈ mode.toList := by
  rcases modeValue_cases isMode with ⟨absent, rfl⟩ | ⟨argument, passed, isValue⟩
  · exact iff_of_false (by simp [absent]) (by decide)
  · obtain ⟨text, rfl, listed⟩ := constant.mode argument passed
    cases isValue
    simp only [passed, Option.mem_some_iff, forall_eq', Typeshed.openBinaryMode,
      literals.str_iff, ne_eq, reduceCtorEq, not_false_eq_true, true_and]
    constructor
    · exact typeshed.binary mode
    · intro isBinary
      exact listed.resolve_left fun isText =>
        typeshed.text mode isText isBinary

/-- A constant buffering is known to be zero exactly when it is. -/
theorem fits_literalZero_iff
    {buffering : Int}
    (isBuffering :
      (arguments.map Prod.snd).bufferingValue = .int buffering) :
    (arguments.buffering ≠ none ∧ ∀ argument ∈ arguments.buffering,
        isSubtype argument.1 (literalInt 0) = true) ↔
      buffering = 0 := by
  rcases bufferingValue_cases isBuffering with
    ⟨absent, rfl⟩ | ⟨argument, passed, isValue⟩
  · exact iff_of_false (by simp [absent]) (by decide)
  · obtain ⟨number, rfl⟩ := constant.buffering argument passed
    cases isValue
    simp [passed, literals.int_iff]

/-- It is known to leave the choice to `io.open` exactly when it does. -/
theorem fits_literalDefaults_iff
    {buffering : Int}
    (isBuffering :
      (arguments.map Prod.snd).bufferingValue = .int buffering) :
    (∀ argument ∈ arguments.buffering,
        isSubtype argument.1 (.union [literalInt (-1), literalInt 1]) =
          true) ↔
      buffering = -1 ∨ buffering = 1 := by
  rcases bufferingValue_cases isBuffering with
    ⟨absent, rfl⟩ | ⟨argument, passed, isValue⟩
  · exact iff_of_true (by simp [absent]) (.inl rfl)
  · obtain ⟨number, rfl⟩ := constant.buffering argument passed
    cases isValue
    have listed := @LiteralSubtyping.ints_iff _ literals buffering [-1, 1]
    simpa [passed] using listed

/-- Every buffering is known to be a number. -/
theorem fits_int :
    ∀ argument ∈ arguments.buffering,
      isSubtype argument.1 (.inst "builtins.int" []) = true := by
  intro argument passed
  obtain ⟨number, rfl⟩ := constant.buffering argument passed
  exact literals.int number

variable
  {call : Supply (Ty × OpenValue)}
  (isSome : openArguments call = some arguments)
  {mode : String}
  (isMode : (arguments.map Prod.snd).modeValue = .str mode)
  {buffering : Int}
  (isBuffering : (arguments.map Prod.snd).bufferingValue = .int buffering)

include isSome isMode

/-- An accepted call has arguments that fit what all declarations ask for, and
in text mode those for text fit, too. -/
theorem fit_of_accepts
    {overload : Overload Ty FileClass}
    (declared : overload ∈ openFile typeshed)
    (accepted : Accepts (fun argument type => isSubtype argument.1 type = true)
      overload.formals call) :
    arguments.FitOthers (fun argument type => isSubtype argument.1 type = true)
        typeshed ∧
      ('b' ∉ mode.toList →
        arguments.FitText
          (fun argument type => isSubtype argument.1 type = true)
          optionalStr) := by
  have isOptional := strengthens_optional
  have isRequired := strengthens_required
  have binaryMode := fits_openBinaryMode_iff literals constant isMode
  simp only [openFile, List.mem_cons, List.not_mem_nil, or_false] at declared
  rcases declared with rfl | rfl | rfl | rfl | rfl
  · have fit := (accepts_iff_fit isSome (isOptional _ _) (isOptional _ _) _
      _).mp accepted
    exact ⟨fit.others, fun _ => fit.text⟩
  · have fit := (accepts_iff_fit isSome (isRequired _ _) (isRequired _ _) _
      _).mp accepted
    exact ⟨fit.others, fun isText =>
      absurd (binaryMode.mp ⟨fit.modePassed rfl, fit.mode⟩) isText⟩
  · have fit := (accepts_iff_fit isSome (isRequired _ _) (isOptional _ _) _
      _).mp accepted
    exact ⟨fit.others, fun isText =>
      absurd (binaryMode.mp ⟨fit.modePassed rfl, fit.mode⟩) isText⟩
  · have fit := (accepts_iff_fit isSome (isRequired _ _) (isRequired _ _) _
      _).mp accepted
    exact ⟨fit.others, fun isText =>
      absurd (binaryMode.mp ⟨fit.modePassed rfl, fit.mode⟩) isText⟩
  · have fit := (accepts_iff_fit isSome (isRequired _ _) (isOptional _ _) _
      _).mp accepted
    exact ⟨fit.others, fun _ => fit.text⟩

/-- The declaration for text accepts the calls in text mode. -/
theorem accepts_text_iff :
    Accepts (fun argument type => isSubtype argument.1 type = true)
        (openFileOverload typeshed (optional "mode" typeshed.openTextMode)
          (optional "buffering" (.inst "builtins.int" [])) optionalStr
          .asyncTextFileIo).formals call ↔
      'b' ∉ mode.toList ∧
        arguments.FitText
          (fun argument type => isSubtype argument.1 type = true)
          optionalStr ∧
        arguments.FitOthers
          (fun argument type => isSubtype argument.1 type = true) typeshed := by
  have textMode := fits_openTextMode_iff literals constant isMode
  rw [accepts_iff_fit isSome (strengthens_optional _ _)
    (strengthens_optional _ _)]
  constructor
  · intro fit
    exact ⟨textMode.mp fit.mode, fit.text, fit.others⟩
  · rintro ⟨isText, text, others⟩
    have hasDefault {name : String} {type : Ty} :
        (optional name type).kind ≠ .pos := by
      intro isPos
      cases isPos
    exact ⟨fun isPos => absurd isPos hasDefault,
      fun isPos => absurd isPos hasDefault, textMode.mpr isText,
      fits_int literals constant, text, others⟩

/-- The declarations for binary files accept the calls in binary mode with the
buffering they are for. -/
theorem accepts_binary_iff
    {bufferingFormal : Formal Ty}
    (isBufferingFormal : IsBuffering bufferingFormal)
    (result : FileClass) :
    Accepts (fun argument type => isSubtype argument.1 type = true)
        (openFileOverload typeshed (required "mode" typeshed.openBinaryMode)
          bufferingFormal .noneTyp result).formals call ↔
      'b' ∈ mode.toList ∧
        ((bufferingFormal.kind = .pos → arguments.buffering ≠ none) ∧
          ∀ argument ∈ arguments.buffering,
            isSubtype argument.1 bufferingFormal.type = true) ∧
        arguments.FitText
          (fun argument type => isSubtype argument.1 type = true) .noneTyp ∧
        arguments.FitOthers
          (fun argument type => isSubtype argument.1 type = true) typeshed := by
  have binaryMode := fits_openBinaryMode_iff literals constant isMode
  rw [accepts_iff_fit isSome (strengthens_required _ _) isBufferingFormal]
  constructor
  · intro fit
    exact ⟨binaryMode.mp ⟨fit.modePassed rfl, fit.mode⟩,
      ⟨fit.bufferingPassed, fit.buffering⟩, fit.text, fit.others⟩
  · rintro ⟨isBinary, ⟨bufferingPassed, fitsBuffering⟩, text, others⟩
    obtain ⟨modePassed, fitsMode⟩ := binaryMode.mpr isBinary
    exact ⟨fun _ => modePassed, bufferingPassed, fitsMode, fitsBuffering, text,
      others⟩

/-- The declaration for text is the first one. -/
theorem promised_of_text
    (isText : 'b' ∉ mode.toList)
    {promised : FileClass}
    (resolves : resolve (fun argument type => isSubtype argument.1 type = true)
      (openFile typeshed) call = some promised) :
    promised = .asyncTextFileIo := by
  obtain ⟨overload, declared, accepted, -⟩ := exists_accepts_of_resolve resolves
  obtain ⟨others, textFits⟩ :=
    fit_of_accepts literals constant isSome isMode declared accepted
  have textRow := accepts_text_iff literals constant isSome isMode
  rw [openFile, resolve_cons, if_pos (textRow.mpr ⟨isText, textFits isText,
    others⟩)] at resolves
  exact (Option.some.inj resolves).symm

/-- In binary mode, only the last declaration takes arguments for text that may
be given. -/
theorem promised_of_unknownText
    (isBinary : 'b' ∈ mode.toList)
    (unknown : ¬arguments.FitText
      (fun argument type => isSubtype argument.1 type = true) .noneTyp)
    {promised : FileClass}
    (resolves : resolve (fun argument type => isSubtype argument.1 type = true)
      (openFile typeshed) call = some promised) :
    promised = .asyncIo := by
  have notText := fun accepted =>
    ((accepts_text_iff literals constant isSome isMode).mp accepted).1 isBinary
  have notBinary {bufferingFormal : Formal Ty}
      (isBufferingFormal : IsBuffering bufferingFormal)
      (result : FileClass) := fun accepted =>
    unknown ((accepts_binary_iff literals constant isSome isMode
      isBufferingFormal result).mp accepted).2.2.1
  rw [openFile, resolve_cons, if_neg notText,
    resolve_cons, if_neg (notBinary (strengthens_required _ _) _),
    resolve_cons, if_neg (notBinary (strengthens_optional _ _) _),
    resolve_cons, if_neg (notBinary (strengthens_required _ _) _),
    resolve_cons] at resolves
  split at resolves
  · exact (Option.some.inj resolves).symm
  · cases resolves

include isBuffering

/-- Without arguments for text, the declarations for binary modes are tried by
the buffering, so that the promise is as exact as it allows. -/
theorem promised_of_binary
    (isBinary : 'b' ∈ mode.toList)
    (noText : arguments.FitText
      (fun argument type => isSubtype argument.1 type = true) .noneTyp)
    {promised : FileClass}
    (resolves : resolve (fun argument type => isSubtype argument.1 type = true)
      (openFile typeshed) call = some promised) :
    promised =
      if buffering = -1 ∨ buffering = 1 then .asyncBufferedFileIo
      else .asyncFileIo := by
  obtain ⟨overload, declared, accepted, -⟩ := exists_accepts_of_resolve resolves
  obtain ⟨others, -⟩ :=
    fit_of_accepts literals constant isSome isMode declared accepted
  have notText := fun accepted =>
    ((accepts_text_iff literals constant isSome isMode).mp accepted).1 isBinary
  have binaryRow {bufferingFormal : Formal Ty}
      (isBufferingFormal : IsBuffering bufferingFormal)
      (result : FileClass) :=
    accepts_binary_iff literals constant isSome isMode isBufferingFormal result
  have zero := fits_literalZero_iff literals constant isBuffering
  have defaults := fits_literalDefaults_iff literals constant isBuffering
  have unbuffered := binaryRow
    (strengthens_required "buffering" (literalInt 0)) .asyncFileIo
  have buffered := binaryRow
    (strengthens_optional "buffering" (.union [literalInt (-1), literalInt 1]))
    .asyncBufferedFileIo
  have unknown := binaryRow
    (strengthens_required "buffering" (.inst "builtins.int" [])) .asyncFileIo
  rw [openFile, resolve_cons, if_neg notText, resolve_cons] at resolves
  by_cases isZero : buffering = 0
  · rw [if_pos (unbuffered.mpr ⟨isBinary,
      ⟨fun _ => (zero.mpr isZero).1, (zero.mpr isZero).2⟩, noText, others⟩)]
      at resolves
    cases resolves
    exact (if_neg (by omega)).symm
  · have notZero := fun accepted =>
      have fits := (unbuffered.mp accepted).2.1
      isZero (zero.mp ⟨fits.1 rfl, fits.2⟩)
    rw [if_neg notZero, resolve_cons] at resolves
    by_cases isDefault : buffering = -1 ∨ buffering = 1
    · have hasDefault : (optional "buffering"
          (Ty.union [literalInt (-1), literalInt 1])).kind ≠ .pos := by
        intro isPos
        cases isPos
      rw [if_pos (buffered.mpr ⟨isBinary,
        ⟨fun isPos => absurd isPos hasDefault, defaults.mpr isDefault⟩,
        noText, others⟩)] at resolves
      cases resolves
      exact (if_pos isDefault).symm
    · have notDefaults := fun accepted =>
        isDefault (defaults.mp (buffered.mp accepted).2.1.2)
      have passed : arguments.buffering ≠ none := by
        intro absent
        apply isDefault
        apply defaults.mp
        simp [absent]
      rw [if_neg notDefaults, resolve_cons, if_pos (unknown.mpr ⟨isBinary,
        ⟨fun _ => passed, fits_int literals constant⟩, noText, others⟩)]
        at resolves
      cases resolves
      exact (if_neg isDefault).symm

end Constant

/-! ## The promise -/

/-- If the mode and the buffering are constants, the file that is opened is of
the very class that the result type promises, unless it is a binary file with a
buffer of a given size, for which a file is promised, or a binary file for which
an argument for text may be given, for which nothing is. -/
theorem promised_of_constant
    {isSubtype : Ty → Ty → Bool}
    (literals : LiteralSubtyping isSubtype)
    (typeshed : Typeshed)
    {call : Supply (Ty × OpenValue)}
    {arguments : OpenArguments (Ty × OpenValue)}
    (isSome : openArguments call = some arguments)
    (constant : arguments.Constant typeshed)
    {promised fileClass : FileClass}
    (resolves : resolveOpen isSubtype (openFile typeshed) (call.map Prod.fst) =
      some promised)
    (opens : opened (call.map Prod.snd) = some fileClass) :
    promised =
      if fileClass ≠ .asyncTextFileIo ∧
          (arguments.map Prod.fst).knowsNoText isSubtype = false then
        .asyncIo
      else if fileClass = .asyncBufferedFileIo ∧
          (arguments.map Prod.snd).bufferingValue ∉
            [OpenValue.int (-1), OpenValue.int 1] then
        .asyncFileIo
      else fileClass := by
  obtain ⟨found, isFound, opens⟩ := exists_arguments_of_opened opens
  obtain rfl : arguments = found := Option.some.inj (isSome.symm.trans isFound)
  obtain ⟨mode, buffering, isMode, isBuffering, outcome⟩ :=
    OpenArguments.eq_of_ioOpen opens
  unfold resolveOpen at resolves
  rw [resolve_map] at resolves
  rcases outcome with ⟨isText, rfl⟩ | ⟨isBinary, -, isClass⟩
  · rw [promised_of_text literals constant isSome isMode isText resolves]
    rfl
  · have notText : fileClass ≠ .asyncTextFileIo := by
      rw [isClass]
      split <;> decide
    by_cases knows : (arguments.map Prod.fst).knowsNoText isSubtype = true
    · have noText := OpenArguments.knowsNoText_iff.mp knows
      have notUnknown : ¬(fileClass ≠ .asyncTextFileIo ∧
          (arguments.map Prod.fst).knowsNoText isSubtype = false) := by
        simp [knows]
      rw [promised_of_binary literals constant isSome isMode isBuffering
        isBinary noText resolves, if_neg notUnknown, isClass, isBuffering]
      by_cases isZero : buffering = 0
      · simp [isZero]
      · by_cases isDefault : buffering = -1 ∨ buffering = 1
        · simp [isZero, isDefault]
        · simp [isZero, isDefault]
    · have unknown := fun noText =>
        knows (OpenArguments.knowsNoText_iff.mpr noText)
      rw [promised_of_unknownText literals constant isSome isMode isBinary
        unknown resolves]
      rw [if_pos ⟨notText, Bool.eq_false_of_not_eq_true knows⟩]

/-! ### Simple types -/

theorem literalSubtyping_isSimpleSubtype :
    LiteralSubtyping isSimpleSubtype where
  str_iff {name text texts} := by
    change isPlainSubtypeOfAny (literalStr text) (texts.map literalStr) =
      true ↔ text ∈ texts
    induction texts with
    | nil => simp [isPlainSubtypeOfAny]
    | cons head texts inductionHypothesis =>
        rw [List.map_cons, isPlainSubtypeOfAny, Bool.or_eq_true,
          inductionHypothesis, List.mem_cons]
        simp [isPlainSubtype, literalStr]
  ints_iff {number numbers} := by
    change isPlainSubtypeOfAny (literalInt number)
      (numbers.map literalInt) = true ↔ number ∈ numbers
    induction numbers with
    | nil => simp [isPlainSubtypeOfAny]
    | cons head numbers inductionHypothesis =>
        rw [List.map_cons, isPlainSubtypeOfAny, Bool.or_eq_true,
          inductionHypothesis, List.mem_cons]
        simp [isPlainSubtype, literalInt, -Int.toString_eq_repr,
          toString_int_inj]
  int_iff := by
    simp [isSimpleSubtype, isPlainSubtype, literalInt, -Int.toString_eq_repr,
      toString_int_inj]
  int number := by simp [isSimpleSubtype, isPlainSubtype, literalInt]

/-- `open_file("log", "rb", 4096, **keywords)`. -/
def constantCall (keywords : List (String × Ty × OpenValue)) :
    Supply (Ty × OpenValue) where
  positional := [(.inst "builtins.str" [], .str "log"),
    (literalStr "rb", .str "rb"), (literalInt 4096, .int 4096)]
  keywords := keywords

/-- The arguments of such a call. -/
def constantArguments (encoding : Option (Ty × OpenValue)) :
    OpenArguments (Ty × OpenValue) where
  file := some (.inst "builtins.str" [], .str "log")
  mode := some (literalStr "rb", .str "rb")
  buffering := some (literalInt 4096, .int 4096)
  encoding := encoding
  errors := none
  newline := none
  closefd := none
  opener := none

theorem constantArguments_constant (encoding : Option (Ty × OpenValue)) :
    (constantArguments encoding).Constant commonModes := by
  constructor <;> simp [constantArguments, commonModes]

/-- Both exceptions: a buffer of a given size, and an encoding that is `None` and
not known to be. -/
theorem promised_of_constant_sized :
    (FileClass.asyncFileIo =
      if FileClass.asyncBufferedFileIo ≠ .asyncTextFileIo ∧
          ((constantArguments none).map Prod.fst).knowsNoText
            isSimpleSubtype = false then
        .asyncIo
      else if FileClass.asyncBufferedFileIo = .asyncBufferedFileIo ∧
          ((constantArguments none).map Prod.snd).bufferingValue ∉
            [OpenValue.int (-1), OpenValue.int 1] then
        .asyncFileIo
      else .asyncBufferedFileIo) ∧
      FileClass.asyncIo =
        if FileClass.asyncBufferedFileIo ≠ .asyncTextFileIo ∧
            ((constantArguments (some (optionalStr, .none))).map
              Prod.fst).knowsNoText isSimpleSubtype = false then
          .asyncIo
        else if FileClass.asyncBufferedFileIo = .asyncBufferedFileIo ∧
            ((constantArguments (some (optionalStr, .none))).map
              Prod.snd).bufferingValue ∉
              [OpenValue.int (-1), OpenValue.int 1] then
          .asyncFileIo
        else .asyncBufferedFileIo := by
  constructor
  · exact promised_of_constant literalSubtyping_isSimpleSubtype commonModes
      (show openArguments (constantCall []) = some (constantArguments none)
        from rfl)
      (constantArguments_constant none) (by decide) (by decide)
  · exact promised_of_constant literalSubtyping_isSimpleSubtype commonModes
      (show openArguments
          (constantCall [("encoding", optionalStr, .none)]) =
        some (constantArguments (some (optionalStr, .none))) from rfl)
      (constantArguments_constant _) (by decide) (by decide)

end Stubs
end TrioTyping
