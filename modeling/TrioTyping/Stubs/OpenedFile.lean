import Mathlib.Data.Set.Insert
import TrioTyping.AsyncGenerator.Meaning
import TrioTyping.Stubs.OpenFile

/-!
# Which file is opened

`io.open` chooses the class of a file object by the mode and the buffering. The
result type of `open_file` promises a class on the basis of the types of the
arguments alone. The main result compares the two: the file is of the promised
class or of one derived from it.
-/

namespace TrioTyping
namespace Stubs

open Calling

/-! ## The arguments of a call -/

/-- The parameters of `io.open`. -/
def ioOpenFormals : List (Formal Unit) :=
  required "file" () :: openNames ++
    [optional "closefd" (), optional "opener" ()]

/-- The arguments of a call, by the parameter they go to. -/
structure OpenArguments (α : Type) where
  file : Option α
  mode : Option α
  buffering : Option α
  encoding : Option α
  errors : Option α
  newline : Option α
  closefd : Option α
  opener : Option α

/-- What each parameter takes. -/
def OpenArguments.toLists
    {α : Type}
    (arguments : OpenArguments α) : List (List α) :=
  [arguments.file.toList, arguments.mode.toList, arguments.buffering.toList,
    arguments.encoding.toList, arguments.errors.toList,
    arguments.newline.toList, arguments.closefd.toList,
    arguments.opener.toList]

/-- Apply a function to every argument. -/
def OpenArguments.map
    {α β : Type}
    (f : α → β)
    (arguments : OpenArguments α) : OpenArguments β where
  file := arguments.file.map f
  mode := arguments.mode.map f
  buffering := arguments.buffering.map f
  encoding := arguments.encoding.map f
  errors := arguments.errors.map f
  newline := arguments.newline.map f
  closefd := arguments.closefd.map f
  opener := arguments.opener.map f

/-- The arguments of a call, if it binds to the parameters of `io.open`. -/
def openArguments {α : Type} (call : Supply α) : Option (OpenArguments α) :=
  match bind ioOpenFormals call with
  | some [file, mode, buffering, encoding, errors, newline, closefd, opener] =>
      some ⟨file.head?, mode.head?, buffering.head?, encoding.head?,
        errors.head?, newline.head?, closefd.head?, opener.head?⟩
  | _ => none

section Arguments

variable {α β : Type} {call : Supply α}

/-- Every parameter takes at most one argument. -/
theorem openArguments_eq_some_iff {arguments : OpenArguments α} :
    openArguments call = some arguments ↔
      bind ioOpenFormals call = some arguments.toLists := by
  have single {taken : List α} (atMostOne : taken.length ≤ 1) :
      taken.head?.toList = taken := by
    match taken, atMostOne with
    | [], _ => rfl
    | [_], _ => rfl
  unfold openArguments
  constructor
  · intro isSome
    split at isSome
    · next file mode buffering encoding errors newline closefd opener binds =>
        have atMostOne := bind_positional_length_le_one (by decide) binds
        simp only [List.forall_mem_cons, List.not_mem_nil] at atMostOne
        obtain ⟨oneFile, oneMode, oneBuffering, oneEncoding, oneErrors,
          oneNewline, oneClosefd, oneOpener, -⟩ := atMostOne
        cases isSome
        simp only [binds, OpenArguments.toLists, single oneFile, single oneMode,
          single oneBuffering, single oneEncoding, single oneErrors,
          single oneNewline, single oneClosefd, single oneOpener]
    · cases isSome
  · intro binds
    simp only [binds, OpenArguments.toLists, Option.head?_toList]

/-- A call that binds has arguments. -/
theorem exists_openArguments
    {bound : List (List α)}
    (binds : bind ioOpenFormals call = some bound) :
    ∃ arguments, openArguments call = some arguments := by
  have lengths : bound.length = 8 := bind_length binds
  unfold openArguments
  rw [binds]
  match bound, lengths with
  | [_, _, _, _, _, _, _, _], _ => exact ⟨_, rfl⟩

/-- A file is always passed. -/
theorem file_ne_none_of_openArguments
    {arguments : OpenArguments α}
    (isSome : openArguments call = some arguments) :
    arguments.file ≠ none := by
  have binds := openArguments_eq_some_iff.mp isSome
  have same : List.Forall₂ Formal.Strengthens ioOpenFormals ioOpenFormals :=
    List.forall₂_same.mpr fun _ _ => ⟨rfl, .inl rfl⟩
  have passed := ((bind_strengthens_iff same).mp binds).2
  unfold ioOpenFormals OpenArguments.toLists at passed
  rw [List.cons_append, List.forall₂_cons] at passed
  have filePassed := passed.1 rfl
  rw [ne_eq, Option.toList_eq_nil_iff] at filePassed
  exact filePassed

/-- Binding the arguments does not depend on what they are. -/
theorem openArguments_map (f : α → β) :
    openArguments (call.map f) =
      (openArguments call).map (OpenArguments.map f) := by
  unfold openArguments
  rw [bind_map]
  cases bind ioOpenFormals call with
  | none => rfl
  | some bound =>
      rcases bound with _ | ⟨_, _ | ⟨_, _ | ⟨_, _ | ⟨_, _ | ⟨_, _ | ⟨_, _ | ⟨_,
        _ | ⟨_, _ | ⟨_, _⟩⟩⟩⟩⟩⟩⟩⟩⟩
      case cons.cons.cons.cons.cons.cons.cons.cons.nil =>
        simp [OpenArguments.map, List.head?_map]
      all_goals rfl

end Arguments

/-! ## What a declaration asks of the arguments -/

/-- The arguments for text are of a type. -/
structure OpenArguments.FitText
    {α : Type}
    (fits : α → Ty → Prop)
    (text : Ty)
    (arguments : OpenArguments α) : Prop where
  encoding : ∀ argument ∈ arguments.encoding, fits argument text
  errors : ∀ argument ∈ arguments.errors, fits argument text
  newline : ∀ argument ∈ arguments.newline, fits argument text

/-- The arguments that all declarations treat alike fit. -/
structure OpenArguments.FitOthers
    {α : Type}
    (fits : α → Ty → Prop)
    (typeshed : Typeshed)
    (arguments : OpenArguments α) : Prop where
  file : ∀ argument ∈ arguments.file, fits argument typeshed.openFileType
  closefd : ∀ argument ∈ arguments.closefd,
    fits argument (.inst "builtins.bool" [])
  opener : ∀ argument ∈ arguments.opener, fits argument optionalOpener

/-- The arguments that are passed fit a declaration, and the parameters without a
default are among them. -/
structure OpenArguments.Fit
    {α : Type}
    (fits : α → Ty → Prop)
    (typeshed : Typeshed)
    (mode buffering : Formal Ty)
    (text : Ty)
    (arguments : OpenArguments α) : Prop where
  modePassed : mode.kind = .pos → arguments.mode ≠ none
  bufferingPassed : buffering.kind = .pos → arguments.buffering ≠ none
  mode : ∀ argument ∈ arguments.mode, fits argument mode.type
  buffering : ∀ argument ∈ arguments.buffering, fits argument buffering.type
  text : arguments.FitText fits text
  others : arguments.FitOthers fits typeshed

/-- A declaration accepts a call when the arguments fit it. -/
theorem accepts_openFileOverload_iff
    {α : Type}
    {fits : α → Ty → Prop}
    {typeshed : Typeshed}
    {mode buffering : Formal Ty}
    (isMode : IsMode mode)
    (isBuffering : IsBuffering buffering)
    (text : Ty)
    (result : FileClass)
    (call : Supply α) :
    Accepts fits
        (openFileOverload typeshed mode buffering text result).formals call ↔
      ∃ arguments, openArguments call = some arguments ∧
        arguments.Fit fits typeshed mode buffering text := by
  have same := strengthens_optional
  have strengthens :
      List.Forall₂ Formal.Strengthens
        (openFileOverload typeshed mode buffering text result).formals
        ioOpenFormals :=
    .cons ⟨rfl, .inl rfl⟩ (.cons isMode (.cons isBuffering
      (.cons (same _ _) (.cons (same _ _) (.cons (same _ _)
        (.cons (same _ _) (.cons (same _ _) .nil)))))))
  have fit (arguments : OpenArguments α) (filePassed : arguments.file ≠ none) :
      List.Forall₂ (fun formal taken => formal.kind = .pos → taken ≠ [])
          (openFileOverload typeshed mode buffering text result).formals
          arguments.toLists ∧
        Fits fits (openFileOverload typeshed mode buffering text result).formals
          arguments.toLists ↔
      arguments.Fit fits typeshed mode buffering text := by
    simp only [Fits, openFileOverload, openOverload, openFormals,
      OpenArguments.toLists, List.cons_append, List.nil_append,
      List.forall₂_cons, List.Forall₂.nil, Option.mem_toList, ne_eq,
      Option.toList_eq_nil_iff, required, optional, reduceCtorEq,
      false_implies, true_implies, and_true, true_and, filePassed,
      not_false_eq_true]
    constructor
    · rintro ⟨⟨modePassed, bufferingPassed⟩, file, mode, buffering, encoding,
        errors, newline, closefd, opener⟩
      exact ⟨modePassed, bufferingPassed, mode, buffering,
        ⟨encoding, errors, newline⟩, ⟨file, closefd, opener⟩⟩
    · intro fit
      exact ⟨⟨fit.modePassed, fit.bufferingPassed⟩, fit.others.file, fit.mode,
        fit.buffering, fit.text.encoding, fit.text.errors, fit.text.newline,
        fit.others.closefd, fit.others.opener⟩
  unfold Accepts
  simp only [bind_strengthens_iff strengthens]
  constructor
  · rintro ⟨bound, ⟨binds, passed⟩, fits⟩
    obtain ⟨arguments, isSome⟩ := exists_openArguments binds
    have filePassed := file_ne_none_of_openArguments isSome
    obtain rfl : bound = arguments.toLists := Option.some.inj
      (binds.symm.trans (openArguments_eq_some_iff.mp isSome))
    exact ⟨arguments, isSome, (fit arguments filePassed).mp ⟨passed, fits⟩⟩
  · rintro ⟨arguments, isSome, fits⟩
    have filePassed := file_ne_none_of_openArguments isSome
    obtain ⟨passed, fits⟩ := (fit arguments filePassed).mpr fits
    exact ⟨arguments.toLists, ⟨openArguments_eq_some_iff.mp isSome, passed⟩,
      fits⟩

/-! ## `io.open` -/

/-- Values, as far as `io.open` tells them apart. -/
inductive OpenValue
  | none
  | str (text : String)
  | int (number : Int)
  | other
  deriving DecidableEq, Repr

/-- The modes that `io.open` takes. Up to Python 3.10, `U` is one of the letters
and stands for reading. -/
def ValidMode (mode : String) : Prop :=
  mode.toList.Nodup ∧
    mode.toList ⊆ ['a', 'x', 'r', 'w', 'b', '+', 't', 'U'] ∧
    ¬('t' ∈ mode.toList ∧ 'b' ∈ mode.toList) ∧
    ('U' ∈ mode.toList → ∀ letter ∈ ['x', 'w', 'a', '+'],
      letter ∉ mode.toList) ∧
    ('U' ∉ mode.toList →
      (mode.toList.countP fun letter => letter ∈ ['x', 'r', 'w', 'a']) = 1)

instance : DecidablePred ValidMode := fun _ =>
  inferInstanceAs (Decidable (_ ∧ _ ∧ _ ∧ _ ∧ _))

/-- The line ends that text files are opened with. -/
def validNewlines : List OpenValue :=
  [.none, .str "", .str "\n", .str "\r", .str "\r\n"]

namespace OpenArguments

variable (arguments : OpenArguments OpenValue)

/-- The mode. -/
def modeValue : OpenValue :=
  arguments.mode.getD (.str "r")

/-- The buffering. -/
def bufferingValue : OpenValue :=
  arguments.buffering.getD (.int (-1))

/-- None of the arguments for text is given. -/
def NoText : Prop :=
  arguments.encoding.getD .none = .none ∧
    arguments.errors.getD .none = .none ∧
    arguments.newline.getD .none = .none

instance : Decidable arguments.NoText :=
  inferInstanceAs (Decidable (_ ∧ _ ∧ _))

/-- The class of the file object that `io.open` makes, in terms of the class
that replicates it, unless the mode, the buffering and the newline make it raise
an exception. Whether there is such a file and such an encoding is left open. -/
def ioOpen : Option FileClass :=
  match arguments.modeValue, arguments.bufferingValue with
  | .str mode, .int buffering =>
      -- the buffering becomes a C `int`
      if ¬ValidMode mode ∨ buffering < -2147483648 ∨ 2147483647 < buffering then
        none
      else if 'b' ∈ mode.toList then
        -- binary mode takes no encoding, errors or newline
        if ¬arguments.NoText then none
        else if buffering = 0 then some .asyncFileIo
        else some .asyncBufferedFileIo
      -- there is no unbuffered text
      else if buffering = 0 ∨ arguments.newline.getD .none ∉ validNewlines then
        none
      else some .asyncTextFileIo
  | _, _ => none

variable {arguments}

/-- The class depends on the kind of mode and the buffering. -/
theorem eq_of_ioOpen
    {fileClass : FileClass}
    (opens : arguments.ioOpen = some fileClass) :
    ∃ mode buffering, arguments.modeValue = .str mode ∧
      arguments.bufferingValue = .int buffering ∧
      ('b' ∉ mode.toList ∧ fileClass = .asyncTextFileIo ∨
        'b' ∈ mode.toList ∧ arguments.NoText ∧
          fileClass = if buffering = 0 then .asyncFileIo
            else .asyncBufferedFileIo) := by
  unfold ioOpen at opens
  split at opens
  · next mode buffering isMode isBuffering =>
      refine ⟨mode, buffering, isMode, isBuffering, ?_⟩
      split at opens
      · cases opens
      · by_cases binary : 'b' ∈ mode.toList
        · rw [if_pos binary] at opens
          by_cases noText : arguments.NoText
          · rw [if_neg (not_not_intro noText)] at opens
            refine .inr ⟨binary, noText, ?_⟩
            split at opens <;> simp_all
          · rw [if_pos noText] at opens
            cases opens
        · rw [if_neg binary] at opens
          refine .inl ⟨binary, ?_⟩
          split at opens <;> simp_all
  · cases opens

end OpenArguments

/-- The class of the file that a call opens. -/
def opened (call : Supply OpenValue) : Option FileClass :=
  (openArguments call).bind OpenArguments.ioOpen

/-! ## The promised class -/

/-- The values of types, as far as opening files depends on them. -/
structure OpenMeaning (isSubtype : Ty → Ty → Bool) where
  /-- The values of a type. -/
  values : Ty → Set OpenValue
  /-- An alias stands for its target. -/
  values_typeAlias : ∀ name target,
    values (.typeAlias name target) = values target
  /-- A union has the values of its arms. -/
  values_union : ∀ items value,
    value ∈ values (.union items) ↔ ∃ item ∈ items, value ∈ values item
  /-- A literal string has one value. -/
  values_literalStr : ∀ text, values (literalStr text) = {.str text}
  /-- So does a literal number. -/
  values_literalInt : ∀ number, values (literalInt number) = {.int number}
  /-- Subtyping is sound. -/
  values_subtype : ∀ {subtype supertype}, subtype.mentionsAny = false →
    isSubtype subtype supertype = true → values subtype ⊆ values supertype

namespace OpenMeaning

variable
  {isSubtype : Ty → Ty → Bool}
  (meaning : OpenMeaning isSubtype)
  {typeshed : Typeshed}

/-- An alias of a union of literal strings has these as its values. -/
theorem mem_values_literals_iff
    {name : String}
    {texts : List String}
    {value : OpenValue} :
    value ∈ meaning.values (.typeAlias name (.union (texts.map literalStr))) ↔
      ∃ text ∈ texts, value = .str text := by
  rw [meaning.values_typeAlias, meaning.values_union]
  simp only [List.mem_map, exists_exists_and_eq_and, meaning.values_literalStr,
    Set.mem_singleton_iff]

/-- An argument is of a type and has a value of it. -/
def WellTyped (argument : Ty × OpenValue) : Prop :=
  argument.1.mentionsAny = false ∧ argument.2 ∈ meaning.values argument.1

variable {meaning}

/-- An argument that fits a parameter has a value of its type. -/
theorem WellTyped.mem_values
    {argument : Ty × OpenValue}
    (wellTyped : meaning.WellTyped argument)
    {type : Ty}
    (fits : isSubtype argument.1 type = true) :
    argument.2 ∈ meaning.values type :=
  meaning.values_subtype wellTyped.1 fits wellTyped.2

end OpenMeaning

section Sound

variable
  {isSubtype : Ty → Ty → Bool}
  {meaning : OpenMeaning isSubtype}
  {typeshed : Typeshed}
  {arguments : OpenArguments (Ty × OpenValue)}

/-- Without a mode, a file is opened for reading text. -/
theorem modeValue_cases
    {mode : String}
    (isMode : (arguments.map Prod.snd).modeValue = .str mode) :
    arguments.mode = none ∧ mode = "r" ∨
      ∃ argument, arguments.mode = some argument ∧ argument.2 = .str mode := by
  unfold OpenArguments.modeValue OpenArguments.map at isMode
  dsimp only at isMode
  cases passed : arguments.mode with
  | none =>
      rw [passed] at isMode
      cases isMode
      exact .inl ⟨rfl, rfl⟩
  | some argument =>
      rw [passed] at isMode
      exact .inr ⟨argument, rfl, isMode⟩

/-- Without a buffering, it is left to `io.open`. -/
theorem bufferingValue_cases
    {buffering : Int}
    (isBuffering :
      (arguments.map Prod.snd).bufferingValue = .int buffering) :
    arguments.buffering = none ∧ buffering = -1 ∨
      ∃ argument, arguments.buffering = some argument ∧
        argument.2 = .int buffering := by
  unfold OpenArguments.bufferingValue OpenArguments.map at isBuffering
  dsimp only at isBuffering
  cases passed : arguments.buffering with
  | none =>
      rw [passed] at isBuffering
      cases isBuffering
      exact .inl ⟨rfl, rfl⟩
  | some argument =>
      rw [passed] at isBuffering
      exact .inr ⟨argument, rfl, isBuffering⟩

/-- A mode that is accepted as a text mode is one. -/
theorem modeValue_text
    {mode : String}
    (isMode : (arguments.map Prod.snd).modeValue = .str mode)
    (wellTyped : ∀ argument ∈ arguments.mode, meaning.WellTyped argument)
    (fits : ∀ argument ∈ arguments.mode,
      isSubtype argument.1 typeshed.openTextMode = true) :
    'b' ∉ mode.toList := by
  rcases modeValue_cases isMode with ⟨-, rfl⟩ | ⟨argument, passed, isValue⟩
  · decide
  · have value := (wellTyped argument passed).mem_values (fits argument passed)
    obtain ⟨text, listed, isText⟩ := meaning.mem_values_literals_iff.mp value
    rw [isValue] at isText
    cases isText
    exact typeshed.text mode listed

/-- A mode that is accepted as a binary mode is one. -/
theorem modeValue_binary
    {mode : String}
    (isMode : (arguments.map Prod.snd).modeValue = .str mode)
    (modePassed : arguments.mode ≠ none)
    (wellTyped : ∀ argument ∈ arguments.mode, meaning.WellTyped argument)
    (fits : ∀ argument ∈ arguments.mode,
      isSubtype argument.1 typeshed.openBinaryMode = true) :
    'b' ∈ mode.toList := by
  rcases modeValue_cases isMode with ⟨absent, -⟩ | ⟨argument, passed, isValue⟩
  · exact absurd absent modePassed
  · have value := (wellTyped argument passed).mem_values (fits argument passed)
    obtain ⟨text, listed, isText⟩ := meaning.mem_values_literals_iff.mp value
    rw [isValue] at isText
    cases isText
    exact typeshed.binary mode listed

/-- The buffering is a value of the type it fits, if it is passed. -/
theorem bufferingValue_mem
    {type : Ty}
    {buffering : Int}
    (isBuffering :
      (arguments.map Prod.snd).bufferingValue = .int buffering)
    (wellTyped : ∀ argument ∈ arguments.buffering, meaning.WellTyped argument)
    (fits : ∀ argument ∈ arguments.buffering,
      isSubtype argument.1 type = true) :
    arguments.buffering = none ∧ buffering = -1 ∨
      .int buffering ∈ meaning.values type := by
  refine (bufferingValue_cases isBuffering).imp_right ?_
  rintro ⟨argument, passed, isValue⟩
  rw [← isValue]
  exact (wellTyped argument passed).mem_values (fits argument passed)

/-- A declaration accepts a call when its arguments fit. -/
theorem accepts_iff_fit
    {call : Supply (Ty × OpenValue)}
    (isSome : openArguments call = some arguments)
    {mode buffering : Formal Ty}
    (isMode : IsMode mode)
    (isBuffering : IsBuffering buffering)
    (text : Ty)
    (result : FileClass) :
    Accepts (fun argument type => isSubtype argument.1 type = true)
        (openFileOverload typeshed mode buffering text result).formals call ↔
      arguments.Fit (fun argument type => isSubtype argument.1 type = true)
        typeshed mode buffering text := by
  rw [accepts_openFileOverload_iff isMode isBuffering]
  constructor
  · rintro ⟨found, isFound, fit⟩
    obtain rfl : arguments = found :=
      Option.some.inj (isSome.symm.trans isFound)
    exact fit
  · intro fit
    exact ⟨arguments, isSome, fit⟩

/-- What each of the declarations promises. -/
theorem isSubclass_of_fit
    {overload : Overload Ty FileClass}
    {fileClass : FileClass}
    {call : Supply (Ty × OpenValue)}
    (declared : overload ∈ openFile typeshed)
    (accepted : Accepts (fun argument type => isSubtype argument.1 type = true)
      overload.formals call)
    (isSome : openArguments call = some arguments)
    (modeTyped : ∀ argument ∈ arguments.mode, meaning.WellTyped argument)
    (bufferingTyped :
      ∀ argument ∈ arguments.buffering, meaning.WellTyped argument)
    (opens : (arguments.map Prod.snd).ioOpen = some fileClass) :
    fileClass.IsSubclass overload.result := by
  obtain ⟨mode, buffering, isMode, isBuffering, outcome⟩ :=
    OpenArguments.eq_of_ioOpen opens
  have fit {mode buffering : Formal Ty} {text : Ty} {result : FileClass}
      (isMode : IsMode mode)
      (isBuffering : IsBuffering buffering) :=
    (@accepts_iff_fit isSubtype typeshed _ _ isSome _ _ isMode isBuffering text
      result).mp
  simp only [openFile, List.mem_cons, List.not_mem_nil, or_false] at declared
  rcases declared with rfl | rfl | rfl | rfl | rfl
  · -- text
    have fits := fit (strengthens_optional _ _) (strengthens_optional _ _)
      accepted
    have noBinary := modeValue_text isMode modeTyped fits.mode
    rcases outcome with ⟨-, rfl⟩ | ⟨binary, -⟩
    · exact .refl
    · exact absurd binary noBinary
  · -- unbuffered
    have fits := fit (strengthens_required _ _) (strengthens_required _ _)
      accepted
    have binary := modeValue_binary isMode (fits.modePassed rfl) modeTyped
      fits.mode
    rcases outcome with ⟨noBinary, -⟩ | ⟨-, -, rfl⟩
    · exact absurd binary noBinary
    · rcases bufferingValue_mem isBuffering bufferingTyped fits.buffering with
        ⟨absent, -⟩ | value
      · exact absurd absent (fits.bufferingPassed rfl)
      · change _ ∈ meaning.values (literalInt 0) at value
        rw [meaning.values_literalInt, Set.mem_singleton_iff,
          OpenValue.int.injEq] at value
        rw [if_pos value]
        exact .refl
  · -- buffered
    have fits := fit (strengthens_required _ _) (strengthens_optional _ _)
      accepted
    have binary := modeValue_binary isMode (fits.modePassed rfl) modeTyped
      fits.mode
    rcases outcome with ⟨noBinary, -⟩ | ⟨-, -, rfl⟩
    · exact absurd binary noBinary
    · have notZero : buffering ≠ 0 := by
        rcases bufferingValue_mem isBuffering bufferingTyped
          fits.buffering with ⟨-, rfl⟩ | value
        · decide
        · change _ ∈ meaning.values (.union [literalInt (-1), literalInt 1])
            at value
          rw [meaning.values_union] at value
          simp only [List.mem_cons, List.not_mem_nil, or_false,
            exists_eq_or_imp, exists_eq_left, meaning.values_literalInt,
            Set.mem_singleton_iff, OpenValue.int.injEq] at value
          omega
      rw [if_neg notZero]
      exact .refl
  · -- the buffering is not known
    have fits := fit (strengthens_required _ _) (strengthens_required _ _)
      accepted
    have binary := modeValue_binary isMode (fits.modePassed rfl) modeTyped
      fits.mode
    rcases outcome with ⟨noBinary, -⟩ | ⟨-, -, rfl⟩
    · exact absurd binary noBinary
    · split
      · exact .refl
      · exact .single rfl
  · -- nor is the mode
    exact fileClass.isSubclass_asyncIo

end Sound

/-- A call that opens a file has arguments with which `io.open` does so. -/
theorem exists_arguments_of_opened
    {call : Supply (Ty × OpenValue)}
    {fileClass : FileClass}
    (opens : opened (call.map Prod.snd) = some fileClass) :
    ∃ arguments, openArguments call = some arguments ∧
      (arguments.map Prod.snd).ioOpen = some fileClass := by
  unfold opened at opens
  rw [openArguments_map, Option.bind_eq_some_iff] at opens
  obtain ⟨_, areValues, opens⟩ := opens
  obtain ⟨arguments, isSome, rfl⟩ := Option.map_eq_some_iff.mp areValues
  exact ⟨arguments, isSome, opens⟩

/-- The file that is opened is of the class that the result type promises or of
one derived from it, if the mode and the buffering have the types they are
declared to have. -/
theorem opened_isSubclass
    {isSubtype : Ty → Ty → Bool}
    (meaning : OpenMeaning isSubtype)
    (typeshed : Typeshed)
    {call : Supply (Ty × OpenValue)}
    (wellTyped : ∀ arguments ∈ openArguments call, ∀ argument,
      argument ∈ arguments.mode ∨ argument ∈ arguments.buffering →
        meaning.WellTyped argument)
    {promised fileClass : FileClass}
    (resolves : resolveOpen isSubtype (openFile typeshed) (call.map Prod.fst) =
      some promised)
    (opens : opened (call.map Prod.snd) = some fileClass) :
    fileClass.IsSubclass promised := by
  obtain ⟨arguments, isSome, opens⟩ := exists_arguments_of_opened opens
  unfold resolveOpen at resolves
  rw [resolve_map] at resolves
  obtain ⟨overload, declared, accepted, rfl⟩ :=
    exists_accepts_of_resolve resolves
  have typed := wellTyped arguments isSome
  exact isSubclass_of_fit declared accepted isSome
    (fun argument passed => typed argument (.inl passed))
    (fun argument passed => typed argument (.inr passed)) opens

/-! ### Simple types -/

/-- A natural number can be read from its digits. -/
theorem repr_nat_injective : Function.Injective Nat.repr := by
  intro number number' same
  have digits := congrArg String.toList same
  rw [Nat.toList_repr, Nat.toList_repr] at digits
  simpa using congrArg (fun letters => Nat.ofDigitChars 10 letters 0) digits

/-- So can an integer, as no digit is a minus sign. -/
theorem toString_int_inj {number number' : Int} :
    toString number = toString number' ↔ number = number' := by
  have noMinus {number : Nat} {text : String} :
      Nat.repr number ≠ "-" ++ text := by
    intro same
    have member : '-' ∈ (Nat.repr number).toList := by
      rw [same]
      simp
    rw [Nat.toList_repr] at member
    have isDigit := Nat.isDigit_of_mem_toDigits (by decide) (by decide) member
    cases isDigit
  constructor
  · intro same
    rw [Int.toString_eq_repr, Int.toString_eq_repr, Int.repr_eq_if,
      Int.repr_eq_if] at same
    split at same <;> split at same
    · have sameNat := repr_nat_injective same
      omega
    · exact absurd same noMinus
    · exact absurd same.symm noMinus
    · have sameNat := repr_nat_injective ((String.append_right_inj "-").mp same)
      omega
  · rintro rfl
    rfl

/-- The full name of the class. -/
def OpenValue.className : OpenValue → String
  | .none => "types.NoneType"
  | .str _ => "builtins.str"
  | .int _ => "builtins.int"
  | .other => "builtins.object"

/-- The value as it is written in a literal type. -/
def OpenValue.literal : OpenValue → String
  | .str text => text
  | .int number => toString number
  | _ => ""

mutual

/-- The value has a simple type. -/
def IsValueOf (value : OpenValue) : Ty → Prop
  | .typeAlias _ target => IsValueOf value target
  | .union items => IsValueOfAny value items
  | .noneTyp => value = .none
  | .inst fullname [] => value.className = fullname
  | .other "LiteralType" [.inst fullname [], .other literal []] =>
      value.className = fullname ∧ value.literal = literal
  | _ => False

/-- The value has the type of an arm of a union. -/
def IsValueOfAny (value : OpenValue) : List Ty → Prop
  | [] => False
  | item :: items => IsValueOf value item ∨ IsValueOfAny value items

end

theorem isValueOfAny_iff
    {value : OpenValue}
    {items : List Ty} :
    IsValueOfAny value items ↔ ∃ item ∈ items, IsValueOf value item := by
  induction items with
  | nil => simp [IsValueOfAny]
  | cons item items inductionHypothesis =>
      simp [IsValueOfAny, inductionHypothesis]

theorem IsValueOf.of_isPlainSubtype
    {value : OpenValue}
    {subtype supertype : Ty}
    (isSubtype : isPlainSubtype subtype supertype = true)
    (isValue : IsValueOf value subtype) :
    IsValueOf value supertype := by
  induction supertype using isPlainSubtype.induct subtype
      (motive_2 := fun items =>
        isPlainSubtypeOfAny subtype items = true →
          IsValueOfAny value items) with
  | case12 item items ofItem ofItems isSubtype =>
      unfold isPlainSubtypeOfAny at isSubtype
      unfold IsValueOfAny
      exact (Bool.or_eq_true_iff.mp isSubtype).imp ofItem ofItems
  | _ =>
      simp_all [isPlainSubtype, isPlainSubtypeOfAny, IsValueOf]

theorem IsValueOf.of_isSimpleSubtype
    {value : OpenValue}
    {subtype supertype : Ty}
    (isSubtype : isSimpleSubtype subtype supertype = true)
    (isValue : IsValueOf value subtype) :
    IsValueOf value supertype := by
  induction subtype, supertype using isSimpleSubtype.induct
      (motive_2 := fun items supertype =>
        areSimpleSubtypes items supertype = true →
          IsValueOfAny value items → IsValueOf value supertype) with
  | case1 name target supertype ofTarget =>
      unfold isSimpleSubtype at isSubtype
      unfold IsValueOf at isValue
      exact ofTarget isSubtype isValue
  | case2 items supertype ofItems =>
      unfold isSimpleSubtype at isSubtype
      unfold IsValueOf at isValue
      exact ofItems isSubtype isValue
  | case3 subtype supertype notAlias notUnion =>
      simp only [isSimpleSubtype] at isSubtype
      exact isValue.of_isPlainSubtype isSubtype
  | case4 supertype => simp_all [IsValueOfAny]
  | case5 item items supertype ofItem ofItems areSubtypes isValue =>
      unfold areSimpleSubtypes at areSubtypes
      unfold IsValueOfAny at isValue
      rw [Bool.and_eq_true_iff] at areSubtypes
      exact isValue.elim (ofItem areSubtypes.1) (ofItems areSubtypes.2)

/-- Subtyping of simple types is sound. -/
def simpleMeaning : OpenMeaning isSimpleSubtype where
  values type := {value | IsValueOf value type}
  values_typeAlias _ _ := rfl
  values_union items value := by
    rw [Set.mem_ofPred_eq, IsValueOf]
    exact isValueOfAny_iff
  values_literalStr text := by
    ext value
    cases value <;>
      simp [literalStr, IsValueOf, OpenValue.className, OpenValue.literal]
  values_literalInt number := by
    ext value
    cases value <;>
      simp [literalInt, IsValueOf, OpenValue.className, OpenValue.literal,
        -Int.toString_eq_repr, toString_int_inj]
  values_subtype _ isSubtype _ isValue := isValue.of_isSimpleSubtype isSubtype

/-- `open_file("log", "rb", size)`. -/
def sizedCall : Supply (Ty × OpenValue) where
  positional := [(.inst "builtins.str" [], .str "log"),
    (literalStr "rb", .str "rb"), (.inst "builtins.int" [], .int 4096)]
  keywords := []

/-- A size that is only known to be a number. -/
theorem opened_isSubclass_sized :
    resolveOpen isSimpleSubtype (openFile commonModes)
        (sizedCall.map Prod.fst) = some .asyncFileIo ∧
      FileClass.asyncBufferedFileIo.IsSubclass .asyncFileIo := by
  have wellTyped : ∀ arguments ∈ openArguments sizedCall, ∀ argument,
      argument ∈ arguments.mode ∨ argument ∈ arguments.buffering →
        simpleMeaning.WellTyped argument := by
    rintro _ ⟨⟩ argument (passed | passed) <;>
      obtain rfl := Option.some.inj passed <;>
      simp [OpenMeaning.WellTyped, simpleMeaning, IsValueOf, literalStr,
        OpenValue.className, OpenValue.literal, Ty.mentionsAny,
        Ty.mentionsAnyList]
  have resolves : resolveOpen isSimpleSubtype (openFile commonModes)
      (sizedCall.map Prod.fst) = some .asyncFileIo := by decide
  have opens : opened (sizedCall.map Prod.snd) = some .asyncBufferedFileIo := by
    decide
  exact ⟨resolves,
    opened_isSubclass simpleMeaning commonModes wellTyped resolves opens⟩

end Stubs
end TrioTyping
