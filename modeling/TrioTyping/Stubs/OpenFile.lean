import Mathlib.Logic.Relation
import TrioTyping.Calling.Overload
import TrioTyping.Mypy.Types

/-!
# Opening files

The stubs declare `open_file` and `Path.open` once for text modes, three times
for binary modes, by what is known about the buffering, and once for any other
mode. The asynchronous file classes replicate the classes of the file objects
that `io.open` makes, and the result type names one of them.

The main result compares the two functions: `Path.open` has the result type that
`open_file` has for the path and the same arguments.
-/

namespace TrioTyping
namespace Stubs

open Calling

/-! ## File classes -/

/-- The classes of asynchronous files. -/
inductive FileClass
  | asyncIo
  | asyncBinaryIo
  | asyncTextIo
  | asyncFileIo
  | asyncBufferedFileIo
  | asyncTextFileIo
  deriving DecidableEq, Repr

/-- The class it is derived from. -/
def FileClass.base : FileClass → Option FileClass
  | .asyncIo => none
  | .asyncBinaryIo => some .asyncIo
  | .asyncTextIo => some .asyncIo
  | .asyncFileIo => some .asyncBinaryIo
  | .asyncBufferedFileIo => some .asyncFileIo
  | .asyncTextFileIo => some .asyncTextIo

/-- The class is the other one or derived from it. -/
def FileClass.IsSubclass : FileClass → FileClass → Prop :=
  Relation.ReflTransGen fun derived base => derived.base = some base

/-- All classes are derived from `AsyncIO`. -/
theorem FileClass.isSubclass_asyncIo (fileClass : FileClass) :
    fileClass.IsSubclass .asyncIo := by
  have textIo : asyncTextIo.IsSubclass .asyncIo := .single rfl
  have binaryIo : asyncBinaryIo.IsSubclass .asyncIo := .single rfl
  have fileIo : asyncFileIo.IsSubclass .asyncIo := .head rfl binaryIo
  cases fileClass with
  | asyncIo => exact .refl
  | asyncBinaryIo => exact binaryIo
  | asyncTextIo => exact textIo
  | asyncFileIo => exact fileIo
  | asyncBufferedFileIo => exact .head rfl fileIo
  | asyncTextFileIo => exact .head rfl textIo

/-! ## The stubs -/

/-- `Literal[text]`. -/
def literalStr (text : String) : Ty :=
  .other "LiteralType" [.inst "builtins.str" [], .other text []]

/-- `Literal[number]`. -/
def literalInt (number : Int) : Ty :=
  .other "LiteralType" [.inst "builtins.int" [], .other (toString number) []]

/-- What the stubs import from `_typeshed`. -/
structure Typeshed where
  /-- `StrOrBytesPath`. -/
  strOrBytesPath : Ty
  /-- The arms of `OpenTextMode`. -/
  textModes : List String
  /-- The arms of `OpenBinaryMode`. -/
  binaryModes : List String
  /-- Text modes have no `b`. -/
  text : ∀ mode ∈ textModes, 'b' ∉ mode.toList
  /-- Binary modes do. -/
  binary : ∀ mode ∈ binaryModes, 'b' ∈ mode.toList

namespace Typeshed

variable (typeshed : Typeshed)

/-- `OpenTextMode`. -/
def openTextMode : Ty :=
  .typeAlias "_typeshed.OpenTextMode" (.union (typeshed.textModes.map literalStr))

/-- `OpenBinaryMode`. -/
def openBinaryMode : Ty :=
  .typeAlias "_typeshed.OpenBinaryMode"
    (.union (typeshed.binaryModes.map literalStr))

/-- `_OpenFile`. -/
def openFileType : Ty :=
  .typeAlias "trio._OpenFile"
    (.union [typeshed.strOrBytesPath, .inst "builtins.int" []])

end Typeshed

/-- `Optional[str]`. -/
def optionalStr : Ty := .union [.inst "builtins.str" [], .noneTyp]

/-- `Optional[_Opener]`. -/
def optionalOpener : Ty :=
  .union [.typeAlias "trio._Opener" (.callable {
    argTypes := [.inst "builtins.str" [], .inst "builtins.int" []]
    argKinds := [.pos, .pos]
    argNames := [none, none]
    retType := .inst "builtins.int" []
    typeVariables := []
    isEllipsisArgs := false }), .noneTyp]

/-- A parameter without a default. -/
def required {τ : Type} (name : String) (type : τ) : Formal τ :=
  ⟨.pos, some name, type⟩

/-- A parameter with a default. -/
def optional {τ : Type} (name : String) (type : τ) : Formal τ :=
  ⟨.opt, some name, type⟩

/-- The parameters that `open_file` and `Path.open` share. -/
def openFormals (mode buffering : Formal Ty) (text : Ty) : List (Formal Ty) :=
  [mode, buffering, optional "encoding" text, optional "errors" text,
    optional "newline" text]

/-- One declaration. -/
def openOverload
    (first : Formal Ty)
    (last : List (Formal Ty))
    (mode buffering : Formal Ty)
    (text : Ty)
    (result : FileClass) : Overload Ty FileClass where
  formals := first :: openFormals mode buffering text ++ last
  result := result

/-- A declaration of `open_file`. -/
def openFileOverload
    (typeshed : Typeshed)
    (mode buffering : Formal Ty)
    (text : Ty)
    (result : FileClass) : Overload Ty FileClass :=
  openOverload (required "file" typeshed.openFileType)
    [optional "closefd" (.inst "builtins.bool" []),
      optional "opener" optionalOpener]
    mode buffering text result

/-- A declaration of `Path.open`. -/
def pathOpenOverload
    (mode buffering : Formal Ty)
    (text : Ty)
    (result : FileClass) : Overload Ty FileClass :=
  openOverload (required "self" (.inst "trio.Path" [])) [] mode buffering text
    result

/-- The declarations of `open_file`. -/
def openFile (typeshed : Typeshed) : List (Overload Ty FileClass) :=
  [ openFileOverload typeshed
      (optional "mode" typeshed.openTextMode)
      (optional "buffering" (.inst "builtins.int" []))
      optionalStr .asyncTextFileIo,
    openFileOverload typeshed
      (required "mode" typeshed.openBinaryMode)
      (required "buffering" (literalInt 0))
      .noneTyp .asyncFileIo,
    openFileOverload typeshed
      (required "mode" typeshed.openBinaryMode)
      (optional "buffering" (.union [literalInt (-1), literalInt 1]))
      .noneTyp .asyncBufferedFileIo,
    openFileOverload typeshed
      (required "mode" typeshed.openBinaryMode)
      (required "buffering" (.inst "builtins.int" []))
      .noneTyp .asyncFileIo,
    openFileOverload typeshed
      (required "mode" (.inst "builtins.str" []))
      (optional "buffering" (.inst "builtins.int" []))
      optionalStr .asyncIo ]

/-- The declarations of `Path.open`. -/
def pathOpen (typeshed : Typeshed) : List (Overload Ty FileClass) :=
  [ pathOpenOverload
      (optional "mode" typeshed.openTextMode)
      (optional "buffering" (.inst "builtins.int" []))
      optionalStr .asyncTextFileIo,
    pathOpenOverload
      (required "mode" typeshed.openBinaryMode)
      (required "buffering" (literalInt 0))
      .noneTyp .asyncFileIo,
    pathOpenOverload
      (required "mode" typeshed.openBinaryMode)
      (optional "buffering" (.union [literalInt (-1), literalInt 1]))
      .noneTyp .asyncBufferedFileIo,
    pathOpenOverload
      (required "mode" typeshed.openBinaryMode)
      (required "buffering" (.inst "builtins.int" []))
      .noneTyp .asyncFileIo,
    pathOpenOverload
      (required "mode" (.inst "builtins.str" []))
      (optional "buffering" (.inst "builtins.int" []))
      optionalStr .asyncIo ]

/-- The class of the file that a call opens according to its declarations. -/
def resolveOpen
    (isSubtype : Ty → Ty → Bool)
    (overloads : List (Overload Ty FileClass))
    (call : Supply Ty) : Option FileClass :=
  resolve (fun argument type => isSubtype argument type = true) overloads call

/-! ## A path and its file -/

/-- A parameter for the mode. -/
def IsMode (mode : Formal Ty) : Prop :=
  mode.Strengthens (optional "mode" ())

/-- A parameter for the buffering. -/
def IsBuffering (buffering : Formal Ty) : Prop :=
  buffering.Strengthens (optional "buffering" ())

/-- The parameters without types, as far as they may be left out. -/
def openNames : List (Formal Unit) :=
  [optional "mode" (), optional "buffering" (), optional "encoding" (),
    optional "errors" (), optional "newline" ()]

theorem strengthens_optional (name : String) (type : Ty) :
    (optional name type).Strengthens (optional name ()) :=
  ⟨rfl, .inl rfl⟩

theorem strengthens_required (name : String) (type : Ty) :
    (required name type).Strengthens (optional name ()) :=
  ⟨rfl, .inr ⟨rfl, rfl⟩⟩

theorem openFormals_strengthens
    {mode buffering : Formal Ty}
    (isMode : IsMode mode)
    (isBuffering : IsBuffering buffering)
    (text : Ty) :
    List.Forall₂ Formal.Strengthens (openFormals mode buffering text)
      openNames := by
  have same := strengthens_optional
  exact .cons isMode (.cons isBuffering
    (.cons (same _ _) (.cons (same _ _) (.cons (same _ _) .nil))))

/-- All these parameters take positional arguments. -/
theorem openFormals_isPositional
    {mode buffering : Formal Ty}
    (isMode : IsMode mode)
    (isBuffering : IsBuffering buffering)
    (text : Ty) :
    ∀ formal ∈ openFormals mode buffering text,
      formal.kind.isPositional = true :=
  isPositional_of_strengthens (openFormals_strengthens isMode isBuffering text)
    (by decide)

theorem openFormals_ne_star2
    {mode buffering : Formal Ty}
    (isMode : IsMode mode)
    (isBuffering : IsBuffering buffering)
    (text : Ty) :
    ∀ formal ∈ openFormals mode buffering text, formal.kind ≠ .star2 := by
  intro formal member isStar2
  have positional :=
    openFormals_isPositional isMode isBuffering text formal member
  rw [isStar2] at positional
  cases positional

/-- Each declaration of `Path.open` has a counterpart among those of
`open_file`. -/
theorem forall₂_pathOpen_openFile (typeshed : Typeshed) :
    List.Forall₂
      (fun overload overload' => ∃ mode buffering text result,
        IsMode mode ∧ IsBuffering buffering ∧
        overload = pathOpenOverload mode buffering text result ∧
        overload' = openFileOverload typeshed mode buffering text result)
      (pathOpen typeshed) (openFile typeshed) := by
  have isOptional := strengthens_optional
  have isRequired := strengthens_required
  exact .cons ⟨_, _, _, _, isOptional _ _, isOptional _ _, rfl, rfl⟩
    (.cons ⟨_, _, _, _, isRequired _ _, isRequired _ _, rfl, rfl⟩
    (.cons ⟨_, _, _, _, isRequired _ _, isOptional _ _, rfl, rfl⟩
    (.cons ⟨_, _, _, _, isRequired _ _, isRequired _ _, rfl, rfl⟩
    (.cons ⟨_, _, _, _, isRequired _ _, isOptional _ _, rfl, rfl⟩ .nil))))

section Path

variable
  {isSubtype : Ty → Ty → Bool}
  {typeshed : Typeshed}
  {mode buffering : Formal Ty}
  (isMode : IsMode mode)
  (isBuffering : IsBuffering buffering)
  {text : Ty}
  {result : FileClass}
  {path : Ty}
  {positional : List Ty}
  {keywords : List (String × Ty)}

include isMode isBuffering

/-- A declaration accepts a call that passes none of its last parameters when it
accepts it without them and with another first parameter. -/
theorem accepts_pathOpenOverload_iff
    (isPath : isSubtype path (.inst "trio.Path" []) = true)
    (isFile : isSubtype path typeshed.openFileType = true)
    (few : positional.length ≤ 5)
    (noClosefd : "closefd" ∉ keywords.map Prod.fst)
    (noOpener : "opener" ∉ keywords.map Prod.fst) :
    Accepts (fun argument type => isSubtype argument type = true)
        (pathOpenOverload mode buffering text result).formals
        ⟨path :: positional, keywords⟩ ↔
      Accepts (fun argument type => isSubtype argument type = true)
        (openFileOverload typeshed mode buffering text result).formals
        ⟨path :: positional, keywords⟩ := by
  have strengthens := openFormals_strengthens isMode isBuffering text
  have isPositional := openFormals_isPositional isMode isBuffering text
  have otherName {name : String}
      (other : some name ∉ openNames.map Formal.name) :
      some name ∉ (openFormals mode buffering text).map Formal.name := by
    rw [map_name_of_strengthens strengthens]
    exact other
  have noStar2 := openFormals_ne_star2 isMode isBuffering text
  unfold pathOpenOverload openFileOverload openOverload
  rw [List.append_nil,
    accepts_exchange_first_iff rfl
      (show (required "file" typeshed.openFileType).kind = .pos from rfl)
      noStar2 (otherName (by decide)) (otherName (by decide)) isPath isFile]
  refine (accepts_append_unused_iff ?_ ?_ ?_).symm
  · rw [List.forall_mem_cons]
    exact ⟨rfl, isPositional⟩
  · exact Nat.succ_le_succ few
  · intro formal member
    simp only [List.mem_cons, List.not_mem_nil, or_false] at member
    rcases member with rfl | rfl
    · exact ⟨rfl, by simpa [optional] using noClosefd⟩
    · exact ⟨rfl, by simpa [optional] using noOpener⟩

/-- A declaration without last parameters accepts only calls that pass none. -/
theorem passes_none_of_accepts
    (accepted : Accepts (fun argument type => isSubtype argument type = true)
      (pathOpenOverload mode buffering text result).formals
      ⟨path :: positional, keywords⟩) :
    positional.length ≤ 5 ∧ "closefd" ∉ keywords.map Prod.fst ∧
      "opener" ∉ keywords.map Prod.fst := by
  have strengthens := openFormals_strengthens isMode isBuffering text
  have isPositional := openFormals_isPositional isMode isBuffering text
  unfold pathOpenOverload openOverload at accepted
  rw [List.append_nil, accepts_cons_iff rfl] at accepted
  obtain ⟨-, -, accepted⟩ := accepted
  have noStar2 := openFormals_ne_star2 isMode isBuffering text
  have notPassed {key : String}
      (other : some key ∉ openNames.map Formal.name) :
      key ∉ keywords.map Prod.fst := by
    intro member
    have isName := accepted.exists_name noStar2 member
    rw [map_name_of_strengthens strengthens] at isName
    exact other isName
  exact ⟨accepted.positional_length_le isPositional, notPassed (by decide),
    notPassed (by decide)⟩

end Path

/-- Opening a path is opening its file: `Path.open` has the result type that
`open_file` has for the path and the same arguments, and rejects the arguments
that it has no parameters for. -/
theorem resolveOpen_pathOpen
    {isSubtype : Ty → Ty → Bool}
    (typeshed : Typeshed)
    {path : Ty}
    (isPath : isSubtype path (.inst "trio.Path" []) = true)
    (isFile : isSubtype path typeshed.openFileType = true)
    (positional : List Ty)
    (keywords : List (String × Ty)) :
    resolveOpen isSubtype (pathOpen typeshed) ⟨path :: positional, keywords⟩ =
      if positional.length ≤ 5 ∧ "closefd" ∉ keywords.map Prod.fst ∧
          "opener" ∉ keywords.map Prod.fst then
        resolveOpen isSubtype (openFile typeshed)
          ⟨path :: positional, keywords⟩
      else none := by
  have pairs := forall₂_pathOpen_openFile typeshed
  split
  · next passesNone =>
      obtain ⟨few, noClosefd, noOpener⟩ := passesNone
      apply resolve_congr
      refine pairs.imp ?_
      rintro _ _ ⟨mode, buffering, text, result, isMode, isBuffering, rfl, rfl⟩
      exact ⟨accepts_pathOpenOverload_iff isMode isBuffering isPath isFile few
        noClosefd noOpener, rfl⟩
  · next passesSome =>
      have rejected : List.Forall₂
          (fun overload _ =>
            ¬Accepts (fun argument type => isSubtype argument type = true)
              overload.formals ⟨path :: positional, keywords⟩ ∧ True)
          (pathOpen typeshed) (openFile typeshed) := by
        refine pairs.imp ?_
        rintro _ _ ⟨mode, buffering, text, result, isMode, isBuffering, rfl, -⟩
        exact ⟨fun accepted =>
          passesSome (passes_none_of_accepts isMode isBuffering accepted),
          trivial⟩
      exact resolve_eq_none_iff.mpr ((List.forall₂_and_left _ _).mp rejected).1

/-! ## Simple types -/

mutual

/-- A class without type arguments, a literal or `None` is a subtype. -/
def isPlainSubtype (subtype : Ty) : Ty → Bool
  | .typeAlias _ target => isPlainSubtype subtype target
  | .union items => isPlainSubtypeOfAny subtype items
  | .noneTyp =>
      match subtype with
      | .noneTyp => true
      | _ => false
  | .inst supertype [] =>
      match subtype with
      | .inst fullname [] => fullname = supertype
      | .other "LiteralType" [.inst fullname [], .other _ []] =>
          fullname = supertype
      | _ => false
  | .other "LiteralType" [.inst supertype [], .other literal []] =>
      match subtype with
      | .other "LiteralType" [.inst fullname [], .other text []] =>
          fullname = supertype ∧ text = literal
      | _ => false
  | _ => false

/-- It is a subtype of an arm of a union. -/
def isPlainSubtypeOfAny (subtype : Ty) : List Ty → Bool
  | [] => false
  | item :: items =>
      isPlainSubtype subtype item || isPlainSubtypeOfAny subtype items

end

mutual

/-- Subtyping of such types and of unions of them. -/
def isSimpleSubtype : Ty → Ty → Bool
  | .typeAlias _ target, supertype => isSimpleSubtype target supertype
  | .union items, supertype => areSimpleSubtypes items supertype
  | subtype, supertype => isPlainSubtype subtype supertype

/-- Subtyping of all the arms of a union. -/
def areSimpleSubtypes : List Ty → Ty → Bool
  | [], _ => true
  | item :: items, supertype =>
      isSimpleSubtype item supertype && areSimpleSubtypes items supertype

end

/-- Some of the modes in `_typeshed`. -/
def commonModes : Typeshed where
  strOrBytesPath := .union [.inst "builtins.str" [], .inst "trio.Path" []]
  textModes := ["r", "w", "a"]
  binaryModes := ["rb", "w+b"]
  text := by decide
  binary := by decide

/-- `path.open("w+b", buffering=0)`. -/
theorem resolveOpen_pathOpen_unbuffered :
    resolveOpen isSimpleSubtype (pathOpen commonModes)
        ⟨[.inst "trio.Path" [], literalStr "w+b"],
          [("buffering", literalInt 0)]⟩ =
      some .asyncFileIo :=
  (resolveOpen_pathOpen commonModes rfl rfl [literalStr "w+b"]
    [("buffering", literalInt 0)]).trans (by decide)

end Stubs
end TrioTyping
