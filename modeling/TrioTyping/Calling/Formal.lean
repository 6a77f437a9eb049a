import Mathlib.Data.List.Forall2

/-!
# Formal parameters and the arguments they consume

A signature is a list of formal parameters, a call a supply of positional and
keyword arguments. Binding a call walks through the formals from left to right:
each formal takes the arguments that belong to it and hands the rest on. The
module describes this single step, for any type of arguments and any type
annotation on the formals.
-/

namespace TrioTyping
namespace Calling

universe u v w

/-- The kind of a formal parameter: required or optional positional, `*args`,
required or optional keyword-only, `**kwargs`. -/
inductive ArgKind
  | pos
  | opt
  | star
  | named
  | namedOpt
  | star2
  deriving DecidableEq, Repr

namespace ArgKind

/-- A call must supply an argument for the parameter. -/
def isRequired : ArgKind → Bool
  | .pos | .named => true
  | .opt | .star | .namedOpt | .star2 => false

/-- The parameter takes one positional argument. -/
def isPositional : ArgKind → Bool
  | .pos | .opt => true
  | .star | .named | .namedOpt | .star2 => false

/-- The parameter takes keyword arguments only. -/
def isKeywordOnly : ArgKind → Bool
  | .named | .namedOpt | .star2 => true
  | .pos | .opt | .star => false

/-- Place of the kind in a parameter list. -/
def rank : ArgKind → Nat
  | .pos => 0
  | .opt => 1
  | .star => 2
  | .named | .namedOpt => 3
  | .star2 => 4

/-- The kind may be followed by the other one: the ranks do not decrease, and
neither `*args` nor `**kwargs` is repeated. -/
def Precedes (first second : ArgKind) : Prop :=
  first.rank ≤ second.rank ∧
    ¬(first = .star ∧ second = .star) ∧
    ¬(first = .star2 ∧ second = .star2)

instance : DecidableRel Precedes := fun _ _ =>
  inferInstanceAs (Decidable (_ ∧ _ ∧ _))

/-- Only positional parameters stand before `*args`. -/
theorem Precedes.isPositional_of_star
    {kind : ArgKind}
    (precedes : kind.Precedes .star) :
    kind.isPositional = true := by
  cases kind <;> simp_all [Precedes, rank, isPositional]

/-- Only required positional parameters stand before one. -/
theorem Precedes.eq_pos_of_pos
    {kind : ArgKind}
    (precedes : kind.Precedes .pos) :
    kind = .pos := by
  cases kind <;> simp_all [Precedes, rank]

/-- Only keyword parameters stand after `*args`. -/
theorem Precedes.isKeywordOnly_of_star
    {kind : ArgKind}
    (precedes : ArgKind.star.Precedes kind) :
    kind.isKeywordOnly = true := by
  cases kind <;> simp_all [Precedes, rank, isKeywordOnly]

end ArgKind

/-- A formal parameter. A parameter without a name is positional-only. -/
structure Formal (τ : Type u) where
  /-- Which arguments the parameter takes. -/
  kind : ArgKind
  /-- The keyword under which it can be passed. -/
  name : Option String
  /-- Its annotation. -/
  type : τ
  deriving Repr

/-- Arguments of a call that no formal has taken yet. -/
structure Supply (α : Type v) where
  /-- Positional arguments, in order. -/
  positional : List α
  /-- Keyword arguments. -/
  keywords : List (String × α)
  deriving Repr

variable {τ : Type u} {α : Type v} {β : Type w}

/-- Remove the argument passed under a keyword. -/
def takeKeyword (name : String) :
    List (String × α) → Option (α × List (String × α))
  | [] => none
  | (key, argument) :: keywords =>
      if key = name then some (argument, keywords)
      else
        (takeKeyword name keywords).map fun (found, rest) =>
          (found, (key, argument) :: rest)

namespace Formal

/-- The argument passed under the formal's own name, if there is one. -/
def takeByName
    (formal : Formal τ)
    (keywords : List (String × α)) : Option (α × List (String × α)) :=
  formal.name.bind fun name => takeKeyword name keywords

/-- Take the keyword argument of the formal, or fall back to its default. -/
def consumeKeyword
    (formal : Formal τ)
    (supply : Supply α) : Option (List α × Supply α) :=
  match formal.takeByName supply.keywords with
  | some (argument, keywords) =>
      some ([argument], { supply with keywords := keywords })
  | none =>
      if formal.kind.isRequired then none else some ([], supply)

/-- Arguments taken by one formal, with those that are left. The step fails
when a required argument is missing and when an argument comes both by position
and by keyword. -/
def consume
    (formal : Formal τ)
    (supply : Supply α) : Option (List α × Supply α) :=
  match formal.kind with
  | .star => some (supply.positional, { supply with positional := [] })
  | .star2 =>
      some (supply.keywords.map Prod.snd, { supply with keywords := [] })
  | .named | .namedOpt => formal.consumeKeyword supply
  | .pos | .opt =>
      match supply.positional with
      | [] => formal.consumeKeyword supply
      | argument :: positional =>
          match formal.takeByName supply.keywords with
          | some _ => none
          | none =>
              some ([argument], { supply with positional := positional })

/-- The step does not look at annotations. -/
theorem consume_congr
    {σ : Type w}
    {first : Formal τ}
    {second : Formal σ}
    (kinds : first.kind = second.kind)
    (names : first.name = second.name)
    (supply : Supply α) :
    first.consume supply = second.consume supply := by
  simp only [consume, consumeKeyword, takeByName, kinds, names]

/-! ## What a step does, by the kind of the formal -/

section Step

variable
  {formal : Formal τ}
  {supply left : Supply α}
  {taken positional : List α}
  {first : α}
  {keywords : List (String × α)}

/-- Looking for a keyword takes no positional argument. -/
theorem consumeKeyword_positional
    (consumed : formal.consumeKeyword supply = some (taken, left)) :
    left.positional = supply.positional := by
  unfold consumeKeyword at consumed
  split at consumed
  · cases consumed
    rfl
  · split at consumed
    · cases consumed
    · cases consumed
      rfl

/-- `*args` takes all positional arguments. -/
theorem consume_star
    (isStar : formal.kind = .star)
    (supply : Supply α) :
    formal.consume supply =
      some (supply.positional, ⟨[], supply.keywords⟩) := by
  simp only [consume, isStar]

/-- `**kwargs` takes all keyword arguments. -/
theorem consume_star2
    (isStar2 : formal.kind = .star2)
    (supply : Supply α) :
    formal.consume supply =
      some (supply.keywords.map Prod.snd, ⟨supply.positional, []⟩) := by
  simp only [consume, isStar2]

/-- A keyword-only formal looks for its keyword. -/
theorem consume_named
    (isNamed : formal.kind = .named ∨ formal.kind = .namedOpt)
    (supply : Supply α) :
    formal.consume supply = formal.consumeKeyword supply := by
  rcases isNamed with kind | kind <;> simp only [consume, kind]

/-- With no positional argument left, a positional formal looks for its
keyword. -/
theorem consume_positional_nil (isPositional : formal.kind.isPositional = true) :
    formal.consume ⟨[], keywords⟩ = formal.consumeKeyword ⟨[], keywords⟩ := by
  unfold consume
  cases kind : formal.kind with
  | pos | opt | named | namedOpt => rfl
  | star | star2 =>
      rw [kind] at isPositional
      cases isPositional

/-- A positional formal takes the first positional argument, unless it is passed
by keyword, too. -/
theorem consume_positional_cons
    (isPositional : formal.kind.isPositional = true) :
    formal.consume ⟨first :: positional, keywords⟩ =
      if (formal.takeByName keywords).isSome then none
      else some ([first], ⟨positional, keywords⟩) := by
  unfold consume
  cases kind : formal.kind with
  | pos | opt => cases formal.takeByName keywords <;> rfl
  | star | named | namedOpt | star2 =>
      rw [kind] at isPositional
      cases isPositional

theorem consume_positional_cons_iff
    (isPositional : formal.kind.isPositional = true) :
    formal.consume ⟨first :: positional, keywords⟩ = some (taken, left) ↔
      formal.takeByName keywords = none ∧ taken = [first] ∧
        left = ⟨positional, keywords⟩ := by
  rw [consume_positional_cons isPositional]
  cases formal.takeByName keywords with
  | none => simp [eq_comm]
  | some _ => simp

end Step

end Formal

/-! ## Renaming arguments -/

/-- Apply a function to every argument of a supply. -/
def Supply.map
    (f : α → β)
    (supply : Supply α) : Supply β where
  positional := supply.positional.map f
  keywords := supply.keywords.map fun (name, argument) => (name, f argument)

@[simp] theorem Supply.map_positional
    (f : α → β)
    (supply : Supply α) :
    (supply.map f).positional = supply.positional.map f := rfl

@[simp] theorem Supply.map_keywords
    (f : α → β)
    (supply : Supply α) :
    (supply.map f).keywords =
      supply.keywords.map fun (name, argument) => (name, f argument) := rfl

/-- Searching a keyword commutes with a function on the arguments. -/
theorem takeKeyword_map
    (f : α → β)
    (name : String)
    (keywords : List (String × α)) :
    takeKeyword name
        (keywords.map fun (key, argument) => (key, f argument)) =
      (takeKeyword name keywords).map fun (found, rest) =>
        (f found, rest.map fun (key, argument) => (key, f argument)) := by
  induction keywords with
  | nil => rfl
  | cons entry keywords inductionHypothesis =>
      obtain ⟨key, argument⟩ := entry
      by_cases found : key = name
      · simp [takeKeyword, found]
      · simp only [List.map_cons, takeKeyword, found, if_false,
          inductionHypothesis, Option.map_map]
        rfl

namespace Formal

theorem takeByName_map
    (f : α → β)
    (formal : Formal τ)
    (keywords : List (String × α)) :
    formal.takeByName
        (keywords.map fun (key, argument) => (key, f argument)) =
      (formal.takeByName keywords).map fun (found, rest) =>
        (f found, rest.map fun (key, argument) => (key, f argument)) := by
  unfold takeByName
  cases formal.name with
  | none => rfl
  | some name => exact takeKeyword_map f name keywords

theorem consumeKeyword_map
    (f : α → β)
    (formal : Formal τ)
    (supply : Supply α) :
    formal.consumeKeyword (supply.map f) =
      (formal.consumeKeyword supply).map fun (bound, rest) =>
        (bound.map f, rest.map f) := by
  unfold consumeKeyword
  rw [Supply.map_keywords, takeByName_map]
  cases formal.takeByName supply.keywords with
  | some pair => rfl
  | none => cases formal.kind.isRequired <;> rfl

/-- One step commutes with a function on the arguments: which arguments a
formal takes does not depend on what they are. -/
theorem consume_map
    (f : α → β)
    (formal : Formal τ)
    (supply : Supply α) :
    formal.consume (supply.map f) =
      (formal.consume supply).map fun (bound, rest) =>
        (bound.map f, rest.map f) := by
  obtain ⟨positional, keywords⟩ := supply
  unfold consume
  cases formal.kind with
  | star => rfl
  | star2 =>
      simp only [Supply.map, List.map_map, Option.map_some]
      rfl
  | named => exact consumeKeyword_map f formal _
  | namedOpt => exact consumeKeyword_map f formal _
  | pos | opt =>
      cases positional with
      | nil => exact consumeKeyword_map f formal _
      | cons argument positional =>
          simp only [Supply.map, List.map_cons, takeByName_map]
          cases formal.takeByName keywords with
          | some pair => rfl
          | none => rfl

end Formal

end Calling
end TrioTyping
