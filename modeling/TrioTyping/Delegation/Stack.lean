import Mathlib.Data.Set.Basic

/-!
# Generators that delegate to generators

A generator runs until it yields a value, hands its caller over to a delegate,
or returns. While it delegates, what the delegate yields goes straight to its
caller and what is sent goes straight to the delegate; with the result of the
delegate it goes on. A delegate may delegate in turn, so that a running
generator has a stack of generators waiting for it.

A discipline assigns to generators the values they yield, may be sent and
return, and asks of every generator only that what it does next agrees with
this. The main result says that agreement in every single step is enough: in
every run, at whatever depth of delegation, the outermost generator yields and
returns values of its interface, as long as it is sent values of it.
-/

namespace TrioTyping
namespace Delegation

universe u v

variable {Body : Type u} {Value : Type v}

/-! ## Runs -/

/-- What a generator does next. -/
inductive Action (Body : Type u) (Value : Type v)
  /-- It yields a value and goes on with the value it is sent. -/
  | yields (value : Value) (next : Value → Body)
  /-- It delegates and goes on with the result of the delegate. -/
  | delegates (delegate : Body) (next : Value → Body)
  /-- It returns. -/
  | returns (result : Value)

/-- What the caller of the outermost generator sees of a step. -/
inductive Event (Value : Type v)
  | internal
  | yielded (value : Value)
  | sent (value : Value)
  | returned (result : Value)

/-- A generator together with the generators that wait for it, the innermost
first. -/
inductive Config (Body : Type u) (Value : Type v)
  /-- The innermost generator is about to act. -/
  | running (body : Body) (waiting : List (Value → Body))
  /-- The innermost generator has yielded. -/
  | suspended (next : Value → Body) (waiting : List (Value → Body))
  /-- The outermost generator has returned. -/
  | finished

/-- One step of a stack of generators. -/
inductive Step (acts : Body → Action Body Value → Prop) :
    Config Body Value → Event Value → Config Body Value → Prop
  /-- What the innermost generator yields goes to the outermost caller. -/
  | yields {body : Body} {value : Value} {next : Value → Body}
      {waiting : List (Value → Body)}
      (act : acts body (.yields value next)) :
      Step acts (.running body waiting) (.yielded value)
        (.suspended next waiting)
  /-- What the outermost caller sends goes to the innermost generator. -/
  | resumes {value : Value} {next : Value → Body}
      {waiting : List (Value → Body)} :
      Step acts (.suspended next waiting) (.sent value)
        (.running (next value) waiting)
  | delegates {body delegate : Body} {next : Value → Body}
      {waiting : List (Value → Body)}
      (act : acts body (.delegates delegate next)) :
      Step acts (.running body waiting) .internal
        (.running delegate (next :: waiting))
  /-- The result of a delegate goes to the generator that waits for it. -/
  | handsBack {body : Body} {result : Value} {next : Value → Body}
      {waiting : List (Value → Body)}
      (act : acts body (.returns result)) :
      Step acts (.running body (next :: waiting)) .internal
        (.running (next result) waiting)
  | returns {body : Body} {result : Value}
      (act : acts body (.returns result)) :
      Step acts (.running body []) (.returned result) .finished

/-- Any number of steps, with the events in order. -/
inductive Run (acts : Body → Action Body Value → Prop) :
    Config Body Value → List (Event Value) → Config Body Value → Prop
  | nil {config : Config Body Value} : Run acts config [] config
  | cons {first second last : Config Body Value} {event : Event Value}
      {events : List (Event Value)}
      (step : Step acts first event second)
      (rest : Run acts second events last) :
      Run acts first (event :: events) last

/-! ## Interfaces -/

/-- What a generator exchanges with its caller. -/
structure Interface (Value : Type v) where
  /-- The values it yields. -/
  yields : Set Value
  /-- The values it may be sent. -/
  sends : Set Value
  /-- The values it returns. -/
  returns : Set Value

namespace Interface

/-- A generator with the first interface can yield to, and be sent values by,
the caller of one with the second. -/
structure PassesThrough (inner outer : Interface Value) : Prop where
  /-- What the delegate yields is expected. -/
  yields : inner.yields ⊆ outer.yields
  /-- The delegate expects what is sent. -/
  sends : outer.sends ⊆ inner.sends

theorem PassesThrough.refl (interface : Interface Value) :
    interface.PassesThrough interface :=
  ⟨Set.Subset.rfl, Set.Subset.rfl⟩

theorem PassesThrough.trans
    {inner middle outer : Interface Value}
    (first : inner.PassesThrough middle)
    (second : middle.PassesThrough outer) :
    inner.PassesThrough outer :=
  ⟨first.yields.trans second.yields, second.sends.trans first.sends⟩

end Interface

namespace Event

/-- The caller sends only values of the interface. -/
def InputOf (interface : Interface Value) : Event Value → Prop
  | .sent value => value ∈ interface.sends
  | _ => True

/-- The generator yields and returns only values of the interface. -/
def OutputOf (interface : Interface Value) : Event Value → Prop
  | .yielded value => value ∈ interface.yields
  | .returned result => result ∈ interface.returns
  | _ => True

end Event

/-- Interfaces of generators, with which the next action of each agrees. -/
structure Discipline (acts : Body → Action Body Value → Prop) where
  /-- The generator keeps to the interface. -/
  Keeps : Body → Interface Value → Prop
  /-- It yields expected values, and keeps to the interface after it has been
  sent an expected value. -/
  yields : ∀ {body interface value next}, Keeps body interface →
    acts body (.yields value next) →
      value ∈ interface.yields ∧
        ∀ sent ∈ interface.sends, Keeps (next sent) interface
  /-- It delegates to generators whose interface passes through its own, and
  keeps to its own with every result of the delegate. -/
  delegates : ∀ {body interface delegate next}, Keeps body interface →
    acts body (.delegates delegate next) →
      ∃ inner, Keeps delegate inner ∧ inner.PassesThrough interface ∧
        ∀ result ∈ inner.returns, Keeps (next result) interface
  /-- It returns expected values. -/
  returns : ∀ {body interface result}, Keeps body interface →
    acts body (.returns result) → result ∈ interface.returns

/-! ## Every run keeps to the interface -/

namespace Discipline

variable
  {acts : Body → Action Body Value → Prop}
  (discipline : Discipline acts)

/-- The generators that wait for one with an interface, up to an outermost one.
-/
inductive WaitFor (outer : Interface Value) :
    List (Value → Body) → Interface Value → Prop
  | nil : WaitFor outer [] outer
  | cons {next : Value → Body} {waiting : List (Value → Body)}
      {inner middle : Interface Value}
      (resumes : ∀ result ∈ inner.returns,
        discipline.Keeps (next result) middle)
      (passes : inner.PassesThrough middle)
      (rest : WaitFor outer waiting middle) :
      WaitFor outer (next :: waiting) inner

/-- The whole stack keeps to the interface of the outermost generator. -/
def KeepsAll (outer : Interface Value) : Config Body Value → Prop
  | .running body waiting => ∃ inner,
      discipline.Keeps body inner ∧ discipline.WaitFor outer waiting inner
  | .suspended next waiting => ∃ inner,
      (∀ sent ∈ inner.sends, discipline.Keeps (next sent) inner) ∧
        discipline.WaitFor outer waiting inner
  | .finished => True

variable {discipline} {outer : Interface Value}

/-- Through any number of delegations, the innermost interface passes through
the outermost. -/
theorem WaitFor.passesThrough
    {waiting : List (Value → Body)}
    {inner : Interface Value}
    (waitFor : discipline.WaitFor outer waiting inner) :
    inner.PassesThrough outer := by
  induction waitFor with
  | nil => exact .refl outer
  | cons _ passes _ inductionHypothesis =>
      exact passes.trans inductionHypothesis

/-- What one step preserves. -/
theorem KeepsAll.step
    {first second : Config Body Value}
    {event : Event Value}
    (keepsAll : discipline.KeepsAll outer first)
    (step : Step acts first event second)
    (input : event.InputOf outer) :
    event.OutputOf outer ∧ discipline.KeepsAll outer second := by
  cases step with
  | yields act =>
      obtain ⟨inner, keeps, waitFor⟩ := keepsAll
      obtain ⟨expected, resumes⟩ := discipline.yields keeps act
      exact ⟨waitFor.passesThrough.yields expected, inner, resumes, waitFor⟩
  | resumes =>
      obtain ⟨inner, resumes, waitFor⟩ := keepsAll
      have expected := waitFor.passesThrough.sends input
      exact ⟨trivial, inner, resumes _ expected, waitFor⟩
  | delegates act =>
      obtain ⟨middle, keeps, waitFor⟩ := keepsAll
      obtain ⟨inner, delegateKeeps, passes, resumes⟩ :=
        discipline.delegates keeps act
      exact ⟨trivial, inner, delegateKeeps, .cons resumes passes waitFor⟩
  | handsBack act =>
      obtain ⟨inner, keeps, waitFor⟩ := keepsAll
      have expected := discipline.returns keeps act
      cases waitFor with
      | cons resumes _ rest =>
          exact ⟨trivial, _, resumes _ expected, rest⟩
  | returns act =>
      obtain ⟨inner, keeps, waitFor⟩ := keepsAll
      have expected := discipline.returns keeps act
      cases waitFor with
      | nil => exact ⟨expected, trivial⟩

/-- What a run preserves, as long as the caller sends what is expected. -/
theorem KeepsAll.run
    {first last : Config Body Value}
    {events : List (Event Value)}
    (keepsAll : discipline.KeepsAll outer first)
    (run : Run acts first events last)
    (inputs : ∀ event ∈ events, event.InputOf outer) :
    (∀ event ∈ events, event.OutputOf outer) ∧
      discipline.KeepsAll outer last := by
  induction run with
  | nil => exact ⟨fun _ member => absurd member List.not_mem_nil, keepsAll⟩
  | cons step _ inductionHypothesis =>
      rw [List.forall_mem_cons] at inputs
      obtain ⟨output, keepsNext⟩ := keepsAll.step step inputs.1
      obtain ⟨outputs, keepsLast⟩ := inductionHypothesis keepsNext inputs.2
      exact ⟨List.forall_mem_cons.mpr ⟨output, outputs⟩, keepsLast⟩

/-- A generator that keeps to an interface does so in every run. -/
theorem run_of_keeps
    {body : Body}
    {last : Config Body Value}
    {events : List (Event Value)}
    (keeps : discipline.Keeps body outer)
    (run : Run acts (.running body []) events last)
    (inputs : ∀ event ∈ events, event.InputOf outer) :
    (∀ event ∈ events, event.OutputOf outer) ∧
      discipline.KeepsAll outer last := by
  have keepsAll : discipline.KeepsAll outer (.running body []) :=
    ⟨outer, keeps, .nil⟩
  exact keepsAll.run run inputs

end Discipline

end Delegation
end TrioTyping
