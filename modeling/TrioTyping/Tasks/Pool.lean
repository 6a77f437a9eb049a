import Mathlib.Data.List.Infix
import Mathlib.Logic.Relation

/-!
# Tasks that wait for a report

A task may create other tasks. It may also wait for one it has created: that one
is given a handle, and the task goes on with the value that is reported to the
handle, by whichever task the handle has been passed on to. The tasks of a pool
take their steps in any order.

A discipline says when a body is ready and which values a handle of a kind
accepts, and asks of every body only that what it does next agrees with this. The
main result says that this is enough: in whatever order the tasks of a pool have
taken their steps, every running task is ready, and nothing has been reported to a
handle that it does not accept.
-/

namespace TrioTyping
namespace Tasks

universe u v w

/-! ## Pools -/

/-- What a body may do next. -/
inductive Action (Body : Type u) (Value : Type v) (Kind : Type w)
  /-- It creates a task and goes on. -/
  | spawns (child next : Body)
  /-- It creates a task that is given a new handle, and goes on with the value
  that is reported to the handle. -/
  | starts (kind : Kind) (child : Nat → Body) (next : Value → Body)
  /-- It reports a value. -/
  | reports (handle : Nat) (value : Value) (next : Body)

/-- A task. -/
inductive Task (Body : Type u) (Value : Type v)
  | running (body : Body)
  /-- It waits for a report to a handle. -/
  | waiting (handle : Nat) (next : Value → Body)

/-- Some tasks. -/
structure Pool (Body : Type u) (Value : Type v) (Kind : Type w) where
  tasks : List (Task Body Value)
  /-- The kinds of the handles, in the order in which they were made. -/
  handles : List Kind
  /-- The reports, each with its handle. -/
  reports : List (Nat × Value)

variable {Body : Type u} {Value : Type v} {Kind : Type w}

/-- A task alone. -/
def Pool.single (body : Body) : Pool Body Value Kind where
  tasks := [.running body]
  handles := []
  reports := []

/-- A step of one of the tasks. -/
inductive Step (acts : Body → Action Body Value Kind → Prop) :
    Pool Body Value Kind → Pool Body Value Kind → Prop
  | spawns {before after : List (Task Body Value)} {handles : List Kind}
      {reports : List (Nat × Value)} {body child next : Body}
      (act : acts body (.spawns child next)) :
      Step acts ⟨before ++ .running body :: after, handles, reports⟩
        ⟨.running child :: before ++ .running next :: after, handles, reports⟩
  | starts {before after : List (Task Body Value)} {handles : List Kind}
      {reports : List (Nat × Value)} {body : Body} {kind : Kind}
      {child : Nat → Body} {next : Value → Body}
      (act : acts body (.starts kind child next)) :
      Step acts ⟨before ++ .running body :: after, handles, reports⟩
        ⟨.running (child handles.length) ::
            before ++ .waiting handles.length next :: after,
          handles ++ [kind], reports⟩
  /-- Only one value is reported to a handle. -/
  | reports {before after : List (Task Body Value)} {handles : List Kind}
      {reports : List (Nat × Value)} {body next : Body} {handle : Nat}
      {value : Value}
      (act : acts body (.reports handle value next))
      (unreported : handle ∉ reports.map Prod.fst) :
      Step acts ⟨before ++ .running body :: after, handles, reports⟩
        ⟨before ++ .running next :: after, handles,
          (handle, value) :: reports⟩
  /-- The task that waits goes on with the value. -/
  | resumes {before after : List (Task Body Value)} {handles : List Kind}
      {reports : List (Nat × Value)} {handle : Nat} {value : Value}
      {next : Value → Body}
      (reported : (handle, value) ∈ reports) :
      Step acts ⟨before ++ .waiting handle next :: after, handles, reports⟩
        ⟨before ++ .running (next value) :: after, handles, reports⟩

/-- Any number of steps. -/
def Reaches (acts : Body → Action Body Value Kind → Prop) :
    Pool Body Value Kind → Pool Body Value Kind → Prop :=
  Relation.ReflTransGen (Step acts)

/-! ## Disciplines -/

/-- When bodies are ready, and what handles accept, which may depend on the
handles there are. -/
structure Discipline (acts : Body → Action Body Value Kind → Prop) where
  /-- The body is ready. -/
  Ready : List Kind → Body → Prop
  /-- A handle of the kind accepts the value. -/
  Accepts : List Kind → Kind → Value → Prop
  /-- New handles change nothing for a body. -/
  ready_mono : ∀ {handles handles' body}, handles <+: handles' →
    Ready handles body → Ready handles' body
  /-- Nor for a value. -/
  accepts_mono : ∀ {handles handles' kind value}, handles <+: handles' →
    Accepts handles kind value → Accepts handles' kind value
  /-- A body creates tasks that are ready. -/
  spawns : ∀ {handles body child next}, Ready handles body →
    acts body (.spawns child next) → Ready handles child ∧ Ready handles next
  /-- Those with a handle are ready for it, and the body is ready for whatever the
  handle accepts. -/
  starts : ∀ {handles body kind child next}, Ready handles body →
    acts body (.starts kind child next) →
      Ready (handles ++ [kind]) (child handles.length) ∧
        ∀ {handles'}, handles ++ [kind] <+: handles' →
          ∀ value, Accepts handles' kind value → Ready handles' (next value)
  /-- It reports what the handle accepts. -/
  reports : ∀ {handles body handle value next}, Ready handles body →
    acts body (.reports handle value next) →
      (∃ kind, handles[handle]? = some kind ∧ Accepts handles kind value) ∧
        Ready handles next

/-- Handles keep their kinds when there are new ones. -/
theorem getElem?_of_prefix
    {handles handles' : List Kind}
    (isPrefix : handles <+: handles')
    {handle : Nat}
    {kind : Kind}
    (kindAt : handles[handle]? = some kind) :
    handles'[handle]? = some kind := by
  obtain ⟨inRange, rfl⟩ := List.getElem?_eq_some_iff.mp kindAt
  exact List.prefix_iff_getElem?.mp isPrefix handle inRange

namespace Discipline

variable
  {acts : Body → Action Body Value Kind → Prop}
  (discipline : Discipline acts)

/-- The task is ready, or will be with whatever is reported to it. -/
def KeepsTask (handles : List Kind) : Task Body Value → Prop
  | .running body => discipline.Ready handles body
  | .waiting handle next => ∃ kind, handles[handle]? = some kind ∧
      ∀ {handles'}, handles <+: handles' →
        ∀ value, discipline.Accepts handles' kind value →
          discipline.Ready handles' (next value)

/-- The report was accepted. -/
def KeepsReport (handles : List Kind) (report : Nat × Value) : Prop :=
  ∃ kind, handles[report.1]? = some kind ∧
    discipline.Accepts handles kind report.2

/-- All tasks are ready and all reports were accepted. -/
structure Keeps (pool : Pool Body Value Kind) : Prop where
  tasks : ∀ task ∈ pool.tasks, discipline.KeepsTask pool.handles task
  reports : ∀ report ∈ pool.reports,
    discipline.KeepsReport pool.handles report

variable {discipline} {handles handles' : List Kind}

theorem KeepsTask.mono
    (isPrefix : handles <+: handles')
    {task : Task Body Value}
    (keeps : discipline.KeepsTask handles task) :
    discipline.KeepsTask handles' task := by
  cases task with
  | running body => exact discipline.ready_mono isPrefix keeps
  | waiting handle next =>
      obtain ⟨kind, kindAt, resumes⟩ := keeps
      exact ⟨kind, getElem?_of_prefix isPrefix kindAt,
        fun further => resumes (isPrefix.trans further)⟩

theorem KeepsReport.mono
    (isPrefix : handles <+: handles')
    {report : Nat × Value}
    (keeps : discipline.KeepsReport handles report) :
    discipline.KeepsReport handles' report := by
  obtain ⟨kind, kindAt, accepts⟩ := keeps
  exact ⟨kind, getElem?_of_prefix isPrefix kindAt,
    discipline.accepts_mono isPrefix accepts⟩

/-- One task may be exchanged, and others added. -/
theorem forall_exchange
    {P : Task Body Value → Prop}
    {before after : List (Task Body Value)}
    {task task' : Task Body Value}
    (all : ∀ other ∈ before ++ task :: after, P other)
    (exchanged : P task') :
    ∀ other ∈ before ++ task' :: after, P other := by
  rw [List.forall_mem_append, List.forall_mem_cons] at all ⊢
  exact ⟨all.1, exchanged, all.2.2⟩

/-- What one step preserves. -/
theorem Keeps.step
    {first second : Pool Body Value Kind}
    (keeps : discipline.Keeps first)
    (step : Step acts first second) :
    discipline.Keeps second := by
  obtain ⟨tasks, reports⟩ := keeps
  cases step with
  | spawns act =>
      have ready := tasks _ (List.mem_append_right _ List.mem_cons_self)
      obtain ⟨childReady, nextReady⟩ := discipline.spawns ready act
      refine ⟨?_, reports⟩
      exact List.forall_mem_cons.mpr
        ⟨childReady, forall_exchange tasks nextReady⟩
  | @starts before after handles _ _ kind _ _ act =>
      have ready := tasks _ (List.mem_append_right _ List.mem_cons_self)
      obtain ⟨childReady, resumes⟩ := discipline.starts ready act
      have isPrefix : handles <+: handles ++ [kind] :=
        List.prefix_append handles [kind]
      refine ⟨?_, fun report member => (reports report member).mono isPrefix⟩
      refine List.forall_mem_cons.mpr ⟨childReady, ?_⟩
      refine forall_exchange (fun task member =>
        (tasks task member).mono isPrefix) ?_
      exact ⟨kind, by simp, resumes⟩
  | reports act _ =>
      have ready := tasks _ (List.mem_append_right _ List.mem_cons_self)
      obtain ⟨accepted, nextReady⟩ := discipline.reports ready act
      exact ⟨forall_exchange tasks nextReady,
        List.forall_mem_cons.mpr ⟨accepted, reports⟩⟩
  | @resumes _ _ handles _ handle value _ reported =>
      obtain ⟨kind, kindAt, resumes⟩ :=
        tasks _ (List.mem_append_right _ List.mem_cons_self)
      obtain ⟨kind', kindAt', accepts⟩ := reports _ reported
      obtain rfl : kind = kind' :=
        Option.some.inj (kindAt.symm.trans kindAt')
      exact ⟨forall_exchange tasks
        (resumes (List.prefix_refl handles) value accepts), reports⟩

/-- What any number of steps preserve. -/
theorem Keeps.reaches
    {first last : Pool Body Value Kind}
    (keeps : discipline.Keeps first)
    (reaches : Reaches acts first last) :
    discipline.Keeps last := by
  induction reaches with
  | refl => exact keeps
  | tail _ step inductionHypothesis => exact inductionHypothesis.step step

/-- A task that is ready leads only to tasks that are, and to reports that are
accepted. -/
theorem keeps_of_ready
    {body : Body}
    {last : Pool Body Value Kind}
    (ready : discipline.Ready [] body)
    (reaches : Reaches acts (Pool.single body) last) :
    discipline.Keeps last := by
  have keeps : discipline.Keeps (Pool.single body) := by
    refine ⟨?_, fun _ member => absurd member List.not_mem_nil⟩
    intro task member
    obtain rfl := List.mem_singleton.mp member
    exact ready
  exact keeps.reaches reaches

end Discipline

end Tasks
end TrioTyping
