/-
  Converge.Proofs.Scenario
  ────────────────────────
  **LOOKING IS INVISIBLE.**

  A scenario is a list of tasks that are carried out one after the other on one machine, each with
  options of its own; a task that fails does not end it.  Some tasks only read: they evaluate, plan, or
  are dry runs.  However they end, they leave the machine as it was, and no task depends on what was
  printed before it; so the answer to a task is settled by the other tasks before it, those that may
  change the machine.

  Main results:
    * `machine_after` — reading tasks may be left out of a scenario;
    * `reading_is_invisible` — put in or taken out, they change the answer to no other task.
-/
import Converge.Proofs.Anatomy

namespace Converge

open Converge.Machine Act

/-! ## §1. Tasks. -/

/-- What a scenario asks for. -/
inductive Task where
  /-- Comparing a file with its declaration. -/
  | evaluate (o : Options) (r : FileResource)
  /-- Creating, mending or deleting a file, whatever its state calls for. -/
  | act (a : Action) (o : Options) (r : FileResource)
  /-- Bringing a file to its declared state. -/
  | reconcile (o : Options) (r : FileResource)
  /-- Planning or applying over many resources. -/
  | run (mode : Mode) (o : Options) (rs : List FileResource)

/-- What a task gives back when it ends well. -/
inductive Reply where
  /-- Nothing more than that it ended. -/
  | done
  /-- The state of the resource. -/
  | state (st : State)
  /-- The outcome of each resource. -/
  | outcomes (outcomes : List Outcome)

/-- All that is seen of a task. -/
structure Answer where
  /-- How it ended. -/
  result : Except Failure Reply
  /-- What it printed. -/
  lines : Transcript
  /-- The machine that it met. -/
  before : Machine
  /-- The machine that it left. -/
  after : Machine

namespace Task

/-- What is done for a task. -/
def carryOut : Task → Act Reply
  | .evaluate o r => do return .state (← observe (r.evaluate o))
  | .act a o r => do r.act o a; return .done
  | .reconcile o r => do return .state (← r.reconcile o)
  | .run mode o rs => do return .outcomes (← Runner.run mode o rs)

/-- Whether a task only looks: it evaluates or plans, or it is a dry run. -/
def reads : Task → Bool
  | .evaluate .. => true
  | .act _ o _ => o.dryRun
  | .reconcile o _ => o.dryRun
  | .run .plan _ _ => true
  | .run .apply o _ => o.dryRun

/-- The session after a task, however it ended. -/
def next (t : Task) (s : Session) : Session := (perform t.carryOut s).2

/-- What is seen of a task. -/
def answer (t : Task) (s : Session) : Answer where
  result := (perform t.carryOut s).1
  lines := (t.next s).transcript.drop s.transcript.length
  before := s.machine
  after := (t.next s).machine

end Task

/-! ## §2. Scenarios. -/

/-- Tasks that are carried out one after the other. -/
abbrev Scenario := List Task

namespace Scenario

/-- The session after a scenario. -/
def after (ts : Scenario) (s : Session) : Session := ts.foldl (fun s t => t.next s) s

/-- The answers to the tasks, each with its task. -/
def answers : Scenario → Session → List (Task × Answer)
  | [], _ => []
  | t :: rest, s => (t, t.answer s) :: answers rest (t.next s)

/-- The tasks that may change the machine. -/
def changing (ts : Scenario) : Scenario := ts.filter fun t => !t.reads

end Scenario

/-! ## §3. One task. -/

namespace Task

/-- **A task that only looks leaves the machine as it was, however it ends.** -/
theorem still {t : Task} (h : t.reads = true) : Still t.carryOut := by
  cases t with
  | evaluate o r => exact Still.bind (Still.observe _) fun _ => Still.pure _
  | act a o r => exact Still.bind ((Still.covers r h).act a) fun _ => Still.pure _
  | reconcile o r => exact Still.bind (Still.covers r h).reconcile fun _ => Still.pure _
  | run mode o rs =>
    refine Still.bind (Still.handles.run fun r _ => ?_) fun _ => Still.pure _
    cases mode with
    | plan => exact Still.observe _
    | apply => exact (Still.covers r h).reconcile

/-- No task depends on what was printed before it. -/
theorem twin (t : Task) : Twin (· = ·) t.carryOut := by
  cases t with
  | evaluate o r => exact Twin.bind (Twin.observe_self _) fun _ => Twin.pure _
  | act a o r => exact Twin.bind ((Twin.covers_self r o).act a) fun _ => Twin.pure _
  | reconcile o r => exact Twin.bind (Twin.covers_self r o).reconcile fun _ => Twin.pure _
  | run mode o rs =>
    refine Twin.bind (Twin.handles.run fun r _ => ?_) fun _ => Twin.pure _
    cases mode with
    | plan => exact Twin.observe_self _
    | apply => exact (Twin.covers_self r o).reconcile

/-- The machine after a reading task is the machine before it. -/
theorem machine_next_of_reads {t : Task} (h : t.reads = true) (s : Session) :
    (t.next s).machine = s.machine := still h s

/-- On one machine a task is answered in one way. -/
theorem answer_congr (t : Task) {s s' : Session} (h : s.machine = s'.machine) :
    t.answer s = t.answer s' := by
  obtain ⟨result, s₁, s₁', said, hp, hp', hmachine, hsaid, hsaid'⟩ := t.twin s s' h
  simp only [answer, next, hp, hp', hsaid, hsaid', List.drop_left, h, hmachine]

/-- From one machine a task leads to one machine. -/
theorem machine_next_congr (t : Task) {s s' : Session} (h : s.machine = s'.machine) :
    (t.next s).machine = (t.next s').machine :=
  congrArg Answer.after (t.answer_congr h)

end Task

/-! ## §4. Scenarios with tasks put in and taken out. -/

namespace Scenario

/-- From one machine a scenario leads to the machine that its changing tasks lead to. -/
theorem machine_after_congr (ts : Scenario) {s s' : Session} (h : s.machine = s'.machine) :
    (after ts s).machine = (after (changing ts) s').machine := by
  induction ts generalizing s s' with
  | nil => exact h
  | cons t rest ih =>
    cases hreads : t.reads with
    | true =>
      -- only the first of the two scenarios takes the task
      have hrest : changing (t :: rest) = changing rest := by simp [changing, hreads]
      rw [hrest]
      exact ih ((t.machine_next_of_reads hreads s).trans h)
    | false =>
      have hrest : changing (t :: rest) = t :: changing rest := by simp [changing, hreads]
      rw [hrest]
      exact ih (t.machine_next_congr h)

/-- **Reading tasks may be left out**: the machine is in the end the same. -/
theorem machine_after (ts : Scenario) (s : Session) :
    (after ts s).machine = (after (changing ts) s).machine :=
  machine_after_congr ts rfl

/-- A task is answered where the tasks before it have led. -/
theorem answers_at (front : Scenario) (t : Task) (back : Scenario) (s : Session) :
    (answers (front ++ t :: back) s)[front.length]? = some (t, t.answer (after front s)) := by
  induction front generalizing s with
  | nil => rfl
  | cons first rest ih => exact ih (first.next s)

/-- **Looking is invisible.**  A task that only looks leaves the machine as it was, however it ends;
    and when two scenarios have the same changing tasks before a task, then whatever else they ask
    before it, and whatever they ask after it, its answer is the same: its result, what it prints, and
    the machine before and after it.  What all tasks together have made of the machine is the same,
    too. -/
theorem reading_is_invisible (s : Session) :
    (∀ t : Task, t.reads = true → ∀ s' : Session, (t.next s').machine = s'.machine) ∧
    (∀ (front front' : Scenario) (t : Task) (back back' : Scenario),
      changing front = changing front' →
      (answers (front ++ t :: back) s)[front.length]? =
        (answers (front' ++ t :: back') s)[front'.length]?) ∧
    (∀ ts ts' : Scenario, changing ts = changing ts' →
      (after ts s).machine = (after ts' s).machine) := by
  have hmachine : ∀ ts ts' : Scenario, changing ts = changing ts' →
      (after ts s).machine = (after ts' s).machine := by
    intro ts ts' h
    rw [machine_after ts, machine_after ts', h]
  refine ⟨fun t => t.machine_next_of_reads, ?_, hmachine⟩
  intro front front' t back back' h
  rw [answers_at, answers_at, t.answer_congr (hmachine front front' h)]

end Scenario

end Converge
