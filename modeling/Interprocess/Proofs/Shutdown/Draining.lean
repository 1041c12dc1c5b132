import Interprocess.Proofs.Shutdown.Loop
import Mathlib.Algebra.GroupWithZero.Nat

/-!
# Draining a loop that posts to itself

A run of the parent's loop takes the first task off its queue and does it, as long as there is one.
What a task posts comes behind the others, so the queue need not get shorter with a turn.
`Parent.Drains` says what a run comes to, without any bound on its turns. Each turn takes more off
the load than it puts back, so every run comes to an end (`Parent.drains_runFor`), and to one only
(`Parent.Drains.eq`). How many tasks a run does depends on what the queue holds, and otherwise only
on whether one of them stops the worker (`Parent.Drains.length_eq`). The main statement is
`Teardown.drained_for_good`.
-/

set_option autoImplicit false

namespace Interprocess.Shutdown

/-- The number of tasks that a task comes to, itself included, unless it stops the worker. -/
def Task.span : Task → Nat
  | tryStopWorker | noteChildDone | endParent => 1
  | destroySubprocess => 2
  | beginTakeDown => 3

namespace Parent

/-- What a run of the loop comes to, and the tasks that it does, each with the state that it is done
in. -/
inductive Drains : Parent → List (Parent × Task) → Parent → Prop
  | idle {p : Parent} : p.tasks = [] → Drains p [] p
  | turn {p q : Parent} {t : Task} {rest : List Task} {row : List (Parent × Task)} :
      p.tasks = t :: rest → Drains ({ p with tasks := rest }.perform t) row q →
      Drains p (({ p with tasks := rest }, t) :: row) q

variable {p q : Parent} {row : List (Parent × Task)} {fuel : Nat}

/-- With fuel for all that is waiting and all that follows from it, the loop is run to its end. -/
theorem drains_runFor (enough : p.load ≤ fuel) : p.Drains (turns fuel p) (runFor fuel p) := by
  induction fuel generalizing p with
  | zero => exact .idle (tasks_runFor enough)
  | succ fuel ih =>
    cases tasks : p.tasks with
    | nil =>
      rw [turns_of_idle tasks, runFor_of_idle tasks]
      exact .idle tasks
    | cons t rest =>
      -- the queue may be as long as before, but what it leads to has become less
      have lighter := load_turn_lt tasks
      rw [turns_succ tasks, runFor_succ tasks]
      apply Drains.turn tasks
      apply ih
      omega

/-- A run of the loop comes to one end only. -/
theorem Drains.eq {other : List (Parent × Task)} {r : Parent} (drains : p.Drains row q)
    (again : p.Drains other r) : other = row ∧ r = q := by
  induction drains generalizing other with
  | idle idle =>
    cases again with
    | idle => exact ⟨rfl, rfl⟩
    | turn tasks =>
      rw [idle] at tasks
      contradiction
  | turn tasks _ ih =>
    cases again with
    | idle idle =>
      rw [tasks] at idle
      contradiction
    | turn same later =>
      obtain ⟨rfl, rfl⟩ := List.cons.inj (tasks.symm.trans same)
      obtain ⟨rfl, rfl⟩ := ih later
      exact ⟨rfl, rfl⟩

/-- The loop always comes to an end, and to nothing else than what it comes to with a bound. -/
theorem drains_iff : p.Drains row q ↔ row = turns p.load p ∧ q = p.runUntilIdle := by
  have ends : p.Drains (turns p.load p) p.runUntilIdle := drains_runFor (Nat.le_refl _)
  constructor
  · exact ends.eq
  · rintro ⟨rfl, rfl⟩
    exact ends

/-! ## How many tasks there are -/

/-- The number of tasks that the waiting ones come to, unless one of them stops the worker. -/
def span (p : Parent) : Nat := (p.tasks.map Task.span).sum

/-- A parent without tasks has nothing to come to. -/
theorem span_of_idle (idle : p.tasks = []) : p.span = 0 := by
  rw [span, idle]
  rfl

/-- The waiting tasks come to what the first one comes to and what the others come to. -/
theorem span_of_cons {t : Task} {rest : List Task} (tasks : p.tasks = t :: rest) :
    p.span = t.span + { p with tasks := rest }.span := by
  rw [span, tasks, List.map_cons, List.sum_cons, span]

/-- A task that is posted adds what it comes to. -/
theorem span_post (p : Parent) (t : Task) : (p.post t).span = p.span + t.span := by
  simp [span, post]

/-- An attempt that stops the worker posts a task that comes to two. -/
theorem span_stopWorkerIfDone (p : Parent) :
    p.stopWorkerIfDone.span + 2 * p.stopped = p.span + 2 * p.stopWorkerIfDone.stopped := by
  rcases p.stopWorkerIfDone_cases with ⟨-, -, running, stopped⟩ | ⟨-, same⟩
  · have before : p.stopped = 0 := by simp [Parent.stopped, running]
    rw [stopped, before]
    exact span_post p .destroySubprocess
  · rw [same]

/-- A task is one of those that it comes to, and leaves the others to those that it posts. -/
theorem span_perform (p : Parent) (t : Task) :
    (p.perform t).span + 1 + 2 * p.stopped = p.span + t.span + 2 * (p.perform t).stopped := by
  cases t with
  | tryStopWorker =>
    have attempt := p.span_stopWorkerIfDone
    simp only [perform, Task.span]
    omega
  | noteChildDone =>
    have attempt := { p with childDone := true }.span_stopWorkerIfDone
    have span : { p with childDone := true }.span = p.span := rfl
    have stopped : { p with childDone := true }.stopped = p.stopped := rfl
    simp only [perform, Task.span]
    omega
  | beginTakeDown =>
    have stopped : (p.post .destroySubprocess).stopped = p.stopped := rfl
    simp only [perform, span_post, Task.span, stopped]
  | destroySubprocess =>
    have span : (p.takeStep .subprocessDestroyed).span = p.span := rfl
    have stopped : ((p.takeStep .subprocessDestroyed).post .endParent).stopped = p.stopped := rfl
    simp only [perform, span_post, Task.span, span, stopped]
  | endParent => rfl

/-- A run of the loop does as many tasks as the waiting ones come to, and two more if it stops the
worker. -/
theorem Drains.length_eq (drains : p.Drains row q) :
    row.length + 2 * p.stopped = p.span + 2 * q.stopped := by
  -- an equation between both ends of a run, so that what one turn adds to either side cancels out
  induction drains with
  | idle idle => rw [span_of_idle idle, List.length_nil]
  | @turn p q t rest row tasks _ ih =>
    have step := { p with tasks := rest }.span_perform t
    have whole := span_of_cons tasks
    have stopped : { p with tasks := rest }.stopped = p.stopped := rfl
    rw [List.length_cons]
    omega

end Parent

/-! ## Any order of calls -/

namespace Teardown

/-- No call gives the parent's side up. -/
theorem parentPresent_run (mode : Mode) (es : List Event) :
    (run mode es).pair.parentPresent = true := by
  induction es using List.reverseRecOn with
  | nil => rfl
  | append_singleton es e ih =>
    rw [run_append_singleton]
    cases e with
    | quitParent => simp [step, Pair.quitParent, ih]
    | quitChild =>
      simp only [step, Pair.quitChild]
      split
      · exact ih
      · split <;> exact ih
    | runParent => simp [step, Pair.runParent, ih]
    | runChild =>
      simp only [step, Pair.runChild]
      split <;> exact ih

/-- Whatever calls were made on a pair of either kind, a run of the parent's loop comes to an end,
and to one only, after finitely many tasks: as many as the waiting ones come to, and two more if the
worker is stopped. No task is left then, so another run does nothing. -/
theorem drained_for_good (mode : Mode) (es : List Event) :
    let d := run mode es
    let after := d.step .runParent
    (∃ row,
      (∀ other p, d.pair.parent.Drains other p ↔ other = row ∧ p = after.pair.parent) ∧
      after.turns = d.turns ++ row ∧
      row.length + 2 * d.stops = d.pair.parent.span + 2 * after.stops) ∧
    after.pair.parent.tasks = [] ∧
    after.step .runParent = after := by
  intro d after
  have ran : after =
      { pair := { d.pair with parent := d.pair.parent.runUntilIdle }
        turns := d.turns ++ d.pair.parent.turns d.pair.parent.load } :=
    step_runParent (parentPresent_run mode es)
  have counted : d.stops = d.pair.parent.stopped := stops_run mode es
  have idle : after.pair.parent.tasks = [] := tasks_step_runParent (parentPresent_run mode es)
  refine ⟨⟨d.pair.parent.turns d.pair.parent.load, fun other p => ?_, ?_, ?_⟩, idle, ?_⟩
  · rw [Parent.drains_iff, ran]
  · rw [ran]
  · rw [stops_step counted .runParent, counted]
    apply Parent.Drains.length_eq
    exact Parent.drains_iff.2 ⟨rfl, congrArg (fun d => d.pair.parent) ran⟩
  · have present : after.pair.parentPresent = true := by
      rw [ran]
      exact parentPresent_run mode es
    rw [step_runParent present, Parent.runUntilIdle_of_idle idle, Parent.turns_of_idle idle,
      List.append_nil]

end Teardown

end Interprocess.Shutdown
