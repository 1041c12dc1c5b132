import Interprocess.Shutdown.Pair
import Mathlib.Data.List.Induction

/-!
# Runs of a parent and a child

Both sides may be told to end and both loops may run, in any order and as often as one likes. A
`Teardown` is the pair after some such calls, together with the tasks that the parent's loop has
done, each with the state that it was done in. A task may post others, so what holds of a whole run
of the loop is derived from what one task keeps, `Parent.runUntilIdle_induction`. The worker is
stopped by one task at most, in either mode: once it is stopped it never runs again
(`Teardown.stops_run`).
-/

set_option autoImplicit false

namespace Interprocess.Shutdown

namespace Parent

/-- The tasks that the loop does, at most `fuel` of them, each with the state that it is done in. -/
def turns : Nat → Parent → List (Parent × Task)
  | 0, _ => []
  | fuel + 1, p =>
    match p.tasks with
    | [] => []
    | t :: rest => ({ p with tasks := rest }, t) :: turns fuel ({ p with tasks := rest }.perform t)

/-- Whether the worker runs before a task and is stopped afterwards. -/
def stops (p : Parent) (t : Task) : Bool :=
  p.worker = some .running && (p.perform t).worker = some .aborted

variable {p : Parent} {t : Task} {fuel : Nat}

/-- A parent without tasks stays as it is. -/
theorem runFor_of_idle (idle : p.tasks = []) : runFor fuel p = p := by
  cases fuel with
  | zero => rfl
  | succ fuel => simp only [runFor, idle]

/-- With fuel left, the first task is done. -/
theorem runFor_succ {rest : List Task} (tasks : p.tasks = t :: rest) :
    runFor (fuel + 1) p = runFor fuel ({ p with tasks := rest }.perform t) := by
  simp only [runFor, tasks]

/-- A parent without tasks does none. -/
theorem turns_of_idle (idle : p.tasks = []) : turns fuel p = [] := by
  cases fuel with
  | zero => rfl
  | succ fuel => simp only [turns, idle]

/-- With fuel left, the first task is noted with the state that it is done in. -/
theorem turns_succ {rest : List Task} (tasks : p.tasks = t :: rest) :
    turns (fuel + 1) p =
      ({ p with tasks := rest }, t) :: turns fuel ({ p with tasks := rest }.perform t) := by
  simp only [turns, tasks]

/-- More fuel than the tasks can use makes no difference. -/
theorem runFor_of_le (enough : p.load ≤ fuel) : runFor fuel p = p.runUntilIdle := by
  have agree (j k : Nat) (p : Parent) (first : p.load ≤ j) (second : p.load ≤ k) :
      runFor j p = runFor k p := by
    induction j generalizing k p with
    | zero =>
      have idle : p.tasks = [] := tasks_runFor first
      rw [runFor_of_idle idle, runFor_of_idle idle]
    | succ j ih =>
      cases tasks : p.tasks with
      | nil => rw [runFor_of_idle tasks, runFor_of_idle tasks]
      | cons t rest =>
        have lighter := load_turn_lt tasks
        obtain ⟨k, rfl⟩ : ∃ l, k = l + 1 := ⟨k - 1, by omega⟩
        rw [runFor_succ tasks, runFor_succ tasks]
        apply ih
        · omega
        · omega
  exact agree fuel p.load p enough (Nat.le_refl _)

/-- A run of the loop leaves a parent without tasks as it is. -/
theorem runUntilIdle_of_idle (idle : p.tasks = []) : p.runUntilIdle = p := runFor_of_idle idle

/-- The loop does the first task, and then all that is to be done after it. -/
theorem runUntilIdle_cons {rest : List Task} (tasks : p.tasks = t :: rest) :
    p.runUntilIdle = ({ p with tasks := rest }.perform t).runUntilIdle := by
  have lighter := load_turn_lt tasks
  obtain ⟨fuel, load⟩ : ∃ l, p.load = l + 1 := ⟨p.load - 1, by omega⟩
  rw [runUntilIdle, load, runFor_succ tasks]
  apply runFor_of_le
  omega

/-- What each task keeps is kept by a run with any fuel. -/
theorem runFor_induction {motive : Parent → Prop}
    (perform : ∀ (p : Parent) (t : Task) (rest : List Task), p.tasks = t :: rest → motive p →
      motive ({ p with tasks := rest }.perform t)) (start : motive p) : motive (runFor fuel p) := by
  induction fuel generalizing p with
  | zero => exact start
  | succ fuel ih =>
    cases tasks : p.tasks with
    | nil =>
      rw [runFor_of_idle tasks]
      exact start
    | cons t rest =>
      rw [runFor_succ tasks]
      apply ih
      exact perform p t rest tasks start

/-- What each task keeps is kept by a run of the loop. -/
theorem runUntilIdle_induction {motive : Parent → Prop}
    (perform : ∀ (p : Parent) (t : Task) (rest : List Task), p.tasks = t :: rest → motive p →
      motive ({ p with tasks := rest }.perform t)) (start : motive p) : motive p.runUntilIdle :=
  runFor_induction perform start

/-- The worker is stopped by telling it to, and in no other way. -/
theorem stopWorkerIfDone_cases (p : Parent) :
    (p.childDone = true ∧ p.parentDone = true ∧ p.worker = some .running ∧
      p.stopWorkerIfDone =
        { p with
          worker := some .aborted
          steps := p.steps ++ [.childWorkerDeleted]
          tasks := p.tasks ++ [.destroySubprocess] }) ∨
    (¬ (p.childDone = true ∧ p.parentDone = true ∧ p.worker = some .running) ∧
      p.stopWorkerIfDone = p) := by
  by_cases ready : p.childDone = true ∧ p.parentDone = true ∧ p.worker = some .running
  · obtain ⟨child, parent, running⟩ := ready
    refine Or.inl ⟨child, parent, running, ?_⟩
    rw [stopWorkerIfDone, if_pos (by simp [child, parent, running])]
    rfl
  · refine Or.inr ⟨ready, ?_⟩
    rw [stopWorkerIfDone, if_neg]
    simpa [and_assoc] using ready

/-- A task leaves the worker alone, or stops one that runs. -/
theorem worker_perform (p : Parent) (t : Task) :
    (p.perform t).worker = p.worker ∨
      p.worker = some .running ∧ (p.perform t).worker = some .aborted := by
  have attempt (p : Parent) : p.stopWorkerIfDone.worker = p.worker ∨
      p.worker = some .running ∧ p.stopWorkerIfDone.worker = some .aborted := by
    rcases p.stopWorkerIfDone_cases with ⟨-, -, running, result⟩ | ⟨-, result⟩
    · rw [result]
      exact Or.inr ⟨running, rfl⟩
    · rw [result]
      exact Or.inl rfl
  cases t with
  | tryStopWorker => exact attempt p
  | noteChildDone => exact attempt { p with childDone := true }
  | beginTakeDown | destroySubprocess | endParent => exact Or.inl rfl

/-- Whether the worker was stopped, as a number. -/
def stopped (p : Parent) : Nat := if p.worker = some .aborted then 1 else 0

/-- A task stops the worker if it runs before and is stopped afterwards. -/
theorem stopped_perform (p : Parent) (t : Task) :
    (p.perform t).stopped = p.stopped + (p.stops t).toNat := by
  rcases p.worker_perform t with same | ⟨running, aborted⟩
  · have quiet : p.stops t = false := by
      unfold stops
      rw [same]
      cases p.worker with
      | none => rfl
      | some worker => cases worker <;> rfl
    rw [stopped, same, quiet]
    rfl
  · have stops : p.stops t = true := by simp [stops, running, aborted]
    rw [stopped, stopped, running, aborted, stops]
    rfl

/-- A run of the loop stops the worker as often as it takes one that runs to one that is stopped. -/
theorem stopped_runFor (fuel : Nat) (p : Parent) :
    (runFor fuel p).stopped =
      p.stopped + (turns fuel p).countP fun turn => turn.1.stops turn.2 := by
  induction fuel generalizing p with
  | zero => rfl
  | succ fuel ih =>
    cases tasks : p.tasks with
    | nil =>
      rw [runFor_of_idle tasks, turns_of_idle tasks]
      rfl
    | cons t rest =>
      have first : { p with tasks := rest }.stopped = p.stopped := rfl
      rw [runFor_succ tasks, turns_succ tasks, ih, stopped_perform, first, List.countP_cons]
      cases { p with tasks := rest }.stops t with
      | false => rfl
      | true =>
        simp only [Bool.toNat_true, if_true]
        omega

end Parent

/-- What a caller may do with both sides. -/
inductive Event
  | quitParent
  | quitChild
  | runParent
  | runChild
deriving DecidableEq, Repr

/-- A parent and a child after some calls, and the tasks that the parent's loop has done, the first
one first. -/
structure Teardown where
  pair : Pair
  turns : List (Parent × Task) := []

namespace Teardown

/-- One more call. -/
def step (d : Teardown) : Event → Teardown
  | .quitParent => { d with pair := d.pair.quitParent }
  | .quitChild => { d with pair := d.pair.quitChild }
  | .runParent =>
    { pair := d.pair.runParent
      turns :=
        d.turns ++ if d.pair.parentPresent then d.pair.parent.turns d.pair.parent.load else [] }
  | .runChild => { d with pair := d.pair.runChild }

/-- What has come of some calls on a parent and a child that run. -/
def run (mode : Mode) (es : List Event) : Teardown := es.foldl step { pair := .start mode }

/-- Without calls both sides are as they were at first. -/
@[simp] theorem run_nil (mode : Mode) : run mode [] = { pair := .start mode } := rfl

/-- One more call is one more step. -/
@[simp] theorem run_append_singleton (mode : Mode) (es : List Event) (e : Event) :
    run mode (es ++ [e]) = (run mode es).step e := by
  unfold run
  rw [List.foldl_append]
  rfl

/-- A parent that is there runs its loop. -/
theorem step_runParent {d : Teardown} (present : d.pair.parentPresent = true) :
    d.step .runParent =
      { pair := { d.pair with parent := d.pair.parent.runUntilIdle }
        turns := d.turns ++ d.pair.parent.turns d.pair.parent.load } := by
  simp only [step, Pair.runParent, if_pos present]

/-- After a run of the parent's loop no task is left. -/
theorem tasks_step_runParent {d : Teardown} (present : d.pair.parentPresent = true) :
    (d.step .runParent).pair.parent.tasks = [] := by
  rw [step_runParent present]
  exact d.pair.parent.tasks_runUntilIdle

/-- How often the worker was stopped. -/
def stops (d : Teardown) : Nat := d.turns.countP fun turn => turn.1.stops turn.2

/-- Telling the parent to end leaves its worker alone. -/
theorem worker_quit (p : Parent) : p.quit.worker = p.worker := by
  unfold Parent.quit
  cases p.mode with
  | threaded | process => rfl

/-- Telling a side to end leaves the worker alone, even if this is all that the parent waits for. -/
theorem worker_quitChild (p : Pair) : p.quitChild.parent.worker = p.parent.worker := by
  unfold Pair.quitChild
  split
  · rfl
  · split
    · split <;> rfl
    · rfl

/-- Nothing but a run of the parent's loop takes a step there. -/
theorem steps_step (d : Teardown) {e : Event} (other : e ≠ .runParent) :
    (d.step e).pair.parent.steps = d.pair.parent.steps := by
  cases e with
  | quitParent =>
    simp only [step, Pair.quitParent, Parent.quit]
    split
    · split <;> rfl
    · rfl
  | quitChild =>
    simp only [step, Pair.quitChild]
    split
    · rfl
    · split
      · split <;> rfl
      · rfl
  | runParent => exact absurd rfl other
  | runChild =>
    simp only [step, Pair.runChild]
    split <;> rfl

/-- Every call keeps the count of how often the worker was stopped. -/
theorem stops_step {d : Teardown} (counted : d.stops = d.pair.parent.stopped) (e : Event) :
    (d.step e).stops = (d.step e).pair.parent.stopped := by
  cases e with
  | quitParent =>
    refine counted.trans ?_
    simp only [step, Pair.quitParent]
    split
    · rw [Parent.stopped, Parent.stopped, worker_quit]
    · rfl
  | quitChild =>
    refine counted.trans ?_
    simp only [step]
    rw [Parent.stopped, Parent.stopped, worker_quitChild]
  | runParent =>
    simp only [step, Pair.runParent]
    split
    · rw [stops, List.countP_append, Parent.runUntilIdle, Parent.stopped_runFor, ← counted]
      rfl
    · rw [stops, List.append_nil]
      exact counted
  | runChild =>
    refine counted.trans ?_
    simp only [step, Pair.runChild]
    split <;> rfl

/-- The worker is stopped at most once, and it is stopped if and only if this was done. -/
theorem stops_run (mode : Mode) (es : List Event) :
    (run mode es).stops = (run mode es).pair.parent.stopped := by
  induction es using List.reverseRecOn with
  | nil => cases mode <;> rfl
  | append_singleton es e ih =>
    rw [run_append_singleton]
    exact stops_step ih e

end Teardown

end Interprocess.Shutdown
