import Interprocess.Proofs.Shutdown.Threaded
import Mathlib.Algebra.GroupWithZero.Nat

/-!
# Taking down a parent and a child process

A parent whose child is a process does not wait for it, and the child takes itself down. So the two
sides are two machines that know nothing of each other, and `rounds` records of each how often it
was told to end before each run of its loop. Nothing keeps a side from being taken down more than
once: each time that it was told to end leads to all of its steps, and the parent takes those for
all the times that wait for a run side by side. The main statement is `taken_down_every_time`: a
side is taken down once if and only if it was told to end once.
-/

set_option autoImplicit false

namespace Interprocess.Shutdown

/-- The steps that a task takes when it does not wait for both sides to be done. -/
def Task.taken : Task → List Step
  | destroySubprocess => [.subprocessDestroyed]
  | endParent => [.parentActorDeleted]
  | _ => []

/-- The tasks that follow from a task that does not wait for both sides to be done. -/
def Task.posted : Task → List Task
  | beginTakeDown => [.destroySubprocess]
  | destroySubprocess => [.endParent]
  | _ => []

namespace Parent

variable {p : Parent} {t : Task}

/-- A parent with other tasks. -/
def holding (p : Parent) (ts : List Task) : Parent := { p with tasks := ts }

/-- A parent that has done a task some times over, but for what the task posts. -/
def did (p : Parent) (t : Task) (times : Nat) : Parent :=
  { p with
    isShutDown := p.isShutDown || (t == .endParent && times != 0)
    steps := p.steps ++ (List.replicate times t.taken).flatten }

/-- Doing a task no times changes nothing. -/
theorem did_zero (p : Parent) (t : Task) : p.did t 0 = p := by
  simp [did]

/-- Doing a task once more is doing it once, and then as often as before. -/
theorem did_succ (p : Parent) (t : Task) (times : Nat) :
    p.did t (times + 1) = (p.did t 1).did t times := by
  have shut : (t == Task.endParent && times + 1 != 0) =
      (t == .endParent && 1 != 0 || t == .endParent && times != 0) := by
    cases t == Task.endParent <;> simp
  simp only [did, List.replicate_succ, List.replicate_zero, List.flatten_cons, List.flatten_nil,
    List.append_nil, List.append_assoc, Bool.or_assoc, shut]

/-- A task that waits for nobody is done, and what it posts comes behind the others. -/
theorem perform_duty (duty : ¬ t.isAttempt) (ts : List Task) :
    (p.holding ts).perform t = (p.did t 1).holding (ts ++ t.posted) := by
  cases t with
  | tryStopWorker | noteChildDone => exact absurd rfl duty
  | beginTakeDown | destroySubprocess | endParent =>
    simp [perform, holding, did, post, takeStep, Task.taken, Task.posted]

/-- Equal tasks in front are done one after the other, and what they post comes behind the
others. -/
theorem runUntilIdle_row (duty : ¬ t.isAttempt) (times : Nat) (ts : List Task) :
    (p.holding (List.replicate times t ++ ts)).runUntilIdle =
      ((p.did t times).holding (ts ++ (List.replicate times t.posted).flatten)).runUntilIdle := by
  induction times generalizing p ts with
  | zero => rw [did_zero, List.replicate_zero, List.replicate_zero, List.flatten_nil,
      List.append_nil, List.nil_append]
  | succ times ih =>
    have first : (p.holding (List.replicate (times + 1) t ++ ts)).tasks =
        t :: (List.replicate times t ++ ts) := rfl
    rw [runUntilIdle_cons first]
    calc ((p.holding (List.replicate times t ++ ts)).perform t).runUntilIdle
      _ = ((p.did t 1).holding (List.replicate times t ++ (ts ++ t.posted))).runUntilIdle := by
          rw [perform_duty duty, List.append_assoc]
      _ = (((p.did t 1).did t times).holding
            (ts ++ t.posted ++ (List.replicate times t.posted).flatten)).runUntilIdle := ih _
      _ = ((p.did t (times + 1)).holding
            (ts ++ (List.replicate (times + 1) t.posted).flatten)).runUntilIdle := by
          rw [← did_succ, List.append_assoc, List.replicate_succ, List.flatten_cons]

/-- The steps of a parent that was told to end some times before it runs its loop. -/
def ending (times : Nat) : List Step :=
  List.replicate times .subprocessDestroyed ++ List.replicate times .parentActorDeleted

/-- A run of the loop takes the parent down as often as this was asked for. -/
theorem runUntilIdle_quits (times : Nat) :
    (p.holding (List.replicate times .beginTakeDown)).runUntilIdle =
      { p with
        isShutDown := p.isShutDown || times != 0
        steps := p.steps ++ ending times
        tasks := [] } := by
  have begun := runUntilIdle_row (p := p) (t := .beginTakeDown) nofun times []
  have destroyed := runUntilIdle_row (p := p.did .beginTakeDown times) (t := .destroySubprocess)
    nofun times []
  have ended := runUntilIdle_row (p := (p.did .beginTakeDown times).did .destroySubprocess times)
    (t := .endParent) nofun times []
  simp only [List.append_nil, List.nil_append, Task.posted, List.flatten_replicate_singleton,
    List.flatten_replicate_nil] at begun destroyed ended
  rw [begun, destroyed, ended, runUntilIdle_of_idle rfl]
  have early : (Task.beginTakeDown == .endParent) = false := rfl
  have late : (Task.destroySubprocess == .endParent) = false := rfl
  simp [holding, did, ending, Task.taken, early, late]

end Parent

/-! ## What a side was told -/

/-- Whether a call is on the parent's side. -/
def Event.isParents : Event → Bool
  | quitParent | runParent => true
  | quitChild | runChild => false

/-- How often a side was told to end before each run of its loop, and since the last one. -/
structure Rounds where
  finished : List Nat := []
  pending : Nat := 0

/-- One more call. -/
def Rounds.step (quit loop : Event) (r : Rounds) (e : Event) : Rounds :=
  if e = quit then { r with pending := r.pending + 1 }
  else if e = loop then { finished := r.finished ++ [r.pending] }
  else r

/-- How often some calls tell a side to end, if `quit` does so and `loop` runs its loop. -/
def rounds (quit loop : Event) (es : List Event) : Rounds := es.foldl (Rounds.step quit loop) {}

/-- One more call is one more step. -/
@[simp] theorem rounds_append_singleton (quit loop : Event) (es : List Event) (e : Event) :
    rounds quit loop (es ++ [e]) = (rounds quit loop es).step quit loop e := by
  unfold rounds
  rw [List.foldl_append]
  rfl

/-- Calls on the other side do not count. -/
theorem rounds_filter {quit loop : Event} {own : Event → Bool} (told : own quit) (runs : own loop)
    (es : List Event) : rounds quit loop (es.filter own) = rounds quit loop es := by
  induction es using List.reverseRecOn with
  | nil => rfl
  | append_singleton es e ih =>
    rw [List.filter_append, rounds_append_singleton, ← ih]
    by_cases mine : own e
    · rw [List.filter_cons_of_pos mine, List.filter_nil, rounds_append_singleton]
    · have quits : e ≠ quit := fun same => mine (same ▸ told)
      have loops : e ≠ loop := fun same => mine (same ▸ runs)
      rw [List.filter_cons_of_neg mine, List.filter_nil, List.append_nil, Rounds.step, if_neg quits,
        if_neg loops]

/-- Every time that a side was told to end belongs to one round. -/
theorem sum_rounds (quit loop : Event) (es : List Event) :
    (rounds quit loop es).finished.sum + (rounds quit loop es).pending = es.count quit := by
  induction es using List.reverseRecOn with
  | nil => rfl
  | append_singleton es e ih =>
    rw [rounds_append_singleton, List.count_append, ← ih, Rounds.step]
    by_cases told : e = quit
    · rw [if_pos told, told, List.count_singleton_self]
      exact (Nat.add_assoc _ _ _).symm
    · have other : [e].count quit = 0 := List.count_eq_zero.2 (by simpa using Ne.symm told)
      rw [if_neg told, other]
      split
      · simp
      · rfl

/-! ## Both sides -/

/-- The parent of a child process, after what it was told. -/
def Parent.told (r : Rounds) : Parent :=
  { Parent.start .process with
    isShutDown := r.finished.any (· != 0)
    steps := r.finished.flatMap Parent.ending
    tasks := List.replicate r.pending .beginTakeDown }

/-- A child process, after what it was told. -/
def Child.told (r : Rounds) : Child where
  mode := .process
  pending := r.pending
  steps := (List.replicate r.finished.sum Child.ending).flatten

namespace Parent

/-- A parent that is told to end once more posts one more task for it. -/
theorem quit_told (r : Rounds) : (told r).quit = told { r with pending := r.pending + 1 } := by
  simp [told, quit, start, post, List.replicate_succ']

/-- A run of the parent's loop does what it was told since the last one. -/
theorem runUntilIdle_told (r : Rounds) :
    (told r).runUntilIdle = told { finished := r.finished ++ [r.pending] } := by
  refine (runUntilIdle_quits (p := told r) r.pending).trans ?_
  simp [told, List.flatMap_append]

end Parent

namespace Child

/-- A run of the child's loop does what it was told since the last one. -/
theorem runUntilIdle_told (r : Rounds) :
    (told r).runUntilIdle = told { finished := r.finished ++ [r.pending] } := by
  simp only [told, runUntilIdle, ← List.flatten_append, List.replicate_append_replicate,
    List.sum_append, List.sum_singleton]

end Child

namespace Teardown

/-- Either side is what it was told, whatever was done with the other one. -/
theorem run_process (es : List Event) :
    (run .process es).pair =
      { parent := .told (rounds .quitParent .runParent es)
        child := .told (rounds .quitChild .runChild es) } := by
  induction es using List.reverseRecOn with
  | nil => rfl
  | append_singleton es e ih =>
    rw [run_append_singleton, rounds_append_singleton, rounds_append_singleton]
    cases e with
    | quitParent =>
      simp only [step, ih, Pair.quitParent, Parent.quit_told]
      rfl
    | quitChild =>
      simp only [step, ih, Pair.quitChild]
      rfl
    | runParent =>
      simp only [step, ih, Pair.runParent, Parent.runUntilIdle_told]
      rfl
    | runChild =>
      simp only [step, ih, Pair.runChild, Child.runUntilIdle_told]
      rfl

/-- The child takes steps in a run of its loop only. -/
theorem child_steps_step (d : Teardown) {e : Event} (other : e ≠ .runChild) :
    (d.step e).pair.child.steps = d.pair.child.steps := by
  cases e with
  | quitParent =>
    simp only [step, Pair.quitParent]
    split <;> rfl
  | quitChild =>
    simp only [step, Pair.quitChild]
    split
    · rfl
    · split
      · split <;> rfl
      · rfl
  | runParent =>
    simp only [step, Pair.runParent]
    split <;> rfl
  | runChild => exact absurd rfl other

/-! ## Once and more than once -/

/-- After a run of a side's loop all the times that it was told to end are done with. -/
theorem sum_finished (quit loop : Event) (apart : loop ≠ quit) (es : List Event) :
    (rounds quit loop (es ++ [loop])).finished.sum = es.count quit := by
  rw [rounds_append_singleton, Rounds.step, if_neg apart, if_pos rfl, List.sum_append,
    List.sum_singleton, sum_rounds]

/-- In one round every step is taken as often as the parent was told to end in it. -/
theorem count_ending (times : Nat) :
    ∀ s ∈ Parent.ending 1, (Parent.ending times).count s = times := by
  intro s mem
  have one : s = .subprocessDestroyed ∨ s = .parentActorDeleted := by simpa [Parent.ending] using mem
  rcases one with rfl | rfl <;> simp [Parent.ending, List.count_replicate]

/-- In several rounds every step is taken as often as the parent was told to end in all of them. -/
theorem count_flatMap_ending (times : List Nat) :
    ∀ s ∈ Parent.ending 1, (times.flatMap Parent.ending).count s = times.sum := by
  intro s mem
  induction times with
  | nil => rfl
  | cons n times ih =>
    rw [List.flatMap_cons, List.count_append, ih, count_ending n s mem, List.sum_cons]

/-- A child takes every step as often as it was told to end. -/
theorem count_flatten_ending (times : Nat) :
    ∀ s ∈ Child.ending, (List.replicate times Child.ending).flatten.count s = times := by
  intro s mem
  have once : Child.ending.count s = 1 := by
    have one : s = .childActorDeleted ∨ s = .childProcessShutDown := by
      simpa [Child.ending] using mem
    rcases one with rfl | rfl <;> rfl
  rw [List.count_flatten, List.map_replicate, once, List.sum_replicate_nat, Nat.mul_one]

/-- If a side was told to end once at most, it makes no difference in which round that was. -/
theorem flatMap_ending_of_le {times : List Nat} (few : times.sum ≤ 1) :
    times.flatMap Parent.ending = if times.sum = 1 then Parent.ending 1 else [] := by
  induction times with
  | nil => rfl
  | cons n times ih =>
    rw [List.sum_cons] at few
    rw [List.flatMap_cons, ih (by omega), List.sum_cons]
    have cases : n = 0 ∨ n = 1 ∧ times.sum = 0 := by omega
    rcases cases with rfl | ⟨rfl, none⟩
    · rw [Nat.zero_add]
      rfl
    · rw [none]
      rfl

/-- What is done at most once is done once or not at all. -/
theorem flatten_replicate_of_le {times : Nat} (few : times ≤ 1) (once : List Step) :
    (List.replicate times once).flatten = if times = 1 then once else [] := by
  have cases : times = 0 ∨ times = 1 := by omega
  rcases cases with rfl | rfl <;> simp

/-- A side whose steps come as often as it was told to end has been taken down once, or not at all
if it was not told to, unless it was told to more than once. -/
theorem eq_once_iff {steps once : List Step} {quit : Event} {es : List Event} {s : Step}
    (single : once.count s = 1) (counted : steps.count s = es.count quit)
    (few : es.count quit ≤ 1 → steps = if es.count quit = 1 then once else []) :
    steps = (if quit ∈ es then once else []) ↔ es.count quit ≤ 1 := by
  constructor
  · rintro rfl
    rw [← counted]
    split
    · exact Nat.le_of_eq single
    · exact Nat.zero_le 1
  · intro le
    rw [few le]
    have told : quit ∈ es ↔ es.count quit = 1 := by
      rw [← List.count_pos_iff]
      omega
    simp only [told]

/-- The two sides do not influence each other, and only a run of its loop lets a side take steps.
After such a run each step of the side has been taken as often as the side was told to end by then,
the child's always in the same order and the parent's side by side for each run. So the side has
been taken down once, or not at all if it was not told to end, exactly if it was told to at most
once. -/
theorem taken_down_every_time (es : List Event) :
    let d := run .process es
    (d.pair.parent = (run .process (es.filter Event.isParents)).pair.parent ∧
      d.pair.child = (run .process (es.filter fun e => !e.isParents)).pair.child) ∧
    ((∀ e, e ≠ .runParent → (d.step e).pair.parent.steps = d.pair.parent.steps) ∧
      ∀ e, e ≠ .runChild → (d.step e).pair.child.steps = d.pair.child.steps) ∧
    ((d.step .runParent).pair.parent.steps =
        (rounds .quitParent .runParent (es ++ [.runParent])).finished.flatMap Parent.ending ∧
      (d.step .runChild).pair.child.steps =
        (List.replicate (es.count .quitChild) Child.ending).flatten) ∧
    ((∀ s ∈ Parent.ending 1,
        (d.step .runParent).pair.parent.steps.count s = es.count .quitParent) ∧
      ∀ s ∈ Child.ending, (d.step .runChild).pair.child.steps.count s = es.count .quitChild) ∧
    ((d.step .runParent).pair.parent.steps =
        (if .quitParent ∈ es then Parent.ending 1 else []) ↔ es.count .quitParent ≤ 1) ∧
    ((d.step .runChild).pair.child.steps =
        (if .quitChild ∈ es then Child.ending else []) ↔ es.count .quitChild ≤ 1) := by
  intro d
  have sides : d.pair = _ := run_process es
  have parents : (d.step .runParent).pair.parent.steps =
      (rounds .quitParent .runParent (es ++ [.runParent])).finished.flatMap Parent.ending := by
    rw [← run_append_singleton, run_process]
    rfl
  have parentSum := sum_finished .quitParent .runParent (by decide) es
  have children : (d.step .runChild).pair.child.steps =
      (List.replicate (es.count .quitChild) Child.ending).flatten := by
    rw [← run_append_singleton, run_process,
      ← sum_finished .quitChild .runChild (by decide)]
    rfl
  have parentCount : ∀ s ∈ Parent.ending 1,
      (d.step .runParent).pair.parent.steps.count s = es.count .quitParent := by
    intro s mem
    rw [parents, count_flatMap_ending _ s mem, parentSum]
  have childCount : ∀ s ∈ Child.ending,
      (d.step .runChild).pair.child.steps.count s = es.count .quitChild := by
    intro s mem
    rw [children, count_flatten_ending _ s mem]
  refine ⟨⟨?_, ?_⟩, ⟨fun e => d.steps_step, fun e => d.child_steps_step⟩, ⟨parents, children⟩,
    ⟨parentCount, childCount⟩, ?_, ?_⟩
  · rw [sides, run_process]
    exact congrArg Parent.told (rounds_filter rfl rfl es).symm
  · rw [sides, run_process]
    exact congrArg Child.told (rounds_filter rfl rfl es).symm
  · refine eq_once_iff (s := .subprocessDestroyed) rfl (parentCount _ (by decide)) fun le => ?_
    rw [parents, flatMap_ending_of_le (parentSum ▸ le), parentSum]
  · refine eq_once_iff (s := .childActorDeleted) rfl (childCount _ (by decide)) fun le => ?_
    rw [children, flatten_replicate_of_le le]

/-- A parent that has been told to end twice destroys its subprocess twice, and does so after its
own end if the second time comes later; a child process that has been told to end twice ends
twice. -/
theorem taken_down_twice :
    (run .process [.quitParent, .quitParent, .runParent]).pair.parent.steps =
      [.subprocessDestroyed, .subprocessDestroyed, .parentActorDeleted, .parentActorDeleted] ∧
    (run .process [.quitParent, .runParent, .quitParent, .runParent]).pair.parent.steps =
      [.subprocessDestroyed, .parentActorDeleted, .subprocessDestroyed, .parentActorDeleted] ∧
    (run .process [.quitChild, .quitChild, .runChild]).pair.child.steps =
      Child.ending ++ Child.ending := by
  decide

end Teardown

end Interprocess.Shutdown
