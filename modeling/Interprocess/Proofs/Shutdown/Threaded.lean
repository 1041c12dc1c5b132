import Interprocess.Proofs.Shutdown.Loop

/-!
# Taking down a parent with a threaded child

The parent notes at once that it is done, the child's word comes as a task, and each side may be
told to end many times. The worker is stopped by the first attempt that finds both sides done; every
later one does nothing. `Stage` says how far the parent has come between two tasks: waiting for both
sides, with the worker stopped, with the subprocess gone, and ended. Each task takes a stage to the
same or to a later one, `Stage.perform`. While the parent waits with both sides done, there is an
attempt to come, so with no task left only the first stage and the last are possible, and they tell
whether both sides have said that they are done. The main statement is `taken_down_once`.
-/

set_option autoImplicit false

namespace Interprocess.Shutdown

/-- The steps that take a parent with a threaded child down. -/
def takeDown : List Step := [.childWorkerDeleted, .subprocessDestroyed, .parentActorDeleted]

/-- Whether a task tries to stop the worker. -/
def Task.isAttempt : Task → Bool
  | tryStopWorker | noteChildDone => true
  | _ => false

/-- The tasks that are more than attempts to stop the worker. -/
def Task.due (ts : List Task) : List Task := ts.filter fun t => !t.isAttempt

namespace Parent

variable {p : Parent} {t : Task} {rest : List Task}

/-- The parent knows that both sides are done, and has stopped the worker. -/
structure Committed (p : Parent) : Prop where
  child : p.childDone = true
  parent : p.parentDone = true
  worker : p.worker = some .aborted

/-- How far a parent has come between two tasks. -/
inductive Stage (p : Parent) : Prop
  | waiting : p.worker = some .running → p.steps = [] → p.isShutDown = false →
      Task.due p.tasks = [] → (p.childDone = true → p.parentDone = true → p.tasks ≠ []) → Stage p
  | stopped : p.Committed → p.steps = takeDown.take 1 → p.isShutDown = false →
      Task.due p.tasks = [.destroySubprocess] → Stage p
  | destroyed : p.Committed → p.steps = takeDown.take 2 → p.isShutDown = false →
      Task.due p.tasks = [.endParent] → Stage p
  | ended : p.Committed → p.steps = takeDown → p.isShutDown = true → Task.due p.tasks = [] → Stage p

/-- What the parent knows when it does a task. -/
def heed (p : Parent) (t : Task) : Parent :=
  { p with childDone := p.childDone || t == Task.noteChildDone }

/-- An attempt notes what it brings, and stops the worker if that was missing. -/
theorem perform_attempt (attempt : t.isAttempt) : p.perform t = (p.heed t).stopWorkerIfDone := by
  cases t with
  | tryStopWorker =>
    have same : p.heed .tryStopWorker = p := by
      unfold heed
      rw [show (Task.tryStopWorker == .noteChildDone) = false from rfl, Bool.or_false]
    rw [same]
    rfl
  | noteChildDone =>
    have noted : p.heed .noteChildDone = { p with childDone := true } := by
      unfold heed
      rw [beq_self_eq_true, Bool.or_true]
    rw [noted]
    rfl
  | beginTakeDown | destroySubprocess | endParent => contradiction

/-- Once the worker is stopped an attempt does nothing. -/
theorem Committed.perform (committed : p.Committed) (attempt : t.isAttempt) : p.perform t = p := by
  have same : p.heed t = p := by
    unfold heed
    rw [committed.child, Bool.true_or, ← committed.child]
  rw [perform_attempt attempt, same]
  rcases p.stopWorkerIfDone_cases with ⟨-, -, running, -⟩ | ⟨-, result⟩
  · rw [committed.worker] at running
    contradiction
  · exact result

/-- An attempt while the parent waits stops the worker if both sides are done now. -/
theorem stage_of_attempt (running : p.worker = some .running) (steps : p.steps = [])
    (present : p.isShutDown = false) (due : Task.due p.tasks = []) (attempt : t.isAttempt) :
    (p.perform t).Stage := by
  rw [perform_attempt attempt]
  rcases (p.heed t).stopWorkerIfDone_cases with ⟨child, parent, -, result⟩ | ⟨unready, result⟩
  · rw [result]
    refine .stopped ⟨child, parent, rfl⟩ ?_ present ?_
    · exact congrArg (· ++ [Step.childWorkerDeleted]) steps
    · refine (List.filter_append _ _).trans ?_
      exact congrArg (· ++ [Task.destroySubprocess]) due
  · rw [result]
    refine .waiting running steps present due ?_
    exact fun child parent => absurd ⟨child, parent, running⟩ unready

/-- An attempt to stop the worker leads to the same stage or to the next one. -/
theorem Stage.attempt (stage : p.Stage) (tasks : p.tasks = t :: rest) (attempt : t.isAttempt) :
    ({ p with tasks := rest }.perform t).Stage := by
  have fewer : Task.due rest = Task.due p.tasks := by
    rw [tasks, Task.due, Task.due, List.filter_cons_of_neg (by simp [attempt])]
  have committed' (committed : p.Committed) : { p with tasks := rest }.Committed :=
    ⟨committed.child, committed.parent, committed.worker⟩
  cases stage with
  | waiting running steps present due =>
    exact stage_of_attempt running steps present (fewer.trans due) attempt
  | stopped committed steps present due =>
    rw [(committed' committed).perform attempt]
    exact .stopped (committed' committed) steps present (fewer.trans due)
  | destroyed committed steps present due =>
    rw [(committed' committed).perform attempt]
    exact .destroyed (committed' committed) steps present (fewer.trans due)
  | ended committed steps shut due =>
    rw [(committed' committed).perform attempt]
    exact .ended (committed' committed) steps shut (fewer.trans due)

/-- What is due leads to the next stage. -/
theorem Stage.duty (stage : p.Stage) (tasks : p.tasks = t :: rest) (duty : ¬ t.isAttempt) :
    ({ p with tasks := rest }.perform t).Stage := by
  have first : Task.due p.tasks = t :: Task.due rest := by
    rw [tasks, Task.due, Task.due, List.filter_cons_of_pos (by simpa using duty)]
  cases stage with
  | waiting running steps present due | ended committed steps shut due =>
    rw [first] at due
    contradiction
  | stopped committed steps present due =>
    obtain ⟨rfl, due⟩ := List.cons.inj (first.symm.trans due)
    refine .destroyed ⟨committed.child, committed.parent, committed.worker⟩ ?_ present ?_
    · exact congrArg (· ++ [Step.subprocessDestroyed]) steps
    · refine (List.filter_append _ _).trans ?_
      exact congrArg (· ++ [Task.endParent]) due
  | destroyed committed steps present due =>
    obtain ⟨rfl, due⟩ := List.cons.inj (first.symm.trans due)
    refine .ended ⟨committed.child, committed.parent, committed.worker⟩ ?_ rfl due
    exact congrArg (· ++ [Step.parentActorDeleted]) steps

/-- Every task takes a stage to the same or to a later one. -/
theorem Stage.perform (stage : p.Stage) (tasks : p.tasks = t :: rest) :
    ({ p with tasks := rest }.perform t).Stage := by
  by_cases attempt : t.isAttempt
  · exact stage.attempt tasks attempt
  · exact stage.duty tasks attempt

/-- A run of the loop takes a stage to the same or to a later one. -/
theorem Stage.runUntilIdle (stage : p.Stage) : p.runUntilIdle.Stage :=
  runUntilIdle_induction (motive := Stage) (fun _ _ _ tasks stage => stage.perform tasks) stage

/-! ## What both sides have said -/

/-- What a threaded parent has heard: whether its own end was asked for, and whether the child's
was, which may still wait among the tasks. -/
structure Heard (p : Parent) (parent child : Prop) : Prop where
  mode : p.mode = .threaded
  parent : p.parentDone = true ↔ parent
  child : p.childDone = true ∨ Task.noteChildDone ∈ p.tasks ↔ child

variable {parent child : Prop}

/-- A task that brings no word of the child changes nothing about what the parent has heard. -/
theorem Heard.post (heard : p.Heard parent child) (other : t ≠ .noteChildDone) :
    (p.post t).Heard parent child := by
  refine ⟨heard.mode, heard.parent, ?_⟩
  rw [← heard.child]
  simp [Parent.post, other.symm]

/-- Stopping the worker changes nothing about what the parent has heard. -/
theorem Heard.stopWorkerIfDone (heard : p.Heard parent child) :
    p.stopWorkerIfDone.Heard parent child := by
  unfold Parent.stopWorkerIfDone
  split
  · have aborted :
        ({ p with worker := some .aborted }.takeStep .childWorkerDeleted).Heard parent child :=
      ⟨heard.mode, heard.parent, heard.child⟩
    apply aborted.post
    decide
  · exact heard

/-- No word of the child is lost with a task that brings none. -/
theorem Heard.next (heard : p.Heard parent child) (tasks : p.tasks = t :: rest)
    (other : t ≠ .noteChildDone) : { p with tasks := rest }.Heard parent child := by
  refine ⟨heard.mode, heard.parent, ?_⟩
  rw [← heard.child, tasks, List.mem_cons]
  simp [other.symm]

/-- No task loses what the parent has heard. -/
theorem Heard.perform (heard : p.Heard parent child) (tasks : p.tasks = t :: rest) :
    ({ p with tasks := rest }.perform t).Heard parent child := by
  cases t with
  | tryStopWorker => exact (heard.next tasks (by decide)).stopWorkerIfDone
  | noteChildDone =>
    have said : child := heard.child.1 (Or.inr (by rw [tasks]; exact List.mem_cons_self))
    have noted : { p with tasks := rest, childDone := true }.Heard parent child :=
      ⟨heard.mode, heard.parent, iff_of_true (Or.inl rfl) said⟩
    exact noted.stopWorkerIfDone
  | beginTakeDown => exact (heard.next tasks (by decide)).post (by decide)
  | destroySubprocess =>
    have stepped := heard.next tasks (by decide)
    have taken : ({ p with tasks := rest }.takeStep .subprocessDestroyed).Heard parent child :=
      ⟨stepped.mode, stepped.parent, stepped.child⟩
    exact taken.post (by decide)
  | endParent =>
    have stepped := heard.next tasks (by decide)
    exact ⟨stepped.mode, stepped.parent, stepped.child⟩

/-- A run of the loop loses nothing of what the parent has heard. -/
theorem Heard.runUntilIdle (heard : p.Heard parent child) : p.runUntilIdle.Heard parent child :=
  runUntilIdle_induction (motive := fun p => p.Heard parent child)
    (fun _ _ _ tasks heard => heard.perform tasks) heard

/-- With no task left, a parent is taken down if both sides have said that they are done, and
otherwise it has not begun. -/
theorem steps_of_idle (stage : p.Stage) (heard : p.Heard parent child) (idle : p.tasks = []) :
    p.worker = some .aborted ∧ p.steps = takeDown ∧ parent ∧ child ∨
      p.worker = some .running ∧ p.steps = [] ∧ ¬ (parent ∧ child) := by
  cases stage with
  | waiting running steps present due some =>
    refine Or.inr ⟨running, steps, fun ⟨parent, child⟩ => ?_⟩
    have noted : p.childDone = true := by
      rcases heard.child.2 child with noted | waits
      · exact noted
      · rw [idle] at waits
        contradiction
    exact some noted (heard.parent.2 parent) idle
  | stopped committed steps present due | destroyed committed steps present due =>
    rw [idle] at due
    contradiction
  | ended committed steps =>
    exact Or.inl ⟨committed.worker, steps, heard.parent.1 committed.parent,
      heard.child.1 (Or.inl committed.child)⟩

/-- The parent is shut down if and only if it has taken all of its steps. -/
theorem Stage.isShutDown_iff (stage : p.Stage) :
    p.isShutDown = true ↔ ∀ s ∈ takeDown, s ∈ p.steps := by
  cases stage with
  | waiting _ steps present | stopped _ steps present | destroyed _ steps present =>
    rw [present, steps]
    decide
  | ended _ steps shut =>
    rw [steps]
    exact iff_of_true shut fun s mem => mem

/-- A worker is stopped only when both sides are done. -/
theorem Stage.committed (stage : p.Stage) (aborted : p.worker = some .aborted) : p.Committed := by
  cases stage with
  | waiting running =>
    rw [aborted] at running
    contradiction
  | stopped committed | destroyed committed | ended committed => exact committed

/-- One more attempt leaves the stage as it is, also if the parent says that it is done with it. -/
theorem Stage.post (stage : p.Stage) (done : Bool) (attempt : t.isAttempt) :
    ({ p with parentDone := p.parentDone || done }.post t).Stage := by
  have same : Task.due (p.tasks ++ [t]) = Task.due p.tasks := by
    rw [Task.due, List.filter_append, List.filter_cons_of_neg (by simp [attempt])]
    exact List.append_nil _
  have still (committed : p.Committed) :
      ({ p with parentDone := p.parentDone || done }.post t).Committed :=
    ⟨committed.child, by rw [Parent.post, committed.parent, Bool.true_or], committed.worker⟩
  cases stage with
  | waiting running steps present due =>
    refine .waiting running steps present (same.trans due) fun _ _ => ?_
    exact List.append_ne_nil_of_right_ne_nil _ (List.cons_ne_nil t [])
  | stopped committed steps present due =>
    exact .stopped (still committed) steps present (same.trans due)
  | destroyed committed steps present due =>
    exact .destroyed (still committed) steps present (same.trans due)
  | ended committed steps shut due =>
    exact .ended (still committed) steps shut (same.trans due)

/-- Telling the parent to end leaves the stage as it is. -/
theorem Stage.quit (stage : p.Stage) (mode : p.mode = .threaded) : p.quit.Stage := by
  have told : p.quit = { p with parentDone := p.parentDone || true }.post .tryStopWorker := by
    rw [Parent.quit, mode, Bool.or_true]
  rw [told]
  exact stage.post true rfl

/-- Telling the parent to end is heard at once. -/
theorem Heard.quit (heard : p.Heard parent child) : p.quit.Heard True child := by
  have told : p.quit = { p with parentDone := true }.post .tryStopWorker := by
    rw [Parent.quit, heard.mode]
  have said : { p with parentDone := true }.Heard True child :=
    ⟨heard.mode, iff_of_true rfl trivial, heard.child⟩
  rw [told]
  exact said.post (by decide)

/-- The child's word that it is done leaves the stage as it is. -/
theorem Stage.noteChildDone (stage : p.Stage) : (p.post .noteChildDone).Stage := by
  have told := stage.post (t := .noteChildDone) false rfl
  rw [Bool.or_false] at told
  exact told

/-- The child's word that it is done is heard, or waits among the tasks. -/
theorem Heard.noteChildDone (heard : p.Heard parent child) :
    (p.post .noteChildDone).Heard parent True := by
  refine ⟨heard.mode, heard.parent, iff_of_true (Or.inr ?_) trivial⟩
  exact List.mem_append_right _ List.mem_cons_self

end Parent

/-! ## Any order of calls -/

/-- How a pair with a threaded child stands, if the two sides were told to end or not. -/
structure Pair.Winding (p : Pair) (parent child : Prop) : Prop where
  parentPresent : p.parentPresent = true
  childPresent : p.childPresent = true
  alone : p.child = { mode := .threaded }
  stage : p.parent.Stage
  heard : p.parent.Heard parent child

namespace Pair

variable {p : Pair} {parent child : Prop}

/-- At first neither side was told to end. -/
theorem winding_start : (start .threaded).Winding False False := by
  refine ⟨rfl, rfl, rfl, ?_, ?_⟩
  · exact .waiting rfl rfl rfl rfl fun done => nomatch done
  · exact ⟨rfl, by simp [start, Parent.start], by simp [start, Parent.start]⟩

/-- Telling the parent to end is noted and changes nothing else. -/
theorem Winding.quitParent (winding : p.Winding parent child) :
    p.quitParent.Winding True child := by
  rw [Pair.quitParent, if_pos winding.parentPresent]
  exact ⟨winding.parentPresent, winding.childPresent, winding.alone,
    winding.stage.quit winding.heard.mode, winding.heard.quit⟩

/-- Telling the child to end is noted and changes nothing else. -/
theorem Winding.quitChild (winding : p.Winding parent child) : p.quitChild.Winding parent True := by
  have told : p.quitChild = { p with parent := p.parent.post .noteChildDone } := by
    simp [Pair.quitChild, winding.childPresent, winding.parentPresent, winding.alone]
  rw [told]
  exact ⟨winding.parentPresent, winding.childPresent, winding.alone, winding.stage.noteChildDone,
    winding.heard.noteChildDone⟩

/-- A run of the parent's loop changes nothing about who was told to end. -/
theorem Winding.runParent (winding : p.Winding parent child) :
    p.runParent.Winding parent child := by
  rw [Pair.runParent, if_pos winding.parentPresent]
  exact ⟨winding.parentPresent, winding.childPresent, winding.alone, winding.stage.runUntilIdle,
    winding.heard.runUntilIdle⟩

/-- A threaded child has nothing to do on its own loop. -/
theorem Winding.runChild (winding : p.Winding parent child) : p.runChild = p := by
  rw [Pair.runChild, if_pos winding.childPresent]
  have idle : p.child.runUntilIdle = p.child := by
    rw [winding.alone]
    rfl
  rw [idle]

end Pair

namespace Teardown

variable {d : Teardown} {parent child : Prop}

/-- After any calls a pair stands as the calls say. -/
theorem winding_run (es : List Event) :
    (run .threaded es).pair.Winding (.quitParent ∈ es) (.quitChild ∈ es) := by
  induction es using List.reverseRecOn with
  | nil => simpa using Pair.winding_start
  | append_singleton es e ih =>
    rw [run_append_singleton]
    cases e with
    | quitParent => simpa [step] using ih.quitParent
    | quitChild => simpa [step] using ih.quitChild
    | runParent => simpa [step] using ih.runParent
    | runChild => simpa [step, ih.runChild] using ih

/-- A run of the parent's loop ends with the parent taken down and its worker stopped if both sides
have said that they are done, and otherwise with nothing begun. -/
theorem runParent_cases (winding : d.pair.Winding parent child) :
    let p := (d.step .runParent).pair.parent
    p.worker = some .aborted ∧ p.steps = takeDown ∧ parent ∧ child ∨
      p.worker = some .running ∧ p.steps = [] ∧ ¬ (parent ∧ child) := by
  intro p
  have after := winding.runParent
  have idle : p.tasks = [] := tasks_step_runParent winding.parentPresent
  exact Parent.steps_of_idle after.stage after.heard idle

/-- The worker is not stopped before both sides have said that they are done. -/
theorem both_of_aborted (winding : d.pair.Winding parent child)
    (aborted : d.pair.parent.worker = some .aborted) : parent ∧ child := by
  have committed := winding.stage.committed aborted
  exact ⟨winding.heard.parent.1 committed.parent, winding.heard.child.1 (Or.inl committed.child)⟩

/-- However often and in whatever order both sides are told to end and both loops run, a parent with
a threaded child is taken down once, by the first run of its loop after both were told, and then
completely. Only such a run takes steps, and it alone stops the worker, once. -/
theorem taken_down_once (es : List Event) :
    let d := run .threaded es
    (d.step .runParent).pair.parent.steps =
        (if .quitParent ∈ es ∧ .quitChild ∈ es then takeDown else []) ∧
      (∀ e, e ≠ .runParent → (d.step e).pair.parent.steps = d.pair.parent.steps) ∧
      (d.pair.parent.isShutDown = true ↔ ∀ s ∈ takeDown, s ∈ d.pair.parent.steps) ∧
      (d.step .runParent).stops = (if .quitParent ∈ es ∧ .quitChild ∈ es then 1 else 0) ∧
      d.stops ≤ 1 ∧ (d.stops = 1 → .quitParent ∈ es ∧ .quitChild ∈ es) ∧
      (d.pair.workerAborted? = some true ↔ d.stops = 1) ∧
      d.pair.child.steps = [] := by
  intro d
  have winding : d.pair.Winding (.quitParent ∈ es) (.quitChild ∈ es) := winding_run es
  have counted : d.stops = d.pair.parent.stopped := stops_run .threaded es
  have aborted : d.stops = 1 ↔ d.pair.parent.worker = some .aborted := by
    rw [counted, Parent.stopped]
    split
    · exact iff_of_true rfl ‹_›
    · exact iff_of_false (by decide) ‹_›
  have next : (d.step .runParent).stops = (d.step .runParent).pair.parent.stopped :=
    stops_step counted .runParent
  refine ⟨?_, fun e other => d.steps_step other, winding.stage.isShutDown_iff, ?_, ?_, ?_, ?_, ?_⟩
  · rcases runParent_cases winding with ⟨-, steps, both⟩ | ⟨-, steps, missing⟩
    · rw [steps, if_pos both]
    · rw [steps, if_neg missing]
  · rcases runParent_cases winding with ⟨worker, -, both⟩ | ⟨worker, -, missing⟩
    · rw [next, Parent.stopped, if_pos worker, if_pos both]
    · rw [next, Parent.stopped, worker, if_neg missing]
      rfl
  · rw [counted, Parent.stopped]
    split
    · exact Nat.le_refl 1
    · exact Nat.zero_le 1
  · exact fun once => both_of_aborted winding (aborted.1 once)
  · rw [aborted, Pair.workerAborted?, Option.map_eq_some_iff]
    simp
  · rw [winding.alone]

/-- Both sides say that they are done, the parent before and after its child, and the parent once
more after all was taken down. -/
def restless : List Event :=
  [.quitParent, .runParent, .quitChild, .quitParent, .runChild, .runParent, .quitParent, .quitChild]

/-- Before the child is done no step is taken. Then all are taken once, and the worker is stopped
once, however often the sides go on saying that they are done. -/
theorem taken_down_once_restless :
    ((run .threaded (restless.take 4)).step .runChild).pair.parent.steps = [] ∧
      ((run .threaded restless).step .runParent).pair.parent.steps = takeDown ∧
      (run .threaded restless).pair.parent.isShutDown = true ∧
      ((run .threaded restless).step .runParent).stops = 1 := by
  obtain ⟨-, still, -⟩ := taken_down_once (restless.take 4)
  obtain ⟨steps, -, shut, stops, -⟩ := taken_down_once restless
  have both : .quitParent ∈ restless ∧ .quitChild ∈ restless := by decide
  rw [if_pos both] at steps stops
  exact ⟨(still .runChild (by decide)).trans rfl, steps, shut.2 (by decide), stops⟩

end Teardown

end Interprocess.Shutdown
