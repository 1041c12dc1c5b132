/-!
# Shutting the parent down

A parent and its child are torn down in order. With a threaded child both sides say that they are
done, in either order, and only then is the child's worker stopped; a child process looks after
itself. Everything the parent does happens on its task loop: a task may post further ones, and
`Parent.runUntilIdle` works through all of them. Each task leads to a bounded number of others,
which `Task.weight` counts, so the loop always comes to an end.
-/

set_option autoImplicit false

namespace Interprocess.Shutdown

/-- Where the child runs. -/
inductive Mode
  /-- The child is a worker in the parent's process. -/
  | threaded
  /-- The child is a process of its own. -/
  | process
deriving DecidableEq, Repr

/-- The name of a mode in texts. -/
def Mode.name : Mode → String
  | threaded => "Threaded"
  | process => "Process"

/-- One step of taking a side down. -/
inductive Step
  | childWorkerDeleted
  | subprocessDestroyed
  | parentActorDeleted
  | childActorDeleted
  | childProcessShutDown
deriving DecidableEq, Repr

/-- The name of a step in texts. -/
def Step.name : Step → String
  | childWorkerDeleted => "ChildWorkerDeleted"
  | subprocessDestroyed => "SubprocessDestroyed"
  | parentActorDeleted => "ParentActorDeleted"
  | childActorDeleted => "ChildActorDeleted"
  | childProcessShutDown => "ChildProcessShutDown"

/-- What the parent's loop is to do. -/
inductive Task
  /-- Stop the worker if both sides are done. -/
  | tryStopWorker
  /-- Note that the child is done, and stop the worker if both sides are. -/
  | noteChildDone
  /-- Begin to take the parent down. -/
  | beginTakeDown
  /-- Take the subprocess down. -/
  | destroySubprocess
  /-- End the parent. -/
  | endParent
deriving DecidableEq, Repr

/-- The greatest number of tasks that follow from one, itself included. -/
def Task.weight : Task → Nat
  | tryStopWorker => 3
  | noteChildDone => 3
  | beginTakeDown => 3
  | destroySubprocess => 2
  | endParent => 1

/-- The greatest number of tasks that follow from several. -/
def Task.load : List Task → Nat
  | [] => 0
  | t :: rest => t.weight + load rest

/-- The work of tasks is the sum of the work of each. -/
theorem Task.load_append (ts us : List Task) : load (ts ++ us) = load ts + load us := by
  induction ts with
  | nil => simp [load]
  | cons t ts ih =>
    rw [List.cons_append, load, load, ih, Nat.add_assoc]

/-- The worker that a threaded child runs on. -/
inductive Worker
  | running
  | aborted
deriving DecidableEq, Repr

/-- The parent's side, with its task loop. -/
structure Parent where
  /-- Where the child runs. -/
  mode : Mode
  /-- Whether the parent has said that it is done. -/
  parentDone : Bool := false
  /-- Whether the child has said that it is done. -/
  childDone : Bool := false
  /-- The worker of a threaded child. -/
  worker : Option Worker
  /-- Whether the parent has ended. -/
  isShutDown : Bool := false
  /-- The steps taken so far. -/
  steps : List Step := []
  /-- The tasks that wait, oldest first. -/
  tasks : List Task := []
deriving DecidableEq, Repr

namespace Parent

/-- The parent of a child that runs. -/
def start : Mode → Parent
  | .threaded => { mode := .threaded, worker := some .running }
  | .process => { mode := .process, worker := none }

/-- Adds a task behind those that wait. -/
def post (p : Parent) (t : Task) : Parent := { p with tasks := p.tasks ++ [t] }

/-- Notes a step that was taken. -/
def takeStep (p : Parent) (s : Step) : Parent := { p with steps := p.steps ++ [s] }

/-- Says that the parent is done. A child process does not wait for this, so the parent can be taken
down at once. -/
def quit (p : Parent) : Parent :=
  match p.mode with
  | .threaded => { p with parentDone := true }.post .tryStopWorker
  | .process => p.post .beginTakeDown

/-- Stops the worker if both sides are done and it has not been stopped before. -/
def stopWorkerIfDone (p : Parent) : Parent :=
  if p.childDone && p.parentDone && p.worker = some .running then
    ({ p with worker := some .aborted }.takeStep .childWorkerDeleted).post .destroySubprocess
  else p

/-- Does one task. -/
def perform (p : Parent) : Task → Parent
  | .tryStopWorker => p.stopWorkerIfDone
  | .noteChildDone => { p with childDone := true }.stopWorkerIfDone
  | .beginTakeDown => p.post .destroySubprocess
  | .destroySubprocess => (p.takeStep .subprocessDestroyed).post .endParent
  | .endParent => { p.takeStep .parentActorDeleted with isShutDown := true }

/-- Does the tasks that wait, and those that they post, at most `fuel` of them. -/
def runFor : Nat → Parent → Parent
  | 0, p => p
  | fuel + 1, p =>
    match p.tasks with
    | [] => p
    | t :: rest => runFor fuel ({ p with tasks := rest }.perform t)

/-- The greatest number of tasks that the waiting ones lead to. -/
def load (p : Parent) : Nat := Task.load p.tasks

/-- Does the tasks that wait, and those that they post, until there are none left. -/
def runUntilIdle (p : Parent) : Parent := runFor p.load p

/-- A task that is posted adds its weight to the work. -/
theorem load_post (p : Parent) (t : Task) : (p.post t).load = p.load + t.weight := by
  simp only [load, post, Task.load_append, Task.load, Nat.add_zero]

/-- Stopping the worker posts no more than one task, of weight two. -/
theorem load_stopWorkerIfDone_le (p : Parent) : p.stopWorkerIfDone.load ≤ p.load + 2 := by
  unfold stopWorkerIfDone
  split
  · rw [load_post]
    exact Nat.le_refl _
  · omega

/-- A task leads to less than its weight. -/
theorem load_perform_lt (p : Parent) (t : Task) : (p.perform t).load < p.load + t.weight := by
  cases t with
  | tryStopWorker =>
    have bound := p.load_stopWorkerIfDone_le
    simp only [perform, Task.weight]
    omega
  | noteChildDone =>
    have bound := { p with childDone := true }.load_stopWorkerIfDone_le
    have same : { p with childDone := true }.load = p.load := rfl
    simp only [perform, Task.weight]
    omega
  | beginTakeDown =>
    simp only [perform, load_post, Task.weight]
    omega
  | destroySubprocess =>
    have same : (p.takeStep .subprocessDestroyed).load = p.load := rfl
    simp only [perform, load_post, Task.weight, same]
    omega
  | endParent =>
    have same : { p.takeStep .parentActorDeleted with isShutDown := true }.load = p.load := rfl
    simp only [perform, Task.weight, same]
    omega

/-- A turn of the loop takes more off the load than it puts back. -/
theorem load_turn_lt {p : Parent} {t : Task} {rest : List Task} (tasks : p.tasks = t :: rest) :
    ({ p with tasks := rest }.perform t).load < p.load := by
  have lighter := { p with tasks := rest }.load_perform_lt t
  have heavy : p.load = t.weight + { p with tasks := rest }.load := by
    rw [load, tasks, Task.load, load]
  omega

/-- With enough fuel no task is left. -/
theorem tasks_runFor {fuel : Nat} {p : Parent} (h : p.load ≤ fuel) :
    (runFor fuel p).tasks = [] := by
  induction fuel generalizing p with
  | zero =>
    cases tasks : p.tasks with
    | nil => exact tasks
    | cons t rest =>
      have positive : 0 < t.weight := by cases t <;> decide
      have heavy : p.load = t.weight + Task.load rest := by rw [load, tasks, Task.load]
      omega
  | succ fuel ih =>
    unfold runFor
    split
    · next tasks => exact tasks
    · next t rest tasks =>
      have lighter := load_turn_lt tasks
      apply ih
      omega

/-- The loop comes to an end. -/
theorem tasks_runUntilIdle (p : Parent) : p.runUntilIdle.tasks = [] :=
  tasks_runFor (Nat.le_refl _)

end Parent

end Interprocess.Shutdown
