import Interprocess.Shutdown.Parent

/-!
# Shutting a pair down

A child that is a process takes itself down on its own loop; a threaded child only tells the parent
that it is done. `Pair` holds both sides. A side that is gone does nothing more, and what the child
tells a parent that is gone is lost.
-/

set_option autoImplicit false

namespace Interprocess.Shutdown

/-- The child's side. -/
structure Child where
  /-- Where the child runs. -/
  mode : Mode
  /-- The number of times that the child was told to end and has not done so yet. -/
  pending : Nat := 0
  /-- The steps taken so far. -/
  steps : List Step := []
deriving DecidableEq, Repr

/-- The steps that the child takes each time it is told to end. -/
def Child.ending : List Step := [.childActorDeleted, .childProcessShutDown]

/-- Ends the child as often as it was told to. -/
def Child.runUntilIdle (c : Child) : Child :=
  { c with pending := 0, steps := c.steps ++ (List.replicate c.pending Child.ending).flatten }

/-- A parent and a child that are to be taken down. -/
structure Pair where
  /-- The parent's side. -/
  parent : Parent
  /-- The child's side. -/
  child : Child
  /-- Whether the parent's side is still there. -/
  parentPresent : Bool := true
  /-- Whether the child's side is still there. -/
  childPresent : Bool := true
deriving DecidableEq, Repr

namespace Pair

/-- A parent and a child that run. -/
def start (mode : Mode) : Pair := { parent := .start mode, child := { mode } }

/-- Says that the parent is done. -/
def quitParent (p : Pair) : Pair :=
  if p.parentPresent then { p with parent := p.parent.quit } else p

/-- Says that the child is done. -/
def quitChild (p : Pair) : Pair :=
  if !p.childPresent then p
  else
    match p.child.mode with
    | .threaded =>
      if p.parentPresent then { p with parent := p.parent.post .noteChildDone } else p
    | .process => { p with child := { p.child with pending := p.child.pending + 1 } }

/-- Runs the parent's loop until nothing is left to do. -/
def runParent (p : Pair) : Pair :=
  if p.parentPresent then { p with parent := p.parent.runUntilIdle } else p

/-- Runs the child's loop until nothing is left to do. -/
def runChild (p : Pair) : Pair :=
  if p.childPresent then { p with child := p.child.runUntilIdle } else p

/-- Gives the parent's side up. The worker goes on. -/
def dropParent (p : Pair) : Pair := { p with parentPresent := false }

/-- Gives the child's side up. What it told the parent stays told. -/
def dropChild (p : Pair) : Pair := { p with childPresent := false }

/-- Whether the worker of a threaded child was stopped. -/
def workerAborted? (p : Pair) : Option Bool := p.parent.worker.map (· = .aborted)

end Pair

end Interprocess.Shutdown
