import Passcode.Action
import Passcode.Log.Event

/-!
# Periodic tasks

A task that runs on a fixed interval, one worker at a time. Every start gives a new
worker with a stop flag of its own; the task holds the newest worker until it is
cancelled, and cancelling raises that worker's flag for good. A worker whose flag is up
begins no further cycle. A failure in one cycle is reported and the next cycle still
runs.

A worker waits before each cycle. There is a longest wait that can be asked for; a worker
that would have to wait longer ends, with its flag down. The task then still holds it, but
does not run.
-/

namespace Passcode

/-- Where a worker is in its loop. -/
inductive Phase where
  | waiting
  | busy
  | ended
deriving DecidableEq, Repr

/-- A worker of a task: whether its flag is up, and where it is in its loop. -/
structure Worker where
  stopped : Bool := false
  phase : Phase := .waiting
deriving DecidableEq, Repr

/-- A task with all the workers it ever started, the oldest first, and the one it holds. -/
structure Periodic where
  name : String
  interval : Value
  workers : List Worker := []
  held : Option Nat := none
deriving Repr

namespace Periodic

/-- A task that has not been started. The interval must be a number, or count as one, and
not be at most zero. -/
def new (name : String) (interval : Value) : Except Failure Periodic := do
  if (← interval.number).atMostZero then throw (.misuse .intervalNotPositive)
  return { name, interval }

def phase? (p : Periodic) (i : Nat) : Option Phase := p.workers[i]?.map Worker.phase

/-- Whether the loop of a worker of the task has not ended. -/
def isAlive (p : Periodic) (i : Nat) : Bool := (p.phase? i).any (· ≠ .ended)

/-- Whether a worker of the task has its flag down. -/
def isUnflagged (p : Periodic) (i : Nat) : Bool := p.workers[i]?.any (!·.stopped)

/-- Whether the task holds a worker whose loop has not ended. -/
def isRunning (p : Periodic) : Bool := p.held.any p.isAlive

def start (p : Periodic) : Periodic × List Event :=
  if p.isRunning then (p, [])
  else
    ({ p with workers := p.workers ++ [{}], held := some p.workers.length },
      [.taskStarted p.name p.interval])

/-- Lets go of the worker and raises its flag. -/
def cancel (p : Periodic) : Periodic × List Event :=
  match p.held with
  | none => (p, [])
  | some i =>
    ({ p with workers := p.workers.modify i fun w => { w with stopped := true }, held := none },
      [.taskCancelled p.name])

/-- The longest wait that can be asked for, in microseconds. -/
def longestWait : Nat := 9223372036854775

/-- Whether the interval is longer than the longest wait. Not-a-number is no wait at all. -/
def isOverlong (p : Periodic) : Bool :=
  match p.interval.number with
  | .ok (.int n) => longestWait < n * 1000000
  | .ok (.float x) => Float.ofScientific longestWait true 6 < x
  | .error _ => false

/-- The task with a worker somewhere else in its loop. -/
def place (p : Periodic) (i : Nat) (phase : Phase) : Periodic :=
  { p with workers := p.workers.modify i fun w => { w with phase } }

/-- The task after a worker that waits has come to the end of its wait: the worker begins a
cycle, unless its flag is up or the wait could not be asked for. -/
def tick (p : Periodic) (i : Nat) : Periodic :=
  match p.workers[i]? with
  | some ⟨stopped, .waiting⟩ => p.place i (if stopped || p.isOverlong then .ended else .busy)
  | _ => p

/-- One cycle: the work is done, and a failure of it is reported and not passed on. -/
def cycle {σ α : Type} (p : Periodic) (report : Event → Action σ Unit) (work : Action σ α) :
    Action σ Unit := do
  match ← work.attempt with
  | .ok _ => return ()
  | .error _ => report (.taskFailed p.name)

theorem isRunning_start (p : Periodic) : p.start.1.isRunning = true := by
  unfold start
  split
  · assumption
  · simp [isRunning, isAlive, phase?]

end Periodic

end Passcode
