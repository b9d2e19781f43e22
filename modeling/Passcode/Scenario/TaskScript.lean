import Passcode.Periodic

/-!
# Scripts for periodic tasks

A task whose work is to count: each cycle adds one to a count, then cancels the task if
the count has reached a limit, then fails if the count is in a given list. A script
starts and cancels the task, runs single cycles, or lets the worker run until its loop has
ended, as a rule because it has cancelled the task from within.
-/

namespace Passcode.Scenario

/-- A counting task, and the events so far. -/
structure Counting where
  task : Periodic
  count : Int := 0
  log : List Event := []

/-- A step of a script for a counting task. -/
inductive TaskStep where
  | start
  | cancel
  | runOnce (limit : Option Int) (failures : List Int)
  | runUntil (limit : Int) (failures : List Int)
deriving Repr

namespace Counting

def report (e : Event) : Action Counting Unit := modify fun c => { c with log := c.log ++ [e] }

def change (f : Periodic → Periodic × List Event) : Action Counting Unit :=
  modify fun c => let (task, events) := f c.task; { c with task, log := c.log ++ events }

def work (limit : Option Int) (failures : List Int) : Action Counting Unit := do
  modify fun c => { c with count := c.count + 1 }
  let count := (← get).count
  match limit with
  | some l => if l ≤ count then change Periodic.cancel
  | none => pure ()
  if count ∈ failures then throw (.broken "planned failure")

/-- One cycle, in which a failure is reported. -/
def cycle (limit : Option Int) (failures : List Int) : Action Counting Unit := do
  let c ← get
  c.task.cycle report (work limit failures)

/-- The steps of a worker in its loop, at most so many, until the loop has ended. -/
def workerCycles (i : Nat) (limit : Int) (failures : List Int) : Nat → Action Counting Unit
  | 0 => pure ()
  | fuel + 1 => do
    modify fun c => { c with task := c.task.tick i }
    if (← get).task.phase? i = some .busy then
      cycle (some limit) failures
      modify fun c => { c with task := c.task.place i .waiting }
      workerCycles i limit failures fuel

/-- Carries a step out. A run until a limit answers how many cycles failed; it waits for
the worker by name, so the end of a worker without a name is not waited for. -/
def perform : TaskStep → Action Counting (Option Nat)
  | .start => do
    change Periodic.start
    return none
  | .cancel => do
    change Periodic.cancel
    return none
  | .runOnce limit failures => do
    cycle limit failures
    return none
  | .runUntil limit failures => do
    modify fun c => { c with count := 0 }
    change Periodic.start
    let before ← get
    if let some i := before.task.held then
      if before.task.name ≠ "" then workerCycles i limit failures (max limit.toNat 1 + 1)
    let failed := ((← get).log.drop before.log.length).filter fun
      | .taskFailed _ => true
      | _ => false
    return some failed.length

/-- Carries a script out: for each step its answer, the task after it, the count, and the
events of the step. -/
def run : Counting → List TaskStep → List (Except Failure (Option Nat) × Counting × List Event)
  | _, [] => []
  | c, s :: rest =>
    let (r, c') := (perform s).run c
    (r, c', c'.log.drop c.log.length) :: run c' rest

end Counting

end Passcode.Scenario
