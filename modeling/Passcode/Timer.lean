import Passcode.Periodic

/-!
# Timers

A periodic task in time. Each of its workers waits for its next tick, looks at its flag, and either
does a cycle and waits again, or ends; it also ends where the wait cannot be asked for. What
happens to a task is a list of moments: the calls of `Periodic.start` and `Periodic.cancel`, the
ticks and the ends of the cycles of its workers, and single cycles outside of them. Whatever is
called from within a cycle of a worker happens between the tick and the end of that cycle, so
workers and callers may be interleaved in every order.
-/

namespace Passcode

/-- A task, and what was reported. -/
structure Timer where
  task : Periodic
  log : List Event := []

namespace Timer

/-- A task that was not started, before anything has happened to it. -/
def unstarted (name : String) (interval : Value) : Timer := { task := { name, interval } }

/-- What can happen to a task. A cycle returns, or it fails in whatever way. -/
inductive Moment where
  | start
  | cancel
  | tick (worker : Nat)
  | finish (worker : Nat) (result : Except Failure Unit)
  | runOnce (result : Except Failure Unit)

def tell (t : Timer) (es : List Event) : Timer := { t with log := t.log ++ es }

/-- The timer with its task changed, and the events that the task reports of it. -/
def change (t : Timer) (f : Periodic → Periodic × List Event) : Timer :=
  { t with task := (f t.task).1 }.tell (f t.task).2

/-- The timer with a worker somewhere else in its loop. -/
def move (t : Timer) (i : Nat) (p : Phase) : Timer := { t with task := t.task.place i p }

def cycle (result : Except Failure Unit) : Action Timer Unit := do
  let t ← get
  t.task.cycle (fun e => modify (Timer.tell · [e])) (liftM result)

/-- Lets a moment pass. A worker that does not wait has no tick, and one that is not busy has no
cycle to end. -/
def Moment.pass : Moment → Action Timer Unit
  | start => modify (Timer.change · Periodic.start)
  | cancel => modify (Timer.change · Periodic.cancel)
  | tick i => modify fun t => { t with task := t.task.tick i }
  | finish i result => do
    let t ← get
    if t.task.phase? i = some .busy then
      cycle result
      modify (Timer.move · i .waiting)
  | runOnce result => cycle result

end Timer

end Passcode
