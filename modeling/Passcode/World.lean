import Passcode.Action
import Passcode.Draws
import Passcode.Log.Event
import Passcode.Metrics
import Passcode.Reader

/-!
# The world around the login step

What the login step reads from outside and what it reports to the outside: the clock,
the draws, the metrics and the log. The clock can be out of order for a number of
readings, each of which then fails. Records are numbered as they are made.
-/

namespace Passcode

/-- The world around the login step. -/
structure World where
  now : Instant
  clockFailures : Nat := 0
  draws : Draws := default
  made : Nat := 0
  metrics : Metrics := {}
  log : List Event := []

namespace World

def clock : Action World Instant := do
  let w ← get
  match w.clockFailures with
  | 0 => return w.now
  | n + 1 =>
    set { w with clockFailures := n }
    throw (.broken "clock")

def report (e : Event) : Action World Unit := modify fun w => { w with log := w.log ++ [e] }

def measure (f : Metrics → Metrics) : Action World Unit :=
  modify fun w => { w with metrics := f w.metrics }

def setActive (n : Nat) : Action World Unit := measure fun m => { m with active := .int n }

/-- Draws a code. A code has at least one character. -/
def drawCode (length : Int) (a : Alphabet) : Action World String := do
  if length < 1 then throw (.misuse .lengthBelowOne)
  let w ← get
  set { w with draws := w.draws.skip length.toNat }
  return w.draws.code a length.toNat

/-- Draws a code of an alphabet that is demanded first, but only for a code of some length. -/
def drawFrom (length : Int) (a : Held Alphabet) : Action World String := do
  if length < 1 then throw (.misuse .lengthBelowOne)
  drawCode length (← a.demand)

def number (r : Record) : Action World Issued := do
  let w ← get
  set { w with made := w.made + 1 }
  return ⟨w.made, r⟩

/-- Moves the clock by so many seconds and microseconds. -/
def advance (seconds micros : Value) : Action World Instant := do
  let w ← get
  match w.now.addMicros? (← Span.between seconds micros) with
  | some t =>
    set { w with now := t }
    return t
  | none => throw .outOfCalendar

end World

end Passcode
