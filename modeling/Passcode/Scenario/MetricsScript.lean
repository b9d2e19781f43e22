import Passcode.Decimal.Reading
import Passcode.Metrics

/-!
# Scripts for metrics

Measurements as data: what is counted, set or timed, one after another, and the lines
that are shown in the end. Lines that tell when a metric was created are not among them.
-/

namespace Passcode.Scenario

/-- Something that is measured. A label may be any value, and stands for its text. -/
inductive Measurement where
  | challenge (channel : Value)
  | outcome (label : Value)
  | deliveryFailure (channel : Value)
  | active (n : Value)
  | sweep (duration : Value)
deriving Repr

namespace Measurement

/-- The number that a level is set to. A text is read as a number. -/
def level : Value → Except Failure Float
  | .text s =>
    match Decimal.float? s.toList with
    | some x => .ok x
    | none => .error (.misuse (.other ("could not convert string to float: " ++ Text.quoted s)))
  | v => do (← v.number).inRange

def apply (m : Metrics) : Measurement → Except Failure Metrics
  | .challenge channel => .ok (m.countChallenge channel.toText)
  | .outcome label => .ok (m.countOutcome label.toText)
  | .deliveryFailure channel => .ok (m.countDeliveryFailure channel.toText)
  | .active n => do return { m with active := .float (← level n) }
  | .sweep duration => do
    return { m with sweeps := m.sweeps.observe (← (← duration.number).inRange) }

def shown (ms : List Measurement) : Except Failure (List String) := do
  let m ← ms.foldlM apply {}
  return m.lines.filter fun l => !Metrics.mentions l "_created"

end Measurement

end Passcode.Scenario
