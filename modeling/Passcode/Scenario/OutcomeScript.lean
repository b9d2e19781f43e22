import Passcode.Outcome
import Passcode.Scenario.CauseScript

/-!
# Outcomes by name

An outcome made from named values, which may be of any kind as long as its choices are
words of their vocabularies. A `Verdict` keeps the values as they were given; every
outcome of the gate has one.
-/

namespace Passcode.Scenario

/-- What an outcome shows. An input that has to be asked for is a name, and whether it is
a secret. -/
inductive Verdict where
  | verified (bypass : Option Bypass)
  | needsInput (fields : List (Value × Value)) (message : Value) (channel : Channel)
    (expiresAt : Instant)
  | rejected (reason : Reason) (message : Value) (notice : Notice)
deriving Repr

namespace Verdict

def ofOutcome : Outcome → Verdict
  | .verified bypass => .verified bypass
  | .needsInput p =>
    .needsInput (p.fields.map fun f => (.text f.name, .bool f.secret)) (.text p.message) p.channel
      p.expiresAt
  | .rejected reason message cause => .rejected reason (.text message) (.ofRefusal cause)

def stage : Verdict → Stage
  | verified _ => .verified
  | needsInput .. => .challengeIssued
  | rejected .challengeExpired .. => .expired
  | rejected .. => .rejected

/-- The parts of a value that can be gone through: the items of a list, the names of a
table, the characters of a text. -/
def parts : Value → Except Failure (List Value)
  | .list vs => .ok vs
  | .table fs => .ok (fs.map fun f => .text f.1)
  | .text s => .ok (s.toList.map fun c => .text (String.ofList [c]))
  | _ => .error .badArgument

/-- An input of a name, secret unless it is said otherwise. -/
def field (v : Value) : Except Failure (Value × Value) := do
  match ← parts v with
  | [name] => return (name, .bool true)
  | [name, secret] => return (name, secret)
  | _ => throw .badArgument

/-- A verdict that lets the user through, for a word that says why. -/
def bypassed (word : Value) : Except Failure Verdict := do
  return .verified (some (← Vocabulary.demand word))

def asking (fields message channel : Value) (expiresAt : Instant) : Except Failure Verdict := do
  let inputs ← (← parts fields).mapM field
  return .needsInput inputs message (← Vocabulary.demand channel) expiresAt

/-- A verdict that refuses the user. The cause is made before the reason is looked at. -/
def refusing (reason message : Value) (c : Cause) (args : List (String × Value)) :
    Except Failure Verdict := do
  let notice ← Notice.ofArguments c args
  return .rejected (← Vocabulary.demand reason) message notice

end Verdict

end Passcode.Scenario
