import Passcode.Principal
import Passcode.Settings.Basic
import Passcode.World

/-!
# Policies

What holds for one login attempt: the channel, the timeout, the length and alphabet of
the code, and whether the step is switched off. Every attribute is looked up in the same
way: the user's own value, else that of the first group that defines it, else the
default of the settings. A blank value counts as undefined. The value that wins is the
only one that is read, so a malformed value lower down does no harm.
-/

namespace Passcode

/-- Who supplied a value. -/
inductive Tier where
  | user (identifier : String)
  | group (identifier : String)
  | default
deriving DecidableEq, Repr

def Tier.text : Tier → String
  | user identifier => "user:" ++ identifier
  | group identifier => "group:" ++ identifier
  | default => "default"

namespace Tier

/-- A text that is not blank. -/
def defined (raw : Option String) : Option String := raw.filter fun s => !Text.isBlank s

/-- The value of an attribute that wins over the default, and who supplied it. -/
def winner? (p : Principal) (groups : List Group) (a : Attribute) : Option (Tier × String) :=
  match defined (Attributes.text? p.attributes a) with
  | some raw => some (.user p.identifier, raw)
  | none => (Group.sort groups).findSome? fun g =>
      (defined (Attributes.text? g.attributes a)).map fun raw => (.group g.identifier, raw)

def lookup {α : Type} (p : Principal) (groups : List Group) (a : Attribute) (r : Reader α)
    (fallback : α) : Except Failure (α × Tier) :=
  match winner? p groups a with
  | some (tier, raw) => (r.read a.key tier.text raw).map fun value => (value, tier)
  | none => .ok (fallback, .default)

/-- The value of an attribute, looked up and reported. -/
def resolve {α : Type} (p : Principal) (groups : List Group) (a : Attribute) (r : Reader α)
    (fallback : α) : Action World (α × Tier) := do
  let (value, tier) ← lookup p groups a r fallback
  World.report (.attributeResolved a.key tier.text)
  return (value, tier)

end Tier

/-- What holds for one login attempt. -/
structure Policy where
  channel : Held Channel
  timeout : Int
  length : Int
  alphabet : Held Alphabet
  disabled : Value
deriving Repr

namespace Policy

def channelFor (s : Settings) (p : Principal) (groups : List Group) :
    Action World (Held Channel) := do
  return (← Tier.resolve p groups .method .held s.defaultMethod).1

/-- For how many seconds a code is valid. -/
def timeoutFor (s : Settings) (p : Principal) (groups : List Group) : Action World Int := do
  return (← Tier.resolve p groups .timeout .positiveInt s.defaultTimeout).1

def lengthFor (s : Settings) (p : Principal) (groups : List Group) : Action World Int := do
  return (← Tier.resolve p groups .length .positiveInt s.length).1

def alphabetFor (s : Settings) (p : Principal) (groups : List Group) :
    Action World (Held Alphabet) := do
  return (← Tier.resolve p groups .alphabet .held s.alphabet).1

/-- Whether the step is switched off, as the value that says so. -/
def disabledFor (s : Settings) (p : Principal) (groups : List Group) : Action World Value := do
  let reader : Reader Value := fun raw => (Reader.boolean raw).map .bool
  let (disabled, tier) ← Tier.resolve p groups .disabled reader s.disabled
  if disabled.isTrue then World.report (.disabledForUser p.identifier tier.text)
  return disabled

/-- The policy of one login attempt. Whether the step is switched off is only looked up
where it is not known already. -/
def resolve (s : Settings) (p : Principal) (groups : List Group) (disabled : Option Value) :
    Action World Policy := do
  let ordered := Group.sort groups
  let disabled ← match disabled with
    | some known => pure known
    | none => disabledFor s p ordered
  let channel ← channelFor s p ordered
  let timeout ← timeoutFor s p ordered
  let length ← lengthFor s p ordered
  let alphabet ← alphabetFor s p ordered
  return { channel, timeout, length, alphabet, disabled }

end Policy

end Passcode
