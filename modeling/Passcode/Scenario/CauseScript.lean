import Passcode.Reader

/-!
# Causes by name

A refusal made from named arguments, which may be values of any kind. An argument that
must be there and is not, or one of an unknown name, makes no refusal. A `Notice` keeps
the arguments as they were given; where they are texts it says what the refusal says.
-/

namespace Passcode.Scenario

/-- What a refusal shows: its kind, the technical detail, what the user is told, and the
arguments that it keeps. -/
structure Notice where
  cause : Cause
  message : Value
  wording : Value
  details : List (String × Value) := []
deriving Repr

namespace Notice

def malformed (key value source reason : Value) : Notice where
  cause := .configuration
  message :=
    let origin := if source.isTrue then some source.toText else none
    let detail := if reason.isTrue then some reason.toText else none
    .text (Refusal.malformed value.shown key.toText origin detail)
  wording := .text Cause.configuration.wording
  details := [("attribute", key), ("value", value), ("source", source)]

/-- A notice about a user whom no code can reach. -/
def unreachable (identifier channel : Value) : Notice where
  cause := .missingAttributes
  message := .text (Refusal.unreachable identifier.toText channel.toText)
  wording := .text Cause.missingAttributes.wording
  details := [("identifier", identifier), ("channel", channel)]

def worded (cause : Cause) (message wording : Value) : Notice where
  cause
  message
  wording := match wording with
    | .none => .text cause.wording
    | w => w

def ofDelivery (fault : DeliveryFault) (message channel : Value) : Notice where
  cause := .delivery fault
  message
  wording := .text (Cause.delivery fault).wording
  details := [("channel", channel)]

end Notice

def Notice.ofRefusal : Refusal → Notice
  | .configuration key value source reason =>
    .malformed (.text key) (.ofOption value) (.ofOption source) (.ofOption reason)
  | .missingAttributes identifier channel => .unreachable (.text identifier) (.text channel)
  | .delivery fault message channel => .ofDelivery fault (.text message) (.ofOption channel)
  | r => .worded r.cause (.text r.message) (.text r.userMessage)

/-! ## Arguments -/

def neededArguments : Cause → List String
  | .configuration => ["attribute"]
  | .missingAttributes => ["identifier", "channel"]
  | _ => ["message"]

def optionalArguments : Cause → List String
  | .configuration => ["value", "source", "reason"]
  | .missingAttributes => []
  | .delivery _ => ["channel"]
  | _ => ["user_message"]

def Notice.ofArguments (c : Cause) (args : List (String × Value)) : Except Failure Notice :=
  let value (name : String) : Value := (args.lookup name).getD .none
  let names := args.map (·.1)
  if (neededArguments c).all (· ∈ names) &&
      names.all (· ∈ neededArguments c ++ optionalArguments c) then
    .ok <| match c with
      | .configuration =>
        .malformed (value "attribute") (value "value") (value "source") (value "reason")
      | .missingAttributes => .unreachable (value "identifier") (value "channel")
      | .delivery fault => .ofDelivery fault (value "message") (value "channel")
      | c => .worded c (value "message") (value "user_message")
  else .error .badArgument

/-- The failure of a delivery on a channel, made from one text. A kind of refusal that
knows no channel cannot be made so. -/
def deliveryFailure (c : Cause) (text channel : String) : Failure :=
  match c with
  | .missingAttributes => .refused (.missingAttributes text channel)
  | .delivery fault => .refused (.delivery fault text channel)
  | _ => .badArgument

/-! ## Readings -/

/-- Reads the value of an attribute. What is wrong with it becomes a notice that names the
attribute and the source as they were given. -/
def reading {α : Type} (r : Reader α) (key source raw : Value) :
    Except Failure (Except Notice α) :=
  match raw with
  | .text s =>
    match r s with
    | .ok a => .ok (.ok a)
    | .error c => .ok (.error (.malformed key raw source (.text c.text)))
  | _ => .error .notText

end Passcode.Scenario
