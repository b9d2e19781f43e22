import Passcode.Mail.Transport
import Passcode.Principal

/-!
# Delivery

Whom a code goes to. Each channel reads certain attributes of the user, and of nobody
else; their texts are trimmed, and blank or repeated ones are left out. The routes say
who delivers for which channel.
-/

namespace Passcode

/-- The attributes that hold the destinations of a channel, in order. -/
def Channel.attributes : Channel → List Attribute
  | email => [.email, .alternateEmail]
  | sms => [.phone]

/-- A text added at the end of a list, unless it is empty or there already. -/
def addRecipient (recipients : List String) (r : String) : List String :=
  if r = "" ∨ r ∈ recipients then recipients else recipients ++ [r]

def Principal.recipients (p : Principal) (c : Channel) : List String :=
  c.attributes.foldl (fun rs a =>
    addRecipient rs (Text.trim ((Attributes.text? p.attributes a).getD ""))) []

/-- Who delivers for which channel. -/
abbrev Routes (κ : Type) := Keyed Channel κ

def Routes.courier {κ : Type} (r : Routes κ) (c : Channel) : Except Failure κ :=
  match r.find? c with
  | some courier => .ok courier
  | none => .error (.refused (.noCourier (Vocabulary.word c)))

/-- The text-message gateway of the settings. There is no transport for it. -/
structure TextGateway where
  server : Value := .none
  sender : Value := .none
deriving Repr

namespace TextGateway

def ofSettings (s : Settings) : TextGateway := ⟨s.smsServer, s.smsSender⟩

/-- Sending a text message always fails. -/
def send (_ : TextGateway) (_ : List String) (_ : Record) : Except Failure Receipt :=
  .error (.refused (.noTextMessages (Vocabulary.word Channel.sms)))

end TextGateway

end Passcode
