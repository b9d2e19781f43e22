import Passcode.Choice
import Passcode.Mail.Header
import Passcode.Mail.Template
import Passcode.Reader
import Passcode.Record
import Passcode.Settings.Basic
import Passcode.Text.Pattern

/-!
# Messages

The mail that carries a code. A mailer composes it from a record and the addresses: the
addresses are checked before anything else, then the headers, and the text is made last.

An address is some characters, an at sign, some characters, a point, and some characters
again. White space and the characters that separate or quote addresses in a header have no
place in it. Points may stand anywhere else too, so a text can have this form in many ways.
-/

namespace Passcode

/-- What messages are about, unless a mailer says otherwise. -/
def usualSubject : String := "One-time password"

/-- What messages say, unless a mailer says otherwise. -/
def usualTemplate : String :=
  "Your one-time password is: $\x7bOTP\x7d\n\nThe password will expire on: $\x7bEXPIRES\x7d\n"

/-- A mailer: whom messages come from, the server they go through, and what they say. -/
structure Mailer where
  sender : Value
  host : Value := .text "localhost"
  port : Value := .int 25
  encryption : Encryption := .none
  username : Value := .none
  password : Value := .none
  authenticate : Value := .bool false
  timeout : Value := .float 10
  subject : Value := .text usualSubject
  template : Value := .text usualTemplate
deriving Repr

/-- A composed message. -/
structure Message where
  subject : String
  sender : String
  recipients : String
  body : String
deriving DecidableEq, Repr

namespace Mail

/-! ## Addresses -/

/-- Whether a character may stand in an address anywhere but for the at sign. -/
def isPlain (c : Char) : Bool :=
  !Text.isBlankChar c && c ∉ ['@', '<', '>', ',', ';', '"', '(', ')']

def addressPattern : Text.Pattern :=
  [.many isPlain, .just '@', .many isPlain, .just '.', .many isPlain]

def isAddress (s : String) : Bool := addressPattern.fits s.toList

/-- Whether a value is one bare address. Only a text can be asked. -/
def validate : Value → Except Failure Bool
  | .text s => .ok (isAddress s)
  | _ => .error .badArgument

/-! ## Parts of a message -/

/-- The text of a message with plain line feeds, and one at the end. -/
def bodyChars : List Char → List Char
  | [] => ['\n']
  | ['\n'] => ['\n']
  | ['\r'] => ['\n']
  | ['\r', '\n'] => ['\n']
  | '\r' :: '\n' :: cs => '\n' :: bodyChars cs
  | '\r' :: cs => '\n' :: bodyChars cs
  | c :: cs => c :: bodyChars cs

def joinAddresses (recipients : List String) : String := ", ".intercalate recipients

/-- The line of a header. An empty header ends at its colon. -/
def headerLine (name value : String) : String :=
  name ++ ":" ++ (if value = "" then "" else " " ++ value) ++ "\n"

def recordValue? (r : Record) (name : String) : Option String :=
  if name = "OTP" then some r.code else if name = "EXPIRES" then some r.notice else none

end Mail

namespace Mailer

def ofSettings (s : Settings) : Except Failure Mailer := do
  return {
    sender := s.mailSender
    host := s.mailServer
    port := .int s.mailPort
    encryption := ← s.mailEncryption.demand
    username := s.mailUsername
    password := s.mailPassword
    authenticate := s.mailAuth
    timeout := .ofNumber s.mailTimeout }

def setField (m : Mailer) (name : String) (v : Value) : Except Failure Mailer :=
  match name with
  | "sender" => .ok { m with sender := v }
  | "host" => .ok { m with host := v }
  | "port" => .ok { m with port := v }
  | "encryption" => do return { m with encryption := ← Vocabulary.demand v }
  | "username" => .ok { m with username := v }
  | "password" => .ok { m with password := v }
  | "authenticate" => .ok { m with authenticate := v }
  | "timeout" => .ok { m with timeout := v }
  | "subject" => .ok { m with subject := v }
  | "template" => .ok { m with template := v }
  | _ => .error .badArgument

/-- The mailer of some named fields, among which the sender must be. -/
def ofFields (fields : List (String × Value)) : Except Failure Mailer :=
  if fields.any (·.1 = "sender") then
    fields.foldlM (fun m f => m.setField f.1 f.2) { sender := .none }
  else .error .badArgument

def checkRecipients (recipients : List String) : Except Failure Unit :=
  match recipients.find? fun a => !Mail.isAddress a with
  | some address => .error (.refused (.badRecipient address (Vocabulary.word Channel.email)))
  | none => .ok ()

def compose (m : Mailer) (recipients : List String) (r : Record) : Except Failure Message := do
  checkRecipients recipients
  let subject ← Mail.subject m.subject
  let sender ← Mail.sender m.sender
  let addressees ← Mail.addresses (Mail.joinAddresses recipients)
  let text ← match m.template with
    | .text t => Mail.expand (Mail.recordValue? r) t
    | _ => .error .badArgument
  return ⟨subject, sender, addressees, String.ofList (Mail.bodyChars text.toList)⟩

/-- A message as it goes over the wire, for texts of short ASCII lines. -/
def wire (m : Mailer) (recipients : List String) (message : Message) : String :=
  Mail.headerLine "Subject" message.subject ++ Mail.headerLine "From" (Mail.senderLine m.sender)
    ++ Mail.headerLine "To" (Mail.addressLine (Mail.joinAddresses recipients))
    ++ Mail.headerLine "Content-Type" "text/plain; charset=\"utf-8\""
    ++ Mail.headerLine "Content-Transfer-Encoding" "7bit" ++ Mail.headerLine "MIME-Version" "1.0"
    ++ "\n" ++ message.body

end Mailer

end Passcode
