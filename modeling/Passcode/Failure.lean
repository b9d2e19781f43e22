import Passcode.Text.Quoted

/-!
# Failures

Why an operation does not answer. A `Refusal` is a cause that the login step itself
knows: it has a stable code and a wording for the user, and verification turns it into
an outcome. A `Misuse` is an argument that no caller should pass. The other failures
come from outside: time beyond the calendar, a value of the wrong kind, and whatever the
clock or the mail transport may raise.

`Refusal.message` and `Misuse.message` hold every wording in one place.
-/

namespace Passcode

/-! ## Refusals -/

/-- What is wrong with the value of an attribute or a setting. -/
inductive Complaint where
  | notAmong (words : List String)
  | notAnInteger
  | belowOne
  | notANumber
  | notPositive
  | notABoolean
  | notAPositiveInteger
  | needsCredentials
  | needsGateway
deriving DecidableEq, Repr

def Complaint.text : Complaint → String
  | notAmong words => "expected one of: " ++ ", ".intercalate words
  | notAnInteger => "not an integer"
  | belowOne => "must be at least 1"
  | notANumber => "not a number"
  | notPositive => "must be positive"
  | notABoolean => "expected 'true' or 'false'"
  | notAPositiveInteger => "must be a positive integer"
  | needsCredentials => "SMTP authentication requires a username and password"
  | needsGateway => "required when the default method is sms"

/-- How a delivery can fail. -/
inductive DeliveryFault where
  | failed
  | invalidRecipient
  | unsupportedChannel
deriving DecidableEq, Repr

/-- A kind of cause for which the login step is refused. -/
inductive Cause where
  | general
  | configuration
  | missingAttributes
  | delivery (fault : DeliveryFault)
  | mismatch
  | expired
  | unavailable
deriving DecidableEq, Repr

namespace Cause

def code : Cause → String
  | general => "OTP_ERROR"
  | configuration => "CONFIG_ERROR"
  | missingAttributes => "MISSING_ATTRIBUTES"
  | delivery .failed => "DELIVERY_FAILED"
  | delivery .invalidRecipient => "INVALID_RECIPIENT"
  | delivery .unsupportedChannel => "CHANNEL_NOT_SUPPORTED"
  | mismatch => "VERIFICATION_FAILED"
  | expired => "CHALLENGE_EXPIRED"
  | unavailable => "SERVICE_UNAVAILABLE"

def wording : Cause → String
  | general => "One-time password verification is unavailable."
  | configuration => "One-time password settings are invalid. Contact your administrator."
  | missingAttributes => "User is missing required attributes for one-time password."
  | delivery .failed => "Error sending one-time password."
  | delivery .invalidRecipient => "Invalid recipient address."
  | delivery .unsupportedChannel =>
    "The configured one-time password delivery method is not supported."
  | mismatch => "Invalid one-time password provided."
  | expired => "The one-time password has expired. Sign in again to receive a new one."
  | unavailable => "One-time password verification is temporarily unavailable."

end Cause

/-- A cause for which the login step is refused. Where `wording` is given it stands in
for the usual wording for the user. -/
inductive Refusal where
  | general (message : String) (wording : Option String)
  | configuration (key : String) (value source reason : Option String)
  | missingAttributes (identifier channel : String)
  | delivery (fault : DeliveryFault) (message : String) (channel : Option String)
  | mismatch (message : String) (wording : Option String)
  | expired (message : String) (wording : Option String)
  | unavailable (message : String) (wording : Option String)
deriving DecidableEq, Repr

namespace Refusal

def cause : Refusal → Cause
  | general .. => .general
  | configuration .. => .configuration
  | missingAttributes .. => .missingAttributes
  | delivery fault .. => .delivery fault
  | mismatch .. => .mismatch
  | expired .. => .expired
  | unavailable .. => .unavailable

def code (r : Refusal) : String := r.cause.code

/-- A text that counts as given only if it is not empty. -/
def given (s : Option String) : Option String := s.filter (· ≠ "")

/-- What is said of a value that is not as it should be: the value as it is shown, what it
belongs to, where it came from and why it will not do. -/
def malformed (shown key : String) (source reason : Option String) : String :=
  let origin := match given source with
    | some s => " (from " ++ s ++ ")"
    | none => ""
  "Invalid value " ++ shown ++ " for '" ++ key ++ "'" ++ origin
    ++ ": " ++ (given reason).getD "malformed value"

/-- What is said of a user whom no code can reach. -/
def unreachable (identifier channel : String) : String :=
  "User '" ++ identifier ++ "' has no " ++ channel
    ++ " destination for one-time password delivery"

def message : Refusal → String
  | general message _ | delivery _ message _ | mismatch message _ | expired message _
  | unavailable message _ => message
  | configuration key value source reason =>
    malformed (Text.quotedOrNone value) key source reason
  | missingAttributes identifier channel => unreachable identifier channel

def userMessage : Refusal → String
  | general _ wording => wording.getD Cause.general.wording
  | mismatch _ wording => wording.getD Cause.mismatch.wording
  | expired _ wording => wording.getD Cause.expired.wording
  | unavailable _ wording => wording.getD Cause.unavailable.wording
  | r => r.cause.wording

def storeClosed : Refusal := unavailable "Session store has been shut down" none

/-- A delivery without anyone to deliver to. -/
def noRecipients (channel : String) : Refusal :=
  delivery .invalidRecipient "No recipients given" channel

/-- An address that a message cannot be sent to. -/
def badRecipient (address channel : String) : Refusal :=
  delivery .invalidRecipient ("Invalid recipient address: " ++ Text.quoted address) channel

def noCourier (channel : String) : Refusal :=
  delivery .unsupportedChannel ("No delivery provider registered for " ++ channel) channel

def noTextMessages (channel : String) : Refusal :=
  delivery .unsupportedChannel "SMS delivery of one-time passwords is not supported" channel

def mailFailed (channel error : String) : Refusal :=
  delivery .failed ("Error sending one-time password e-mail: " ++ error) channel

end Refusal

/-! ## Other failures -/

/-- An argument that no caller should pass. -/
inductive Misuse where
  | lengthBelowOne
  | timeoutBelowOne
  | intervalNotPositive
  | unknownWord (shown title : String)
  | severalHeaderLines
  | lineEndInAddress
  | badPlaceholder (line column : Nat)
  | tooManyDigits
  | other (text : String)
deriving DecidableEq, Repr

def Misuse.message : Misuse → String
  | lengthBelowOne => "Length must be at least 1."
  | timeoutBelowOne => "Timeout must be at least 1 second."
  | intervalNotPositive => "Interval must be positive."
  | unknownWord shown title => shown ++ " is not a valid " ++ title
  | severalHeaderLines => "Header values may not contain linefeed or carriage return characters"
  | lineEndInAddress => "invalid arguments; address parts cannot contain CR or LF"
  | badPlaceholder line column =>
    "Invalid placeholder in string: line " ++ toString line ++ ", col " ++ toString column
  | tooManyDigits => "Exceeds the limit (4300 digits) for integer string conversion; "
    ++ "use sys.set_int_max_str_digits() to increase the limit"
  | other text => text

/-- How a connection to another machine can fail. -/
inductive NetworkFault where
  | system
  | mail
  | refused
  | timedOut
  | disconnected
deriving DecidableEq, Repr

/-- How the addresses of a mail header can be beyond reading. -/
inductive HeaderFault where
  /-- The header ends where a part of an address must follow. -/
  | cutShort
  /-- A mark stands where a name has its words, a group goes on after its end, or a bracket
  is never closed. -/
  | strayMark
  /-- White space precedes a mark at the beginning of a name. -/
  | gapBeforeMark
  /-- There is nothing but white space in an open bracket. -/
  | blankBracket
deriving DecidableEq, Repr

/-- What is said of halves of characters in a text: so many in a row, from a position on. -/
def halvesMessage (unit position count : Nat) : String :=
  let place := if count = 1 then
      "character '\\u" ++ String.ofList (Text.hex 4 unit) ++ "' in position " ++ toString position
    else "characters in position " ++ toString position ++ "-" ++ toString (position + count - 1)
  "'utf-8' codec can't encode " ++ place ++ ": surrogates not allowed"

/-- Why an operation does not answer. -/
inductive Failure where
  /-- A cause that the login step knows. -/
  | refused (r : Refusal)
  /-- An argument that no caller should pass. -/
  | misuse (m : Misuse)
  /-- A connection that failed, with the words for it. -/
  | network (fault : NetworkFault) (text : String)
  /-- A mail header beyond reading. -/
  | header (fault : HeaderFault)
  /-- Halves of characters in a text, so many in a row from a position on: the code unit of
  the first, the position, and their number. -/
  | halves (unit position count : Nat)
  /-- A point of time before or after the calendar. -/
  | outOfCalendar
  /-- A whole number beyond the range of floating point. -/
  | tooLarge
  /-- A value that is no text where a text is read. -/
  | notText
  /-- A request without any parameters. -/
  | noParameters
  /-- An event of an unknown level. -/
  | unknownLevel
  /-- An argument that is missing, or of no use where it stands. -/
  | badArgument
  /-- A setting of an unknown name. -/
  | unknownSetting
  /-- A placeholder of an unknown name. -/
  | unknownPlaceholder
  /-- A clock or a transport that broke down, with the words for it. -/
  | broken (text : String)
deriving DecidableEq, Repr

/-- A computation of two parts succeeds if both do. -/
theorem ok_of_bind {α β : Type} {x : Except Failure α} {f : α → Except Failure β} {y : β}
    (h : x >>= f = .ok y) : ∃ a, x = .ok a ∧ f a = .ok y := by
  cases x with
  | error e => cases h
  | ok a => exact ⟨a, rfl, h⟩

end Passcode
