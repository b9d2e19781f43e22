import Passcode.Choice
import Passcode.Failure
import Passcode.Instant

/-!
# Outcomes

What one attempt of the login step comes to: the user is let through, has to submit a
code, or is refused. `Outcome.label` is the name under which an outcome is counted.
-/

namespace Passcode

/-- Where an attempt stands. -/
inductive Stage where
  | notChallenged
  | challengeIssued
  | verified
  | rejected
  | expired
deriving DecidableEq, Repr

instance : Vocabulary Stage where
  title := "VerificationState"
  members := [.notChallenged, .challengeIssued, .verified, .rejected, .expired]
  word
    | .notChallenged => "not_challenged"
    | .challengeIssued => "challenge_issued"
    | .verified => "verified"
    | .rejected => "rejected"
    | .expired => "expired"
  name
    | .notChallenged => "NOT_CHALLENGED"
    | .challengeIssued => "CHALLENGE_ISSUED"
    | .verified => "VERIFIED"
    | .rejected => "REJECTED"
    | .expired => "EXPIRED"

/-- Why a user is let through without a code. -/
inductive Bypass where
  | disabled
  | anonymous
  | missingAttributes
deriving DecidableEq, Repr

instance : Vocabulary Bypass where
  title := "BypassReason"
  members := [.disabled, .anonymous, .missingAttributes]
  word
    | .disabled => "disabled"
    | .anonymous => "anonymous"
    | .missingAttributes => "missing_attributes"
  name
    | .disabled => "DISABLED"
    | .anonymous => "ANONYMOUS"
    | .missingAttributes => "MISSING_ATTRIBUTES"

/-- Why an attempt is refused. -/
inductive Reason where
  | verificationFailed
  | challengeExpired
  | missingAttributes
  | deliveryFailed
  | configurationError
  | serviceUnavailable
deriving DecidableEq, Repr

instance : Vocabulary Reason where
  title := "RejectionReason"
  members := [.verificationFailed, .challengeExpired, .missingAttributes, .deliveryFailed,
    .configurationError, .serviceUnavailable]
  word
    | .verificationFailed => "verification_failed"
    | .challengeExpired => "challenge_expired"
    | .missingAttributes => "missing_attributes"
    | .deliveryFailed => "delivery_failed"
    | .configurationError => "configuration_error"
    | .serviceUnavailable => "service_unavailable"
  name
    | .verificationFailed => "VERIFICATION_FAILED"
    | .challengeExpired => "CHALLENGE_EXPIRED"
    | .missingAttributes => "MISSING_ATTRIBUTES"
    | .deliveryFailed => "DELIVERY_FAILED"
    | .configurationError => "CONFIGURATION_ERROR"
    | .serviceUnavailable => "SERVICE_UNAVAILABLE"

/-- Whether the user may simply try again. -/
def Reason.isRetryable : Reason → Bool
  | .verificationFailed | .challengeExpired => true
  | _ => false

/-- An input that has to be asked for. -/
structure InputField where
  name : String
  secret : Bool := true
deriving DecidableEq, Repr

/-- A request for input, made after a code was sent. -/
structure Prompt where
  fields : List InputField
  message : String
  channel : Channel
  expiresAt : Instant
deriving DecidableEq, Repr

/-- What an attempt comes to. -/
inductive Outcome where
  | verified (bypass : Option Bypass)
  | needsInput (prompt : Prompt)
  | rejected (reason : Reason) (message : String) (cause : Refusal)
deriving DecidableEq, Repr

namespace Outcome

def stage : Outcome → Stage
  | verified _ => .verified
  | needsInput _ => .challengeIssued
  | rejected .challengeExpired .. => .expired
  | rejected .. => .rejected

/-- The name under which an outcome is counted. -/
def label : Outcome → String
  | verified none => "verified"
  | verified (some b) => "bypass_" ++ Vocabulary.word b
  | needsInput _ => "challenge_issued"
  | rejected reason .. => Vocabulary.word reason

def refuse (reason : Reason) (cause : Refusal) : Outcome :=
  rejected reason cause.userMessage cause

end Outcome

end Passcode
