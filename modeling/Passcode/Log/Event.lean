import Passcode.Outcome
import Passcode.Record
import Passcode.Value

/-!
# Log events

Everything that the login step reports, one constructor for each kind of event. An
event has a name, a level and named fields; no field holds a code.
-/

namespace Passcode

/-- How much an event matters. -/
inductive Level where
  | debug
  | info
  | warning
  | error
  | critical
deriving DecidableEq, Repr

/-- The word for a level. -/
def Level.word : Level → String
  | debug => "debug"
  | info => "info"
  | warning => "warning"
  | error => "error"
  | critical => "critical"

/-- Something that is reported. -/
inductive Event where
  | attributeResolved (key source : String)
  | disabledForUser (identifier source : String)
  | generated (identifier : String) (length expiresIn : Value) (replaced : Bool)
  | checked (identifier : String) (result : CheckResult)
  | invalidated (identifier : String)
  | expiredRemoved (identifier : String)
  | sweepCompleted (removed remaining : Nat) (milliseconds : Float)
  | storeShutdown
  | taskStarted (task : String) (interval : Value)
  | taskCancelled (task : String)
  | taskFailed (task : String)
  | dispatching (identifier : String) (channel : Channel) (recipients : Nat)
  | emailSendFailed (host port : Value) (error : String)
  | emailSent (host : Value) (recipients : Nat) (encryption : Encryption)
  | deliveryFailed (identifier : String) (channel : Channel) (error : String)
  | missingAttributesAllowed (identifier : String) (channel : Channel)
  | missingAttributesBlocked (identifier : String) (channel : Channel)
  | verificationPassed (identifier : String) (bypass : Option Bypass)
  | challengeIssued (identifier : String) (channel : Channel)
  | verificationRejected (identifier : String) (reason : Reason) (code : String)
  | configurationInvalid (identifier key : String) (source : Option String) (error : String)
  | serviceUnavailable (identifier error : String)
  | providerStarted (defaultMethod : Value) (sweepInterval : Number)
  | providerShutdown
deriving Repr

namespace Event

/-- The name of an event. -/
def name : Event → String
  | attributeResolved .. => "otp_attribute_resolved"
  | disabledForUser .. => "otp_disabled_for_user"
  | generated .. => "otp_generated"
  | checked .. => "otp_checked"
  | invalidated .. => "otp_invalidated"
  | expiredRemoved .. => "otp_expired_removed"
  | sweepCompleted .. => "otp_sweep_completed"
  | storeShutdown => "otp_session_store_shutdown"
  | taskStarted .. => "periodic_task_started"
  | taskCancelled .. => "periodic_task_cancelled"
  | taskFailed .. => "periodic_task_failed"
  | dispatching .. => "otp_dispatching"
  | emailSendFailed .. => "otp_email_send_failed"
  | emailSent .. => "otp_email_sent"
  | deliveryFailed .. => "otp_delivery_failed"
  | missingAttributesAllowed .. => "otp_missing_attributes_allowed"
  | missingAttributesBlocked .. => "otp_missing_attributes_blocked"
  | verificationPassed .. => "otp_verification_passed"
  | challengeIssued .. => "otp_challenge_issued"
  | verificationRejected .. => "otp_verification_rejected"
  | configurationInvalid .. => "otp_configuration_invalid"
  | serviceUnavailable .. => "otp_service_unavailable"
  | providerStarted .. => "otp_provider_started"
  | providerShutdown => "otp_provider_shutdown"

def level : Event → Level
  | attributeResolved .. | checked .. | invalidated .. | expiredRemoved ..
  | sweepCompleted .. | taskStarted .. | taskCancelled .. | dispatching .. => .debug
  | generated .. | storeShutdown | emailSent .. | verificationPassed ..
  | challengeIssued .. | providerStarted .. | providerShutdown => .info
  | disabledForUser .. | missingAttributesAllowed .. | missingAttributesBlocked ..
  | verificationRejected .. => .warning
  | taskFailed .. | emailSendFailed .. | deliveryFailed .. | configurationInvalid ..
  | serviceUnavailable .. => .error

def wordField {α : Type} [Vocabulary α] (a : α) : Value := .text (Vocabulary.word a)

def fields : Event → List (String × Value)
  | attributeResolved key source => [("attribute", .text key), ("source", .text source)]
  | disabledForUser identifier source =>
    [("identifier", .text identifier), ("source", .text source)]
  | generated identifier length expiresIn replaced =>
    [("identifier", .text identifier), ("length", length), ("expires_in", expiresIn),
     ("replaced", .bool replaced)]
  | checked identifier result =>
    [("identifier", .text identifier), ("result", wordField result)]
  | invalidated identifier | expiredRemoved identifier => [("identifier", .text identifier)]
  | sweepCompleted removed remaining milliseconds =>
    [("removed", .int removed), ("remaining", .int remaining),
     ("duration_ms", .float milliseconds)]
  | storeShutdown | providerShutdown => []
  | taskStarted task interval => [("task", .text task), ("interval", interval)]
  | taskCancelled task => [("task", .text task)]
  | taskFailed task => [("task", .text task), ("exc_info", .bool true)]
  | dispatching identifier channel recipients =>
    [("identifier", .text identifier), ("channel", wordField channel),
     ("recipients", .int recipients)]
  | emailSendFailed host port error =>
    [("host", host), ("port", port), ("error", .text error)]
  | emailSent host recipients encryption =>
    [("host", host), ("recipients", .int recipients), ("encryption", wordField encryption)]
  | deliveryFailed identifier channel error =>
    [("identifier", .text identifier), ("channel", wordField channel), ("error", .text error)]
  | missingAttributesAllowed identifier channel
  | missingAttributesBlocked identifier channel =>
    [("identifier", .text identifier), ("channel", wordField channel)]
  | verificationPassed identifier bypass =>
    [("identifier", .text identifier), ("bypass", .ofOption (bypass.map Vocabulary.word))]
  | challengeIssued identifier channel =>
    [("identifier", .text identifier), ("channel", wordField channel)]
  | verificationRejected identifier reason code =>
    [("identifier", .text identifier), ("reason", wordField reason), ("code", .text code)]
  | configurationInvalid identifier key source error =>
    [("identifier", .text identifier), ("attribute", .text key), ("source", .ofOption source),
     ("error", .text error)]
  | serviceUnavailable identifier error =>
    [("identifier", .text identifier), ("error", .text error)]
  | providerStarted defaultMethod sweepInterval =>
    [("default_method", defaultMethod), ("sweep_interval", .ofNumber sweepInterval)]

end Event

end Passcode
