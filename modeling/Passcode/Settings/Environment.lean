import Passcode.Settings.Basic

/-!
# Settings from the environment

Each setting has a variable. A variable that is unset or blank leaves the default; any
other is read by the reader of its setting, and texts are trimmed. The variables are read
in the order of the settings, so the first malformed one is reported, before the settings
are checked as a whole. A variable should be a text; one that is not cannot be read.
-/

namespace Passcode

def Setting.variableName : Setting → String
  | defaultMethod => "OTP_DEFAULT_METHOD"
  | defaultTimeout => "OTP_DEFAULT_TIMEOUT"
  | length => "OTP_LENGTH"
  | alphabet => "OTP_CHARACTER_CLASSES"
  | disabled => "OTP_DISABLED"
  | missingAction => "OTP_MISSING_ACTION"
  | mailSender => "OTP_MAIL_SENDER"
  | mailServer => "OTP_MAIL_SERVER"
  | mailPort => "OTP_MAIL_PORT"
  | mailAuth => "OTP_MAIL_AUTH"
  | mailUsername => "OTP_MAIL_USERNAME"
  | mailPassword => "OTP_MAIL_PASSWORD"
  | mailEncryption => "OTP_MAIL_ENCRYPT"
  | mailTimeout => "OTP_MAIL_TIMEOUT"
  | smsServer => "OTP_SMS_SERVER"
  | smsSender => "OTP_SMS_SENDER"
  | sweepInterval => "OTP_SWEEP_INTERVAL"

/-- Variables by name; one that is unset is nothing. -/
abbrev Environment := String → Value

namespace Environment

def source : String := "environment"

/-- The draft with one setting read from the text of its variable. -/
def assign (d : Draft) (s : Setting) (raw : String) : Except Failure Draft :=
  let read {α : Type} (r : Reader α) : Except Failure α := r.read s.variableName source raw
  let text : Value := .text (Text.trim raw)
  match s with
  | .defaultMethod => do return { d with defaultMethod := .member (← read .choice) }
  | .defaultTimeout => do return { d with defaultTimeout := .int (← read .positiveInt) }
  | .length => do return { d with length := .int (← read .positiveInt) }
  | .alphabet => do return { d with alphabet := .member (← read .choice) }
  | .disabled => do return { d with disabled := .bool (← read .boolean) }
  | .missingAction => do return { d with missingAction := .member (← read .choice) }
  | .mailSender => .ok { d with mailSender := text }
  | .mailServer => .ok { d with mailServer := text }
  | .mailPort => do return { d with mailPort := .int (← read .positiveInt) }
  | .mailAuth => do return { d with mailAuth := .bool (← read .boolean) }
  | .mailUsername => .ok { d with mailUsername := text }
  | .mailPassword => .ok { d with mailPassword := text }
  | .mailEncryption => do return { d with mailEncryption := .member (← read .choice) }
  | .mailTimeout => do return { d with mailTimeout := .float (← read .positiveFloat) }
  | .smsServer => .ok { d with smsServer := text }
  | .smsSender => .ok { d with smsSender := text }
  | .sweepInterval => do return { d with sweepInterval := .float (← read .positiveFloat) }

/-- The draft with one setting read from its variable, unless that is blank. -/
def step (env : Environment) (d : Draft) (s : Setting) : Except Failure Draft :=
  match env s.variableName with
  | .none => .ok d
  | .text raw => if Text.isBlank raw then .ok d else assign d s raw
  | _ => .error .notText

def draft (env : Environment) : Except Failure Draft := Setting.all.foldlM env.step {}

end Environment

def Settings.ofEnvironment (env : Environment) : Except Failure Settings := do
  build (← env.draft)

end Passcode
