import Passcode.Reader
import Passcode.Value

/-!
# Settings

The system-wide defaults and the parameters of the transports. A `Draft` holds the
values as they were given, each of any kind; `Settings.build` checks a draft and gives
the settings that the program works with, or the first refusal:

* the four choices are read first, in the order of their settings; a member of any set of
  choices needs no reading, whatever set it is of;
* then the three whole numbers, then the two numbers, must be positive;
* then mail authentication must have a user name and a password;
* then text messages as the default must have a gateway.

Truth values and texts are kept as they were given.
-/

namespace Passcode

/-- The settings by name, in the order in which they are read. -/
inductive Setting where
  | defaultMethod
  | defaultTimeout
  | length
  | alphabet
  | disabled
  | missingAction
  | mailSender
  | mailServer
  | mailPort
  | mailAuth
  | mailUsername
  | mailPassword
  | mailEncryption
  | mailTimeout
  | smsServer
  | smsSender
  | sweepInterval
deriving DecidableEq, Repr

namespace Setting

def all : List Setting :=
  [defaultMethod, defaultTimeout, length, alphabet, disabled, missingAction, mailSender,
   mailServer, mailPort, mailAuth, mailUsername, mailPassword, mailEncryption, mailTimeout,
   smsServer, smsSender, sweepInterval]

def key : Setting → String
  | defaultMethod => "default_method"
  | defaultTimeout => "default_timeout"
  | length => "length"
  | alphabet => "character_classes"
  | disabled => "disabled"
  | missingAction => "missing_action"
  | mailSender => "mail_sender"
  | mailServer => "mail_server"
  | mailPort => "mail_port"
  | mailAuth => "mail_auth"
  | mailUsername => "mail_username"
  | mailPassword => "mail_password"
  | mailEncryption => "mail_encryption"
  | mailTimeout => "mail_timeout"
  | smsServer => "sms_server"
  | smsSender => "sms_sender"
  | sweepInterval => "sweep_interval"

def ofKey? (s : String) : Option Setting := all.find? (·.key = s)

theorem mem_all (s : Setting) : s ∈ all := by cases s <;> decide

end Setting

/-! ## Drafts -/

/-- A choice as it was given: a member of its set, a member of another one, or a value still to
be read. -/
inductive Given (α : Type) where
  | member (a : α)
  | stranger (m : Stranger)
  | raw (v : Value)
deriving Repr

/-- The values of the settings as they were given. -/
structure Draft where
  defaultMethod : Given Channel := .member .email
  defaultTimeout : Value := .int 300
  length : Value := .int 6
  alphabet : Given Alphabet := .member .numeric
  disabled : Value := .bool false
  missingAction : Given MissingAction := .member .block
  mailSender : Value := .text "otp@localhost.localdomain"
  mailServer : Value := .text "localhost"
  mailPort : Value := .int 25
  mailAuth : Value := .bool false
  mailUsername : Value := .none
  mailPassword : Value := .none
  mailEncryption : Given Encryption := .member .none
  mailTimeout : Value := .float 10
  smsServer : Value := .none
  smsSender : Value := .none
  sweepInterval : Value := .float 60
deriving Repr

namespace Draft

def give (d : Draft) (s : Setting) (v : Value) : Draft :=
  match s with
  | .defaultMethod => { d with defaultMethod := .raw v }
  | .defaultTimeout => { d with defaultTimeout := v }
  | .length => { d with length := v }
  | .alphabet => { d with alphabet := .raw v }
  | .disabled => { d with disabled := v }
  | .missingAction => { d with missingAction := .raw v }
  | .mailSender => { d with mailSender := v }
  | .mailServer => { d with mailServer := v }
  | .mailPort => { d with mailPort := v }
  | .mailAuth => { d with mailAuth := v }
  | .mailUsername => { d with mailUsername := v }
  | .mailPassword => { d with mailPassword := v }
  | .mailEncryption => { d with mailEncryption := .raw v }
  | .mailTimeout => { d with mailTimeout := v }
  | .smsServer => { d with smsServer := v }
  | .smsSender => { d with smsSender := v }
  | .sweepInterval => { d with sweepInterval := v }

def ofKeywords (values : List (String × Value)) : Except Failure Draft :=
  values.foldlM (fun d kv =>
    match Setting.ofKey? kv.1 with
    | some s => .ok (d.give s kv.2)
    | none => .error .unknownSetting) {}

end Draft

/-! ## Checking -/

/-- Settings that have been checked. -/
structure Settings where
  defaultMethod : Held Channel
  defaultTimeout : Int
  length : Int
  alphabet : Held Alphabet
  disabled : Value
  missingAction : Held MissingAction
  mailSender : Value
  mailServer : Value
  mailPort : Int
  mailAuth : Value
  mailUsername : Value
  mailPassword : Value
  mailEncryption : Held Encryption
  mailTimeout : Number
  smsServer : Value
  smsSender : Value
  sweepInterval : Number
deriving Repr, Inhabited

/-- A member as it stands, of whatever set, or one read from the text of the value. -/
def Given.settle {α : Type} [Vocabulary α] (s : Setting) : Given α → Except Failure (Held α)
  | .member a => .ok (.own a)
  | .stranger m => .ok (.stranger m)
  | .raw v => do Reader.held.read s.key none (← v.written)

namespace Settings

def refuse {α : Type} (s : Setting) (value : Option String) (c : Complaint) : Except Failure α :=
  .error (.refused (.configuration s.key value none c.text))

/-- A refusal of the value of a setting that tells the value, if that can be written out. -/
def refuseWritten {α : Type} (s : Setting) (v : Value) (c : Complaint) : Except Failure α := do
  refuse s (← v.written) c

theorem refuseWritten_ne_ok {α : Type} {s : Setting} {v : Value} {c : Complaint} {a : α} :
    refuseWritten s v c ≠ .ok a := by
  unfold refuseWritten
  cases v.written <;> exact nofun

/-- A whole number of at least one. Truth values are no numbers. -/
def wholeNumber (s : Setting) : Value → Except Failure Int
  | .int n => if n < 1 then refuseWritten s (.int n) .notAPositiveInteger else .ok n
  | v => refuseWritten s v .notAPositiveInteger

def number (s : Setting) : Value → Except Failure Number
  | .int n =>
    if (Number.int n).atMostZero then refuseWritten s (.int n) .notPositive else .ok (.int n)
  | .float x =>
    if (Number.float x).atMostZero then refuseWritten s (.float x) .notPositive
    else .ok (.float x)
  | v => refuseWritten s v .notPositive

/-- Whether a text is blank; only a text or nothing can be asked. -/
def blank : Value → Except Failure Bool
  | .none => .ok true
  | .text s => .ok (Text.isBlank s)
  | _ => .error .notText

/-- Checks that mail authentication, where it is wanted, has a user name and a password. -/
def checkCredentials (auth username password : Value) : Except Failure Unit := do
  if auth.isTrue then
    let absent := match password with
      | .none => true
      | _ => false
    if (← blank username) || absent then
      refuse .mailAuth "true" .needsCredentials

/-- Checks that text messages, where they are the default, have a gateway. -/
def checkGateway (method : Held Channel) (server : Value) : Except Failure Unit := do
  if let .own .sms := method then
    if ← blank server then
      let value := match server with
        | .text s => some s
        | _ => none
      refuse .smsServer value .needsGateway

def build (d : Draft) : Except Failure Settings := do
  let defaultMethod ← d.defaultMethod.settle .defaultMethod
  let alphabet ← d.alphabet.settle .alphabet
  let missingAction ← d.missingAction.settle .missingAction
  let mailEncryption ← d.mailEncryption.settle .mailEncryption
  let defaultTimeout ← wholeNumber .defaultTimeout d.defaultTimeout
  let length ← wholeNumber .length d.length
  let mailPort ← wholeNumber .mailPort d.mailPort
  let mailTimeout ← number .mailTimeout d.mailTimeout
  let sweepInterval ← number .sweepInterval d.sweepInterval
  checkCredentials d.mailAuth d.mailUsername d.mailPassword
  checkGateway defaultMethod d.smsServer
  return {
    defaultMethod, defaultTimeout, length, alphabet, missingAction, mailPort, mailEncryption,
    mailTimeout, sweepInterval
    disabled := d.disabled
    mailSender := d.mailSender
    mailServer := d.mailServer
    mailAuth := d.mailAuth
    mailUsername := d.mailUsername
    mailPassword := d.mailPassword
    smsServer := d.smsServer
    smsSender := d.smsSender }

def ofKeywords (values : List (String × Value)) : Except Failure Settings := do
  build (← Draft.ofKeywords values)

end Settings

end Passcode
