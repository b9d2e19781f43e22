import Passcode.Mail.Message
import Passcode.World

/-!
# The mail transport

How a message is sent: connect, secure the connection if it was plain so far, log in if
that is wanted, hand the message over, and close. The first call that fails ends the
sequence; a connection that was made is closed all the same. The wire writes down every
call, and says which calls fail.
-/

namespace Passcode

/-- The calls that a transport answers. -/
inductive Call where
  | connect
  | starttls
  | login
  | send
  | close
deriving DecidableEq, Repr

/-- A call with what was handed over in it. -/
inductive Exchange where
  | connect (secure : Bool) (host port timeout : Value)
  | starttls
  | login (username password : Value)
  | send (message : Message)
  | close
deriving Repr

def Exchange.call : Exchange → Call
  | connect .. => .connect
  | starttls => .starttls
  | login .. => .login
  | send _ => .send
  | close => .close

/-- The calls made so far, and the failures that calls end in. -/
structure Wire where
  transcript : List Exchange := []
  failure? : Call → Option Failure := fun _ => none

instance : Inhabited Wire := ⟨{}⟩

namespace Wire

/-- The failures of a wire on which at most one kind of call fails. -/
def failingAt (failure : Option (Call × Failure)) (c : Call) : Option Failure :=
  failure.bind fun f => if f.1 = c then some f.2 else none

/-- Makes a call: it is written down, and then it may fail. -/
def make (e : Exchange) : Action Wire Unit := do
  let w ← get
  set { w with transcript := w.transcript ++ [e] }
  match w.failure? e.call with
  | some f => throw f
  | none => return ()

end Wire

/-- What a delivery came to. -/
structure Receipt where
  channel : Channel
  recipients : List String
deriving DecidableEq, Repr

namespace Mailer

/-- The calls between connecting and closing. -/
def session (m : Mailer) (message : Message) : Action Wire Unit := do
  if m.encryption = .starttls then Wire.make .starttls
  if m.authenticate.isTrue then Wire.make (.login m.username m.password)
  Wire.make (.send message)

/-- All calls for one message. The connection is closed whatever happened on it, and a
failure to close takes the place of an earlier one. -/
def exchange (m : Mailer) (message : Message) : Action Wire Unit := do
  Wire.make (.connect (m.encryption = .ssl) m.host m.port m.timeout)
  let result ← (m.session message).attempt
  Wire.make .close
  result

/-- Sends a record to all recipients in one message. Only a failed connection counts as a
failed delivery; any other failure is passed on. -/
def send {σ : Type} (onWire : Action Wire Unit → Action σ Unit) (report : Event → Action σ Unit)
    (m : Mailer) (recipients : List String) (r : Record) : Action σ Receipt := do
  let channel := Vocabulary.word Channel.email
  if recipients.isEmpty then throw (.refused (.noRecipients channel))
  let message ← m.compose recipients r
  match ← (onWire (m.exchange message)).attempt with
  | .error (.network _ text) =>
    report (.emailSendFailed m.host m.port text)
    throw (.refused (.mailFailed channel text))
  | .error f => throw f
  | .ok () =>
    report (.emailSent m.host recipients.length m.encryption)
    return ⟨.email, recipients⟩

def sendOver (m : Mailer) (recipients : List String) (r : Record) : Action (World × Wire) Receipt :=
  m.send (fun a => a.on Prod.snd fun s w => (s.1, w))
    (fun e => (World.report e).on Prod.fst fun s w => (w, s.2)) recipients r

end Mailer

end Passcode
