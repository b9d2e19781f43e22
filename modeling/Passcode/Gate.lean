import Passcode.Delivery
import Passcode.Policy
import Passcode.Store.Keeper

/-!
# The gate

The login step as a whole, for a user whose password was right. A request without a code
is a challenge: a code is issued, sent to the user's own destinations, and asked for. A
request with a code is checked against the outstanding one. A wrong code issues no new
one; the user tries again until it expires.

Couriers are of any type `κ` and act on anything `ω` outside the gate; what one does with
a record is the parameter `deliver`. A delivery that fails as deliveries do takes the
code back. Refusals become outcomes; all other failures pass through.
-/

namespace Passcode

/-- The login step with everything it owns and everything its couriers act on. -/
structure Gate (κ ω : Type) where
  settings : Settings
  directory : Directory
  routes : Routes κ
  keeper : Keeper
  outside : ω

namespace Gate

variable {κ ω : Type}

/-- How a courier delivers a record to recipients. -/
abbrev Deliver (κ ω : Type) := κ → List String → Issued → Action (Gate κ ω) Receipt

def inKeeper {α : Type} (a : Action Keeper α) : Action (Gate κ ω) α :=
  a.on Gate.keeper fun g k => { g with keeper := k }

def inWorld {α : Type} (a : Action World α) : Action (Gate κ ω) α := inKeeper (Keeper.inWorld a)

def inOutside {α : Type} (a : Action ω α) : Action (Gate κ ω) α :=
  a.on Gate.outside fun g o => { g with outside := o }

def report (e : Event) : Action (Gate κ ω) Unit := inWorld (World.report e)

/-! ## Opening and shutting -/

/-- A new gate over checked settings, its store being swept. -/
def new (settings : Settings) (directory : Directory) (routes : Routes κ) (outside : ω)
    (w : World) : Except Failure (Gate κ ω) := do
  let (store, w) ← match (World.openStore (.ofNumber settings.sweepInterval) true).run w with
    | (.ok store, w) => .ok (store, w)
    | (.error f, _) => .error f
  let g : Gate κ ω := { settings, directory, routes, keeper := ⟨w, store⟩, outside }
  return (report (.providerStarted settings.defaultMethod.value settings.sweepInterval)).after g

/-- Shuts the gate: every outstanding code is dropped for good. -/
def shutdown : Action (Gate κ ω) Unit := do
  inKeeper Keeper.shutdown
  report .providerShutdown

/-- Drops the code that a user may still have once the login is complete. -/
def loggedIn (p : Principal) : Action (Gate κ ω) Unit := do
  unless p.isAnonymous do
    let _ ← inKeeper (Keeper.invalidate p.identifier)

/-- Registers a courier for a channel, in the place of the one there was. -/
def register (c : Channel) (courier : κ) : Action (Gate κ ω) Unit :=
  modify fun g => { g with routes := g.routes.put c courier }

/-! ## Challenges -/

def dispatch (deliver : Deliver κ ω) (c : Channel) (p : Principal) (r : Issued) :
    Action (Gate κ ω) Receipt := do
  let g ← get
  let courier ← g.routes.courier c
  let recipients := p.recipients c
  report (.dispatching p.identifier c recipients.length)
  deliver courier recipients r

def codeField : String := "otp-code"

/-- What the user is told after a code was sent. -/
def challengeMessage : String :=
  "In order to complete authentication you must enter the one-time password you received."

/-- The outcome for a user without a destination for a code. -/
def missingAttributes (p : Principal) (c : Channel) : Action (Gate κ ω) Outcome := do
  let g ← get
  match g.settings.missingAction with
  | .own .allow =>
    report (.missingAttributesAllowed p.identifier c)
    return .verified (some .missingAttributes)
  | _ =>
    report (.missingAttributesBlocked p.identifier c)
    return .refuse .missingAttributes (.missingAttributes p.identifier (Vocabulary.word c))

/-- Sends a record out, and takes it back if the delivery fails. -/
def sendOut (deliver : Deliver κ ω) (c : Channel) (p : Principal) (r : Issued) :
    Action (Gate κ ω) Outcome := do
  match ← (dispatch deliver c p r).attempt with
  | .ok _ =>
    inWorld (World.measure (·.countChallenge (Vocabulary.word c)))
    return .needsInput ⟨[⟨codeField, true⟩], challengeMessage, c, r.record.expiresAt⟩
  | .error (.refused (.delivery fault message channel)) =>
    let cause := Refusal.delivery fault message channel
    let _ ← inKeeper (Keeper.discard p.identifier r)
    inWorld (World.measure (·.countDeliveryFailure (Vocabulary.word c)))
    report (.deliveryFailed p.identifier c cause.message)
    return .refuse .deliveryFailed cause
  | .error f => throw f

/-- Issues a code under the policy of the user, and sends it. -/
def challenge (deliver : Deliver κ ω) (p : Principal) (groups : List Group) :
    Action (Gate κ ω) Outcome := do
  let g ← get
  let policy ← inWorld (Policy.resolve g.settings p groups (some (.bool false)))
  let channel ← policy.channel.demand
  if (p.recipients channel).isEmpty then missingAttributes p channel
  else
    let r ← inKeeper
      (Keeper.generateFrom p.identifier policy.length policy.timeout policy.alphabet)
    sendOut deliver channel p r

/-! ## Responses -/

def outcomeOf (identifier : String) : CheckResult → Outcome
  | .accepted => .verified none
  | .expired =>
    .refuse .challengeExpired
      (.expired ("One-time password for '" ++ identifier ++ "' has expired") none)
  | result =>
    .refuse .verificationFailed
      (.mismatch ("Invalid one-time password for '" ++ identifier ++ "' ("
        ++ Vocabulary.word result ++ ")") none)

def respond (p : Principal) (code : Glyphs) : Action (Gate κ ω) Outcome := do
  return outcomeOf p.identifier (← inKeeper (Keeper.check p.identifier (some code)))

/-! ## Verification -/

def outcomeEvent (identifier : String) : Outcome → Event
  | .verified bypass => .verificationPassed identifier bypass
  | .needsInput prompt => .challengeIssued identifier prompt.channel
  | .rejected reason _ cause => .verificationRejected identifier reason cause.code

def finish (p : Principal) (o : Outcome) : Action (Gate κ ω) Outcome := do
  report (outcomeEvent p.identifier o)
  inWorld (World.measure (·.countOutcome o.label))
  return o

/-- What an attempt comes to, before it is reported and counted. -/
def decide (deliver : Deliver κ ω) (p : Principal) (response : Option Glyphs) :
    Action (Gate κ ω) Outcome := do
  let g ← get
  let groups := g.directory.groupsOf p
  let disabled ← inWorld (Policy.disabledFor g.settings p groups)
  if disabled.isTrue then return .verified (some .disabled)
  match response with
  | none => challenge deliver p groups
  | some code => respond p code

/-- The refusals that end an attempt, as outcomes; any other failure is passed on. -/
def recover (p : Principal) : Failure → Action (Gate κ ω) Outcome
  | .refused (.configuration key value source reason) => do
    let cause := Refusal.configuration key value source reason
    report (.configurationInvalid p.identifier key source cause.message)
    return .refuse .configurationError cause
  | .refused (.unavailable message wording) => do
    let cause := Refusal.unavailable message wording
    report (.serviceUnavailable p.identifier message)
    return .refuse .serviceUnavailable cause
  | f => throw f

/-- Runs the login step for a user, with the code that the request carries, if any. -/
def verify (deliver : Deliver κ ω) (p : Principal) (response : Option Glyphs) :
    Action (Gate κ ω) Outcome := do
  let o ← if p.isAnonymous then pure (.verified (some .anonymous))
    else tryCatch (decide deliver p response) (recover p)
  finish p o

end Gate

end Passcode
