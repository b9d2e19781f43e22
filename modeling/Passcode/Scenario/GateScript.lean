import Passcode.Gate
import Passcode.Scenario.StoreScript

/-!
# Scripts for the gate

Steps of the login step as data, and what they do. The couriers of a script are the real
ones, mail over a wire and the text-message gateway, and rehearsed ones. A rehearsed
courier writes down what it is handed, carries out steps of its own, and then succeeds
or fails as it was told; so a script can let other things happen while a code is being
delivered.
-/

namespace Passcode.Scenario

/-- Where the code of a request comes from: a given text or nothing, a code sent earlier,
counted from the end if the index is negative, or the code now stored for the user; the
last two between two texts. -/
inductive Response where
  | given (c : Option Glyphs)
  | sent (index : Int) (before after : Glyphs)
  | live (before after : Glyphs)
deriving Repr

mutual

/-- Someone who delivers codes. -/
inductive Courier where
  | mail (m : Mailer)
  | texts (g : TextGateway)
  | rehearsed (r : Rehearsal)

/-- What a rehearsed courier does: the word of its channel, a tag to tell it by, the
steps it carries out while it delivers, and how it fails, if it does. -/
inductive Rehearsal where
  | mk (channel : Value) (tag : Value) (during : List Step) (failure : Option Failure)

/-- A step of a script. -/
inductive Step where
  | verify (p : Principal) (response : Response)
  | loggedIn (p : Principal)
  | shutGate
  | setGroup (id : String) (attributes : Option Attributes)
  | register (r : Rehearsal)
  | failWire (failure : Option (Call × Failure))
  | store (c : Command)

end

instance : Inhabited Courier := ⟨.texts {}⟩

namespace Rehearsal

def channel : Rehearsal → Value
  | mk channel .. => channel

def tag : Rehearsal → Value
  | mk _ tag .. => tag

def during : Rehearsal → List Step
  | mk _ _ during _ => during

def failure : Rehearsal → Option Failure
  | mk _ _ _ failure => failure

end Rehearsal

def Step.identifier? : Step → Option String
  | .verify p _ | .loggedIn p => some p.identifier
  | .store c => c.identifier?
  | _ => none

def Step.movesClock : Step → Bool
  | .store c => c.movesClock
  | _ => false

/-- The identifiers that a script names, itself and in the steps of the couriers that are
there from its beginning. -/
def namedIdentifiers (couriers : List Rehearsal) (script : List Step) : List String :=
  ((couriers.flatMap Rehearsal.during ++ script).filterMap Step.identifier?).eraseDups

/-! ## Carrying steps out -/

/-- What a rehearsed courier wrote down. -/
structure Note where
  recipients : List String
  record : Record
  tag : Value
  during : List Result := []

/-- What couriers and scripts act on outside the gate: the wire, the notes of rehearsed
couriers, and the records made by commands. -/
structure Outside where
  wire : Wire := {}
  notes : List Note := []
  made : List Issued := []

/-- A gate whose couriers are those of scripts. -/
abbrev ScriptGate := Gate Courier Outside

namespace ScriptGate

open Gate (inOutside inWorld)

def onWire {α : Type} (a : Action Wire α) : Action ScriptGate α :=
  inOutside (a.on Outside.wire fun o w => { o with wire := w })

def register (channel : Value) (c : Courier) : Action ScriptGate Unit := do
  let ch ← Vocabulary.demand channel
  Gate.register ch c

def command (c : Command) : Action ScriptGate Reply :=
  (Desk.perform c).on (fun g => ⟨g.keeper, g.outside.made⟩)
    fun g d => { g with keeper := d.keeper, outside := { g.outside with made := d.made } }

def responseText (p : Principal) (r : Response) : Action ScriptGate (Option Glyphs) := do
  let g ← get
  match r with
  | .given c => return c
  | .sent index before after =>
    let n := g.outside.notes.length
    let i := if index < 0 then index + n else index
    let code := if i < 0 then none else g.outside.notes[i.toNat]?.map (·.record.code)
    return some (before ++ .ofString (code.getD "") ++ after)
  | .live before after =>
    let code := (g.keeper.store.find? p.identifier).map (·.record.code)
    return some (before ++ .ofString (code.getD "") ++ after)

/-- Carries out the steps of a rehearsed courier. A clock that cannot be moved ends them. -/
def rehearse (play : Step → Action ScriptGate Reply) : List Step → Action ScriptGate (List Result)
  | [] => return []
  | s :: rest => do
    match s.movesClock, ← (play s).attempt with
    | true, .error f => throw f
    | _, r => return r :: (← rehearse play rest)

/-- Delivers a record. The steps of a rehearsed courier are carried out by `play`. -/
def deliver (play : Step → Action ScriptGate Reply) : Gate.Deliver Courier Outside
  | .mail m, recipients, r => m.send onWire Gate.report recipients r.record
  | .texts g, recipients, r => g.send recipients r.record
  | .rehearsed (.mk channel tag during failure), recipients, r => do
    let index := (← get).outside.notes.length
    inOutside (modify fun o => { o with notes := o.notes ++ [⟨recipients, r.record, tag, []⟩] })
    let results ← rehearse play during
    inOutside (modify fun o =>
      { o with notes := o.notes.modify index fun n => { n with during := results } })
    match failure with
    | some f => throw f
    | none => return ⟨← Vocabulary.demand channel, recipients⟩

/-- How deep deliveries may lie within deliveries. -/
def nestingLimit : Nat := 100

/-- Carries a step out, with at most `depth` deliveries within one another. -/
def performWithin : (depth : Nat) → Step → Action ScriptGate Reply
  | 0, _ => throw (.broken "deliveries within deliveries without end")
  | depth + 1, step =>
    match step with
    | .verify p response => do
      let code ← responseText p response
      return .outcome (← Gate.verify (deliver (performWithin depth)) p code)
    | .loggedIn p => do
      Gate.loggedIn p
      return .nothing
    | .shutGate => do
      Gate.shutdown
      return .nothing
    | .setGroup id attributes => do
      modify fun g => { g with directory := g.directory.put id attributes }
      return .nothing
    | .register r => do
      register r.channel (.rehearsed r)
      return .nothing
    | .failWire failure => do
      onWire (modify fun w => { w with failure? := Wire.failingAt failure })
      return .nothing
    | .store c => command c

def perform (s : Step) : Action ScriptGate Reply := performWithin nestingLimit s

end ScriptGate

/-! ## Scripts -/

def Courier.ofSettings (s : Settings) : Except Failure (Routes Courier) := do
  return .ofList [(.email, .mail (← Mailer.ofSettings s)), (.sms, .texts (.ofSettings s))]

def Rehearsal.routes (rs : List Rehearsal) : Except Failure (Routes Courier) :=
  rs.foldlM (fun routes r => do
    let c ← Vocabulary.demand r.channel
    return routes.put c (.rehearsed r)) .empty

/-- What a script for the gate shows: the events of the opening, each step with its view,
and what is left after the gate was shut at the end. -/
structure GateReport where
  opening : List Event
  steps : List (Result × View)
  notes : List Note
  transcript : List Exchange
  metrics : List String
  closing : List Event
  size : Nat
  sweeping : Bool

namespace ScriptGate

/-- Carries the steps of a script out one after another. A clock that cannot be moved ends
the script. -/
def run (ids : List String) : ScriptGate → List Step →
    Except Failure (List (Result × View) × ScriptGate)
  | g, [] => .ok ([], g)
  | g, s :: rest =>
    match s.movesClock, (perform s).run g with
    | true, (.error f, _) => .error f
    | _, (r, g') => do
      let (entries, final) ← run ids g' rest
      return ((r, View.of g'.keeper ids g.keeper.world) :: entries, final)

/-- The lines of the metrics that a report shows: samples only, and none of sweeps. -/
def shownMetrics (m : Metrics) : List String :=
  m.lines.filter fun l => !("#".isPrefixOf l) && !Metrics.mentions l "sweep"

/-- Opens a gate, carries a script out, and shuts the gate. The identifiers are those
that the report shows the records of. -/
def play (settings : Settings) (directory : Directory) (routes : Routes Courier) (wire : Wire)
    (w : World) (ids : List String) (script : List Step) : Except Failure GateReport := do
  let g ← Gate.new settings directory routes { wire : Outside } w
  let (steps, g') ← run ids g script
  let final := (Gate.shutdown : Action ScriptGate Unit).after g'
  return {
    opening := g.keeper.world.log.drop w.log.length
    steps
    notes := final.outside.notes
    transcript := final.outside.wire.transcript
    metrics := shownMetrics final.keeper.world.metrics
    closing := final.keeper.world.log.drop g'.keeper.world.log.length
    size := final.keeper.store.size
    sweeping := final.keeper.store.sweeper.isRunning }

end ScriptGate

end Passcode.Scenario
