import Passcode.Scenario.GateScript

/-!
# Scripts for deliveries

Errands as data: who delivers for a channel, whom a user's codes go to, a courier
registered, a record dispatched. A channel is given by a word, which may be unknown. A
rehearsed courier carries out no steps of its own here.
-/

namespace Passcode.Scenario

/-- A step of a script for deliveries. -/
inductive Errand where
  | recipients (channel : Value) (p : Principal)
  | hasRecipients (channel : Value) (p : Principal)
  | courier (channel : Value)
  | register (r : Rehearsal)
  | dispatch (channel : Value) (p : Principal) (code : String) (timeout : Value)

/-- The answer of an errand: a reply, or a courier. -/
inductive ErrandReply where
  | reply (r : Reply)
  | courier (c : Courier)

def Courier.alone : Courier → Courier
  | .rehearsed r => .rehearsed (.mk r.channel r.tag [] r.failure)
  | c => c

namespace Errand

/-- Delivers a record without any steps in between. -/
def deliver : Gate.Deliver Courier Outside := fun c => ScriptGate.deliver ScriptGate.perform c.alone

def perform : Errand → Action ScriptGate ErrandReply
  | .recipients channel p => do
    return .reply (.texts (p.recipients (← Vocabulary.demand channel)))
  | .hasRecipients channel p => do
    return .reply (.bool !(p.recipients (← Vocabulary.demand channel)).isEmpty)
  | .courier channel => do
    let c ← Vocabulary.demand channel
    return .courier (← (← get).routes.courier c)
  | .register r => do
    ScriptGate.register r.channel (.rehearsed r)
    return .reply .nothing
  | .dispatch channel p code timeout => do
    let record ← Record.create code timeout (← get).keeper.world.now
    let r ← Gate.inWorld (World.number record)
    let c ← Vocabulary.demand channel
    return .reply (.receipt (← Gate.dispatch deliver c p r))

/-- Carries errands out one after another: each answer with the events of its errand. -/
def run : ScriptGate → List Errand →
    List (Except Failure ErrandReply × List Event) × ScriptGate
  | g, [] => ([], g)
  | g, e :: rest =>
    let (r, g') := (perform e).run g
    let (entries, final) := run g' rest
    ((r, g'.keeper.world.log.drop g.keeper.world.log.length) :: entries, final)

/-- Carries errands out over a wire in a world: the answers with their events, the notes
of rehearsed couriers, and the calls on the wire. -/
def play (routes : Routes Courier) (wire : Wire) (w : World) (errands : List Errand) :
    Except Failure (List (Except Failure ErrandReply × List Event) × List Note × List Exchange) := do
  let store ← Store.new Store.usualInterval
  let settings ← Settings.build {}
  let (entries, final) := run ⟨settings, .empty, routes, ⟨w, store⟩, { wire }⟩ errands
  return (entries, final.outside.notes, final.outside.wire.transcript)

end Errand

end Passcode.Scenario
