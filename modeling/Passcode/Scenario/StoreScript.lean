import Passcode.Delivery
import Passcode.Outcome
import Passcode.Reader
import Passcode.Store.Keeper

/-!
# Scripts for stores

Commands to a store as data, what they do, and what they answer. Records are numbered in
the order in which the commands of a script make them, so that a later command can speak of
the record that an earlier one made, or of its code with something around it.
-/

namespace Passcode.Scenario

/-- The answer of a step of a script. -/
inductive Reply where
  | nothing
  | bool (b : Bool)
  | count (n : Nat)
  | value (v : Value)
  | time (t : Instant)
  | record (r : Option Record)
  | check (r : CheckResult)
  | lines (ls : List String)
  | texts (ts : List String)
  | outcome (o : Outcome)
  | receipt (r : Receipt)
deriving Repr

/-- An answer, or why there is none. -/
abbrev Result := Except Failure Reply

/-- A code that is submitted: a given text or nothing, or the code of a record that was
made earlier between two texts. -/
inductive Candidate where
  | given (c : Option Glyphs)
  | codeOf (index : Nat) (before after : Glyphs)
deriving Repr

/-- A command to a store. -/
inductive Command where
  | generate (id : String) (length timeout alphabet : Value)
  | putNew (id code : String) (timeout : Value)
  | putMade (id : String) (index : Nat)
  | get (id : String)
  | contains (id : String)
  | invalidate (id : String)
  | check (id : String) (candidate : Candidate)
  | consume (id : String) (candidate : Candidate)
  | discard (id : String) (index : Nat)
  | sweep (duration : Float)
  | cycle (duration : Float)
  | start
  | shutdown
  | size
  | sweeping
  | interval
  | advance (seconds micros : Value)
  | failClock (times : Nat)
  | metrics
deriving Repr

/-- Whether a command moves the clock. A script whose clock cannot be moved ends there. -/
def Command.movesClock : Command → Bool
  | advance .. => true
  | _ => false

def Command.identifier? : Command → Option String
  | generate id .. | putNew id .. | putMade id _ | get id | contains id | invalidate id
  | check id _ | consume id _ | discard id _ => some id
  | _ => none

/-- Draws a code of the alphabet with a word. The word is looked at after the length, and
only then whether the length is a whole number. -/
def drawCode (length alphabet : Value) : Action World String := do
  let n ← length.number
  if n.belowOne then throw (.misuse .lengthBelowOne)
  let a : Alphabet ← Vocabulary.demand alphabet
  match n with
  | .int n => World.drawCode n a
  | .float _ => throw .badArgument

/-- A keeper, and the records made so far, the oldest first. -/
structure Desk where
  keeper : Keeper
  made : List Issued := []

namespace Desk

def inKeeper {α : Type} (a : Action Keeper α) : Action Desk α :=
  a.on Desk.keeper fun d k => { d with keeper := k }

def inWorld {α : Type} (a : Action World α) : Action Desk α := inKeeper (Keeper.inWorld a)

def remember (r : Issued) : Action Desk Unit := modify fun d => { d with made := d.made ++ [r] }

def earlier (index : Nat) : Action Desk Issued := do
  let d ← get
  match d.made[index]? with
  | some r => return r
  | none => throw (.broken "no such record")

def candidate (c : Candidate) : Action Desk (Option Glyphs) := do
  match c with
  | .given c => return c
  | .codeOf index before after =>
    let d ← get
    let code := (d.made[index]?.map (·.record.code)).getD ""
    return some (before ++ .ofString code ++ after)

def perform : Command → Action Desk Reply
  | .generate id length timeout alphabet => do
    let r ← inKeeper (Keeper.issue id length timeout (drawCode length alphabet))
    remember r
    return .record r.record
  | .putNew id code timeout => do
    let w := (← get).keeper.world
    let record ← Record.create code timeout w.now
    let r ← inWorld (World.number record)
    remember r
    let _ ← inKeeper (Keeper.put id r)
    return .nothing
  | .putMade id index => do
    let _ ← inKeeper (Keeper.put id (← earlier index))
    return .nothing
  | .get id => do return .record (((← get).keeper.store.find? id).map (·.record))
  | .contains id => do return .bool ((← get).keeper.store.records.contains id)
  | .invalidate id => do return .bool (← inKeeper (Keeper.invalidate id))
  | .check id c => do return .check (← inKeeper (Keeper.check id (← candidate c)))
  | .consume id c => do return .bool (← inKeeper (Keeper.consume id (← candidate c)))
  | .discard id index => do return .bool (← inKeeper (Keeper.discard id (← earlier index)))
  | .sweep duration => do return .count (← inKeeper (Keeper.sweep duration))
  | .cycle duration => do
    inKeeper (Keeper.cycle duration)
    return .nothing
  | .start => do
    inKeeper Keeper.start
    return .nothing
  | .shutdown => do
    inKeeper Keeper.shutdown
    return .nothing
  | .size => do return .count (← get).keeper.store.size
  | .sweeping => do return .bool (← get).keeper.store.sweeper.isRunning
  | .interval => do return .value (← get).keeper.store.sweeper.interval
  | .advance seconds micros => do return .time (← inWorld (World.advance seconds micros))
  | .failClock times => do
    inWorld (modify fun w => { w with clockFailures := times })
    return .nothing
  | .metrics => do return .lines (← get).keeper.world.metrics.lines

end Desk

/-! ## What can be seen -/

/-- What can be seen after a step: how many records are outstanding, which ones, the
number that is reported for them, and the events of the step. -/
structure View where
  size : Nat
  live : List (String × Record)
  active : Number
  events : List Event
deriving Repr

/-- What can be seen of a keeper, of the given identifiers, since the world before. -/
def View.of (k : Keeper) (ids : List String) (before : World) : View where
  size := k.store.size
  live := ids.filterMap fun id => (k.store.find? id).map fun r => (id, r.record)
  active := k.world.metrics.active
  events := k.world.log.drop before.log.length

/-! ## Several stores -/

/-- Several stores in one world. -/
structure Bench where
  world : World
  stores : List Store
  made : List Issued := []

namespace Bench

def new (w : World) (count : Nat) (interval : Value) (autostart : Bool) :
    Except Failure Bench := do
  let step (b : Bench) (_ : Nat) : Except Failure Bench :=
    match (World.openStore interval autostart).run b.world with
    | (.ok s, w) => .ok { b with world := w, stores := b.stores ++ [s] }
    | (.error f, _) => .error f
  (List.range count).foldlM step { world := w, stores := [] }

def perform (b : Bench) (index : Nat) (c : Command) : Result × Bench :=
  match b.stores[index]? with
  | none => (.error (.broken "no such store"), b)
  | some s =>
    let (r, d) := (Desk.perform c).run ⟨⟨b.world, s⟩, b.made⟩
    (r, { world := d.keeper.world, stores := b.stores.set index d.keeper.store, made := d.made })

def view (b : Bench) (index : Nat) (ids : List String) (before : World) : Option View :=
  b.stores[index]?.map fun s => View.of ⟨b.world, s⟩ ids before

/-- Carries a script out. Each command comes with the index of its store. The first step
shows what happened since the given world. -/
def run (ids : Nat → List String) : World → Bench → List (Nat × Command) →
    Except Failure (List (Result × Option View))
  | _, _, [] => .ok []
  | before, b, (index, c) :: rest =>
    match c.movesClock, b.perform index c with
    | true, (.error f, _) => .error f
    | _, (r, b') => do
      return (r, b'.view index (ids index) before) :: (← run ids b'.world b' rest)

def play (w : World) (count : Nat) (interval : Value) (autostart : Bool)
    (script : List (Nat × Command)) : Except Failure (List (Result × Option View)) := do
  let b ← new w count interval autostart
  let ids (index : Nat) : List String :=
    (script.filterMap fun c => if c.1 = index then c.2.identifier? else none).eraseDups
  run ids w b script

end Bench

/-! ## Sweeping in the background -/

/-- A store that is swept in the background after the clock moved, the first cycles being
lost to a clock that fails: the views after the sweep and after the shutdown, each with
whether the store is being swept. -/
def backgroundSweep (w : World) (interval : Value) (records : List (String × String × Value))
    (seconds : Value) (lost : Nat) : Except Failure ((Bool × View) × (Bool × View)) := do
  let (store, w) ← match (World.openStore interval false).run w with
    | (.ok store, w) => .ok (store, w)
    | (.error f, _) => .error f
  let puts := records.map fun r => Command.putNew r.1 r.2.1 r.2.2
  let commands := puts ++ [.advance seconds (.int 0), .failClock lost, .start]
    ++ List.replicate (lost + 1) (.cycle 0)
  let perform (d : Desk) (c : Command) : Except Failure Desk :=
    let (r, d) := (Desk.perform c).run d
    r.map fun _ => d
  let swept ← commands.foldlM perform ⟨⟨w, store⟩, []⟩
  let closed ← perform swept .shutdown
  let seen (d : Desk) : Bool × View :=
    (d.keeper.store.sweeper.isRunning, View.of d.keeper (records.map (·.1)).eraseDups w)
  return (seen swept, seen closed)

end Passcode.Scenario
