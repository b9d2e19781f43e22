import Passcode.Store.Basic
import Passcode.World

/-!
# The keeper of a store

A store at work in the world: it reads the clock, draws codes, keeps the number of
outstanding codes up to date and reports what it does. An operation that fails leaves
the records as they were.
-/

namespace Passcode

/-- A store and the world it works in. -/
structure Keeper where
  world : World
  store : Store

namespace Keeper

def inWorld {α : Type} (a : Action World α) : Action Keeper α :=
  a.on Keeper.world fun k w => { k with world := w }

def setStore (s : Store) : Action Keeper Unit := modify fun k => { k with store := s }

def report (e : Event) : Action Keeper Unit := inWorld (World.report e)

def reportAll (es : List Event) : Action Keeper Unit := es.forM report

/-- Brings the number of outstanding codes up to date. -/
def updateActive : Action Keeper Unit := do
  let k ← get
  inWorld (World.setActive k.store.size)

def start : Action Keeper Unit := do
  let k ← get
  if k.store.closed then throw (.refused .storeClosed)
  let (sweeper, events) := k.store.sweeper.start
  setStore { k.store with sweeper }
  reportAll events

/-- Takes a record in, and says whether it replaced another. -/
def put (identifier : String) (r : Issued) : Action Keeper Bool := do
  let k ← get
  let (replaced, store) ← k.store.put identifier r
  setStore store
  updateActive
  return replaced

/-- Issues a code that stays valid for so many seconds, however the code is drawn. The
timeout is looked at first, then the code is drawn, then the clock is read, and then the
calendar and the store have to take the record. -/
def issue (identifier : String) (length timeout : Value) (draw : Action World String) :
    Action Keeper Issued := do
  if (← timeout.number).belowOne then throw (.misuse .timeoutBelowOne)
  let code ← inWorld draw
  let now ← inWorld World.clock
  let record ← Record.create code timeout now
  let issued ← inWorld (World.number record)
  let replaced ← put identifier issued
  report (.generated identifier length timeout replaced)
  return issued

def generate (identifier : String) (length timeout : Int) (alphabet : Alphabet) :
    Action Keeper Issued :=
  issue identifier (.int length) (.int timeout) (World.drawCode length alphabet)

/-- Issues a new code of whatever is held as its alphabet. -/
def generateFrom (identifier : String) (length timeout : Int) (alphabet : Held Alphabet) :
    Action Keeper Issued :=
  issue identifier (.int length) (.int timeout) (World.drawFrom length alphabet)

/-- Checks a submitted code, and uses the record up if it is accepted. -/
def check (identifier : String) (candidate : Option Glyphs) : Action Keeper CheckResult := do
  let now ← inWorld World.clock
  let k ← get
  let (result, store) ← k.store.check now identifier candidate
  setStore store
  updateActive
  report (.checked identifier result)
  return result

/-- Whether a submitted code is accepted. -/
def consume (identifier : String) (candidate : Option Glyphs) : Action Keeper Bool := do
  return (← check identifier candidate) = .accepted

/-- Removes the record of an identifier, and says whether there was one. -/
def invalidate (identifier : String) : Action Keeper Bool := do
  let k ← get
  let (removed, store) := k.store.invalidate identifier
  setStore store
  updateActive
  if removed then report (.invalidated identifier)
  return removed

/-- Removes the record of an identifier if it is still the given one. -/
def discard (identifier : String) (r : Issued) : Action Keeper Bool := do
  let k ← get
  let (removed, store) := k.store.discard identifier r
  setStore store
  updateActive
  return removed

/-- Evicts the records that have expired, and says how many. The sweep is measured to
take so many seconds. -/
def sweep (duration : Float) : Action Keeper Nat := do
  let now ← inWorld World.clock
  let k ← get
  let (expired, store) := k.store.sweep now
  setStore store
  updateActive
  inWorld (World.measure fun m => { m with sweeps := m.sweeps.observe duration })
  reportAll (expired.map .expiredRemoved)
  report (.sweepCompleted expired.length store.size (Decimal.roundPlaces 3 (duration * 1000)))
  return expired.length

def cycle (duration : Float) : Action Keeper Unit := do
  let k ← get
  k.store.sweeper.cycle report (sweep duration)

/-- Stops sweeping and drops every record for good. -/
def shutdown : Action Keeper Unit := do
  let k ← get
  let (store, events) := k.store.close
  setStore store
  reportAll events
  updateActive
  report .storeShutdown

end Keeper

/-- A new store in the world, swept from the start if so wanted. -/
def World.openStore (interval : Value) (autostart : Bool) : Action World Store := do
  let store ← Store.new interval
  if autostart then
    let w ← get
    let (r, k) := Keeper.start.run ⟨w, store⟩
    set k.world
    let _ ← r
    return k.store
  else return store

end Passcode
