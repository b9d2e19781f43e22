import Passcode.Keyed
import Passcode.Periodic
import Passcode.Record

/-!
# The store of outstanding codes

At most one record for each identifier. A new record takes the place of the old one, an
accepted check removes the record, and a wrong or late code leaves it where it is, as does
one that cannot be compared. A sweep evicts what has expired. Once closed, a store holds
nothing and takes nothing in.

These are the operations on the store alone; `Keeper` adds the clock, the metrics and
the log.
-/

namespace Passcode

/-- Outstanding records by identifier, and the task that sweeps them. -/
structure Store where
  records : Keyed String Issued := .empty
  closed : Bool := false
  sweeper : Periodic
deriving Repr

namespace Store

/-- How many seconds lie between two sweeps where nothing else is wanted. -/
def usualInterval : Value := .float 60

def new (interval : Value) : Except Failure Store := do
  return { sweeper := ← Periodic.new "otp-session-sweep" interval }

def find? (s : Store) (identifier : String) : Option Issued := s.records.find? identifier

def size (s : Store) : Nat := s.records.size

/-- Takes a record in: whether it replaced another, and the store with it. -/
def put (s : Store) (identifier : String) (r : Issued) : Except Failure (Bool × Store) :=
  if s.closed then .error (.refused .storeClosed)
  else .ok (s.records.contains identifier, { s with records := s.records.put identifier r })

def remove (s : Store) (identifier : String) : Store :=
  { s with records := s.records.erase identifier }

/-- What a check of a submitted code finds at an instant. -/
def verdict (s : Store) (now : Instant) (identifier : String) (candidate : Option Glyphs) :
    Except Failure CheckResult :=
  match s.find? identifier with
  | none => .ok .noChallenge
  | some r =>
    if !r.record.isValid now then .ok .expired
    else (r.record.accepts candidate now).map fun b => if b then .accepted else .mismatch

/-- The store after a check with a result: an accepted code is used up. -/
def settled (s : Store) (identifier : String) : CheckResult → Store
  | .accepted => s.remove identifier
  | _ => s

def check (s : Store) (now : Instant) (identifier : String) (candidate : Option Glyphs) :
    Except Failure (CheckResult × Store) := do
  let result ← s.verdict now identifier candidate
  return (result, s.settled identifier result)

/-- Removes the record of an identifier, and says whether there was one. -/
def invalidate (s : Store) (identifier : String) : Bool × Store :=
  (s.records.contains identifier, s.remove identifier)

/-- Removes the record of an identifier if it is still the given one. -/
def discard (s : Store) (identifier : String) (r : Issued) : Bool × Store :=
  if (s.find? identifier).map Issued.serial = some r.serial then (true, s.remove identifier)
  else (false, s)

/-- Evicts the records that have expired: their identifiers in order, and the rest. -/
def sweep (s : Store) (now : Instant) : List String × Store :=
  (((s.records.filter fun e => !e.2.record.isValid now).keys),
    { s with records := s.records.filter fun e => e.2.record.isValid now })

/-- Stops sweeping and drops every record for good. -/
def close (s : Store) : Store × List Event :=
  let (sweeper, events) := s.sweeper.cancel
  ({ records := .empty, closed := true, sweeper }, events)

end Store

end Passcode
