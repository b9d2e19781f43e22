import Passcode.Proofs.Calls
import Passcode.Proofs.Parcels

/-!
# Turns

What may happen at a gate, one thing after another: users try to log in and complete their
logins, the store is swept, the gate is shut, and outside of it the clock, the directory and
the draws change. `Gate.Act` adds what may be done to a gate past its own operations: its
keeper is called, and couriers are registered.
-/

namespace Passcode

open Passcode.Action

/-- What may happen at a gate. -/
inductive Turn where
  | verify (p : Principal) (response : Option Glyphs)
  | loggedIn (p : Principal)
  | sweep (duration : Float)
  | shutdown
  | clock (now : Instant)
  | directory (d : Directory)
  | draws (d : Draws)

namespace Turn

variable {κ ω : Type}

/-- Lets something happen; an attempt to log in has an outcome. -/
def perform (deliver : Gate.Deliver κ ω) : Turn → Action (Gate κ ω) (Option Outcome)
  | verify p response => some <$> Gate.verify deliver p response
  | loggedIn p => (fun _ => none) <$> Gate.loggedIn p
  | sweep duration => (fun _ => none) <$> Gate.inKeeper (Keeper.sweep duration)
  | shutdown => (fun _ => none) <$> Gate.shutdown
  | clock now => (fun _ => none) <$> Gate.inWorld (modify fun w => { w with now })
  | directory d => (fun _ => none) <$> modify fun g => { g with directory := d }
  | draws d => (fun _ => none) <$> Gate.inWorld (modify fun w => { w with draws := d })

def parcels (deliver : Gate.Deliver κ ω) (turn : Turn) (g : Gate κ ω) : List (Parcel κ) :=
  match turn with
  | verify p response => Gate.parcels deliver p response g
  | _ => []

end Turn

namespace Gate

variable {κ ω : Type}

theorem run_loggedIn_of_anonymous {p : Principal} (hp : p.isAnonymous = true) (g : Gate κ ω) :
    (loggedIn p).run g = (.ok ⟨⟩, g) := by
  rw [loggedIn, if_pos hp]
  rfl

theorem run_loggedIn_of_named {p : Principal} (hp : p.isAnonymous = false) (g : Gate κ ω) :
    (loggedIn p).run g =
      (.ok ⟨⟩, { g with keeper := (Keeper.invalidate p.identifier).after g.keeper }) := by
  rw [loggedIn, if_neg (by simp [hp]), run_bind, run_inKeeper,
    (Keeper.ensures_invalidate g.keeper p.identifier).1]
  rfl

theorem run_shutdown (g : Gate κ ω) : (shutdown : Action (Gate κ ω) Unit).run g =
    (.ok ⟨⟩, { g with keeper := Keeper.shutdown.after g.keeper }.told [.providerShutdown]) := by
  rw [shutdown, run_bind, run_inKeeper, (Keeper.ensures_shutdown g.keeper).1]
  rfl

/-- Everything that may happen at a gate: a turn, a call of its keeper, a registration. -/
inductive Act (κ : Type) where
  | turn (t : Turn)
  | call (c : Keeper.Call)
  | register (c : Channel) (courier : κ)

def Act.perform (deliver : Deliver κ ω) : Act κ → Action (Gate κ ω) Unit
  | turn t => (fun _ => ()) <$> t.perform deliver
  | call c => (fun _ => ()) <$> inKeeper c.perform
  | register c courier => Gate.register c courier

/-- A new gate knows of no codes. -/
theorem find?_new {settings : Settings} {directory : Directory} {routes : Routes κ} {outside : ω}
    {w : World} {g : Gate κ ω} (h : Gate.new settings directory routes outside w = .ok g)
    (id : String) : g.keeper.store.find? id = none := by
  unfold Gate.new at h
  rcases hrun : (World.openStore (.ofNumber settings.sweepInterval) true).run w with ⟨e | s, w'⟩ <;>
    rw [hrun] at h
  · cases h
  · obtain rfl := Except.ok.inj h
    have hstore : s.find? id = none := World.find?_of_openStore hrun id
    exact hstore

/-- Couriers who deliver everything and keep nothing. -/
def handOver : Deliver Unit Unit := fun _ recipients _ => return ⟨.email, recipients⟩

theorem polite_handOver : Polite handOver := fun _ _ _ _ => ⟨rfl, fun _ h => by cases h⟩

end Gate

/-- The usual settings, in whole numbers. -/
def Settings.usual : Settings where
  defaultMethod := .own .email
  defaultTimeout := 300
  length := 6
  alphabet := .own .numeric
  disabled := .bool false
  missingAction := .own .block
  mailSender := .text "otp@localhost.localdomain"
  mailServer := .text "localhost"
  mailPort := 25
  mailAuth := .bool false
  mailUsername := .none
  mailPassword := .none
  mailEncryption := .own .none
  mailTimeout := .int 10
  smsServer := .none
  smsSender := .none
  sweepInterval := .int 60

/-- A gate that was opened under settings in a directory, one second after the calendar
begins, with a courier for mail. -/
def Gate.fresh {κ ω : Type} (settings : Settings) (directory : Directory) (courier : κ)
    (outside : ω) : Gate κ ω where
  settings
  directory
  routes := Keyed.empty.put .email courier
  keeper :=
    { world := { now := ⟨1000000, by decide⟩ }
      store := { sweeper := { name := "otp-session-sweep", interval := .int 60 } } }
  outside

def Principal.withMail (identifier address : String) : Principal :=
  { identifier, attributes := some (Keyed.empty.put Attribute.email.key (some address)) }

end Passcode
