import Passcode.Proofs.Turns

/-!
# When a code lets a user through

A run of a new gate, with couriers that leave its store alone. A code is outstanding for a
user if some attempt of that user ended in a prompt for it, and if nothing since then took it
back: no further code that was issued or accepted, no completed login, no shutdown, no sweep
at or after its expiry (`Challenges`, `Voids`). An attempt with a code succeeds by it exactly
if the step is enforced for the user and the code is outstanding and in time
(`verified_by_code_iff`).

The store of the gate is nowhere in that statement. What ties the two together is the step
law `find?_after_turn_iff`: what a turn does to the record of one user.
-/

namespace Passcode.Turn

open Passcode.Action Run

variable {κ ω : Type} {deliver : Gate.Deliver κ ω} {id : String} {r : Issued}

/-- The attempt ended in a prompt for the code of the record, which was handed to a courier. -/
def Challenges (deliver : Gate.Deliver κ ω) (e : Step Turn (Gate κ ω) (Option Outcome))
    (id : String) (r : Issued) : Prop :=
  match e.input, e.answer with
  | .verify p _, .ok (some (.needsInput _)) =>
    p.identifier = id ∧ (e.input.parcels deliver e.before).map Parcel.record = [r]
  | _, _ => False

/-- Nothing issued to the user before this turn can be used after it: another code was issued
(delivered or not), one was accepted, a login was completed, the gate was shut, or the record
was swept after its expiry. -/
def Voids (e : Step Turn (Gate κ ω) (Option Outcome)) (id : String) (r : Issued) : Prop :=
  match e.input, e.answer with
  | .verify p _, .ok (some (.needsInput _)) => p.identifier = id
  | .verify p _, .ok (some (.rejected .deliveryFailed _ _)) => p.identifier = id
  | .verify p _, .ok (some (.verified none)) => p.identifier = id
  | .loggedIn p, _ => p.identifier = id
  | .sweep _, _ => ∃ t, e.before.keeper.world.reading? = some t ∧ r.record.expiresAt ≤ t
  | .shutdown, _ => True
  | _, _ => False

/-! ## One turn -/

theorem find?_after_verify_iff (hpolite : Gate.Polite deliver) (g : Gate κ ω) (p : Principal)
    (response : Option Glyphs) :
    (step (perform deliver) g (.verify p response)).after.keeper.store.find? id = some r ↔
      Challenges deliver (step (perform deliver) g (.verify p response)) id r ∨
        (g.keeper.store.find? id = some r ∧
          ¬ Voids (step (perform deliver) g (.verify p response)) id r) := by
  have heffect := Gate.effect_verify hpolite p response g
  unfold step after
  rw [perform, run_map]
  unfold Challenges Voids parcels
  dsimp only
  rw [after] at heffect
  generalize ((Gate.verify deliver p response).run g).1 = a,
    Gate.parcels deliver p response g = sent,
    ((Gate.verify deliver p response).run g).2.keeper.store = s at heffect ⊢
  cases heffect with
  | kept h =>
      rcases a with e | ⟨_ | b⟩ | prompt | ⟨reason, message, cause⟩
      · simp [Except.map]
      · exact absurd (h _ rfl) (by simp [Outcome.stirs])
      · simp [Except.map]
      · exact absurd (h _ rfl) (by simp [Outcome.stirs])
      · cases reason with
        | deliveryFailed => exact absurd (h _ rfl) (by simp [Outcome.stirs])
        | _ => simp [Except.map]
  | issued hput hexpiry =>
      rw [Store.find?_eq_some_iff_of_put hput]
      simp [Except.map]
  | retracted hput =>
      rw [Store.find?_discard_eq_some_iff, Store.find?_eq_some_iff_of_put hput]
      simp only [Except.map, Outcome.refuse, false_or]
      constructor
      · rintro ⟨⟨rfl, rfl⟩ | hfound, hnot⟩
        · exact absurd ⟨rfl, rfl⟩ hnot
        · exact hfound
      · rintro ⟨hfound, hid⟩
        exact ⟨.inr ⟨hfound, hid⟩, fun h => hid h.1.symm⟩
  | accepted =>
      rw [Store.find?_remove_eq_some_iff]
      simp [Except.map]

/-- What a turn does to the record of a user. -/
theorem find?_after_turn_iff (hpolite : Gate.Polite deliver) (hid : id ≠ "") (g : Gate κ ω)
    (turn : Turn) : (step (perform deliver) g turn).after.keeper.store.find? id = some r ↔
      Challenges deliver (step (perform deliver) g turn) id r ∨
        (g.keeper.store.find? id = some r ∧ ¬ Voids (step (perform deliver) g turn) id r) := by
  cases turn with
  | verify p response => exact find?_after_verify_iff hpolite g p response
  | loggedIn p =>
      unfold step after
      rw [perform, run_map]
      cases hp : p.isAnonymous with
      | true =>
          have hne : p.identifier ≠ id := by
            rintro rfl
            exact hid (of_decide_eq_true hp)
          rw [Gate.run_loggedIn_of_anonymous hp]
          simp [Challenges, Voids, hne]
      | false =>
          obtain ⟨-, hstore, -⟩ := Keeper.ensures_invalidate g.keeper p.identifier
          rw [Gate.run_loggedIn_of_named hp]
          dsimp only [after]
          rw [hstore, Store.find?_remove_eq_some_iff]
          simp [Challenges, Voids]
  | sweep duration =>
      unfold step after
      rw [perform, run_map, Gate.run_inKeeper]
      cases ht : g.keeper.world.reading? with
      | none =>
          obtain ⟨-, hstore⟩ := Keeper.ensures_sweep_of_silence ht duration
          rw [hstore]
          simp [Challenges, Voids, ht]
      | some now =>
          obtain ⟨-, hstore, -⟩ := Keeper.ensures_sweep_of_reading ht duration
          rw [hstore, Store.find?_sweep_eq_some_iff, Instant.lt_iff_not_le]
          simp [Challenges, Voids, ht]
  | shutdown =>
      obtain ⟨-, hstore, -⟩ := Keeper.ensures_shutdown g.keeper
      unfold step after
      rw [perform, run_map, Gate.run_shutdown]
      have hnone : (Keeper.shutdown.after g.keeper).store.find? id = none := by
        rw [after, hstore, Store.find?_close]
      simp [Challenges, Voids, Gate.told, hnone]
  | clock now => simp [step, after, perform, Challenges, Voids, Gate.run_inWorld]
  | directory d => simp [step, after, perform, Challenges, Voids]
  | draws d => simp [step, after, perform, Challenges, Voids, Gate.run_inWorld]

/-! ## Every run -/

/-- In every run of a new gate, the code of a request lets its user through if and only if
the user has a name, the step is enforced for the user, the request carries a code, and that
code is outstanding for the user and expires after what the clock now reads. -/
theorem verified_by_code_iff {settings : Settings} {directory : Directory} {routes : Routes κ}
    {outside : ω} {w : World} {g : Gate κ ω}
    (hnew : Gate.new settings directory routes outside w = .ok g) (hpolite : Gate.Polite deliver)
    (turns : List Turn) (p : Principal) (response : Option Glyphs) :
    ((Gate.verify deliver p response).run (final (perform deliver) g turns)).1
        = .ok (.verified none) ↔
      p.isAnonymous = false ∧ (final (perform deliver) g turns).Enforces p ∧
        ∃ code t r, response = some code ∧
          (final (perform deliver) g turns).keeper.world.reading? = some t ∧
          code = .ofString r.record.code ∧ t < r.record.expiresAt ∧
          Since (Challenges deliver · p.identifier r) (Voids · p.identifier r)
            (trace (perform deliver) g turns) := by
  rw [Gate.verified_none_iff]
  refine and_congr_right fun hp => and_congr_right fun _ => ?_
  have hid : p.identifier ≠ "" := of_decide_eq_false hp
  -- the store at the end of the run is what the history says of it
  have houtstanding : ∀ r,
      (final (perform deliver) g turns).keeper.store.find? p.identifier = some r ↔
      Since (Challenges deliver · p.identifier r) (Voids · p.identifier r)
        (trace (perform deliver) g turns) := fun r =>
    holds_final_iff (F := fun g : Gate κ ω => g.keeper.store.find? p.identifier = some r)
      (by simp [Gate.find?_new hnew]) (find?_after_turn_iff hpolite hid) turns
  constructor
  · rintro ⟨code, t, r, hcode, ht, hfind, hlt, heq⟩
    exact ⟨code, t, r, hcode, ht, heq, hlt, (houtstanding r).mp hfind⟩
  · rintro ⟨code, t, r, hcode, ht, heq, hlt, hsince⟩
    exact ⟨code, t, r, hcode, ht, (houtstanding r).mpr hsince, hlt, heq⟩

/-- A code is still outstanding after a wrong guess, after the code and the login of another
user, after a sweep before its expiry, and after the clock was set back. -/
theorem outstanding_after_wrong_guess :
    ∃ g, Gate.new .usual .empty (Keyed.empty.put .email ()) () { now := ⟨1000000, by decide⟩ }
        = .ok g ∧ ∃ r : Issued, "000000" = r.record.code ∧
      Since (Challenges Gate.handOver · "ada" r) (Voids · "ada" r)
        (trace (perform Gate.handOver) g [
          .verify (.withMail "ada" "ada@example.org") none,
          .verify (.withMail "ada" "ada@example.org") (some (.ofString "12345")),
          .verify (.withMail "bob" "bob@example.org") none, .loggedIn (.withMail "bob" ""),
          .clock ⟨300999999, by decide⟩, .sweep 0, .clock ⟨0, by decide⟩]) := by
  have hnew : Gate.new .usual .empty (Keyed.empty.put .email ()) () { now := ⟨1000000, by decide⟩ }
    = .ok _ := rfl
  have hverified := (verified_by_code_iff hnew Gate.polite_handOver [
    .verify (.withMail "ada" "ada@example.org") none,
    .verify (.withMail "ada" "ada@example.org") (some (.ofString "12345")),
    .verify (.withMail "bob" "bob@example.org") none, .loggedIn (.withMail "bob" ""),
    .clock ⟨300999999, by decide⟩, .sweep 0, .clock ⟨0, by decide⟩]
    (.withMail "ada" "ada@example.org") (some (.ofString "000000"))).mp (by decide +kernel)
  obtain ⟨-, -, code, t, r, ⟨⟩, -, hcode, -, hsince⟩ := hverified
  exact ⟨_, hnew, r, Glyphs.ofString_injective hcode, hsince⟩

end Passcode.Turn
