import Passcode.Proofs.Calls
import Passcode.Proofs.Issuing

/-!
# The gauge and the store

How many codes are outstanding is measured apart from the store that holds them, so each
operation has to bring the gauge up to date. A keeper is `Gauged` if its gauge shows the size of
its store. A call keeps that whether it answers or fails, and at whichever stage it fails
(`keeps_gauged_call`), so the gauge is right after every call that a keeper ever gets
(`gauge_shows_size`).
-/

namespace Passcode

open Passcode.Action Run

namespace Keeper

/-- The gauge of outstanding codes shows the size of the store. -/
def Gauged (k : Keeper) : Prop := k.world.metrics.active = .int k.store.size

variable {k : Keeper}

/-! ## One call -/

/-- A keeper that takes a store over brings its gauge up to date. -/
theorem gauged_keeping (k : Keeper) (s : Store) : (k.keeping s).Gauged := rfl

theorem keeps_gauged_generate (id : String) (length timeout : Int) (alphabet : Alphabet) :
    Keeps Gauged (generate id length timeout alphabet) :=
  keeps_generate (fun _ _ h => h) (fun _ h => h) (fun _ h => h)
    fun k _ _ s _ _ => k.gauged_keeping s

theorem keeps_gauged_put (id : String) (x : Issued) : Keeps Gauged (put id x) := by
  intro k hk
  rw [after, run_put]
  cases k.store.put id x with
  | error e => exact hk
  | ok placed => exact k.gauged_keeping placed.2

theorem keeps_gauged_check (id : String) (c : Option Glyphs) : Keeps Gauged (check id c) := by
  intro k hk
  unfold after
  cases h : k.world.reading? with
  | none =>
      rw [run_check_of_silence h]
      exact hk
  | some now =>
      rw [run_check_of_reading h]
      cases k.store.verdict now id c with
      | error e => exact hk
      | ok a => exact k.gauged_keeping _

theorem keeps_gauged_sweep (duration : Float) : Keeps Gauged (sweep duration) := by
  intro k hk
  unfold after
  cases h : k.world.reading? with
  | none =>
      rw [run_sweep_of_silence h]
      exact hk
  | some now =>
      rw [run_sweep_of_reading h]
      exact k.gauged_keeping _

/-- Every call leaves the gauge right, be it that it fails. -/
theorem keeps_gauged_call (c : Call) : Keeps Gauged c.perform := by
  intro k hk
  refine c.after_cases (fun id length timeout a => keeps_gauged_generate id length timeout a k hk)
    (fun id x => keeps_gauged_put id x k hk) (fun id c => keeps_gauged_check id c k hk)
    (fun id => ?invalidate) (fun id x => ?discard)
    (fun duration => keeps_gauged_sweep duration k hk) ?shutdown (fun _ _ => hk) ?start
    fun duration => ?cycle
  case invalidate =>
    rw [after, run_invalidate]
    exact k.gauged_keeping _
  case discard =>
    rw [after, run_discard]
    exact k.gauged_keeping _
  case shutdown =>
    rw [after, run_shutdown]
    exact k.gauged_keeping _
  case start =>
    rw [after, run_start]
    split <;> exact hk
  case cycle =>
    have hsweep := keeps_gauged_sweep duration k hk
    rw [after, run_cycle]
    cases ((sweep duration).run k).1 <;> exact hsweep

/-! ## Every run -/

/-- A store that was opened is empty, and its gauge shows that if it showed nothing before. -/
theorem gauged_of_openStore {interval : Value} {autostart : Bool} {w₀ w : World} {s : Store}
    (hopen : (World.openStore interval autostart).run w₀ = (.ok s, w))
    (hzero : w₀.metrics.active = .int 0) : Gauged ⟨w, s⟩ := by
  have hmetrics := World.metrics_after_openStore interval autostart w₀
  rw [after, hopen] at hmetrics
  have hsize : s.size = 0 := by
    rw [Store.size, World.records_of_openStore hopen]
    rfl
  have hgauge : w.metrics.active = .int s.size := by
    rw [hmetrics, hzero, hsize]
    rfl
  exact hgauge

/-- From an empty store and a gauge at zero: after every call of a keeper, be it that it
answers or that it fails, the gauge of outstanding codes shows how many records the store
holds. -/
theorem gauge_shows_size {interval : Value} {autostart : Bool} {w₀ w : World} {s : Store}
    (hopen : (World.openStore interval autostart).run w₀ = (.ok s, w))
    (hzero : w₀.metrics.active = .int 0) (calls : List Call) :
    ∀ e ∈ trace Call.perform ⟨w, s⟩ calls,
      e.after.world.metrics.active = .int e.after.store.size := by
  intro e he
  have hgauged := forall_mem_trace_of_invariant (gauged_of_openStore hopen hzero)
    (fun k c hk => keeps_gauged_call c k hk) calls
  exact (hgauged e he).2

/-- A timeout below one, an expiry beyond the calendar, a clock that fails and a store that was
shut down: whatever a call fails for, the gauge shows the size of the store. -/
theorem gauge_after_failures :
    ∃ s w, (World.openStore (.int 60) true).run { now := ⟨0, by decide⟩ } = (.ok s, w) ∧
      ∃ h, h = trace Call.perform ⟨w, s⟩ [.order (.generate "ada" 6 300 .numeric),
          .order (.generate "bob" 6 300 .numeric), .order (.generate "ada" 6 0 .numeric),
          .order (.generate "ada" 6 999999999999 .numeric),
          .consume "ada" (some (.ofString "000000")),
          .order (.setClock ⟨300000000, by decide⟩ 1), .order (.generate "ada" 6 300 .numeric),
          .order (.sweep 0), .order (.generate "ada" 6 300 .numeric), .order .shutdown,
          .order (.generate "ada" 6 300 .numeric)] ∧
        (∀ e ∈ h, e.after.world.metrics.active = .int e.after.store.size) ∧
        h.map (fun e => (e.answer.isOk, e.after.store.size)) =
          [(true, 1), (true, 2), (false, 2), (false, 2), (true, 1), (true, 1), (false, 1),
            (true, 0), (true, 1), (true, 0), (false, 0)] := by
  have hopen : (World.openStore (.int 60) true).run { now := ⟨0, by decide⟩ } = (.ok _, _) := rfl
  exact ⟨_, _, hopen, _, rfl, gauge_shows_size hopen rfl _, by decide +kernel⟩

end Keeper

end Passcode
