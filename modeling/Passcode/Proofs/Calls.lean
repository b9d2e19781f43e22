import Passcode.Proofs.StoreHistory

/-!
# Calls

Everything a keeper is called for: the orders, and the operations that are an order in other
clothes. A code is consumed by a check that says only whether it was accepted, and a cycle of
the sweeping task is a sweep whose failure is reported and not passed on.
-/

namespace Passcode.Keeper

open Passcode.Action Run

/-- Everything a keeper is called for: an order, or one of its other operations. -/
inductive Call where
  | order (o : Order)
  | consume (id : String) (candidate : Option Glyphs)
  | start
  | cycle (duration : Float)

/-- What a keeper says to a call. -/
inductive Reply where
  | answer (a : Answer)
  | consumed (b : Bool)
  | done

def Call.perform : Call → Action Keeper Reply
  | order o => .answer <$> o.perform
  | consume id candidate => .consumed <$> Keeper.consume id candidate
  | start => (fun _ => .done) <$> Keeper.start
  | cycle duration => (fun _ => .done) <$> Keeper.cycle duration

/-- A step of a keeper that is called. -/
abbrev Turnover := Step Call Keeper Reply

theorem run_consume (k : Keeper) (id : String) (c : Option Glyphs) : (consume id c).run k =
    (((check id c).run k).1.map fun result => decide (result = .accepted),
      ((check id c).run k).2) := by
  unfold consume
  rw [run_bind]
  rcases (check id c).run k with ⟨_ | _, _⟩ <;> rfl

theorem run_cycle (k : Keeper) (duration : Float) : (cycle duration).run k =
    (.ok ⟨⟩, match ((sweep duration).run k).1 with
      | .ok _ => (sweep duration).after k
      | .error _ => ((sweep duration).after k).told [.taskFailed k.store.sweeper.name]) := by
  unfold cycle Periodic.cycle Action.after
  rw [run_bind_of_ok (run_get k), run_bind, run_attempt]
  rcases (sweep duration).run k with ⟨_ | _, _⟩ <;> rfl

/-- A cycle does to the store what the sweep in it does. -/
theorem store_after_cycle (k : Keeper) (duration : Float) :
    ((cycle duration).after k).store = ((sweep duration).after k).store := by
  have hcycle := congrArg Prod.snd (run_cycle k duration)
  unfold Action.after at hcycle ⊢
  rw [hcycle]
  cases ((sweep duration).run k).1 <;> rfl

/-- What holds after each of the operations holds after every call. A code is consumed by a
check. -/
theorem Call.after_cases {R : Keeper → Prop} {k : Keeper}
    (hgenerate : ∀ id length timeout alphabet, R ((generate id length timeout alphabet).after k))
    (hput : ∀ id r, R ((put id r).after k))
    (hcheck : ∀ id candidate, R ((check id candidate).after k))
    (hinvalidate : ∀ id, R ((invalidate id).after k))
    (hdiscard : ∀ id r, R ((discard id r).after k))
    (hsweep : ∀ duration, R ((sweep duration).after k))
    (hshutdown : R (shutdown.after k))
    (hclock : ∀ now failures, R { k with world := { k.world with now, clockFailures := failures } })
    (hstart : R (Keeper.start.after k))
    (hcycle : ∀ duration, R ((Keeper.cycle duration).after k)) (c : Call) :
    R (c.perform.after k) := by
  cases c with
  | order o =>
      rw [perform, after_map]
      cases o with
      | generate id length timeout alphabet =>
          rw [Order.perform, after_map]
          exact hgenerate id length timeout alphabet
      | put id r =>
          rw [Order.perform, after_map]
          exact hput id r
      | check id candidate =>
          rw [Order.perform, after_map]
          exact hcheck id candidate
      | invalidate id =>
          rw [Order.perform, after_map]
          exact hinvalidate id
      | discard id r =>
          rw [Order.perform, after_map]
          exact hdiscard id r
      | sweep duration =>
          rw [Order.perform, after_map]
          exact hsweep duration
      | shutdown =>
          rw [Order.perform, after_map]
          exact hshutdown
      | setClock now failures => exact hclock now failures
  | consume id candidate =>
      rw [perform, after_map, Action.after, run_consume]
      exact hcheck id candidate
  | start =>
      rw [perform, after_map]
      exact hstart
  | cycle duration =>
      rw [perform, after_map]
      exact hcycle duration

end Passcode.Keeper
