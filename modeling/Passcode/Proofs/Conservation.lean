import Passcode.Proofs.Calls

/-!
# No code is lost, doubled or accepted twice

Whatever a call of a keeper does to a record of an identifier is one of a few fates: a record
is stored, or the one that was there is replaced, accepted, invalidated, discarded, evicted or
dropped.

The books balance: every record that was ever stored met one of the other fates, or is still
there (`balance_step` for one call, `balance_run` for all). So between two codes that were
accepted another one was stored.
-/

namespace Passcode

namespace Store

variable {s s' : Store} {id : String}

theorem contains_of_put {r : Issued} {b : Bool} (h : s.put id r = .ok (b, s')) (j : String) :
    s'.records.contains j = (decide (id = j) || s.records.contains j) := by
  change (s'.find? j).isSome = (_ || (s.find? j).isSome)
  rw [find?_of_put h]
  by_cases hj : j = id
  · simp [hj]
  · simp [hj, Ne.symm hj]

theorem contains_remove (s : Store) (id j : String) :
    (s.remove id).records.contains j = (!decide (id = j) && s.records.contains j) := by
  change ((s.remove id).find? j).isSome = (_ && (s.find? j).isSome)
  rw [find?_remove]
  by_cases hj : j = id
  · simp [hj]
  · simp [hj, Ne.symm hj]

theorem contains_of_contains_sweep {now : Instant}
    (h : (s.sweep now).2.records.contains id = true) : s.records.contains id = true := by
  obtain ⟨r, hr⟩ := contains_records_iff.mp h
  exact contains_records_iff.mpr ⟨r, (find?_sweep_eq_some_iff.mp hr).1⟩

/-- A record that is discarded was there, and then none is. -/
theorem discard_cases (s : Store) (id : String) (r : Issued) :
    (s.discard id r = (true, s.remove id) ∧ s.records.contains id = true) ∨
      s.discard id r = (false, s) := by
  unfold discard
  split
  · next h =>
    obtain ⟨x, hx, -⟩ := Option.map_eq_some_iff.mp h
    exact .inl ⟨rfl, contains_records_iff.mpr ⟨x, hx⟩⟩
  · exact .inr rfl

end Store

namespace Keeper

open Passcode.Action Run

def has (k : Keeper) (id : String) : Bool := k.store.records.contains id

/-! ## Fates -/

/-- What can happen to a record. -/
inductive Fate where
  | stored
  | replaced
  | accepted
  | invalidated
  | discarded
  | evicted
  | dropped

/-- Whether a call took a record of an identifier in. -/
def tookIn (id : String) (e : Turnover) : Bool :=
  match e.input, e.answer with
  | .order (.generate i ..), .ok _ | .order (.put i _), .ok _ => i = id
  | _, _ => false

/-- Whether an identifier had a record before a call, and has none after it. -/
def lost (id : String) (e : Turnover) : Bool := e.before.has id && !e.after.has id

/-- Whether a call did to a record of an identifier what a fate says. -/
def befell (id : String) (e : Turnover) : Fate → Bool
  | .stored => tookIn id e
  | .replaced => tookIn id e && e.before.has id
  | .accepted => match e.input, e.answer with
    | .order (.check i _), .ok (.answer (.found .accepted)) => i = id
    | .consume i _, .ok (.consumed true) => i = id
    | _, _ => false
  | .invalidated => match e.input, e.answer with
    | .order (.invalidate i), .ok (.answer (.removed true)) => i = id
    | _, _ => false
  | .discarded => match e.input, e.answer with
    | .order (.discard i _), .ok (.answer (.removed true)) => i = id
    | _, _ => false
  | .evicted => match e.input with
    | .order (.sweep _) | .cycle _ => lost id e
    | _ => false
  | .dropped => match e.input with
    | .order .shutdown => lost id e
    | _ => false

/-- How often a fate befell the records of an identifier. -/
def tally (id : String) (f : Fate) (h : List Turnover) : Nat := h.countP (befell id · f)

/-- How many records of an identifier met an end in a history. -/
def ended (id : String) (h : List Turnover) : Nat :=
  tally id .accepted h + tally id .invalidated h + tally id .discarded h +
    tally id .evicted h + tally id .replaced h + tally id .dropped h

/-! ## One call -/

/-- The books balance over one call: what was taken in or was there is what met an end or is
there. -/
def Balances (id : String) (e : Turnover) : Prop :=
  (befell id e .stored).toNat + (e.before.has id).toNat =
    (befell id e .accepted).toNat + (befell id e .invalidated).toNat +
      (befell id e .discarded).toNat + (befell id e .evicted).toNat +
      (befell id e .replaced).toNat + (befell id e .dropped).toNat + (e.after.has id).toNat

variable {k : Keeper} {id : String}

/-- A check takes a record away exactly if it accepts its code. -/
theorem check_cases (k : Keeper) (id : String) (c : Option Glyphs) :
    (((check id c).run k).1 = .ok .accepted ∧ k.has id = true ∧
        ((check id c).after k).store = k.store.remove id) ∨
      (((check id c).run k).1 ≠ .ok .accepted ∧ ((check id c).after k).store = k.store) := by
  cases ht : k.world.reading? with
  | none =>
      obtain ⟨ha, hs⟩ := ensures_check_of_silence ht id c
      exact .inr ⟨by simp [ha], hs⟩
  | some now =>
      obtain ⟨ha, hs, -⟩ := ensures_check_of_reading ht id c
      obtain ⟨hyes, hchecked⟩ | ⟨hno, hchecked⟩ := k.store.checked_cases now id c
      · obtain ⟨r, hr, -⟩ := Store.verdict_eq_accepted_iff.mp hyes
        exact .inl ⟨ha.trans hyes, Store.contains_records_iff.mpr ⟨r, hr⟩, hs.trans hchecked⟩
      · exact .inr ⟨ha ▸ hno, hs.trans hchecked⟩

/-- A check takes away what it accepts, and does nothing else to records. -/
theorem balances_of_check {call : Call} {a : Except Failure Reply} {i : String}
    {c : Option Glyphs}
    (hyes : ((check i c).run k).1 = .ok .accepted →
      befell id ⟨call, k, a, (check i c).after k⟩ .accepted = decide (i = id))
    (hno : ((check i c).run k).1 ≠ .ok .accepted →
      befell id ⟨call, k, a, (check i c).after k⟩ .accepted = false)
    (hrest : ∀ f, f ≠ .accepted → befell id ⟨call, k, a, (check i c).after k⟩ f = false) :
    Balances id ⟨call, k, a, (check i c).after k⟩ := by
  unfold Balances
  rw [hrest .stored nofun, hrest .invalidated nofun, hrest .discarded nofun,
    hrest .evicted nofun, hrest .replaced nofun, hrest .dropped nofun]
  obtain ⟨ha, hhas, hs⟩ | ⟨ha, hs⟩ := check_cases k i c
  · rw [hyes ha]
    simp only [has, hs, Store.contains_remove] at hhas ⊢
    by_cases hi : i = id
    · simp [← hi, hhas]
    · simp [hi]
  · simp [hno ha, has, hs]

/-- A sweep leaves no record that was not there before. -/
theorem has_of_has_sweep {duration : Float} (h : ((sweep duration).after k).has id = true) :
    k.has id = true := by
  unfold has Action.after at h
  cases ht : k.world.reading? with
  | none => rwa [(ensures_sweep_of_silence ht duration).2] at h
  | some now =>
      rw [(ensures_sweep_of_reading ht duration).2.1] at h
      exact Store.contains_of_contains_sweep h

/-- What a call loses, and nothing but that, is what it evicts or drops. -/
theorem balances_of_lost {e : Turnover} (hkept : e.after.has id = true → e.before.has id = true)
    (hlost : befell id e .evicted = lost id e ∧ befell id e .dropped = false ∨
      befell id e .evicted = false ∧ befell id e .dropped = lost id e)
    (hstored : tookIn id e = false) (haccepted : befell id e .accepted = false)
    (hremoved : befell id e .invalidated = false ∧ befell id e .discarded = false) :
    Balances id e := by
  have hnever : befell id e .stored = false ∧ befell id e .replaced = false := by
    simp [befell, hstored]
  unfold Balances
  rw [hnever.1, hnever.2, haccepted, hremoved.1, hremoved.2]
  obtain ⟨hevicted, hdropped⟩ | ⟨hevicted, hdropped⟩ := hlost <;>
    rw [hevicted, hdropped, lost] <;>
    cases hbefore : e.before.has id <;> cases hafter : e.after.has id <;> simp_all

theorem balances_order (k : Keeper) (id : String) (o : Order) :
    Balances id (step Call.perform k (.order o)) := by
  unfold step Action.after
  cases o with
  | generate i length timeout alphabet =>
      rw [Call.perform, run_map, Order.perform, run_map]
      obtain ⟨x, b, ha, hput⟩ | ⟨e, ha, hs⟩ := ensures_generate k i length timeout alphabet
      -- A record of the identifier itself comes in, and the one there was counts as replaced.
      · have hafter := Store.contains_of_put hput id
        simp only [Balances, befell, tookIn, has, ha, hafter, Except.map]
        by_cases hi : i = id <;> simp [hi, Nat.add_comm]
      · simp [Balances, befell, tookIn, has, ha, hs, Except.map]
  | put i x =>
      rw [Call.perform, run_map, Order.perform, run_map]
      obtain ⟨b, s, hput, ha, rfl, -⟩ | ⟨e, -, ha, hk⟩ := ensures_put k i x
      · have hafter := Store.contains_of_put hput id
        simp only [Balances, befell, tookIn, has, ha, hafter, Except.map]
        by_cases hi : i = id <;> simp [hi, Nat.add_comm]
      · simp [Balances, befell, tookIn, has, ha, hk, Except.map]
  | check i c =>
      rw [Call.perform, run_map, Order.perform, run_map]
      refine balances_of_check (fun ha => ?_) (fun ha => ?_) fun f hf => ?_
      · rw [ha]
        rfl
      · rcases hr : ((check i c).run k).1 with e | (_ | _ | _ | _) <;>
          first | rfl | exact absurd hr ha
      · cases f <;> first | rfl | exact absurd rfl hf
  | invalidate i =>
      obtain ⟨ha, hs, -⟩ := ensures_invalidate k i
      rw [Call.perform, run_map, Order.perform, run_map, ha]
      simp only [Balances, befell, tookIn, has, hs, Store.contains_remove, Except.map]
      by_cases hi : i = id <;> cases hc : k.store.records.contains i <;> simp_all
  | discard i x =>
      obtain ⟨ha, hs, -⟩ := ensures_discard k i x
      rw [Call.perform, run_map, Order.perform, run_map, ha]
      obtain ⟨hd, hc⟩ | hd := k.store.discard_cases i x
      · simp only [Balances, befell, tookIn, has, hs, hd, Store.contains_remove, Except.map]
        by_cases hi : i = id
        · simp [← hi, hc]
        · simp [hi]
      · simp [Balances, befell, tookIn, has, hs, hd, Except.map]
  | sweep duration =>
      rw [Call.perform, run_map, Order.perform, run_map]
      exact balances_of_lost has_of_has_sweep (.inl ⟨rfl, rfl⟩) rfl rfl ⟨rfl, rfl⟩
  | shutdown =>
      have hnone : ∀ j, ((shutdown).after k).has j = false := by
        intro j
        unfold has Action.after
        rw [(ensures_shutdown k).2.1]
        rfl
      rw [Call.perform, run_map, Order.perform, run_map]
      refine balances_of_lost (fun h => ?_) (.inr ⟨rfl, rfl⟩) rfl rfl ⟨rfl, rfl⟩
      exact absurd ((hnone id).symm.trans h) Bool.false_ne_true
  | setClock now failures =>
      simp [Balances, befell, tookIn, has, Except.map, Call.perform, Order.perform]

theorem balance_step (k : Keeper) (id : String) (c : Call) :
    Balances id (step Call.perform k c) := by
  unfold step Action.after
  cases c with
  | order o => exact balances_order k id o
  | consume i c =>
      rw [Call.perform, run_map, run_consume]
      refine balances_of_check (fun ha => ?_) (fun ha => ?_) fun f hf => ?_
      · rw [ha]
        rfl
      · rcases hr : ((check i c).run k).1 with e | (_ | _ | _ | _) <;>
          first | rfl | exact absurd hr ha
      · cases f <;> first | rfl | exact absurd rfl hf
  | start =>
      rw [Call.perform, run_map]
      have hs := (ensures_start k).1
      simp [Balances, befell, tookIn, has, hs]
  | cycle duration =>
      rw [Call.perform, run_map]
      refine balances_of_lost (fun h => ?_) (.inl ⟨rfl, rfl⟩) rfl rfl ⟨rfl, rfl⟩
      have hsweep : ((sweep duration).after k).has id = true := by
        unfold has
        rw [← store_after_cycle]
        exact h
      exact has_of_has_sweep hsweep

/-- A code that is accepted was there before, and then none is. -/
theorem has_of_accepted {c : Call} (h : befell id (step Call.perform k c) .accepted = true) :
    k.has id = true ∧ (step Call.perform k c).after.has id = false := by
  have hstep := balance_step k id c
  have htook : tookIn id (step Call.perform k c) = false := by
    cases c with
    | order o => cases o <;> first | rfl | exact absurd h Bool.false_ne_true
    | _ => rfl
  have hbefore : (step Call.perform k c).before = k := rfl
  unfold Balances at hstep
  rw [h, befell, htook, hbefore, Bool.toNat_false, Bool.toNat_true] at hstep
  have hle := Bool.toNat_le (k.has id)
  refine ⟨Bool.toNat_eq_one.mp ?_, Bool.toNat_eq_zero.mp ?_⟩ <;> omega

/-! ## Every run -/

theorem tally_concat (id : String) (f : Fate) (h : List Turnover) (e : Turnover) :
    tally id f (h ++ [e]) = tally id f h + (befell id e f).toNat := by
  rw [tally, List.countP_append, List.countP_singleton]
  cases befell id e f <;> rfl

/-- The books balance over a run, whatever was there at its start. -/
theorem balance_run (k : Keeper) (id : String) (calls : List Call) :
    tally id .stored (trace Call.perform k calls) + (k.has id).toNat =
      ended id (trace Call.perform k calls) +
        ((final Call.perform k calls).has id).toNat := by
  induction calls using List.reverseRecOn with
  | nil => simp [trace, final, tally, ended]
  | append_singleton calls c ih =>
      have hstep := balance_step (final Call.perform k calls) id c
      have hbefore : (step Call.perform (final Call.perform k calls) c).before =
        final Call.perform k calls := rfl
      have hafter : final Call.perform k (calls ++ [c]) =
        (step Call.perform (final Call.perform k calls) c).after := final_concat ..
      rw [trace_concat, hafter]
      unfold Balances at hstep
      unfold ended at ih ⊢
      simp only [tally_concat]
      rw [hbefore] at hstep
      omega

/-- From a keeper without a record of an identifier, a code can only be accepted after one was
taken in. -/
theorem exists_stored_of_has {calls : List Call} (hnone : k.has id = false)
    (hhas : (final Call.perform k calls).has id = true) :
    ∃ x ∈ trace Call.perform k calls, befell id x .stored = true := by
  have hrun := balance_run k id calls
  rw [hnone, hhas] at hrun
  have hpos : 0 < tally id .stored (trace Call.perform k calls) := by
    rw [Bool.toNat_false, Bool.toNat_true] at hrun
    omega
  exact List.countP_pos_iff.mp hpos

/-- What the books say of an identifier after a history: every record that was taken in met
one end or is still there, and between two codes that were accepted one was taken in. -/
structure Conserved (id : String) (k : Keeper) (h : List Turnover) : Prop where
  balance : tally id .stored h = tally id .accepted h + tally id .invalidated h +
    tally id .discarded h + tally id .evicted h + tally id .replaced h + tally id .dropped h +
    (k.has id).toNat
  renewed : ∀ earlier d between e later, h = earlier ++ d :: (between ++ e :: later) →
    befell id d .accepted = true → befell id e .accepted = true →
    ∃ x ∈ between, befell id x .stored = true

/-- From an empty store, whatever a keeper is called for, no code is lost, doubled or accepted
twice. -/
theorem codes_conserved {interval : Value} {autostart : Bool} {w₀ w : World} {s : Store}
    (hopen : (World.openStore interval autostart).run w₀ = (.ok s, w)) (id : String)
    (calls : List Call) :
    Conserved id (final Call.perform ⟨w, s⟩ calls) (trace Call.perform ⟨w, s⟩ calls) := by
  have hnone : has ⟨w, s⟩ id = false :=
    congrArg Option.isSome (World.find?_of_openStore hopen id)
  refine ⟨?_, fun earlier d between e later htrace hd he => ?_⟩
  · have hrun := balance_run ⟨w, s⟩ id calls
    rw [hnone] at hrun
    exact hrun
  -- The first of the two codes left nothing behind, so the books of what came in between start
  -- from nothing.
  · obtain ⟨_, c, _, -, rfl, hrest⟩ := exists_of_trace_eq_append_cons htrace
    obtain ⟨calls', c', _, rfl, rfl, -⟩ := exists_of_trace_eq_append_cons hrest
    exact exists_stored_of_has (has_of_accepted hd).2 (has_of_accepted he).1

/-- Six codes for one user, and each of them meets an end of its own. -/
theorem six_codes_six_fates :
    ∃ s w, (World.openStore (.int 60) true).run { now := ⟨0, by decide⟩ } = (.ok s, w) ∧
      ∃ h, h = trace Call.perform ⟨w, s⟩ [.order (.generate "ada" 6 300 .numeric),
          .consume "ada" (some (.ofString "000000")), .consume "ada" (some (.ofString "000000")),
          .order (.generate "ada" 6 300 .numeric), .order (.invalidate "ada"),
          .order (.generate "ada" 6 300 .numeric),
          .order (.discard "ada" ⟨2, "000000", ⟨300000000, by decide⟩⟩),
          .order (.generate "ada" 6 300 .numeric), .order (.generate "ada" 6 300 .numeric),
          .order (.setClock ⟨300000000, by decide⟩ 0), .cycle 0,
          .order (.generate "ada" 6 300 .numeric), .order .shutdown,
          .order (.generate "ada" 6 300 .numeric)] ∧
        tally "ada" .stored h = 6 ∧ tally "ada" .accepted h = 1 ∧
        tally "ada" .invalidated h = 1 ∧ tally "ada" .discarded h = 1 ∧
        tally "ada" .replaced h = 1 ∧ tally "ada" .evicted h = 1 ∧ tally "ada" .dropped h = 1 := by
  have hopen : (World.openStore (.int 60) true).run { now := ⟨0, by decide⟩ } = (.ok _, _) := rfl
  refine ⟨_, _, hopen, _, rfl, ((codes_conserved hopen "ada" _).balance).trans ?_, ?_⟩ <;>
    decide +kernel

end Keeper

end Passcode
