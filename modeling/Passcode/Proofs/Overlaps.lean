import Passcode.Proofs.Issuing
import Passcode.Proofs.StoreHistory

/-!
# Attempts that overlap

Several attempts to send a code to one user can be under way at once. Each issues a code, and
retracts it later if it could not be delivered; what else happens to the store in between is
up to others, as long as they issue, take in and discard nothing for that user.

The records of the attempts carry rising numbers, so a record that was retracted is never
mistaken for a later one, even if code and expiry agree (`Orderly`). The step law
`find?_after_act_iff` holds of orderly attempts, and `attempts_unharmed` collects what follows
for every run.
-/

namespace Passcode.Keeper

open Passcode.Action Run

/-! ## Numbers of records -/

variable {k : Keeper} {id : String} {r : Issued}

theorem made_le_after (k : Keeper) (o : Order) :
    k.world.made ≤ (o.perform.after k).world.made := by
  have hkept : ∀ k' : Keeper, k'.world.hush = k.world.hush → k.world.made ≤ k'.world.made :=
    fun k' h => (World.made_eq_of_hush h).ge
  unfold Action.after
  cases o with
  | generate i length timeout alphabet =>
      rw [Order.perform, run_map]
      exact (ensures_made_generate k i length timeout alphabet).2
  | put i x =>
      rw [Order.perform, run_map]
      obtain ⟨_, _, -, -, -, h⟩ | ⟨_, -, -, h⟩ := ensures_put k i x
      · exact hkept _ h
      · exact hkept _ (congrArg (·.world.hush) h)
  | check i c =>
      rw [Order.perform, run_map]
      cases ht : k.world.reading? with
      | none => rw [run_check_of_silence ht]; exact le_rfl
      | some now => exact hkept _ (ensures_check_of_reading ht i c).2.2
  | invalidate i =>
      rw [Order.perform, run_map]
      exact hkept _ (ensures_invalidate k i).2.2
  | discard i x =>
      rw [Order.perform, run_map]
      exact hkept _ (ensures_discard k i x).2.2
  | sweep duration =>
      rw [Order.perform, run_map]
      cases ht : k.world.reading? with
      | none => rw [run_sweep_of_silence ht]; exact le_rfl
      | some now => exact hkept _ (ensures_sweep_of_reading ht duration).2.2
  | shutdown =>
      rw [Order.perform, run_map]
      exact hkept _ (ensures_shutdown k).2.2
  | setClock now failures => exact le_rfl

/-! ## Attempts -/

/-- The order issues, takes in and discards nothing for the identifier. -/
def Order.Besides (id : String) : Order → Prop
  | .generate i .. | .put i _ | .discard i _ => i ≠ id
  | _ => True

theorem not_stores_of_besides {d : Deed} (h : d.input.Besides id) : ¬ Stores d id r := by
  intro hstores
  unfold Stores at hstores
  split at hstores
  · next hinput _ => exact (hinput ▸ h : Order.Besides id (.generate ..)) hstores.1
  · next hinput _ => exact (hinput ▸ h : Order.Besides id (.put ..)) hstores.1
  · exact hstores

/-- A keeper, and the records that the attempts of an identifier issued, in order. -/
structure Overlap where
  keeper : Keeper
  issued : List Issued := []

namespace Overlap

/-- What can happen while attempts of an identifier are under way. -/
inductive Act (id : String) where
  | issue (length timeout : Int) (alphabet : Alphabet)
  | retract (attempt : Nat)
  | other (o : Order) (h : o.Besides id)

def inKeeper {α : Type} (a : Action Keeper α) : Action Overlap α :=
  a.on Overlap.keeper fun v k => { v with keeper := k }

/-- Lets something happen. An attempt that issued no record has none to retract. -/
def Act.perform {id : String} : Act id → Action Overlap Answer
  | issue length timeout alphabet => do
    let x ← inKeeper (generate id length timeout alphabet)
    modify fun v => { v with issued := v.issued ++ [x] }
    return .issued x
  | retract attempt => do
    let v ← get
    match v.issued[attempt]? with
    | some x => return .removed (← inKeeper (discard id x))
    | none => return .done
  | other o _ => inKeeper o.perform

/-- A step of overlapping attempts. -/
abbrev Happening (id : String) := Step (Act id) Overlap Answer

def issued? {id : String} (e : Happening id) : Option Issued :=
  match e.input, e.answer with
  | .issue .., .ok (.issued x) => some x
  | _, _ => none

/-- The record was ended, if the identifier had it: its own attempt retracted it, or an order
ended it. -/
def Ends {id : String} (e : Happening id) (r : Issued) : Prop :=
  match e.input with
  | .issue .. => False
  | .retract attempt => e.before.issued[attempt]? = some r
  | .other o _ => Keeper.Ends ⟨o, e.before.keeper, e.answer, e.after.keeper⟩ id r

/-- The numbers of the records rise, all of them are used up, and the identifier has the last
of the records if it has any. -/
structure Orderly (id : String) (v : Overlap) : Prop where
  latest : ∀ r, v.keeper.store.find? id = some r → v.issued.getLast? = some r
  rising : v.issued.Pairwise (·.serial < ·.serial)
  made : ∀ r ∈ v.issued, r.serial < v.keeper.world.made

/-- The record that the last attempt issued, unless something has ended it. -/
def Held {id : String} (h : List (Happening id)) (r : Issued) : Prop :=
  Since (issued? · = some r) (fun e => (∃ x, issued? e = some x) ∨ Ends e r) h

/-! ## One step -/

variable {v : Overlap}

@[simp] theorem run_inKeeper {α : Type} (a : Action Keeper α) (v : Overlap) :
    (inKeeper a).run v = ((a.run v.keeper).1, { v with keeper := (a.run v.keeper).2 }) := rfl

theorem step_issue_of_ok {length timeout : Int} {alphabet : Alphabet} {x : Issued}
    (h : (generate id length timeout alphabet).run v.keeper = (.ok x, k)) :
    step Act.perform v (.issue length timeout alphabet : Act id) =
      ⟨.issue length timeout alphabet, v, .ok (.issued x), ⟨k, v.issued ++ [x]⟩⟩ := by
  have hrun : (Act.issue length timeout alphabet : Act id).perform.run v =
      (.ok (.issued x), ⟨k, v.issued ++ [x]⟩) := by
    rw [Act.perform, run_bind, run_inKeeper, h]
    rfl
  rw [step, Action.after, hrun]

theorem step_issue_of_error {length timeout : Int} {alphabet : Alphabet} {e : Failure}
    (h : (generate id length timeout alphabet).run v.keeper = (.error e, k)) :
    step Act.perform v (.issue length timeout alphabet : Act id) =
      ⟨.issue length timeout alphabet, v, .error e, ⟨k, v.issued⟩⟩ := by
  have hrun : (Act.issue length timeout alphabet : Act id).perform.run v =
      (.error e, ⟨k, v.issued⟩) := by
    rw [Act.perform, run_bind, run_inKeeper, h]
  rw [step, Action.after, hrun]

theorem step_retract_of_some {attempt : Nat} {x : Issued} (h : v.issued[attempt]? = some x) :
    step Act.perform v (.retract attempt : Act id) =
      ⟨.retract attempt, v, .ok (.removed (v.keeper.store.discard id x).1),
        ⟨v.keeper.keeping (v.keeper.store.discard id x).2, v.issued⟩⟩ := by
  have hrun : (Act.retract attempt : Act id).perform.run v =
      (.ok (.removed (v.keeper.store.discard id x).1),
        ⟨v.keeper.keeping (v.keeper.store.discard id x).2, v.issued⟩) := by
    rw [Act.perform, run_bind_of_ok (run_get v), h]
    rfl
  rw [step, Action.after, hrun]

theorem step_retract_of_none {attempt : Nat} (h : v.issued[attempt]? = none) :
    step Act.perform v (.retract attempt : Act id) = ⟨.retract attempt, v, .ok .done, v⟩ := by
  have hrun : (Act.retract attempt : Act id).perform.run v = (.ok .done, v) := by
    rw [Act.perform, run_bind_of_ok (run_get v), h]
    rfl
  rw [step, Action.after, hrun]

theorem issued_after (v : Overlap) (act : Act id) :
    (step Act.perform v act).after.issued =
      v.issued ++ (issued? (step Act.perform v act)).toList := by
  cases act with
  | issue length timeout alphabet =>
      rcases hrun : (generate id length timeout alphabet).run v.keeper with ⟨e | x, k⟩
      · rw [step_issue_of_error hrun]; exact (List.append_nil _).symm
      · rw [step_issue_of_ok hrun]; rfl
  | retract attempt =>
      cases hx : v.issued[attempt]? with
      | none => rw [step_retract_of_none hx]; exact (List.append_nil _).symm
      | some x => rw [step_retract_of_some hx]; exact (List.append_nil _).symm
  | other o _ => exact (List.append_nil _).symm

theorem serial_of_issued? {act : Act id} (h : issued? (step Act.perform v act) = some r) :
    r.serial = v.keeper.world.made ∧
      (step Act.perform v act).after.keeper.world.made = v.keeper.world.made + 1 := by
  cases act with
  | issue length timeout alphabet =>
      have hmade := (ensures_made_generate v.keeper id length timeout alphabet).1
      rcases hrun : (generate id length timeout alphabet).run v.keeper with ⟨e | x, k⟩
      · rw [step_issue_of_error hrun] at h
        cases h
      · rw [hrun] at hmade
        rw [step_issue_of_ok hrun] at h ⊢
        obtain rfl : x = r := Option.some.inj h
        exact hmade x rfl
  | retract attempt => cases h
  | other o _ => cases h

theorem made_le_after_act (v : Overlap) (act : Act id) :
    v.keeper.world.made ≤ (step Act.perform v act).after.keeper.world.made := by
  cases act with
  | issue length timeout alphabet =>
      have hmade := (ensures_made_generate v.keeper id length timeout alphabet).2
      rcases hrun : (generate id length timeout alphabet).run v.keeper with ⟨e | x, k⟩
      · rw [hrun] at hmade
        rwa [step_issue_of_error hrun]
      · rw [hrun] at hmade
        rwa [step_issue_of_ok hrun]
  | retract attempt =>
      cases hx : v.issued[attempt]? with
      | none => rw [step_retract_of_none hx]
      | some x => rw [step_retract_of_some hx]; exact le_rfl
  | other o _ => exact made_le_after v.keeper o

theorem Orderly.nodup (hv : Orderly id v) : (v.issued.map Issued.serial).Nodup :=
  List.pairwise_map.mpr (hv.rising.imp fun h => h.ne)

/-- Records of one number are one record. -/
theorem Orderly.eq_of_serial_eq {x y : Issued} (hv : Orderly id v) (hx : x ∈ v.issued)
    (hy : y ∈ v.issued) (h : x.serial = y.serial) : x = y :=
  List.inj_on_of_nodup_map hv.nodup hx hy h

theorem Orderly.mem_of_find? (hv : Orderly id v) (h : v.keeper.store.find? id = some r) :
    r ∈ v.issued :=
  List.mem_of_getLast? (hv.latest r h)

/-- Retracting a record of an attempt removes that record and no other. -/
theorem Orderly.find?_discard_iff {x : Issued} (hv : Orderly id v) (hx : x ∈ v.issued) :
    (v.keeper.store.discard id x).2.find? id = some r ↔
      v.keeper.store.find? id = some r ∧ r ≠ x := by
  rw [Store.find?_discard_eq_some_iff]
  refine and_congr_right fun hr => not_congr ⟨fun h => ?_, fun h => ⟨rfl, congrArg _ h⟩⟩
  exact hv.eq_of_serial_eq (hv.mem_of_find? hr) hx h.2

/-- Retracting a record of an attempt tells whether that record was there. -/
theorem Orderly.discard_fst {x : Issued} (hv : Orderly id v) (hx : x ∈ v.issued) :
    (v.keeper.store.discard id x).1 = decide (v.keeper.store.find? id = some x) := by
  have hsame : (v.keeper.store.find? id).map Issued.serial = some x.serial ↔
      v.keeper.store.find? id = some x := by
    rw [Option.map_eq_some_iff]
    refine ⟨fun ⟨y, hy, hserial⟩ => ?_, fun h => ⟨x, h, rfl⟩⟩
    rw [hy, hv.eq_of_serial_eq (hv.mem_of_find? hy) hx hserial]
  unfold Store.discard
  simp only [hsame]
  split <;> simp_all

/-- What a single step does to a single record. -/
theorem find?_after_act_iff (hv : Orderly id v) (act : Act id) :
    (step Act.perform v act).after.keeper.store.find? id = some r ↔
      issued? (step Act.perform v act) = some r ∨ (v.keeper.store.find? id = some r ∧
        ¬ ((∃ x, issued? (step Act.perform v act) = some x) ∨
          Ends (step Act.perform v act) r)) := by
  cases act with
  | issue length timeout alphabet =>
      have hput := ensures_generate v.keeper id length timeout alphabet
      unfold Ensures at hput
      rcases hrun : (generate id length timeout alphabet).run v.keeper with ⟨e | x, k⟩ <;>
        rw [hrun] at hput
      · obtain ⟨_, _, he, -⟩ | ⟨_, -, hs⟩ := hput
        · cases he
        · rw [step_issue_of_error hrun]
          simp [issued?, Ends, show k.store = v.keeper.store from hs]
      · obtain ⟨x, b, hx, hput⟩ | ⟨_, he, -⟩ := hput
        · obtain rfl := Except.ok.inj hx
          rw [step_issue_of_ok hrun, Store.find?_eq_some_iff_of_put hput]
          simp [issued?, Ends]
        · cases he
  | retract attempt =>
      cases hx : v.issued[attempt]? with
      | none =>
          rw [step_retract_of_none hx]
          simp [issued?, Ends, hx]
      | some x =>
          rw [step_retract_of_some hx]
          have hdiscard := hv.find?_discard_iff (r := r) (List.mem_of_getElem? hx)
          simp only [keeping, hdiscard]
          simp [issued?, Ends, hx, eq_comm]
  | other o h =>
      have hstep : (step Order.perform v.keeper o).after.store.find? id = some r ↔ _ :=
        find?_after_iff v.keeper o
      have hstores : ∀ x, ¬ Stores (step Order.perform v.keeper o) id x := fun _ =>
        not_stores_of_besides h
      simp only [hstores, exists_false, false_or] at hstep
      have hnothing : issued? (step Act.perform v (.other o h)) = none := rfl
      simp only [hnothing, reduceCtorEq, exists_false, false_or]
      exact hstep

theorem Orderly.after (hv : Orderly id v) (act : Act id) : Orderly id (act.perform.after v) := by
  have hissued := issued_after v act
  have hmade := made_le_after_act v act
  change Orderly id (step Act.perform v act).after
  cases hx : issued? (step Act.perform v act) with
  | none =>
      rw [hx, Option.toList_none, List.append_nil] at hissued
      refine ⟨fun r hr => ?_, hissued ▸ hv.rising, fun r hr => ?_⟩
      · obtain hr | hr := (find?_after_act_iff hv act).mp hr
        · cases hx.symm.trans hr
        · rw [hissued]
          exact hv.latest r hr.1
      · exact (hv.made r (hissued ▸ hr)).trans_le hmade
  | some x =>
      rw [hx, Option.toList_some] at hissued
      obtain ⟨hserial, hnext⟩ := serial_of_issued? hx
      refine ⟨fun r hr => ?_, ?_, fun r hr => ?_⟩
      · obtain hr | hr := (find?_after_act_iff hv act).mp hr
        · obtain rfl : x = r := Option.some.inj (hx.symm.trans hr)
          rw [hissued, List.getLast?_concat]
        · exact absurd (.inl ⟨x, hx⟩) hr.2
      · rw [hissued]
        refine List.pairwise_append.mpr
          ⟨hv.rising, List.pairwise_singleton _ _, fun y hy z hz => ?_⟩
        obtain rfl := List.mem_singleton.mp hz
        rw [hserial]
        exact hv.made y hy
      · rw [hnext]
        rw [hissued] at hr
        obtain hr | hr := List.mem_append.mp hr
        · exact (hv.made r hr).trans (Nat.lt_succ_self _)
        · obtain rfl := List.mem_singleton.mp hr
          omega

/-! ## Every run -/

/-- A record that an attempt issued and that the identifier does not have is not stored for it
ever again. -/
theorem never_again (hv : Orderly id v) (hr : r ∈ v.issued)
    (hgone : v.keeper.store.find? id ≠ some r) (acts : List (Act id)) :
    (final Act.perform v acts).keeper.store.find? id ≠ some r := by
  -- The number of the record is used up, so no attempt to come can issue that record again.
  let I := fun t : Overlap => Orderly id t ∧ r.serial < t.keeper.world.made ∧
    t.keeper.store.find? id ≠ some r
  have hkeeps : ∀ t (act : Act id), I t → I (Action.after (Act.perform act) t) := by
    rintro t act ⟨ht, hserial, hnot⟩
    refine ⟨ht.after act, hserial.trans_le (made_le_after_act t act), fun hstored => ?_⟩
    obtain hissued | hkept := (find?_after_act_iff ht act).mp hstored
    · exact hserial.ne (serial_of_issued? hissued).1
    · exact hnot hkept.1
  exact (invariant_final (I := I) ⟨hv, hv.made r hr, hgone⟩ hkeeps acts).2.2

/-- What attempts that overlap can rely on, after a history. The store holds the record of the
last attempt until that very record is ended, and nothing else. An attempt that retracts its
record is told whether the record was there, takes no other away, and never sees it return. -/
structure Unharmed (id : String) (v : Overlap) (h : List (Happening id)) : Prop where
  issued : v.issued = h.filterMap issued?
  distinct : (v.issued.map Issued.serial).Nodup
  latest : ∀ r, v.keeper.store.find? id = some r → v.issued.getLast? = some r
  held : ∀ r, v.keeper.store.find? id = some r ↔ Held h r
  retract : ∀ n r, v.issued[n]? = some r → ((Act.retract n : Act id).perform.run v).1 =
    .ok (.removed (decide (v.keeper.store.find? id = some r)))
  spared : ∀ n r, v.issued[n]? = some r → ∀ x,
    ((Act.retract n : Act id).perform.after v).keeper.store.find? id = some x ↔
      v.keeper.store.find? id = some x ∧ x ≠ r
  gone : ∀ n r, v.issued[n]? = some r → ∀ later : List (Act id),
    (final Act.perform ((Act.retract n : Act id).perform.after v) later).keeper.store.find? id ≠
      some r

theorem issued_final (v : Overlap) (acts : List (Act id)) : (final Act.perform v acts).issued =
    v.issued ++ (trace Act.perform v acts).filterMap issued? := by
  induction acts using List.reverseRecOn with
  | nil => exact (List.append_nil _).symm
  | append_singleton acts act ih =>
      rw [final_concat, trace_concat, List.filterMap_append, ← List.append_assoc, ← ih]
      refine (issued_after _ act).trans (congrArg (_ ++ ·) ?_)
      cases h : issued? (step Act.perform (final Act.perform v acts) act) <;> simp [h]

/-- From an empty store, whatever happens while attempts of an identifier are under way. -/
theorem attempts_unharmed {interval : Value} {autostart : Bool} {w₀ w : World} {s : Store}
    (hopen : (World.openStore interval autostart).run w₀ = (.ok s, w)) (id : String)
    (acts : List (Act id)) :
    Unharmed id (final Act.perform ⟨⟨w, s⟩, []⟩ acts) (trace Act.perform ⟨⟨w, s⟩, []⟩ acts) := by
  have hnone : ∀ r, s.find? id ≠ some r := by
    simp [World.find?_of_openStore hopen]
  have hfresh : Orderly id ⟨⟨w, s⟩, []⟩ :=
    ⟨fun r hr => absurd hr (hnone r), .nil, fun r hr => absurd hr List.not_mem_nil⟩
  have hissued := issued_final ⟨⟨w, s⟩, []⟩ acts
  have horderly : Orderly id (final Act.perform ⟨⟨w, s⟩, []⟩ acts) :=
    invariant_final hfresh (fun t act ht => ht.after act) acts
  -- The step law holds of orderly attempts only: elsewhere a retraction could take a record
  -- away that merely has the number of another.
  have hheld : ∀ r, (final Act.perform ⟨⟨w, s⟩, []⟩ acts).keeper.store.find? id = some r ↔
      Held (trace Act.perform ⟨⟨w, s⟩, []⟩ acts) r := fun r =>
    holds_final_iff_of_invariant (I := Orderly id)
      (F := fun v => v.keeper.store.find? id = some r) hfresh (fun t act ht => ht.after act)
      (hnone r) (fun t act ht => find?_after_act_iff ht act) acts
  generalize final Act.perform ⟨⟨w, s⟩, []⟩ acts = v at hissued horderly hheld ⊢
  have hafter : ∀ n r, v.issued[n]? = some r → (Act.retract n : Act id).perform.after v =
      ⟨v.keeper.keeping (v.keeper.store.discard id r).2, v.issued⟩ := fun n r hr =>
    congrArg Step.after (step_retract_of_some hr)
  have hspared : ∀ n r, v.issued[n]? = some r → ∀ x,
      ((Act.retract n : Act id).perform.after v).keeper.store.find? id = some x ↔
        v.keeper.store.find? id = some x ∧ x ≠ r := fun n r hr x => by
    rw [hafter n r hr]
    exact horderly.find?_discard_iff (List.mem_of_getElem? hr)
  refine ⟨hissued, horderly.nodup, horderly.latest, hheld, fun n r hr => ?_, hspared,
    fun n r hr later => ?_⟩
  · rw [← horderly.discard_fst (List.mem_of_getElem? hr)]
    exact congrArg Step.answer (step_retract_of_some hr)
  · refine never_again (horderly.after _) ?_ (fun h => ((hspared n r hr r).mp h).2 rfl) later
    rw [hafter n r hr]
    exact List.mem_of_getElem? hr

/-- Two codes that agree, and expire together: when the first attempt fails late, the code of
the second is left alone. -/
theorem later_code_survives :
    ∃ s w, (World.openStore (.int 60) true).run { now := ⟨0, by decide⟩ } = (.ok s, w) ∧
      ∃ v : Overlap, v = final Act.perform ⟨⟨w, s⟩, []⟩
          ([.issue 6 300 .numeric, .issue 6 300 .numeric] : List (Act "ada")) ∧
        v.issued = [⟨0, "000000", ⟨300000000, by decide⟩⟩,
          ⟨1, "000000", ⟨300000000, by decide⟩⟩] ∧
        ((Act.retract 0 : Act "ada").perform.run v).1 = .ok (.removed false) ∧
        ((Act.retract 0 : Act "ada").perform.after v).keeper.store.find? "ada" =
          some ⟨1, "000000", ⟨300000000, by decide⟩⟩ := by
  have hopen : (World.openStore (.int 60) true).run { now := ⟨0, by decide⟩ } = (.ok _, _) := rfl
  have hunharmed := attempts_unharmed hopen "ada" [.issue 6 300 .numeric, .issue 6 300 .numeric]
  refine ⟨_, _, hopen, _, rfl, by decide +kernel, ?_, ?_⟩
  · refine (hunharmed.retract 0 ⟨0, "000000", ⟨300000000, by decide⟩⟩ (by decide +kernel)).trans ?_
    rw [decide_eq_false (by decide +kernel)]
  · rw [hunharmed.spared 0 ⟨0, "000000", ⟨300000000, by decide⟩⟩ (by decide +kernel)]
    decide +kernel

end Overlap

end Passcode.Keeper
