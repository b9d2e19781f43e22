import Passcode.Proofs.Keepers

/-!
# What is left when the codes are taken away

The veil of a record has no code, the veil of a store has the veils of its records, and the
veil of a keeper has no draws besides. What a keeper answers, measures and reports can be
seen through the veil: each operation has a shadow (`Action.Shadows`), so two keepers with
one veil stay so, and say the same (`Keeper.Alike`). Only a check looks at a code, and two
checks are alike if they come to one finding (`Keeper.coupled_alike_check`).
-/

namespace Passcode

open Passcode.Action

/-! ## Maps with other values -/

namespace Keyed

variable {κ α β : Type} (f : α → β) (m : Keyed κ α)

def mapValues : Keyed κ β :=
  ⟨m.entries.map fun e => (e.1, f e.2), by
    rw [List.map_map]
    exact m.nodup⟩

theorem keys_mapValues : (m.mapValues f).keys = m.keys := by
  simp [keys, mapValues]

theorem size_mapValues : (m.mapValues f).size = m.size := by
  simp [size, mapValues]

theorem mapValues_filter {q : κ × α → Bool} {q' : κ × β → Bool} (h : ∀ e, q' (e.1, f e.2) = q e) :
    (m.filter q).mapValues f = (m.mapValues f).filter q' := by
  ext1
  simp only [filter, mapValues, List.filter_map]
  have hq : q' ∘ (fun e : κ × α => (e.1, f e.2)) = q := funext h
  rw [hq]

variable [DecidableEq κ]

theorem find?_mapValues (k : κ) : (m.mapValues f).find? k = (m.find? k).map f := by
  simp only [find?, mapValues, List.find?_map, Option.map_map]
  rfl

theorem contains_mapValues (k : κ) : (m.mapValues f).contains k = m.contains k := by
  rw [contains, contains, find?_mapValues, Option.isSome_map]

theorem mapValues_erase (k : κ) : (m.erase k).mapValues f = (m.mapValues f).erase k :=
  mapValues_filter f m fun _ => rfl

theorem mapValues_put (k : κ) (v : α) : (m.put k v).mapValues f = (m.mapValues f).put k (f v) := by
  have hkeys : (m.mapValues f).entries.map Prod.fst = m.entries.map Prod.fst := keys_mapValues f m
  ext1
  by_cases hk : k ∈ m.entries.map Prod.fst
  · have hk' : k ∈ (m.mapValues f).entries.map Prod.fst := hkeys ▸ hk
    unfold put
    rw [dif_pos hk, dif_pos hk']
    simp only [mapValues, replaceIn, List.map_map]
    refine List.map_congr_left fun e _ => ?_
    by_cases he : e.1 = k <;> simp [he]
  · have hk' : k ∉ (m.mapValues f).entries.map Prod.fst := hkeys ▸ hk
    unfold put
    rw [dif_neg hk, dif_neg hk']
    simp [mapValues]

end Keyed

/-! ## Records and stores -/

def Issued.veil (x : Issued) : Issued := ⟨x.serial, "", x.record.expiresAt⟩

theorem Issued.expiresAt_eq_of_veil {x y : Issued} (h : x.veil = y.veil) :
    x.record.expiresAt = y.record.expiresAt :=
  congrArg (·.record.expiresAt) h

namespace Store

def veil (s : Store) : Store := { s with records := s.records.mapValues Issued.veil }

theorem size_veil (s : Store) : s.veil.size = s.size := Keyed.size_mapValues _ _

theorem contains_veil (s : Store) (id : String) :
    s.veil.records.contains id = s.records.contains id := Keyed.contains_mapValues _ _ id

theorem find?_veil (s : Store) (id : String) : s.veil.find? id = (s.find? id).map Issued.veil :=
  Keyed.find?_mapValues _ _ id

theorem veil_put (s : Store) (id : String) (x : Issued) :
    s.veil.put id x.veil = (s.put id x).map fun r => (r.1, r.2.veil) := by
  cases hs : s.closed with
  | true => rw [put_of_closed hs, put_of_closed (s := s.veil) hs]; rfl
  | false =>
      have hrecords : s.veil.records.put id x.veil = (s.records.put id x).mapValues Issued.veil :=
        (Keyed.mapValues_put _ _ id x).symm
      rw [put_of_open hs, put_of_open (s := s.veil) hs, contains_veil, hrecords]
      rfl

theorem veil_remove (s : Store) (id : String) : s.veil.remove id = (s.remove id).veil := by
  unfold remove veil
  rw [Keyed.mapValues_erase]

theorem veil_settled (s : Store) (id : String) (result : CheckResult) :
    (s.settled id result).veil = s.veil.settled id result := by
  cases result with
  | accepted => exact (s.veil_remove id).symm
  | _ => rfl

theorem veil_discard (s : Store) (id : String) (x : Issued) :
    s.veil.discard id x.veil = ((s.discard id x).1, (s.discard id x).2.veil) := by
  have hserial : (s.veil.find? id).map Issued.serial = (s.find? id).map Issued.serial := by
    rw [find?_veil, Option.map_map]
    rfl
  unfold discard
  rw [hserial, veil_remove]
  change (if (s.find? id).map Issued.serial = some x.serial then _ else _) = _
  split <;> rfl

theorem veil_sweep (s : Store) (now : Instant) :
    s.veil.sweep now = ((s.sweep now).1, (s.sweep now).2.veil) := by
  have hfilter : ∀ q : Record → Bool, (∀ r, q ⟨"", r.expiresAt⟩ = q r) →
      s.veil.records.filter (fun e => q e.2.record) =
        (s.records.filter fun e => q e.2.record).mapValues Issued.veil := fun q hq =>
    (Keyed.mapValues_filter _ _ fun e => hq e.2.record).symm
  have hrest := hfilter (·.isValid now) fun _ => rfl
  have hgone := hfilter (!·.isValid now) fun _ => rfl
  unfold sweep
  rw [hrest, hgone, Keyed.keys_mapValues]
  rfl

end Store

/-! ## Keepers -/

namespace Keeper

def veil (k : Keeper) : Keeper := ⟨{ k.world with draws := default }, k.store.veil⟩

@[simp] theorem veil_told (k : Keeper) (es : List Event) : (k.told es).veil = k.veil.told es := rfl

@[simp] theorem veil_metered (k : Keeper) (f : Metrics → Metrics) :
    (k.metered f).veil = k.veil.metered f := rfl

@[simp] theorem veil_keeping (k : Keeper) (s : Store) :
    (k.keeping s).veil = k.veil.keeping s.veil := by
  unfold keeping
  rw [Store.size_veil]
  rfl

variable {k : Keeper} {id : String} {now : Instant}

/-! ### Shadows -/

theorem shadows_clock : Shadows veil (inWorld World.clock) (inWorld World.clock) := by
  intro k
  cases h : k.world.reading? with
  | none => rw [run_clock_of_silence h, run_clock_of_silence (k := k.veil) h]; rfl
  | some now => rw [run_clock_of_reading h, run_clock_of_reading (k := k.veil) h]

theorem shadows_put (id : String) (x : Issued) : Shadows veil (put id x) (put id x.veil) := by
  intro k
  have hput : k.veil.store.put id x.veil = (k.store.put id x).map fun r => (r.1, r.2.veil) :=
    k.store.veil_put id x
  rw [run_put, run_put, hput]
  rcases k.store.put id x with e | ⟨b, s⟩
  · rfl
  · exact congrArg (Prod.mk _) (veil_keeping k s).symm

theorem shadows_discard (id : String) (x : Issued) :
    Shadows veil (discard id x) (discard id x.veil) := by
  intro k
  have hdiscard : k.veil.store.discard id x.veil = _ := k.store.veil_discard id x
  rw [run_discard, run_discard, hdiscard, veil_keeping]

theorem shadows_invalidate (id : String) : Shadows veil (invalidate id) (invalidate id) := by
  intro k
  have hcontains : k.veil.store.records.contains id = _ := k.store.contains_veil id
  have hremove : k.veil.store.remove id = _ := k.store.veil_remove id
  rw [run_invalidate, run_invalidate, hcontains, hremove, veil_told, veil_keeping]

theorem shadows_sweep (duration : Float) : Shadows veil (sweep duration) (sweep duration) := by
  intro k
  cases h : k.world.reading? with
  | none =>
      unfold sweep
      rw [run_bind_of_error (run_clock_of_silence h),
        run_bind_of_error (run_clock_of_silence (k := k.veil) h)]
      rfl
  | some now =>
      have hsweep : k.veil.store.sweep now = _ := k.store.veil_sweep now
      rw [run_sweep_of_reading h, run_sweep_of_reading (k := k.veil) h, hsweep, veil_told,
        veil_metered, veil_keeping, Store.size_veil]

theorem shadows_shutdown : Shadows veil shutdown shutdown := by
  intro k
  rw [run_shutdown, run_shutdown, veil_told, veil_keeping]
  rfl

/-! ### Two keepers -/

/-- Two keepers that differ in their draws and in the codes of their records alone. -/
def Alike (k l : Keeper) : Prop := k.veil = l.veil

variable {l : Keeper}

theorem Alike.reading? (h : Alike k l) : k.world.reading? = l.world.reading? :=
  congrArg (·.world.reading?) h

theorem Alike.metrics (h : Alike k l) : k.world.metrics = l.world.metrics :=
  congrArg (·.world.metrics) h

theorem Alike.log (h : Alike k l) : k.world.log = l.world.log :=
  congrArg (·.world.log) h

theorem coupled_alike {α : Type} {a : Action Keeper α} (h : Shadows veil a a) :
    Coupled Alike a a (fun x y k l => x = y ∧ Alike k l) Alike :=
  coupled_of_shadows h h

theorem coupled_alike_put {x y : Issued} (h : x.veil = y.veil) (id : String) :
    Coupled Alike (put id x) (put id y) (fun b b' k l => b = b' ∧ Alike k l) Alike :=
  coupled_of_shadows (shadows_put id x) (h ▸ shadows_put id y)

theorem coupled_alike_discard {x y : Issued} (h : x.veil = y.veil) (id : String) :
    Coupled Alike (discard id x) (discard id y) (fun b b' k l => b = b' ∧ Alike k l) Alike :=
  coupled_of_shadows (shadows_discard id x) (h ▸ shadows_discard id y)

/-- Checks of two codes leave two keepers alike if they come to one answer. -/
theorem coupled_alike_check (id : String) (c c' : Option Glyphs) :
    Coupled (fun k l => Alike k l ∧ ((check id c).run k).1 = ((check id c').run l).1)
      (check id c) (check id c') (fun x y k l => x = y ∧ Alike k l) Alike := by
  rintro k l ⟨hkl, hanswer⟩
  cases hk : k.world.reading? with
  | none =>
      unfold check
      rw [run_bind_of_error (run_clock_of_silence hk),
        run_bind_of_error (run_clock_of_silence (hkl.reading? ▸ hk))]
      have hafter := congrArg (fun k : Keeper => ({ k with world :=
        { k.world with clockFailures := k.world.clockFailures - 1 } } : Keeper)) hkl
      exact .error hafter
  | some now =>
      have hl : l.world.reading? = some now := hkl.reading? ▸ hk
      have hverdict : k.store.verdict now id c = l.store.verdict now id c' := by
        rw [← (ensures_check_of_reading hk id c).1, ← (ensures_check_of_reading hl id c').1]
        exact hanswer
      rw [run_check_of_reading hk, run_check_of_reading hl, hverdict]
      cases l.store.verdict now id c' with
      | error e => exact .error hkl
      | ok a =>
          have hstore : k.store.veil = l.store.veil := congrArg Keeper.store hkl
          refine .ok ⟨rfl, ?_⟩
          unfold Alike at hkl ⊢
          rw [veil_told, veil_told, veil_keeping, veil_keeping, hkl, Store.veil_settled,
            Store.veil_settled, hstore]

/-- Whatever they draw, two keepers issue records that are alike but for their codes. -/
theorem coupled_alike_generate (id : String) (length timeout : Int) (alphabet : Alphabet) :
    Coupled Alike (generate id length timeout alphabet) (generate id length timeout alphabet)
      (fun x y k l => x.veil = y.veil ∧ Alike k l) Alike := by
  refine coupled_issue_of (C := fun _ _ => True) (X := fun x y => x.veil = y.veil) (B := Eq)
    ?_ (coupled_alike shadows_clock) (fun r r' _ hexpiry => ?_) (fun x y hxy => ?_)
    fun x y b b' hbb => ?_
  · exact coupled_draw (fun _ _ _ => trivial) fun _ _ _ hkl => hkl
  · intro k l hkl
    have hmade : k.world.made = l.world.made := congrArg (·.world.made) hkl
    rw [run_inWorld, run_inWorld, World.run_number, World.run_number]
    refine .ok ⟨?_, ?_⟩
    · rw [Issued.veil, Issued.veil, hmade, hexpiry]
    · exact congrArg (fun k : Keeper =>
        { k with world := { k.world with made := k.world.made + 1 } }) hkl
  · exact (coupled_alike_put hxy id).imp (fun _ _ h => h) (fun _ _ _ _ h => ⟨h.1, hxy, h.2⟩)
      fun _ _ h => h
  · subst hbb
    intro k l hkl
    exact .ok ⟨hkl.1, congrArg (told · _) hkl.2⟩

end Keeper

end Passcode
