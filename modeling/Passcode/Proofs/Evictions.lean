import Passcode.Proofs.Calls

/-!
# What a sweep evicts, and in which order

A sweep looks for what has expired and then removes it, one identifier after another. What is
left is every record that is still in time, in its old place (`Store.sweep_snd_eq_foldl`,
`Keeper.evicts_sweep`), and there is nothing for a second sweep to find unless the clock goes on
(`Store.sweep_sweep`).

The places are those of the history. A call takes identifiers out of the order or adds one at the
end of it (`Keeper.moves_call`), and so the identifiers stand in the order in which they last
became present (`Keeper.inOrder_final`).
-/

namespace Passcode

open Passcode.Action Run

/-! ## Keys taken out one by one -/

namespace Keyed

variable {κ α : Type} {m : Keyed κ α} {p : κ × α → Bool}

theorem keys_filter_sublist (m : Keyed κ α) (p : κ × α → Bool) :
    (m.filter p).keys.Sublist m.keys :=
  List.filter_sublist.map _

theorem size_filter_add (m : Keyed κ α) (p : κ × α → Bool) :
    (m.filter fun e => !p e).size + (m.filter p).size = m.size := by
  have hlength := m.entries.length_eq_length_filter_add p
  rw [Nat.add_comm] at hlength
  exact hlength.symm

variable [DecidableEq κ]

theorem mem_keys_filter_iff {k : κ} :
    k ∈ (m.filter p).keys ↔ ∃ v, m.find? k = some v ∧ p (k, v) = true := by
  rw [← find?_isSome_iff, find?_filter, Option.isSome_iff_exists]
  simp only [Option.filter_eq_some_iff]

theorem find?_eq_some_iff_mem {k : κ} {v : α} : m.find? k = some v ↔ (k, v) ∈ m.entries := by
  obtain ⟨es, hes⟩ := m
  simp only [find?]
  induction es with
  | nil => simp
  | cons e es ih =>
      obtain ⟨hnew, hes⟩ := List.nodup_cons.mp hes
      by_cases he : e.1 = k
      · have hlater : (k, v) ∉ es := fun hmem => hnew (List.mem_map.mpr ⟨_, hmem, he.symm⟩)
        obtain ⟨j, u⟩ := e
        obtain rfl : j = k := he
        simp [hlater, eq_comm]
      · have hne : (k, v) ≠ e := fun h => he (h ▸ rfl)
        rw [List.find?_cons_of_neg (by simpa using he), List.mem_cons, or_iff_right hne]
        exact ih hes

theorem foldl_erase (m : Keyed κ α) (ks : List κ) :
    ks.foldl erase m = m.filter fun e => !decide (e.1 ∈ ks) := by
  induction ks generalizing m with
  | nil => exact ext (by simp [filter])
  | cons k ks ih =>
      rw [List.foldl_cons, ih]
      refine ext ?_
      simp only [erase, filter, List.filter_filter]
      congr 1
      funext e
      by_cases he : e.1 = k <;> simp [he]

/-- To take the keys of what passes a test out one by one leaves what does not pass it. -/
theorem foldl_erase_keys_filter (m : Keyed κ α) (p : κ × α → Bool) :
    (m.filter p).keys.foldl erase m = m.filter fun e => !p e := by
  rw [foldl_erase]
  refine ext (List.filter_congr fun e he => ?_)
  have hfind : m.find? e.1 = some e.2 := find?_eq_some_iff_mem.mpr he
  have hkey : e.1 ∈ (m.filter p).keys ↔ p e = true := by
    simp [mem_keys_filter_iff, hfind]
  simp [hkey]

end Keyed

/-! ## One sweep of a store -/

namespace Store

variable {s : Store} {t u : Instant} {id : String}

theorem mem_keys_iff : id ∈ s.records.keys ↔ ∃ r, s.find? id = some r := by
  rw [← Keyed.find?_isSome_iff, Option.isSome_iff_exists]
  rfl

theorem mem_sweep_fst_iff :
    id ∈ (s.sweep t).1 ↔ ∃ r, s.find? id = some r ∧ r.record.expiresAt ≤ t := by
  have hmem : id ∈ (s.sweep t).1 ↔ _ := Keyed.mem_keys_filter_iff
  rw [hmem]
  simp only [Bool.not_eq_true', Record.isValid_eq_false_iff]
  rfl

/-- A sweep is a search for the expired identifiers, and then a removal of each. -/
theorem sweep_snd_eq_foldl (s : Store) (t : Instant) :
    (s.sweep t).2 = (s.sweep t).1.foldl remove s := by
  have hfold : ∀ (ids : List String) (s : Store),
      ids.foldl remove s = { s with records := ids.foldl Keyed.erase s.records } := by
    intro ids
    induction ids with
    | nil => exact fun _ => rfl
    | cons id ids ih => exact fun s => ih (s.remove id)
  rw [hfold, sweep, Keyed.foldl_erase_keys_filter]
  simp only [Bool.not_not]

theorem length_sweep_fst_add (s : Store) (t : Instant) :
    (s.sweep t).1.length + (s.sweep t).2.size = s.size := by
  have hlength : (s.sweep t).1.length = _ := (Keyed.size_eq_length_keys _).symm
  rw [hlength]
  exact s.records.size_filter_add fun e => e.2.record.isValid t

theorem mem_entries_sweep_iff {e : String × Issued} : e ∈ (s.sweep t).2.records.entries ↔
    e ∈ s.records.entries ∧ t < e.2.record.expiresAt := by
  have hmem : e ∈ (s.sweep t).2.records.entries ↔ _ := List.mem_filter
  rw [hmem, Record.isValid_eq_true_iff]

/-- After a sweep there is nothing left to evict, as long as the clock does not go on. -/
theorem sweep_sweep (h : u ≤ t) : (s.sweep t).2.sweep u = ([], (s.sweep t).2) := by
  have hvalid : ∀ e ∈ (s.sweep t).2.records.entries, e.2.record.isValid u = true := by
    intro e he
    have hexpiry := (mem_entries_sweep_iff.mp he).2
    exact Record.isValid_eq_true_iff.mpr (Nat.lt_of_le_of_lt h hexpiry)
  have hnone : ((s.sweep t).2.sweep u).1 = [] := by
    refine List.eq_nil_iff_forall_not_mem.mpr fun id hid => ?_
    obtain ⟨e, he, -⟩ := List.mem_map.mp hid
    obtain ⟨hmem, hlate⟩ := List.mem_filter.mp he
    simp [hvalid e hmem] at hlate
  refine Prod.ext hnone ?_
  rw [sweep_snd_eq_foldl, hnone]
  rfl

/-! ## Places -/

theorem keys_of_put {s s' : Store} {r : Issued} {b : Bool} (h : s.put id r = .ok (b, s')) :
    s'.records.keys =
      if id ∈ s.records.keys then s.records.keys else s.records.keys ++ [id] := by
  unfold put at h
  split at h
  · cases h
  · obtain ⟨-, rfl⟩ := Prod.mk.inj (Except.ok.inj h)
    exact s.records.keys_put id r

theorem keys_remove_sublist (s : Store) (id : String) :
    (s.remove id).records.keys.Sublist s.records.keys :=
  s.records.keys_filter_sublist _

theorem keys_discard_sublist (s : Store) (id : String) (r : Issued) :
    (s.discard id r).2.records.keys.Sublist s.records.keys := by
  unfold discard
  split
  · exact s.keys_remove_sublist id
  · exact List.Sublist.refl _

theorem keys_checked_sublist (s : Store) (t : Instant) (id : String) (c : Option Glyphs) :
    (s.checked t id c).records.keys.Sublist s.records.keys := by
  obtain ⟨-, h⟩ | ⟨-, h⟩ := s.checked_cases t id c <;> rw [h]
  exact s.keys_remove_sublist id

end Store

namespace Keeper

variable {k : Keeper} {h : List Turnover} {e : Turnover} {id : String} {n : Nat}

/-- What a sweep does that takes a number of seconds, if the clock reads `t`: it evicts the
identifiers whose record has expired, and nothing else. -/
structure Evicts (k : Keeper) (t : Instant) (duration : Float) (expired : List String) :
    Prop where
  in_order : expired.Sublist k.store.records.keys
  mem_iff : ∀ id, id ∈ expired ↔ ∃ r, k.store.find? id = some r ∧ r.record.expiresAt ≤ t
  answer : ((sweep duration).run k).1 = .ok expired.length
  one_by_one : ((sweep duration).after k).store = expired.foldl Store.remove k.store
  kept : ((sweep duration).after k).store.records.entries.Sublist k.store.records.entries
  mem_kept_iff : ∀ e, e ∈ ((sweep duration).after k).store.records.entries ↔
    e ∈ k.store.records.entries ∧ t < e.2.record.expiresAt
  size : expired.length + ((sweep duration).after k).store.size = k.store.size
  log : ((sweep duration).after k).world.log = k.world.log ++ (expired.map .expiredRemoved ++
    [.sweepCompleted expired.length ((sweep duration).after k).store.size
      (Decimal.roundPlaces 3 (duration * 1000))])

theorem evicts_sweep {t : Instant} (ht : k.world.reading? = some t) (duration : Float) :
    Evicts k t duration (k.store.sweep t).1 := by
  have hrun := run_sweep_of_reading ht duration
  have hstore : ((sweep duration).after k).store = (k.store.sweep t).2 := by
    rw [after, hrun]
    rfl
  constructor
  · exact k.store.records.keys_filter_sublist _
  · exact fun id => Store.mem_sweep_fst_iff
  · rw [hrun]
  · rw [hstore, Store.sweep_snd_eq_foldl]
  · rw [hstore]
    exact List.filter_sublist
  · rw [hstore]
    exact fun e => Store.mem_entries_sweep_iff
  · rw [hstore, Store.length_sweep_fst_add]
  · rw [hstore, after, hrun]
    rfl

/-- A second sweep evicts nothing, as long as the clock does not go on. -/
theorem evicts_none_after_sweep {t u : Instant} {duration duration' : Float}
    (ht : k.world.reading? = some t) (hu : u ≤ t) :
    Evicts (((sweep duration).after k).setTo u) u duration' [] := by
  have hstore : (((sweep duration).after k).setTo u).store = (k.store.sweep t).2 :=
    (ensures_sweep_of_reading ht duration).2.1
  have hnone : ((((sweep duration).after k).setTo u).store.sweep u).1 = [] := by
    rw [hstore, Store.sweep_sweep hu]
  have hevicts := evicts_sweep (k := ((sweep duration).after k).setTo u) (t := u) rfl duration'
  rwa [hnone] at hevicts

/-! ## The order of the identifiers -/

/-- The step made an identifier present. -/
def Arrives (e : Turnover) (id : String) : Prop :=
  e.before.store.find? id = none ∧ ∃ r, e.after.store.find? id = some r

/-- The step of this number is the last one that made the identifier present. -/
def LastArrival (h : List Turnover) (id : String) (n : Nat) : Prop :=
  (∃ e, h[n]? = some e ∧ Arrives e id) ∧ ∀ m e, n < m → h[m]? = some e → ¬ Arrives e id

/-- Each of the identifiers became present in the history, and they stand in the order in which
they last did. -/
structure InOrder (h : List Turnover) (ids : List String) : Prop where
  arrived : ∀ id ∈ ids, ∃ n, LastArrival h id n
  ascending : ids.Pairwise fun i j => ∀ m n, LastArrival h i m → LastArrival h j n → m < n

/-- What a call does to an order: some leave it, or one that is new joins it at the end. -/
inductive Moves (ids ids' : List String) : Prop
  | leave (h : ids'.Sublist ids)
  | join {id : String} (hnew : id ∉ ids) (h : ids' = ids ++ [id])

theorem arrives_iff : Arrives e id ↔
    id ∉ e.before.store.records.keys ∧ id ∈ e.after.store.records.keys := by
  rw [Arrives, Store.mem_keys_iff, Store.mem_keys_iff, Option.eq_none_iff_forall_ne_some,
    not_exists]

theorem LastArrival.lt_length (hn : LastArrival h id n) : n < h.length := by
  obtain ⟨⟨e, he, -⟩, -⟩ := hn
  exact (List.getElem?_eq_some_iff.mp he).1

theorem getElem?_concat_eq_some_iff {d : Turnover} :
    (h ++ [e])[n]? = some d ↔ h[n]? = some d ∨ (n = h.length ∧ d = e) := by
  rw [List.getElem?_append]
  split
  · next hlt => simp [hlt.ne]
  · next hge =>
    have hnone : h[n]? = none := List.getElem?_eq_none (Nat.not_lt.mp hge)
    rw [hnone, List.getElem?_singleton]
    split
    · next hend => simp [show n = h.length by omega, eq_comm]
    · next hend => simp [show n ≠ h.length by omega]

theorem lastArrival_concat : LastArrival (h ++ [e]) id n ↔
    (Arrives e id ∧ n = h.length) ∨ (LastArrival h id n ∧ ¬ Arrives e id) := by
  have hend : (h ++ [e])[h.length]? = some e :=
    getElem?_concat_eq_some_iff.mpr (.inr ⟨rfl, rfl⟩)
  constructor
  · rintro ⟨⟨d, hd, harrives⟩, hlast⟩
    rcases getElem?_concat_eq_some_iff.mp hd with hd | ⟨rfl, rfl⟩
    · have hlt := (List.getElem?_eq_some_iff.mp hd).1
      refine .inr ⟨⟨⟨d, hd, harrives⟩, fun m d' hm hd' => ?_⟩, hlast _ e hlt hend⟩
      exact hlast m d' hm (getElem?_concat_eq_some_iff.mpr (.inl hd'))
    · exact .inl ⟨harrives, rfl⟩
  · rintro (⟨harrives, rfl⟩ | ⟨⟨⟨d, hd, harrives⟩, hlast⟩, hno⟩)
    · refine ⟨⟨e, hend, harrives⟩, fun m d hm hd => ?_⟩
      have hlt := (List.getElem?_eq_some_iff.mp hd).1
      rw [List.length_append, List.length_singleton] at hlt
      omega
    · refine ⟨⟨d, getElem?_concat_eq_some_iff.mpr (.inl hd), harrives⟩, fun m d' hm hd' => ?_⟩
      rcases getElem?_concat_eq_some_iff.mp hd' with hd' | ⟨rfl, rfl⟩
      · exact hlast m d' hm hd'
      · exact hno

/-- A step keeps the order, whoever leaves or joins in it. -/
theorem InOrder.concat (hh : InOrder h e.before.store.records.keys)
    (hmoves : Moves e.before.store.records.keys e.after.store.records.keys) :
    InOrder (h ++ [e]) e.after.store.records.keys := by
  -- who was there before the step does not arrive in it
  have hold : ∀ i ∈ e.before.store.records.keys, ∀ m,
      LastArrival (h ++ [e]) i m ↔ LastArrival h i m := by
    intro i hi m
    have hno : ¬ Arrives e i := fun harrives => (arrives_iff.mp harrives).1 hi
    simp [lastArrival_concat, hno]
  have harrived : ∀ i ∈ e.before.store.records.keys, ∃ m, LastArrival (h ++ [e]) i m := by
    intro i hi
    obtain ⟨m, hm⟩ := hh.arrived i hi
    exact ⟨m, (hold i hi m).mpr hm⟩
  have hascending : e.before.store.records.keys.Pairwise fun i j =>
      ∀ m n, LastArrival (h ++ [e]) i m → LastArrival (h ++ [e]) j n → m < n := by
    refine hh.ascending.imp_of_mem fun hi hj hij m n hm hn => ?_
    exact hij m n ((hold _ hi m).mp hm) ((hold _ hj n).mp hn)
  cases hmoves with
  | leave hsub =>
      exact ⟨fun i hi => harrived i (hsub.subset hi), hascending.sublist hsub⟩
  | @join id hnew hkeys =>
      have harrives : Arrives e id := arrives_iff.mpr ⟨hnew, by simp [hkeys]⟩
      have hlast : ∀ n, LastArrival (h ++ [e]) id n ↔ n = h.length := fun n => by
        simp [lastArrival_concat, harrives]
      rw [hkeys]
      refine ⟨fun i hi => ?_, List.pairwise_append.mpr ⟨hascending, by simp, fun i hi j hj => ?_⟩⟩
      · rcases List.mem_append.mp hi with hi | hi
        · exact harrived i hi
        · obtain rfl := List.mem_singleton.mp hi
          exact ⟨_, (hlast _).mpr rfl⟩
      · obtain rfl := List.mem_singleton.mp hj
        intro m n hm hn
        obtain rfl := (hlast n).mp hn
        exact ((hold i hi m).mp hm).lt_length

/-! ## What calls do to the order -/

theorem moves_refl (ids : List String) : Moves ids ids := .leave (List.Sublist.refl ids)

theorem moves_of_put {s s' : Store} {r : Issued} {b : Bool} (hput : s.put id r = .ok (b, s')) :
    Moves s.records.keys s'.records.keys := by
  rw [Store.keys_of_put hput]
  split
  · exact moves_refl _
  · next hnew => exact .join hnew rfl

theorem moves_generate (k : Keeper) (id : String) (length timeout : Int) (alphabet : Alphabet) :
    Moves k.store.records.keys
      ((generate id length timeout alphabet).after k).store.records.keys := by
  unfold after
  obtain ⟨x, b, -, hput⟩ | ⟨e, -, hs⟩ := ensures_generate k id length timeout alphabet
  · exact moves_of_put hput
  · rw [hs]
    exact moves_refl _

theorem moves_put (k : Keeper) (id : String) (r : Issued) :
    Moves k.store.records.keys ((put id r).after k).store.records.keys := by
  unfold after
  obtain ⟨b, s, hput, -, rfl, -⟩ | ⟨e, -, -, hk⟩ := ensures_put k id r
  · exact moves_of_put hput
  · rw [hk]
    exact moves_refl _

theorem moves_check (k : Keeper) (id : String) (c : Option Glyphs) :
    Moves k.store.records.keys ((check id c).after k).store.records.keys := by
  unfold after
  cases ht : k.world.reading? with
  | none =>
      obtain ⟨-, hs⟩ := ensures_check_of_silence ht id c
      rw [hs]
      exact moves_refl _
  | some t =>
      obtain ⟨-, hs, -⟩ := ensures_check_of_reading ht id c
      rw [hs]
      exact .leave (k.store.keys_checked_sublist t id c)

theorem moves_sweep (k : Keeper) (duration : Float) :
    Moves k.store.records.keys ((sweep duration).after k).store.records.keys := by
  cases ht : k.world.reading? with
  | none =>
      obtain ⟨-, hs⟩ := ensures_sweep_of_silence ht duration
      rw [after, hs]
      exact moves_refl _
  | some t => exact .leave ((evicts_sweep ht duration).kept.map _)

/-- A call takes identifiers out of the order, or adds a new one at its end. -/
theorem moves_call (k : Keeper) (c : Call) :
    Moves k.store.records.keys (c.perform.after k).store.records.keys := by
  refine c.after_cases (R := fun k' => Moves k.store.records.keys k'.store.records.keys)
    (moves_generate k) (moves_put k) (moves_check k) (fun id => ?invalidate) (fun id r => ?discard)
    (moves_sweep k) ?shutdown (fun _ _ => moves_refl _) ?start fun duration => ?cycle
  case invalidate =>
    rw [after, run_invalidate]
    exact .leave (k.store.keys_remove_sublist id)
  case discard =>
    rw [after, run_discard]
    exact .leave (k.store.keys_discard_sublist id r)
  case shutdown =>
    rw [after, run_shutdown]
    exact .leave (List.nil_sublist _)
  case start =>
    rw [after, (ensures_start k).1]
    exact moves_refl _
  case cycle =>
    rw [store_after_cycle]
    exact moves_sweep k duration

/-- From an empty store on, the identifiers stand in the order in which they last became
present. -/
theorem inOrder_final (hempty : k.store.records = .empty) (calls : List Call) :
    InOrder (trace Call.perform k calls) (final Call.perform k calls).store.records.keys := by
  induction calls using List.reverseRecOn with
  | nil =>
      have hkeys : (final Call.perform k []).store.records.keys = [] := by
        rw [final, List.foldl_nil, hempty]
        rfl
      rw [hkeys]
      exact ⟨by simp, List.Pairwise.nil⟩
  | append_singleton calls c ih =>
      rw [trace_concat, final_concat]
      exact InOrder.concat (e := step Call.perform (final Call.perform k calls) c) ih
        (moves_call _ c)

/-- What an order stores for an identifier, the store has taken in. -/
theorem exists_put_of_stores {o : Order} {r : Issued}
    (hstores : Stores (step Order.perform k o) id r) :
    ∃ b, k.store.put id r = .ok (b, (o.perform.after k).store) := by
  unfold step at hstores
  unfold after
  cases o with
  | generate i length timeout alphabet =>
      rw [Order.perform, run_map] at hstores ⊢
      obtain ⟨x, b, ha, hput⟩ | ⟨e, ha, -⟩ := ensures_generate k i length timeout alphabet
      · rw [ha] at hstores
        obtain ⟨rfl, rfl⟩ := hstores
        exact ⟨b, hput⟩
      · rw [ha] at hstores
        exact hstores.elim
  | put i x =>
      rw [Order.perform, run_map] at hstores ⊢
      obtain ⟨b, s, hput, ha, rfl, -⟩ | ⟨e, -, ha, -⟩ := ensures_put k i x
      · rw [ha] at hstores
        obtain ⟨rfl, rfl⟩ := hstores
        exact ⟨b, hput⟩
      · rw [ha] at hstores
        exact hstores.elim
  | check i c => exact hstores.elim
  | invalidate i => exact hstores.elim
  | discard i x => exact hstores.elim
  | sweep duration => exact hstores.elim
  | shutdown => exact hstores.elim
  | setClock now failures => exact hstores.elim

/-! ## Every run -/

/-- How the identifiers of a keeper with a history stand: in the order in which they last became
present. To store a record again for one that is present keeps the order; for one that is not, be
it that it just left, it puts the identifier at the end. -/
structure Places (h : List Turnover) (k : Keeper) : Prop where
  in_order : InOrder h k.store.records.keys
  stay : ∀ o id r, Stores (step Order.perform k o) id r → (∃ x, k.store.find? id = some x) →
    (o.perform.after k).store.records.keys = k.store.records.keys
  come_back : ∀ (c : Call) o id r, (c.perform.after k).store.find? id = none →
    Stores (step Order.perform (c.perform.after k) o) id r →
      (o.perform.after (c.perform.after k)).store.records.keys =
        (c.perform.after k).store.records.keys ++ [id]

theorem places_of_inOrder (horder : InOrder h k.store.records.keys) : Places h k := by
  refine ⟨horder, fun o id r hstores hthere => ?_, fun c o id r hgone hstores => ?_⟩
  · obtain ⟨b, hput⟩ := exists_put_of_stores hstores
    rw [Store.keys_of_put hput, if_pos (Store.mem_keys_iff.mpr hthere)]
  · obtain ⟨b, hput⟩ := exists_put_of_stores hstores
    have hnew : id ∉ (c.perform.after k).store.records.keys := by
      rw [Store.mem_keys_iff, hgone]
      exact nofun
    rw [Store.keys_of_put hput, if_neg hnew]

/-- After any calls of a keeper whose store was opened empty, and at any reading of its clock: a
sweep evicts exactly the identifiers whose record has expired, tells of each in the order of the
store, and leaves all others in their places, which are those of the history. A second sweep
evicts nothing more as long as the clock does not go on. -/
theorem sweeps_evict_expired {interval : Value} {autostart : Bool} {w₀ w : World} {s : Store}
    (hopen : (World.openStore interval autostart).run w₀ = (.ok s, w)) (calls : List Call) :
    Places (trace Call.perform ⟨w, s⟩ calls) (final Call.perform ⟨w, s⟩ calls) ∧
    ∀ t duration, ∃ expired,
      Evicts ((final Call.perform ⟨w, s⟩ calls).setTo t) t duration expired ∧
      ∀ u ≤ t, ∀ duration', Evicts
        (((sweep duration).after ((final Call.perform ⟨w, s⟩ calls).setTo t)).setTo u) u duration'
        [] := by
  have hempty : s.records = .empty := World.records_of_openStore hopen
  refine ⟨places_of_inOrder (inOrder_final hempty calls), fun t duration => ?_⟩
  exact ⟨_, evicts_sweep rfl duration, fun u hu duration' => evicts_none_after_sweep rfl hu⟩

/-- The code of `ada` is replaced where it stands, that of `bob` is removed and issued anew at the
end, and that of `cyd` expires at the very instant of the sweep. -/
theorem evicted_at_expiry :
    ∃ s w calls, (World.openStore (.int 60) true).run { now := ⟨0, by decide⟩ } = (.ok s, w) ∧
      calls = [.order (.generate "ada" 6 300 .numeric), .order (.generate "bob" 6 300 .numeric),
        .order (.generate "cyd" 6 300 .numeric), .order (.invalidate "bob"),
        .order (.generate "bob" 6 600 .numeric), .order (.generate "ada" 6 301 .numeric)] ∧
      Places (trace Call.perform ⟨w, s⟩ calls) (final Call.perform ⟨w, s⟩ calls) ∧
      (final Call.perform ⟨w, s⟩ calls).store.records.keys = ["ada", "cyd", "bob"] ∧
      ∃ t k, t = ⟨300000000, by decide⟩ ∧ k = (final Call.perform ⟨w, s⟩ calls).setTo t ∧
        (∃ expired, Evicts k t 0 expired) ∧ ((sweep 0).run k).1 = .ok 1 ∧
        ((sweep 0).after k).store.records.keys = ["ada", "bob"] := by
  have hopen : (World.openStore (.int 60) true).run { now := ⟨0, by decide⟩ } = (.ok _, _) := rfl
  exact ⟨_, _, _, hopen, rfl, (sweeps_evict_expired hopen _).1, by decide +kernel, _, _, rfl, rfl,
    ((sweeps_evict_expired hopen _).2 _ 0).imp fun _ h => h.1, by decide +kernel, by decide +kernel⟩

end Keeper

end Passcode
