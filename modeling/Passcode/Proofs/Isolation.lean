import Passcode.Proofs.Issuing
import Passcode.Proofs.Turns

/-!
# What users notice of each other

Nothing. From a run, take out every attempt and every completed login of the other users,
and let the rest draw what it drew before (`spared`). What is left comes to the same for the
one user: the same outcomes, the same messages, the same record after each turn
(`views_spared`).

`SameFor` relates two gates that are the same for one user. A turn of another user leaves
that as it is on either side, and every other turn preserves it.
-/

namespace Passcode

open Passcode.Action Run

/-- The record of an identifier, whatever its number. -/
def Store.record? (s : Store) (id : String) : Option Record := (s.find? id).map Issued.record

namespace Store

variable {s s' : Store} {id a : String}

theorem record?_eq_of_find?_iff (h : ∀ x, s'.find? a = some x ↔ s.find? a = some x) :
    s'.record? a = s.record? a :=
  congrArg (Option.map Issued.record) (Option.ext h)

theorem record?_put_of_ne {r : Issued} {b : Bool} (h : s.put id r = .ok (b, s')) (ha : id ≠ a) :
    s'.record? a = s.record? a :=
  record?_eq_of_find?_iff fun x => by rw [find?_eq_some_iff_of_put h]; simp [ha]

theorem record?_remove_of_ne (s : Store) (ha : id ≠ a) : (s.remove id).record? a = s.record? a :=
  record?_eq_of_find?_iff fun x => by rw [find?_remove_eq_some_iff]; simp [ha]

theorem record?_remove_self (s : Store) (id : String) : (s.remove id).record? id = none := by
  rw [record?, find?_remove, if_pos rfl]
  rfl

theorem record?_discard_of_ne (s : Store) (r : Issued) (ha : id ≠ a) :
    (s.discard id r).2.record? a = s.record? a :=
  record?_eq_of_find?_iff fun x => by rw [find?_discard_eq_some_iff]; simp [ha.symm]

theorem record?_discard_self {r : Issued} (h : s.find? id = some r) :
    (s.discard id r).2.record? id = none := by
  rw [discard, if_pos (by rw [h, Option.map_some])]
  exact s.record?_remove_self id

theorem record?_checked_of_ne (s : Store) (now : Instant) (c : Option Glyphs) (ha : id ≠ a) :
    (s.checked now id c).record? a = s.record? a := by
  obtain ⟨-, h⟩ | ⟨-, h⟩ := s.checked_cases now id c <;> rw [h]
  exact s.record?_remove_of_ne ha

theorem record?_sweep (s : Store) (now : Instant) (id : String) :
    (s.sweep now).2.record? id = (s.record? id).filter (·.isValid now) := by
  have hfind : (s.sweep now).2.find? id = (s.find? id).filter (·.record.isValid now) := by
    ext x
    rw [find?_sweep_eq_some_iff, Option.filter_eq_some_iff, Record.isValid_eq_true_iff]
  rw [record?, record?, hfind, Option.filter_map]
  rfl

/-- A check sees the content of a record only. -/
theorem verdict_congr (h : s.record? id = s'.record? id) (now : Instant) (c : Option Glyphs) :
    s.verdict now id c = s'.verdict now id c := by
  unfold record? at h
  unfold verdict
  cases hs : s.find? id <;> cases hs' : s'.find? id <;> simp_all

theorem record?_checked_congr (h : s.record? id = s'.record? id) (now : Instant)
    (c : Option Glyphs) : (s.checked now id c).record? id = (s'.checked now id c).record? id := by
  have hverdict := verdict_congr h now c
  obtain ⟨hs, h₁⟩ | ⟨hs, h₁⟩ := s.checked_cases now id c <;>
    obtain ⟨hs', h₂⟩ | ⟨hs', h₂⟩ := s'.checked_cases now id c <;> rw [h₁, h₂]
  · rw [record?_remove_self, record?_remove_self]
  · exact absurd (hverdict.symm.trans hs) hs'
  · exact absurd (hverdict.trans hs') hs
  · exact h

end Store

/-! ## Two keepers -/

namespace Keeper

/-- Two keepers that are the same for one identifier: their clocks work and show one instant,
both are open or both shut, and their records of it have one content. -/
structure SameFor (a : String) (k l : Keeper) : Prop where
  now : k.world.now = l.world.now
  left : k.world.clockFailures = 0
  right : l.world.clockFailures = 0
  closed : k.store.closed = l.store.closed
  record : k.store.record? a = l.store.record? a

variable {a id : String} {k k' l l' : Keeper}

namespace SameFor

theorem reading_left (h : SameFor a k l) : k.world.reading? = some k.world.now :=
  World.reading?_of_answering h.left

theorem reading_right (h : SameFor a k l) : l.world.reading? = some k.world.now := by
  rw [World.reading?_of_answering h.right, h.now]

/-- Nothing but the stores matters if the clocks are as they were. -/
theorem of_hush (h : SameFor a k l) (hk : k'.world.hush = k.world.hush)
    (hl : l'.world.hush = l.world.hush) (hclosed : k'.store.closed = l'.store.closed)
    (hrecord : k'.store.record? a = l'.store.record? a) : SameFor a k' l' where
  now := by rw [World.now_eq_of_hush hk, World.now_eq_of_hush hl, h.now]
  left := (World.clockFailures_eq_of_hush hk).trans h.left
  right := (World.clockFailures_eq_of_hush hl).trans h.right
  closed := hclosed
  record := hrecord

theorem sweep (h : SameFor a k l) (duration : Float) :
    SameFor a ((sweep duration).after k) ((Keeper.sweep duration).after l) := by
  obtain ⟨-, hk, hkw⟩ := ensures_sweep_of_reading h.reading_left duration
  obtain ⟨-, hl, hlw⟩ := ensures_sweep_of_reading h.reading_right duration
  rw [after, after]
  refine h.of_hush hkw hlw ?_ ?_
  · rw [hk, hl, Store.closed_sweep, Store.closed_sweep, h.closed]
  · rw [hk, hl, Store.record?_sweep, Store.record?_sweep, h.record]

theorem shutdown (h : SameFor a k l) :
    SameFor a (shutdown.after k) (Keeper.shutdown.after l) := by
  obtain ⟨-, hk, hkw⟩ := ensures_shutdown k
  obtain ⟨-, hl, hlw⟩ := ensures_shutdown l
  rw [after, after]
  refine h.of_hush hkw hlw ?_ ?_
  · rw [hk, hl]
    rfl
  · rw [hk, hl, Store.record?, Store.record?, Store.find?_close, Store.find?_close]

theorem invalidate (h : SameFor a k l) :
    SameFor a ((invalidate a).after k) ((Keeper.invalidate a).after l) := by
  obtain ⟨-, hk, hkw⟩ := ensures_invalidate k a
  obtain ⟨-, hl, hlw⟩ := ensures_invalidate l a
  rw [after, after]
  refine h.of_hush hkw hlw ?_ ?_
  · rw [hk, hl, Store.closed_remove, Store.closed_remove, h.closed]
  · rw [hk, hl, Store.record?_remove_self, Store.record?_remove_self]

end SameFor

/-! ### What other users do -/

theorem keeps_invalidate_of_ne (hid : id ≠ a) : Keeps (SameFor a · l) (invalidate id) := by
  intro k h
  obtain ⟨-, hk, hkw⟩ := ensures_invalidate k id
  rw [after]
  refine h.of_hush hkw rfl ?_ ?_
  · rw [hk, Store.closed_remove, h.closed]
  · rw [hk, Store.record?_remove_of_ne _ hid, h.record]

theorem keeps_discard_of_ne (hid : id ≠ a) (r : Issued) :
    Keeps (SameFor a · l) (discard id r) := by
  intro k h
  obtain ⟨-, hk, hkw⟩ := ensures_discard k id r
  rw [after]
  refine h.of_hush hkw rfl ?_ ?_
  · rw [hk, Store.closed_discard, h.closed]
  · rw [hk, Store.record?_discard_of_ne _ _ hid, h.record]

theorem keeps_check_of_ne (hid : id ≠ a) (c : Option Glyphs) :
    Keeps (SameFor a · l) (check id c) := by
  intro k h
  obtain ⟨-, hk, hkw⟩ := ensures_check_of_reading h.reading_left id c
  rw [after]
  refine h.of_hush hkw rfl ?_ ?_
  · rw [hk, Store.closed_checked, h.closed]
  · rw [hk, Store.record?_checked_of_ne _ _ _ hid, h.record]

theorem keeps_generate_of_ne (hid : id ≠ a) (length timeout : Int) (alphabet : Alphabet) :
    Keeps (SameFor a · l) (generate id length timeout alphabet) := by
  refine keeps_generate (fun _ _ h => { h with }) (fun k h => ?_) (fun _ h => { h with })
    fun k x b s h hput => ?_
  · exact { h with left := congrArg (· - 1) h.left }
  · refine h.of_hush rfl rfl ?_ ?_
    · exact (Store.closed_of_put hput).trans h.closed
    · exact (Store.record?_put_of_ne hput hid).trans h.record

/-! ### What the user does -/

/-- The same for one identifier, and about to draw the same. -/
structure Drawing (a : String) (k l : Keeper) : Prop where
  same : SameFor a k l
  draws : k.world.draws = l.world.draws

/-- The same for one identifier, whose records are two given ones of one content. -/
structure Holding (a : String) (x y : Issued) (k l : Keeper) : Prop where
  same : SameFor a k l
  content : x.record = y.record
  left : k.store.find? a = some x
  right : l.store.find? a = some y

theorem coupled_check_same (a : String) (c : Option Glyphs) :
    Coupled (SameFor a) (check a c) (check a c) (fun x y k l => x = y ∧ SameFor a k l)
      (SameFor a) := by
  intro k l h
  obtain ⟨hka, hk, hkw⟩ := ensures_check_of_reading h.reading_left a c
  obtain ⟨hla, hl, hlw⟩ := ensures_check_of_reading h.reading_right a c
  have hverdict := Store.verdict_congr h.record k.world.now c
  have hafter : SameFor a ((check a c).run k).2 ((check a c).run l).2 := by
    refine h.of_hush hkw hlw ?_ ?_
    · rw [hk, hl, Store.closed_checked, Store.closed_checked, h.closed]
    · rw [hk, hl]
      exact Store.record?_checked_congr h.record k.world.now c
  cases hv : l.store.verdict k.world.now a c with
  | error e => exact .of_failures ((hka.trans hverdict).trans hv) (hla.trans hv) hafter
  | ok x => exact .of_answers ((hka.trans hverdict).trans hv) (hla.trans hv) ⟨rfl, hafter⟩

theorem coupled_discard_same (a : String) (x y : Issued) :
    Coupled (Holding a x y) (discard a x) (discard a y) (fun _ _ => SameFor a) (SameFor a) := by
  intro k l h
  obtain ⟨hka, hk, hkw⟩ := ensures_discard k a x
  obtain ⟨hla, hl, hlw⟩ := ensures_discard l a y
  have hafter : SameFor a ((discard a x).run k).2 ((discard a y).run l).2 := by
    refine h.same.of_hush hkw hlw ?_ ?_
    · rw [hk, hl, Store.closed_discard, Store.closed_discard, h.same.closed]
    · rw [hk, hl, Store.record?_discard_self h.left, Store.record?_discard_self h.right]
  exact .of_answers hka hla hafter

theorem coupled_put_same {x y : Issued} (hxy : x.record = y.record) :
    Coupled (Drawing a) (put a x) (put a y) (fun _ _ => Holding a x y) (Drawing a) := by
  refine coupled_put (fun k l h => h.same.closed) fun k l k' l' b b' h hk hl hkw hlw => ?_
  have hleft : k'.store.find? a = some x := by rw [Store.find?_of_put hk, if_pos rfl]
  have hright : l'.store.find? a = some y := by rw [Store.find?_of_put hl, if_pos rfl]
  refine ⟨h.same.of_hush hkw hlw ?_ ?_, hxy, hleft, hright⟩
  · rw [Store.closed_of_put hk, Store.closed_of_put hl, h.same.closed]
  · rw [Store.record?, Store.record?, hleft, hright, Option.map_some, Option.map_some, hxy]

theorem coupled_generate_same (a : String) (length timeout : Int) (alphabet : Alphabet) :
    Coupled (Drawing a) (generate a length timeout alphabet) (generate a length timeout alphabet)
      (Holding a) (Drawing a) := by
  refine coupled_issue (X := fun x y => x.record = y.record) ?_ ?_ ?_
    (fun x y hxy => coupled_put_same hxy) ?_
  · exact coupled_draw (fun k l h => by rw [h.draws]) fun k l n h =>
      ⟨{ h.same with }, congrArg (·.skip n) h.draws⟩
  · intro k l h
    rw [run_clock_of_reading h.same.reading_left, run_clock_of_reading h.same.reading_right]
    exact .ok ⟨rfl, h⟩
  · exact fun r k l h => .ok ⟨rfl, { h.same with }, h.draws⟩
  · intro x y e e' k l h
    exact .ok ⟨h.same.of_hush rfl rfl h.same.closed h.same.record, h.content, h.left, h.right⟩

end Keeper

/-! ## Two gates -/

/-- What a parcel says, whatever the number of its record. -/
def Parcel.content {κ : Type} (parcel : Parcel κ) : κ × List String × Record :=
  (parcel.courier, parcel.recipients, parcel.record.record)

namespace Gate

variable {κ ω : Type} {deliver : Deliver κ ω} {a : String} {K E : Keeper → Keeper → Prop}

/-- Couriers who leave the gate alone, and who answer by the recipients and by what the record
says. -/
structure Impartial (deliver : Deliver κ ω) : Prop extends Aloof deliver where
  settings : ∀ courier recipients r g,
    ((deliver courier recipients r).after g).settings = g.settings
  directory : ∀ courier recipients r g,
    ((deliver courier recipients r).after g).directory = g.directory
  routes : ∀ courier recipients r g,
    ((deliver courier recipients r).after g).routes = g.routes
  answer : ∀ courier recipients x y g h, x.record = y.record →
    ((deliver courier recipients x).run g).1 = ((deliver courier recipients y).run h).1

/-- Two gates under one policy, with keepers that are related. -/
structure Same (K : Keeper → Keeper → Prop) (g h : Gate κ ω) : Prop where
  settings : g.settings = h.settings
  directory : g.directory = h.directory
  routes : g.routes = h.routes
  keeper : K g.keeper h.keeper

/-- Two watched gates under one policy, with keepers that are related and parcels that say the
same. -/
structure SameNotes (K : Keeper → Keeper → Prop) (g h : WatchedGate κ ω) : Prop
    extends Same K g h where
  contents : g.outside.1.map Parcel.content = h.outside.1.map Parcel.content

/-! ### What other users do -/

theorem keeps_same_inKeeper {α : Type} {act : Action Keeper α} {h : Gate κ ω}
    (hact : Keeps (K · h.keeper) act) : Keeps (Same K · h) (inKeeper act : Action (Gate κ ω) α) :=
  fun _ hgh => { hgh with keeper := hact _ hgh.keeper }

theorem Impartial.keeps (himpartial : Impartial deliver) {h : Gate κ ω} (courier : κ)
    (recipients : List String) (r : Issued) :
    Keeps (Same (Keeper.SameFor a) · h) (deliver courier recipients r) := by
  intro g hgh
  have hstore := himpartial.store courier recipients r g
  refine ⟨?_, ?_, ?_, ?_, ?_, hgh.keeper.right, ?_, ?_⟩
  · rw [himpartial.settings, hgh.settings]
  · rw [himpartial.directory, hgh.directory]
  · rw [himpartial.routes, hgh.routes]
  · rw [himpartial.now, hgh.keeper.now]
  · rw [himpartial.clockFailures, hgh.keeper.left]
  · rw [hstore, hgh.keeper.closed]
  · rw [hstore, hgh.keeper.record]

theorem keeps_verify_of_ne (himpartial : Impartial deliver) {p : Principal}
    (hp : p.identifier ≠ a) (response : Option Glyphs) (h : Gate κ ω) :
    Keeps (Same (Keeper.SameFor a) · h) (verify deliver p response) := by
  refine keeps_verify (fun g g' hhush hgh => ?_) (fun _ _ _ => himpartial.keeps _ _ _)
    (fun _ _ _ => keeps_same_inKeeper (Keeper.keeps_generate_of_ne hp _ _ _))
    (fun _ => keeps_same_inKeeper (Keeper.keeps_discard_of_ne hp _))
    (fun _ => keeps_same_inKeeper (Keeper.keeps_check_of_ne hp _)) response
  obtain ⟨hsettings, hdirectory, hroutes, hworld, hstore, -⟩ := hush_eq_iff.mp hhush
  refine ⟨?_, ?_, ?_, hgh.keeper.of_hush hworld rfl ?_ ?_⟩
  · rw [hsettings, hgh.settings]
  · rw [hdirectory, hgh.directory]
  · rw [hroutes, hgh.routes]
  · rw [hstore, hgh.keeper.closed]
  · rw [hstore, hgh.keeper.record]

/-! ### What the user does -/

theorem deaf_sameNotes (hK : ∀ k l k' l', K k l → k'.world.hush = k.world.hush →
    k'.store = k.store → l'.world.hush = l.world.hush → l'.store = l.store → K k' l') :
    Deaf (@SameNotes κ ω K) where
  told _ hgh := { hgh with keeper := hK _ _ _ _ hgh.keeper rfl rfl rfl rfl }
  metered _ hgh := { hgh with keeper := hK _ _ _ _ hgh.keeper rfl rfl rfl rfl }

theorem coupled_sameNotes_inKeeper {α : Type} {act act' : Action Keeper α}
    {Q : α → α → Keeper → Keeper → Prop} (hact : Coupled K act act' Q E) :
    Coupled (@SameNotes κ ω K) (inKeeper act) (inKeeper act')
      (fun x y => SameNotes (Q x y)) (SameNotes E) :=
  hact.on (fun _ _ hgh => hgh.keeper) (fun _ _ _ _ _ _ hgh hxy => { hgh with keeper := hxy })
    fun _ _ _ _ hgh hkl => { hgh with keeper := hkl }

theorem deaf_sameFor : Deaf (@SameNotes κ ω (Keeper.SameFor a)) :=
  deaf_sameNotes fun _ _ _ _ hkl hk hks hl hls =>
    hkl.of_hush hk hl (by rw [hks, hls, hkl.closed]) (by rw [hks, hls, hkl.record])

theorem deaf_drawing : Deaf (@SameNotes κ ω (Keeper.Drawing a)) :=
  deaf_sameNotes fun _ _ _ _ hkl hk hks hl hls =>
    ⟨hkl.same.of_hush hk hl (by rw [hks, hls, hkl.same.closed]) (by rw [hks, hls, hkl.same.record]),
      by rw [World.draws_eq_of_hush hk, World.draws_eq_of_hush hl, hkl.draws]⟩

theorem deaf_holding (x y : Issued) :
    Deaf (@SameNotes κ ω (Keeper.Holding a x y)) :=
  deaf_sameNotes fun _ _ _ _ hkl hk hks hl hls =>
    ⟨hkl.same.of_hush hk hl (by rw [hks, hls, hkl.same.closed]) (by rw [hks, hls, hkl.same.record]),
      hkl.content, by rw [hks, hkl.left], by rw [hls, hkl.right]⟩

theorem Same.watched {g h : Gate κ ω} {sent sent' : List (Parcel κ)} (hgh : Same K g h)
    (hsent : sent.map Parcel.content = sent'.map Parcel.content) :
    SameNotes K (g.watched sent) (h.watched sent') :=
  ⟨⟨hgh.settings, hgh.directory, hgh.routes, hgh.keeper⟩, hsent⟩

theorem SameNotes.unwatched {g h : WatchedGate κ ω} (hgh : SameNotes K g h) :
    Same K g.unwatched h.unwatched :=
  ⟨hgh.settings, hgh.directory, hgh.routes, hgh.keeper⟩

theorem Impartial.holding (himpartial : Impartial deliver) {x y : Issued} {g h : Gate κ ω}
    (hgh : Same (Keeper.Holding a x y) g h) (courier : κ) (recipients : List String) :
    Same (Keeper.Holding a x y) ((deliver courier recipients x).after g)
      ((deliver courier recipients y).after h) := by
  refine ⟨?_, ?_, ?_, ⟨⟨?_, ?_, ?_, ?_, ?_⟩, hgh.keeper.content, ?_, ?_⟩⟩
  · rw [himpartial.settings, himpartial.settings, hgh.settings]
  · rw [himpartial.directory, himpartial.directory, hgh.directory]
  · rw [himpartial.routes, himpartial.routes, hgh.routes]
  · rw [himpartial.now, himpartial.now, hgh.keeper.same.now]
  · rw [himpartial.clockFailures, hgh.keeper.same.left]
  · rw [himpartial.clockFailures, hgh.keeper.same.right]
  · rw [himpartial.store, himpartial.store, hgh.keeper.same.closed]
  · rw [himpartial.store, himpartial.store, hgh.keeper.same.record]
  · rw [himpartial.store, hgh.keeper.left]
  · rw [himpartial.store, hgh.keeper.right]

theorem coupled_noting_holding (himpartial : Impartial deliver) (courier : κ)
    (recipients : List String) {x y : Issued} :
    Coupled (SameNotes (Keeper.Holding a x y)) (noting deliver courier recipients x)
      (noting deliver courier recipients y) (fun _ _ => SameNotes (Keeper.Holding a x y))
      (SameNotes (Keeper.Holding a x y)) := by
  intro g h hgh
  have hxy := hgh.keeper.content
  have hanswer := himpartial.answer courier recipients x y g.unwatched h.unwatched hxy
  have hafter := himpartial.holding hgh.unwatched courier recipients
  have hsent : (g.outside.1 ++ [(⟨courier, recipients, x⟩ : Parcel κ)]).map Parcel.content
      = (h.outside.1 ++ [(⟨courier, recipients, y⟩ : Parcel κ)]).map Parcel.content := by
    rw [List.map_append, List.map_append, hgh.contents, List.map_singleton, List.map_singleton,
      Parcel.content, Parcel.content, hxy]
  rw [run_noting, run_noting, hanswer]
  rcases ((deliver courier recipients y).run h.unwatched).1 with e | receipt
  · exact .error (hafter.watched hsent)
  · exact .ok (hafter.watched hsent)

theorem coupled_verify_same (himpartial : Impartial deliver) {p : Principal}
    (hp : p.identifier = a) (response : Option Glyphs) :
    Coupled (SameNotes (Keeper.Drawing a)) (verify (noting deliver) p response)
      (verify (noting deliver) p response)
      (fun o o' g h => o = o' ∧ SameNotes (Keeper.SameFor a) g h)
      (SameNotes (Keeper.SameFor a)) := by
  subst hp
  have hsame : ∀ g h : WatchedGate κ ω,
      SameNotes (Keeper.Drawing p.identifier) g h → SameNotes (Keeper.SameFor p.identifier) g h :=
    fun g h hgh => { hgh with keeper := hgh.keeper.same }
  have hheld : ∀ x y, ∀ g h : WatchedGate κ ω,
      SameNotes (Keeper.Holding p.identifier x y) g h →
        SameNotes (Keeper.SameFor p.identifier) g h :=
    fun x y g h hgh => { hgh with keeper := hgh.keeper.same }
  refine coupled_verify response (fun g h hgh => ⟨hgh.settings, hgh.directory⟩) hsame deaf_drawing
    deaf_sameFor (fun _ => rfl) (fun policy => ?_) (fun code => ?_) fun o o' hoo' => ?_
  · refine ((coupled_sameNotes_inKeeper (Keeper.coupled_generate_same ..)).imp
      (fun _ _ hgh => hgh) (fun _ _ _ _ hxy => hxy) hsame).bind fun x y g h hxy => ?_
    exact coupled_sendOut (congrArg Record.expiresAt hxy.keeper.content) deaf_sameFor (hheld x y)
      (coupled_dispatch (fun _ _ hgh => hgh.routes) (deaf_holding x y) (fun _ _ hgh => hgh)
        fun courier => coupled_noting_holding himpartial courier _)
      (coupled_sameNotes_inKeeper (Keeper.coupled_discard_same _ x y)) hxy
  · refine ((coupled_sameNotes_inKeeper (Keeper.coupled_check_same ..)).imp hsame
      (fun _ _ _ _ hxy => hxy) fun _ _ hgh => hgh).bind fun x y => ?_
    exact coupled_pure fun g h hxy => ⟨by rw [hxy.keeper.1], { hxy with keeper := hxy.keeper.2 }⟩
  · subst hoo'
    intro g h hgh
    rw [run_finish, run_finish]
    exact .ok ⟨rfl, deaf_sameFor.metered _ (deaf_sameFor.told _ hgh)⟩

end Gate

/-! ## Runs -/

/-- What one user sees of a turn: its answer, the messages, and the user's record after it. -/
structure View (κ : Type) where
  answer : Except Failure (Option Outcome)
  messages : List (κ × List String × Record)
  record : Option Record

namespace Turn

variable {κ ω : Type}

def user? : Turn → Option String
  | verify p _ | loggedIn p => some p.identifier
  | _ => none

def view (deliver : Gate.Deliver κ ω) (a : String) (g : Gate κ ω) (t : Turn) : View κ :=
  ⟨((t.perform deliver).run g).1, (t.parcels deliver g).map Parcel.content,
    ((t.perform deliver).after g).keeper.store.record? a⟩

/-- What a user sees of the user's own turns in a run. -/
def views (deliver : Gate.Deliver κ ω) (a : String) (g : Gate κ ω) (turns : List Turn) :
    List (View κ) :=
  ((trace (perform deliver) g turns).filter (·.input.user? = some a)).map fun e =>
    e.input.view deliver a e.before

/-- The turns of a run without those of the other users. Before each turn that is left, the
draws are set to what they were in the run. -/
def spared (deliver : Gate.Deliver κ ω) (a : String) : Gate κ ω → List Turn → List Turn
  | _, [] => []
  | g, t :: rest =>
    let rest := spared deliver a ((t.perform deliver).after g) rest
    if t.user?.all (· = a) then draws g.keeper.world.draws :: t :: rest else rest

variable {deliver : Gate.Deliver κ ω} {a : String} {t : Turn} {g h : Gate κ ω}

theorem keeps_perform_of_ne (himpartial : Gate.Impartial deliver) {b : String}
    (ht : t.user? = some b) (hb : b ≠ a) (h : Gate κ ω) :
    Keeps (Gate.Same (Keeper.SameFor a) · h) (t.perform deliver) := by
  cases t with
  | verify p response =>
      obtain rfl := Option.some.inj ht
      rw [perform, map_eq_pure_bind]
      exact (Gate.keeps_verify_of_ne himpartial hb response h).bind fun _ => keeps_pure _
  | loggedIn p =>
      obtain rfl := Option.some.inj ht
      rw [perform, map_eq_pure_bind]
      refine Keeps.bind ?_ fun _ => keeps_pure _
      intro g hgh
      cases hp : p.isAnonymous with
      | true =>
          rw [after, Gate.run_loggedIn_of_anonymous hp]
          exact hgh
      | false =>
          rw [after, Gate.run_loggedIn_of_named hp]
          exact { hgh with keeper := Keeper.keeps_invalidate_of_ne hb _ hgh.keeper }
  | _ => cases ht

/-- A turn that is not another user's, made at two gates that are the same for the user. -/
theorem view_eq_of_same (himpartial : Gate.Impartial deliver) (ht : t.user?.all (· = a) = true)
    (hgh : Gate.Same (Keeper.SameFor a) g h)
    (hdraws : g.keeper.world.draws = h.keeper.world.draws) :
    t.view deliver a g = t.view deliver a h ∧
      Gate.Same (Keeper.SameFor a) ((t.perform deliver).after g) ((t.perform deliver).after h) := by
  have hview : ((t.perform deliver).run g).1 = ((t.perform deliver).run h).1 →
      (t.parcels deliver g).map Parcel.content = (t.parcels deliver h).map Parcel.content →
      Gate.Same (Keeper.SameFor a) ((t.perform deliver).after g) ((t.perform deliver).after h) →
      t.view deliver a g = t.view deliver a h ∧ Gate.Same (Keeper.SameFor a)
        ((t.perform deliver).after g) ((t.perform deliver).after h) := by
    intro hanswer hparcels hafter
    refine ⟨?_, hafter⟩
    rw [view, view, hanswer, hparcels, hafter.keeper.record]
  cases t with
  | verify p response =>
      have hp : p.identifier = a := of_decide_eq_true ht
      have hdrawing : Gate.Same (Keeper.Drawing a) g h :=
        { hgh with keeper := ⟨hgh.keeper, hdraws⟩ }
      have hpaired := Gate.paired_verify
        (Gate.coupled_verify_same himpartial hp response (hdrawing.watched rfl))
      unfold after at hview ⊢
      simp only [perform, run_map, parcels] at hview ⊢
      generalize (Gate.verify deliver p response).run g = u,
        (Gate.verify deliver p response).run h = v at hpaired hview ⊢
      cases hpaired with
      | ok hsame =>
          obtain ⟨rfl, hsame⟩ := hsame
          exact hview rfl hsame.contents hsame.unwatched
      | error hsame => exact hview rfl hsame.contents hsame.unwatched
  | loggedIn p =>
      have hp : p.identifier = a := of_decide_eq_true ht
      unfold after at hview ⊢
      simp only [perform, run_map] at hview ⊢
      cases hanonymous : p.isAnonymous with
      | true =>
          rw [Gate.run_loggedIn_of_anonymous hanonymous,
            Gate.run_loggedIn_of_anonymous hanonymous] at hview ⊢
          exact hview rfl rfl hgh
      | false =>
          rw [Gate.run_loggedIn_of_named hanonymous,
            Gate.run_loggedIn_of_named hanonymous] at hview ⊢
          exact hview rfl rfl { hgh with keeper := hp ▸ (hp ▸ hgh.keeper).invalidate }
  | sweep duration =>
      have hleft := (Keeper.ensures_sweep_of_reading hgh.keeper.reading_left duration).1
      have hright := (Keeper.ensures_sweep_of_reading hgh.keeper.reading_right duration).1
      unfold after at hview ⊢
      simp only [perform, run_map, Gate.run_inKeeper] at hview ⊢
      refine hview ?_ rfl { hgh with keeper := hgh.keeper.sweep duration }
      rw [hleft, hright]
      rfl
  | shutdown =>
      unfold after at hview ⊢
      simp only [perform, run_map, Gate.run_shutdown] at hview ⊢
      have hkeeper := hgh.keeper.shutdown
      exact hview trivial rfl
        { hgh with keeper := hkeeper.of_hush rfl rfl hkeeper.closed hkeeper.record }
  | clock now => exact hview rfl rfl { hgh with keeper := { hgh.keeper with now := rfl } }
  | directory d => exact hview rfl rfl { hgh with directory := rfl }
  | draws d => exact hview rfl rfl { hgh with keeper := { hgh.keeper with } }

theorem views_cons (deliver : Gate.Deliver κ ω) (a : String) (g : Gate κ ω) (t : Turn)
    (turns : List Turn) : views deliver a g (t :: turns) =
      if t.user? = some a then
        t.view deliver a g :: views deliver a ((t.perform deliver).after g) turns
      else views deliver a ((t.perform deliver).after g) turns := by
  by_cases ht : t.user? = some a <;> simp [views, trace, step, ht]

theorem views_spared_of_same (himpartial : Gate.Impartial deliver) (turns : List Turn)
    (hgh : Gate.Same (Keeper.SameFor a) g h) :
    views deliver a h (spared deliver a g turns) = views deliver a g turns := by
  induction turns generalizing g h with
  | nil => rfl
  | cons t rest ih =>
      rw [spared, views_cons]
      cases ht : t.user?.all (· = a) with
      | true =>
          have hset : Gate.Same (Keeper.SameFor a) g
              ((perform deliver (.draws g.keeper.world.draws)).after h) :=
            { hgh with keeper := { hgh.keeper with } }
          obtain ⟨hview, hafter⟩ := view_eq_of_same himpartial ht hset rfl
          have hnobody : ¬ (draws g.keeper.world.draws).user? = some a := nofun
          rw [if_pos rfl, views_cons, if_neg hnobody, views_cons, ← hview, ih hafter]
      | false =>
          obtain ⟨b, hb, hne⟩ : ∃ b, t.user? = some b ∧ b ≠ a := by
            cases hu : t.user? with
            | none => rw [hu] at ht; cases ht
            | some b => exact ⟨b, rfl, fun h => by simp [hu, h] at ht⟩
          have hother : ¬ t.user? = some a := fun h => hne (Option.some.inj (hb.symm.trans h))
          rw [if_neg (by simp), if_neg hother]
          exact ih (keeps_perform_of_ne himpartial hb hne h g hgh)

/-- Users notice nothing of each other. Under a clock that answers, and with couriers who
answer by the recipients and the record they are given, a user sees the same of a run whether
or not the other users take part in it. -/
theorem views_spared (himpartial : Gate.Impartial deliver) (a : String) (turns : List Turn)
    (hclock : g.keeper.world.clockFailures = 0) :
    views deliver a g (spared deliver a g turns) = views deliver a g turns :=
  views_spared_of_same himpartial turns
    ⟨rfl, rfl, rfl, rfl, hclock, hclock, rfl, rfl⟩

theorem impartial_handOver : Gate.Impartial Gate.handOver where
  store _ _ _ _ := rfl
  now _ _ _ _ := rfl
  clockFailures _ _ _ _ := rfl
  settings _ _ _ _ := rfl
  directory _ _ _ _ := rfl
  routes _ _ _ _ := rfl
  answer _ _ _ _ _ _ _ := rfl

/-- A user gets a code and uses it while another one gets a code before, guesses at the wrong
one and completes a login. -/
theorem views_of_one_of_two :
    ∃ g, Gate.new .usual .empty (Keyed.empty.put .email ()) ()
        { now := ⟨1000000, by decide⟩, draws := .cycle [3, 1, 4, 1, 5, 9, 2, 6] } = .ok g ∧
      views Gate.handOver "ada" g (spared Gate.handOver "ada" g [
          .verify (.withMail "bob" "bob@example.org") none,
          .verify (.withMail "ada" "ada@example.org") none,
          .verify (.withMail "bob" "bob@example.org") (some (.ofString "263141")), .sweep 0,
          .loggedIn (.withMail "bob" ""),
          .verify (.withMail "ada" "ada@example.org") (some (.ofString "263141"))])
        = views Gate.handOver "ada" g [
          .verify (.withMail "bob" "bob@example.org") none,
          .verify (.withMail "ada" "ada@example.org") none,
          .verify (.withMail "bob" "bob@example.org") (some (.ofString "263141")), .sweep 0,
          .loggedIn (.withMail "bob" ""),
          .verify (.withMail "ada" "ada@example.org") (some (.ofString "263141"))] := by
  have hnew : Gate.new .usual .empty (Keyed.empty.put .email ()) ()
    { now := ⟨1000000, by decide⟩, draws := .cycle [3, 1, 4, 1, 5, 9, 2, 6] } = .ok _ := rfl
  exact ⟨_, hnew, views_spared impartial_handOver "ada" _ rfl⟩

end Turn

end Passcode
