import Mathlib.Data.List.Forall2
import Passcode.Proofs.Turns

/-!
# What sweeping can be seen by

Sweeps may come at any time: between the turns of a run, and while a courier delivers. Two
runs that differ in their sweeps alone are related by `Lockstep`: the records of one that
are still in time are the records of the other that are still in time. Every operation of a
keeper preserves that, a sweep on one side does too, and as time goes on it asks for less.

So the two runs come to the same outcomes and hand over the same parcels (`sweeps_unseen`),
but for one thing: a late code is found expired where its record is still there, and not
found where a sweep has been.
-/

namespace Passcode

open Passcode.Action Run

/-! ## Two keepers -/

namespace Keeper

/-- Two keepers in one world, both with a working clock that has not come to any of the later
instants yet, whose stores hold the same records that are still in time. -/
structure Lockstep (later : List Instant) (k l : Keeper) : Prop where
  world : k.world.hush = l.world.hush
  answering : k.world.clockFailures = 0
  early : ∀ t ∈ later, k.world.now ≤ t
  closed : k.store.closed = l.store.closed
  live : ∀ id x, k.world.now < x.record.expiresAt →
    (k.store.find? id = some x ↔ l.store.find? id = some x)

variable {later : List Instant} {k k' l l' : Keeper} {id : String}

namespace Lockstep

theorem reading_left (h : Lockstep later k l) : k.world.reading? = some k.world.now :=
  World.reading?_of_answering h.answering

theorem reading_right (h : Lockstep later k l) : l.world.reading? = some k.world.now := by
  rw [← World.reading?_eq_of_hush h.world, h.reading_left]

/-- Nothing but the stores matters if the worlds are as they were. -/
theorem of_hush (h : Lockstep later k l) (hk : k'.world.hush = k.world.hush)
    (hl : l'.world.hush = l.world.hush) (hclosed : k'.store.closed = l'.store.closed)
    (hlive : ∀ id x, k.world.now < x.record.expiresAt →
      (k'.store.find? id = some x ↔ l'.store.find? id = some x)) : Lockstep later k' l' where
  world := by rw [hk, hl, h.world]
  answering := (World.clockFailures_eq_of_hush hk).trans h.answering
  early := by rw [World.now_eq_of_hush hk]; exact h.early
  closed := hclosed
  live := by rw [World.now_eq_of_hush hk]; exact hlive

theorem mono {sooner : List Instant} (h : Lockstep later k l) (hsub : ∀ t ∈ sooner, t ∈ later) :
    Lockstep sooner k l :=
  { h with early := fun t ht => h.early t (hsub t ht) }

/-- A sweep on one side takes nothing away that is still in time. -/
theorem sweep_left (h : Lockstep later k l) (duration : Float) :
    Lockstep later ((sweep duration).after k) l := by
  obtain ⟨-, hstore, hworld⟩ := ensures_sweep_of_reading h.reading_left duration
  rw [after]
  refine h.of_hush hworld rfl (by rw [hstore, Store.closed_sweep, h.closed]) fun id x hx => ?_
  rw [hstore, Store.find?_sweep_eq_some_iff, h.live id x hx]
  exact and_iff_left hx

theorem invalidate (h : Lockstep later k l) (id : String) :
    Lockstep later ((invalidate id).after k) ((Keeper.invalidate id).after l) := by
  obtain ⟨-, hk, hkw⟩ := ensures_invalidate k id
  obtain ⟨-, hl, hlw⟩ := ensures_invalidate l id
  rw [after, after]
  refine h.of_hush hkw hlw ?_ fun j x hx => ?_
  · rw [hk, hl, Store.closed_remove, Store.closed_remove, h.closed]
  · rw [hk, hl, Store.find?_remove_eq_some_iff, Store.find?_remove_eq_some_iff, h.live j x hx]

theorem discard (h : Lockstep later k l) (id : String) (r : Issued) :
    Lockstep later ((discard id r).after k) ((Keeper.discard id r).after l) := by
  obtain ⟨-, hk, hkw⟩ := ensures_discard k id r
  obtain ⟨-, hl, hlw⟩ := ensures_discard l id r
  rw [after, after]
  refine h.of_hush hkw hlw ?_ fun j x hx => ?_
  · rw [hk, hl, Store.closed_discard, Store.closed_discard, h.closed]
  · rw [hk, hl, Store.find?_discard_eq_some_iff, Store.find?_discard_eq_some_iff, h.live j x hx]

theorem shutdown (h : Lockstep later k l) :
    Lockstep later (shutdown.after k) (Keeper.shutdown.after l) := by
  obtain ⟨-, hk, hkw⟩ := ensures_shutdown k
  obtain ⟨-, hl, hlw⟩ := ensures_shutdown l
  rw [after, after]
  refine h.of_hush hkw hlw ?_ fun j x _ => ?_
  · rw [hk, hl]
    rfl
  · rw [hk, hl, Store.find?_close, Store.find?_close]

end Lockstep

/-- Two findings of one code: the same, or two that say it is of no use any more. -/
def SameFinding (x y : CheckResult) : Prop :=
  x = y ∨ (x = .noChallenge ∨ x = .expired) ∧ (y = .noChallenge ∨ y = .expired)

/-- Two checks find the same, unless both find a code that is of no use any more. -/
theorem Lockstep.verdict_cases (h : Lockstep later k l) (id : String) (c : Option Glyphs) :
    k.store.verdict k.world.now id c = l.store.verdict k.world.now id c ∨
      ∃ x y, k.store.verdict k.world.now id c = .ok x ∧ l.store.verdict k.world.now id c = .ok y ∧
        (x = .noChallenge ∨ x = .expired) ∧ (y = .noChallenge ∨ y = .expired) := by
  by_cases hlive : ∃ x, k.store.find? id = some x ∧ k.world.now < x.record.expiresAt
  · obtain ⟨x, hx, hlt⟩ := hlive
    unfold Store.verdict
    rw [hx, (h.live id x hlt).mp hx]
    exact .inl rfl
  · have hk : ∀ r, k.store.find? id = some r → r.record.expiresAt ≤ k.world.now := fun r hr =>
      Nat.le_of_not_lt fun hlt => hlive ⟨r, hr, hlt⟩
    have hl : ∀ r, l.store.find? id = some r → r.record.expiresAt ≤ k.world.now := fun r hr =>
      Nat.le_of_not_lt fun hlt => hlive ⟨r, (h.live id r hlt).mpr hr, hlt⟩
    rcases Store.verdict_of_lapsed c hk with hv | hv <;>
      rcases Store.verdict_of_lapsed c hl with hv' | hv' <;>
      exact .inr ⟨_, _, hv, hv', by simp, by simp⟩

theorem Lockstep.checked (h : Lockstep later k l) (id : String) (c : Option Glyphs) (j : String)
    (x : Issued) (hx : k.world.now < x.record.expiresAt) :
    (k.store.checked k.world.now id c).find? j = some x ↔
      (l.store.checked k.world.now id c).find? j = some x := by
  have haccepted : k.store.verdict k.world.now id c = .ok .accepted ↔
      l.store.verdict k.world.now id c = .ok .accepted := by
    obtain hv | ⟨_, _, hv, hv', rfl | rfl, rfl | rfl⟩ := h.verdict_cases id c <;> simp [*]
  obtain ⟨hk, hk'⟩ | ⟨hk, hk'⟩ := k.store.checked_cases k.world.now id c <;>
    obtain ⟨hl, hl'⟩ | ⟨hl, hl'⟩ := l.store.checked_cases k.world.now id c <;> rw [hk', hl']
  · rw [Store.find?_remove_eq_some_iff, Store.find?_remove_eq_some_iff, h.live j x hx]
  · exact absurd (haccepted.mp hk) hl
  · exact absurd (haccepted.mpr hl) hk
  · exact h.live j x hx

theorem coupled_lockstep_check (id : String) (c : Option Glyphs) :
    Coupled (Lockstep later) (check id c) (check id c)
      (fun x y k l => SameFinding x y ∧ Lockstep later k l) (Lockstep later) := by
  intro k l h
  obtain ⟨hka, hk, hkw⟩ := ensures_check_of_reading h.reading_left id c
  obtain ⟨hla, hl, hlw⟩ := ensures_check_of_reading h.reading_right id c
  have hafter : Lockstep later ((check id c).run k).2 ((check id c).run l).2 := by
    refine h.of_hush hkw hlw ?_ fun j x hx => ?_
    · rw [hk, hl, Store.closed_checked, Store.closed_checked, h.closed]
    · rw [hk, hl]
      exact h.checked id c j x hx
  obtain hsame | ⟨x, y, hx, hy, hlapsed⟩ := h.verdict_cases id c
  · cases hv : l.store.verdict k.world.now id c with
    | error e => exact .of_failures ((hka.trans hsame).trans hv) (hla.trans hv) hafter
    | ok y => exact .of_answers ((hka.trans hsame).trans hv) (hla.trans hv) ⟨.inl rfl, hafter⟩
  · exact .of_answers (hka.trans hx) (hla.trans hy) ⟨.inr hlapsed, hafter⟩

theorem coupled_lockstep_discard (id : String) (r : Issued) :
    Coupled (Lockstep later) (discard id r) (discard id r)
      (fun _ _ k l => True ∧ Lockstep later k l) (Lockstep later) := by
  intro k l h
  obtain ⟨hk, -⟩ := ensures_discard k id r
  obtain ⟨hl, -⟩ := ensures_discard l id r
  exact .of_answers hk hl ⟨trivial, h.discard id r⟩

theorem coupled_lockstep_draw (length : Int) (alphabet : Alphabet) :
    Coupled (Lockstep later) (inWorld (World.drawCode length alphabet))
      (inWorld (World.drawCode length alphabet)) (fun x y k l => x = y ∧ Lockstep later k l)
      (Lockstep later) := by
  refine coupled_draw (fun k l h => ?_) fun k l n h => { h with world := ?_ }
  · rw [World.draws_eq_of_hush h.world]
  · exact congrArg (fun w : World => { w with draws := w.draws.skip n }) h.world

theorem coupled_lockstep_clock : Coupled (Lockstep later) (inWorld World.clock)
    (inWorld World.clock) (fun x y k l => x = y ∧ Lockstep later k l) (Lockstep later) := by
  intro k l h
  rw [run_clock_of_reading h.reading_left, run_clock_of_reading h.reading_right]
  exact .ok ⟨rfl, h⟩

theorem coupled_lockstep_number (r : Record) :
    Coupled (Lockstep later) (inWorld (World.number r)) (inWorld (World.number r))
      (fun x y k l => x = y ∧ Lockstep later k l) (Lockstep later) := by
  intro k l h
  have hmade : k.world.made = l.world.made := World.made_eq_of_hush h.world
  rw [run_inWorld, run_inWorld, World.run_number, World.run_number, hmade]
  refine .ok ⟨rfl, { h with world := ?_ }⟩
  exact congrArg (fun w : World => { w with made := l.world.made + 1 }) h.world

theorem coupled_lockstep_generate (id : String) (length timeout : Int) (alphabet : Alphabet) :
    Coupled (Lockstep later) (generate id length timeout alphabet)
      (generate id length timeout alphabet) (fun x y k l => x = y ∧ Lockstep later k l)
      (Lockstep later) := by
  refine coupled_issue (coupled_lockstep_draw length alphabet) coupled_lockstep_clock
    coupled_lockstep_number (fun x y hxy => ?_) fun x y e e' => ?_
  · subst hxy
    refine coupled_put (fun k l h => h.closed) fun k l k' l' b b' h hk hl hkw hlw => ?_
    refine ⟨rfl, h.of_hush hkw hlw ?_ fun j z hz => ?_⟩
    · rw [Store.closed_of_put hk, Store.closed_of_put hl, h.closed]
    · rw [Store.find?_eq_some_iff_of_put hk, Store.find?_eq_some_iff_of_put hl, h.live j z hz]
  · intro k l h
    exact .ok ⟨h.1, h.2.of_hush rfl rfl h.2.closed h.2.live⟩

end Keeper

/-! ## What happens beside the turns -/

/-- What may happen while a courier delivers. -/
inductive Aside where
  | clock (now : Instant)
  | sweep (duration : Float)

namespace Aside

variable {κ ω : Type}

def isSweep : Aside → Bool
  | clock _ => false
  | sweep _ => true

def times : List Aside → List Instant
  | [] => []
  | clock now :: rest => now :: times rest
  | sweep _ :: rest => times rest

/-- Without the sweeps. -/
def unswept (asides : List Aside) : List Aside := asides.filter (!·.isSweep)

/-- Lets things happen in order. -/
def perform : List Aside → Action (Gate κ ω) Unit
  | [] => return ⟨⟩
  | clock now :: rest => do
    Gate.inWorld (modify fun w => { w with now })
    perform rest
  | sweep duration :: rest => do
    let _ ← Gate.inKeeper (Keeper.sweep duration)
    perform rest

end Aside

namespace Gate

variable {κ ω : Type} {later : List Instant} {g h : Gate κ ω}

/-- Couriers while things happen beside them, before and after they do what they do. -/
def amid (deliver : Deliver κ ω) (before after : List Aside) : Deliver κ ω :=
  fun courier recipients r => do
    Aside.perform before
    let answer ← (deliver courier recipients r).attempt
    Aside.perform after
    answer

/-- A gate without its store, its metrics and its log. -/
def surroundings (g : Gate κ ω) : Settings × Directory × Routes κ × World × ω :=
  (g.settings, g.directory, g.routes, g.keeper.world.hush, g.outside)

/-- Couriers who leave the store and the clock alone, and to whom the store, the metrics and
the log are nothing. -/
structure Steady (deliver : Deliver κ ω) : Prop extends Aloof deliver where
  answer : ∀ courier recipients r g h, g.surroundings = h.surroundings →
    ((deliver courier recipients r).run g).1 = ((deliver courier recipients r).run h).1
  surroundings : ∀ courier recipients r g h, g.surroundings = h.surroundings →
    ((deliver courier recipients r).after g).surroundings =
      ((deliver courier recipients r).after h).surroundings

/-! ## Two gates -/

/-- Two gates with one outside, whose keepers are in lockstep. -/
structure Lockstep (later : List Instant) (g h : Gate κ ω) : Prop where
  settings : g.settings = h.settings
  directory : g.directory = h.directory
  routes : g.routes = h.routes
  outside : g.outside = h.outside
  keeper : Keeper.Lockstep later g.keeper h.keeper

theorem Lockstep.mono {sooner : List Instant} (hgh : Lockstep later g h)
    (hsub : ∀ t ∈ sooner, t ∈ later) : Lockstep sooner g h :=
  { hgh with keeper := hgh.keeper.mono hsub }

theorem Lockstep.of_hush {g' h' : Gate κ ω} (hgh : Lockstep later g h) (hg : g'.hush = g.hush)
    (hh : h'.hush = h.hush) : Lockstep later g' h' := by
  obtain ⟨hs, hd, hr, hw, hstore, ho⟩ := hush_eq_iff.mp hg
  obtain ⟨hs', hd', hr', hw', hstore', ho'⟩ := hush_eq_iff.mp hh
  refine ⟨?_, ?_, ?_, ?_, hgh.keeper.of_hush hw hw' ?_ ?_⟩
  · rw [hs, hs', hgh.settings]
  · rw [hd, hd', hgh.directory]
  · rw [hr, hr', hgh.routes]
  · rw [ho, ho', hgh.outside]
  · rw [hstore, hstore', hgh.keeper.closed]
  · rw [hstore, hstore']
    exact hgh.keeper.live

theorem deaf_lockstep : Deaf (@Lockstep κ ω later) where
  told _ hgh := hgh.of_hush rfl rfl
  metered _ hgh := hgh.of_hush rfl rfl

theorem coupled_lockstep_inKeeper {α : Type} {a b : Action Keeper α} {Q : α → α → Prop}
    (hab : Coupled (Keeper.Lockstep later) a b (fun x y k l => Q x y ∧ Keeper.Lockstep later k l)
      (Keeper.Lockstep later)) :
    Coupled (Lockstep later) (inKeeper a : Action (Gate κ ω) α) (inKeeper b)
      (fun x y g h => Q x y ∧ Lockstep later g h) (Lockstep later) :=
  hab.on (fun _ _ hgh => hgh.keeper)
    (fun _ _ _ _ _ _ hgh hxy => ⟨hxy.1, { hgh with keeper := hxy.2 }⟩)
    fun _ _ _ _ hgh hkl => { hgh with keeper := hkl }

theorem Lockstep.sweep_left (hgh : Lockstep later g h) (duration : Float) :
    ∃ n g', (inKeeper (Keeper.sweep duration) : Action (Gate κ ω) Nat).run g = (.ok n, g') ∧
      Lockstep later g' h := by
  obtain ⟨ha, -⟩ := Keeper.ensures_sweep_of_reading hgh.keeper.reading_left duration
  refine ⟨_, _, by rw [run_inKeeper, ha], ?_⟩
  exact { hgh with keeper := hgh.keeper.sweep_left duration }

/-- Time goes on alike on both sides. -/
theorem Lockstep.clock {now : Instant} (hgh : Lockstep (now :: later) g h)
    (hnow : ∀ t ∈ later, now ≤ t) :
    Lockstep later ((inWorld (modify fun w => { w with now })).after g)
      ((inWorld (modify fun w => { w with now })).after h) where
  settings := hgh.settings
  directory := hgh.directory
  routes := hgh.routes
  outside := hgh.outside
  keeper :=
    { world := congrArg (fun w : World => { w with now }) hgh.keeper.world
      answering := hgh.keeper.answering
      early := hnow
      closed := hgh.keeper.closed
      live := fun id x hx => hgh.keeper.live id x
        (Nat.lt_of_le_of_lt (hgh.keeper.early now List.mem_cons_self) hx) }

theorem coupled_perform_unswept {asides : List Aside}
    (htimes : (Aside.times asides ++ later).Pairwise (· ≤ ·)) :
    Coupled (@Lockstep κ ω (Aside.times asides ++ later)) (Aside.perform asides)
      (Aside.perform (Aside.unswept asides)) (fun _ _ => Lockstep later) (Lockstep later) := by
  induction asides with
  | nil => exact coupled_pure fun _ _ hgh => hgh
  | cons a rest ih =>
      intro g h hgh
      cases a with
      | clock now =>
          obtain ⟨hnow, hrest⟩ := List.pairwise_cons.mp htimes
          exact ih hrest (hgh.clock hnow)
      | sweep duration =>
          obtain ⟨n, g', hsweep, hgh'⟩ := hgh.sweep_left duration
          rw [Aside.perform, run_bind_of_ok hsweep]
          exact ih htimes hgh'

theorem Steady.lockstep {deliver : Deliver κ ω} (hsteady : Steady deliver)
    (hgh : Lockstep later g h) (courier : κ) (recipients : List String) (r : Issued) :
    ((deliver courier recipients r).run g).1 = ((deliver courier recipients r).run h).1 ∧
      Lockstep later ((deliver courier recipients r).after g)
        ((deliver courier recipients r).after h) := by
  have hbefore : g.surroundings = h.surroundings := by
    rw [Gate.surroundings, Gate.surroundings, hgh.settings, hgh.directory, hgh.routes,
      hgh.keeper.world, hgh.outside]
  have hafter := hsteady.surroundings courier recipients r g h hbefore
  simp only [Gate.surroundings, Prod.mk.injEq] at hafter
  obtain ⟨hsettings, hdirectory, hroutes, hworld, houtside⟩ := hafter
  have hnow := hsteady.now courier recipients r g
  refine ⟨hsteady.answer courier recipients r g h hbefore, hsettings, hdirectory, hroutes,
    houtside, hworld, ?_, ?_, ?_, ?_⟩
  · rw [hsteady.clockFailures, hgh.keeper.answering]
  · rw [hnow]
    exact hgh.keeper.early
  · rw [hsteady.store, hsteady.store, hgh.keeper.closed]
  · rw [hnow, hsteady.store, hsteady.store]
    exact hgh.keeper.live

/-- Couriers who are steady deliver alike, however often it is swept beside them. -/
theorem coupled_amid_unswept {deliver : Deliver κ ω} (hsteady : Steady deliver)
    {before after : List Aside}
    (htimes : (Aside.times before ++ (Aside.times after ++ later)).Pairwise (· ≤ ·))
    (courier : κ) (recipients : List String) (r : Issued) :
    Coupled (Lockstep (Aside.times before ++ (Aside.times after ++ later)))
      (amid deliver before after courier recipients r)
      (amid deliver (Aside.unswept before) (Aside.unswept after) courier recipients r)
      (fun x y g h => x = y ∧ Lockstep later g h) (Lockstep later) := by
  have hlater : ∀ g h : Gate κ ω, Lockstep (Aside.times after ++ later) g h → Lockstep later g h :=
    fun g h hgh => hgh.mono fun t ht => List.mem_append_right _ ht
  unfold amid
  refine ((coupled_perform_unswept htimes).imp (fun _ _ hgh => hgh) (fun _ _ _ _ hgh => hgh)
    hlater).bind fun _ _ => ?_
  have hdeliver : Coupled (Lockstep (Aside.times after ++ later))
      (deliver courier recipients r).attempt (deliver courier recipients r).attempt
      (fun x y g h => x = y ∧ Lockstep (Aside.times after ++ later) g h) (Lockstep later) := by
    intro g h hgh
    obtain ⟨hanswer, hafter⟩ := hsteady.lockstep hgh courier recipients r
    rw [run_attempt, run_attempt, hanswer]
    exact .ok ⟨rfl, hafter⟩
  refine hdeliver.bind_same fun answer => ?_
  refine (coupled_perform_unswept (List.pairwise_append.mp htimes).2.1).bind fun _ _ => ?_
  exact coupled_lift (fun _ _ _ hgh => ⟨rfl, hgh⟩) fun _ _ hgh => hgh

end Gate

/-! ## Attempts -/

/-- Outcomes of which at most the kind of a refusal differs: a code was found expired in one,
and in the other there was no code. -/
inductive SameButKind : Outcome → Outcome → Prop
  | same (o) : SameButKind o o
  | lapsed (id) : SameButKind (Gate.outcomeOf id .expired) (Gate.outcomeOf id .noChallenge)
  | swept (id) : SameButKind (Gate.outcomeOf id .noChallenge) (Gate.outcomeOf id .expired)

theorem SameButKind.of_finding {id : String} {x y : CheckResult}
    (h : Keeper.SameFinding x y) : SameButKind (Gate.outcomeOf id x) (Gate.outcomeOf id y) := by
  obtain rfl | ⟨rfl | rfl, rfl | rfl⟩ := h
  · exact .same _
  · exact .same _
  · exact .swept id
  · exact .lapsed id
  · exact .same _

namespace Gate

variable {κ ω : Type} {later : List Instant} {deliver : Deliver κ ω}

theorem coupled_lockstep_respond (p : Principal) (code : Glyphs) :
    Coupled (@Lockstep κ ω later) (respond p code) (respond p code)
      (fun o o' g h => SameButKind o o' ∧ Lockstep later g h) (Lockstep later) := by
  refine (coupled_lockstep_inKeeper (Keeper.coupled_lockstep_check p.identifier code)).bind
    fun x y => ?_
  exact coupled_pure fun g h hxy => ⟨.of_finding hxy.1, hxy.2⟩

theorem Lockstep.watched {g h : Gate κ ω} (hgh : Lockstep later g h) (parcels : List (Parcel κ)) :
    Lockstep later (g.watched parcels) (h.watched parcels) :=
  ⟨hgh.settings, hgh.directory, hgh.routes, congrArg (parcels, ·) hgh.outside, hgh.keeper⟩

theorem Lockstep.unwatched {g h : WatchedGate κ ω} (hgh : Lockstep later g h) :
    Lockstep later g.unwatched h.unwatched :=
  ⟨hgh.settings, hgh.directory, hgh.routes, congrArg Prod.snd hgh.outside, hgh.keeper⟩

/-- Parcels are noted alike. -/
theorem coupled_noting_amid_unswept (hsteady : Steady deliver) {before after : List Aside}
    (htimes : (Aside.times before ++ (Aside.times after ++ later)).Pairwise (· ≤ ·))
    (courier : κ) (recipients : List String) (r : Issued) :
    Coupled (Lockstep (Aside.times before ++ (Aside.times after ++ later)))
      (noting (amid deliver before after) courier recipients r)
      (noting (amid deliver (Aside.unswept before) (Aside.unswept after)) courier recipients r)
      (fun _ _ => Lockstep later) (Lockstep later) := by
  intro g h hgh
  have hp := coupled_amid_unswept hsteady htimes courier recipients r hgh.unwatched
  have hparcels : g.outside.1 = h.outside.1 := congrArg Prod.fst hgh.outside
  rw [run_noting, run_noting, hparcels]
  generalize (amid deliver before after courier recipients r).run g.unwatched = u,
    (amid deliver (Aside.unswept before) (Aside.unswept after) courier recipients r).run
      h.unwatched = v at hp ⊢
  cases hp with
  | ok hxy => exact .ok (hxy.2.watched _)
  | error hgh' => exact .error (hgh'.watched _)

theorem coupled_verify_unswept (hsteady : Steady deliver) {before after : List Aside}
    (htimes : (Aside.times before ++ (Aside.times after ++ later)).Pairwise (· ≤ ·))
    (p : Principal) (response : Option Glyphs) :
    Coupled (Lockstep (Aside.times before ++ (Aside.times after ++ later)))
      (verify (noting (amid deliver before after)) p response)
      (verify (noting (amid deliver (Aside.unswept before) (Aside.unswept after))) p response)
      (fun o o' g h => SameButKind o o' ∧ Lockstep later g h) (Lockstep later) := by
  have hlater : ∀ g h : WatchedGate κ ω,
      Lockstep (Aside.times before ++ (Aside.times after ++ later)) g h → Lockstep later g h :=
    fun g h hgh => hgh.mono fun t ht => List.mem_append_right _ (List.mem_append_right _ ht)
  refine coupled_verify response (fun g h hgh => ⟨hgh.settings, hgh.directory⟩) hlater
    deaf_lockstep deaf_lockstep .same (fun policy => ?_) (fun code => ?_) fun o o' hoo' => ?_
  · refine ((coupled_lockstep_inKeeper (Keeper.coupled_lockstep_generate ..)).imp
      (fun _ _ hgh => hgh) (fun _ _ _ _ hxy => hxy) hlater).bind_same fun r => ?_
    refine (coupled_sendOut rfl deaf_lockstep (fun _ _ hgh => hgh)
      (coupled_dispatch (fun _ _ hgh => hgh.routes) deaf_lockstep hlater
        (coupled_noting_amid_unswept hsteady htimes · _ r))
      ((coupled_lockstep_inKeeper (Keeper.coupled_lockstep_discard p.identifier r)).imp
        (fun _ _ hgh => hgh) (fun _ _ _ _ hxy => hxy.2) fun _ _ hgh => hgh)).imp
      (fun _ _ hgh => hgh) (fun o o' g h hoo' => ⟨hoo'.1 ▸ .same o, hoo'.2⟩) fun _ _ hgh => hgh
  · exact (coupled_lockstep_respond p code).imp hlater (fun _ _ _ _ hoo' => hoo')
      fun _ _ hgh => hgh
  · intro g h hgh
    rw [run_finish, run_finish]
    exact .ok ⟨hoo', hgh.of_hush rfl rfl⟩

end Gate

/-! ## Runs -/

/-- A turn, and what happens while a courier delivers in it. -/
structure Move where
  turn : Turn
  before : List Aside := []
  after : List Aside := []

/-- What can be seen of a move from outside: its answer and the parcels. -/
structure Observation (κ : Type) where
  answer : Except Failure (Option Outcome)
  parcels : List (Parcel κ)

/-- The same parcels with the same answers, but for the kind of a refusal. -/
def Observation.Alike {κ : Type} (x y : Observation κ) : Prop :=
  x.parcels = y.parcels ∧ (x.answer = y.answer ∨
    ∃ o o', x.answer = .ok (some o) ∧ y.answer = .ok (some o') ∧ SameButKind o o')

theorem outcomeOf_expired_inj {id id' : String}
    (h : Gate.outcomeOf id .expired = Gate.outcomeOf id' .expired) : id = id' := by
  have hcause := (Outcome.rejected.inj h).2.2
  simpa using hcause

theorem outcomeOf_noChallenge_inj {id id' : String}
    (h : Gate.outcomeOf id .noChallenge = Gate.outcomeOf id' .noChallenge) : id = id' := by
  have hcause := (Outcome.rejected.inj h).2.2
  simpa using hcause

theorem SameButKind.symm {o o' : Outcome} (h : SameButKind o o') : SameButKind o' o := by
  cases h with
  | same => exact .same _
  | lapsed id => exact .swept id
  | swept id => exact .lapsed id

theorem SameButKind.trans {o o' o'' : Outcome} (h : SameButKind o o') (h' : SameButKind o' o'') :
    SameButKind o o'' := by
  generalize ho : o' = x at h'
  cases h with
  | same => exact ho ▸ h'
  | lapsed id =>
      cases h' with
      | same => exact ho ▸ .lapsed id
      | lapsed id' => simp [Gate.outcomeOf, Outcome.refuse] at ho
      | swept id' => exact outcomeOf_noChallenge_inj ho ▸ .same _
  | swept id =>
      cases h' with
      | same => exact ho ▸ .swept id
      | lapsed id' => exact outcomeOf_expired_inj ho ▸ .same _
      | swept id' => simp [Gate.outcomeOf, Outcome.refuse] at ho

namespace Observation

variable {κ : Type} {x y z : Observation κ} {xs ys zs : List (Observation κ)}

theorem Alike.symm (h : x.Alike y) : y.Alike x := by
  obtain ⟨hparcels, hanswer | ⟨o, o', hx, hy, hkind⟩⟩ := h
  · exact ⟨hparcels.symm, .inl hanswer.symm⟩
  · exact ⟨hparcels.symm, .inr ⟨o', o, hy, hx, hkind.symm⟩⟩

theorem Alike.trans (h : x.Alike y) (h' : y.Alike z) : x.Alike z := by
  obtain ⟨hparcels, hanswer⟩ := h
  obtain ⟨hparcels', hanswer'⟩ := h'
  refine ⟨hparcels.trans hparcels', ?_⟩
  rcases hanswer with hanswer | ⟨o, o', hx, hy, hkind⟩
  · rw [hanswer]
    exact hanswer'
  · rcases hanswer' with hanswer' | ⟨o₁, o₂, hy', hz, hkind'⟩
    · exact .inr ⟨o, o', hx, hanswer' ▸ hy, hkind⟩
    · rw [hy] at hy'
      cases hy'
      exact .inr ⟨o, o₂, hx, hz, hkind.trans hkind'⟩

theorem forall₂_alike_symm (h : List.Forall₂ Alike xs ys) : List.Forall₂ Alike ys xs :=
  List.Forall₂.flip (h.imp fun _ _ hxy => hxy.symm)

theorem forall₂_alike_trans (h : List.Forall₂ Alike xs ys) (h' : List.Forall₂ Alike ys zs) :
    List.Forall₂ Alike xs zs := by
  induction h generalizing zs with
  | nil => exact h'
  | cons hxy _ ih =>
      cases h' with
      | cons hyz hrest => exact .cons (hxy.trans hyz) (ih hrest)

end Observation

namespace Move

variable {κ ω : Type}

def isSweep (m : Move) : Bool :=
  match m.turn with
  | .sweep _ => true
  | _ => false

/-- Without the sweeps beside it. -/
def unswept (m : Move) : Move :=
  { m with before := Aside.unswept m.before, after := Aside.unswept m.after }

def times (m : Move) : List Instant :=
  match m.turn with
  | .clock now => [now]
  | .verify .. => Aside.times m.before ++ Aside.times m.after
  | _ => []

def perform (deliver : Gate.Deliver κ ω) (m : Move) : Action (Gate κ ω) (Option Outcome) :=
  m.turn.perform (Gate.amid deliver m.before m.after)

def observe (deliver : Gate.Deliver κ ω) (g : Gate κ ω) (m : Move) : Observation κ :=
  ⟨((m.perform deliver).run g).1, m.turn.parcels (Gate.amid deliver m.before m.after) g⟩

/-- What is left of moves without any sweeps. -/
def skeleton (ms : List Move) : List Move := (ms.filter (!·.isSweep)).map unswept

/-- What can be seen of the moves of a run, sweeps apart. -/
def observed (deliver : Gate.Deliver κ ω) (g : Gate κ ω) (ms : List Move) :
    List (Observation κ) :=
  ((trace (perform deliver) g ms).filter (!·.input.isSweep)).map fun e =>
    e.input.observe deliver e.before

variable {deliver : Gate.Deliver κ ω} {later : List Instant}

/-- A move that is no sweep, made with sweeps beside it and without. -/
theorem alike_observe_unswept (hsteady : Gate.Steady deliver) {m : Move} (hm : m.isSweep = false)
    (htimes : (m.times ++ later).Pairwise (· ≤ ·)) {g h : Gate κ ω}
    (hgh : Gate.Lockstep (m.times ++ later) g h) :
    (m.observe deliver g).Alike (m.unswept.observe deliver h) ∧
      Gate.Lockstep later ((m.perform deliver).after g) ((m.unswept.perform deliver).after h) := by
  obtain ⟨turn, before, after⟩ := m
  unfold Move.perform observe unswept Action.after
  cases turn with
  | sweep duration => cases hm
  | verify p response =>
      change Gate.Lockstep ((Aside.times before ++ Aside.times after) ++ later) g h at hgh
      change List.Pairwise _ ((Aside.times before ++ Aside.times after) ++ later) at htimes
      rw [List.append_assoc] at hgh htimes
      have hp := Gate.paired_verify
        (Gate.coupled_verify_unswept hsteady htimes p response (hgh.watched []))
      simp only [Move.perform, Turn.perform, run_map, Turn.parcels]
      generalize (Gate.verify (Gate.amid deliver before after) p response).run g = u,
        (Gate.verify (Gate.amid deliver (Aside.unswept before) (Aside.unswept after)) p
          response).run h = v at hp ⊢
      cases hp with
      | ok hS =>
          obtain ⟨hkind, hS⟩ := hS
          exact ⟨⟨(Prod.mk.inj hS.outside).1, .inr ⟨_, _, rfl, rfl, hkind⟩⟩, hS.unwatched⟩
      | error hE => exact ⟨⟨(Prod.mk.inj hE.outside).1, .inl rfl⟩, hE.unwatched⟩
  | loggedIn p =>
      simp only [Move.perform, Turn.perform, run_map, Turn.parcels]
      cases hp : p.isAnonymous with
      | true =>
          rw [Gate.run_loggedIn_of_anonymous hp, Gate.run_loggedIn_of_anonymous hp]
          exact ⟨⟨rfl, .inl rfl⟩, hgh⟩
      | false =>
          rw [Gate.run_loggedIn_of_named hp, Gate.run_loggedIn_of_named hp]
          exact ⟨⟨rfl, .inl rfl⟩, { hgh with keeper := hgh.keeper.invalidate p.identifier }⟩
  | shutdown =>
      simp only [Move.perform, Turn.perform, run_map, Turn.parcels, Gate.run_shutdown]
      refine ⟨⟨rfl, .inl rfl⟩, ?_⟩
      exact Gate.deaf_lockstep.told _ { hgh with keeper := hgh.keeper.shutdown }
  | clock now =>
      exact ⟨⟨rfl, .inl rfl⟩, hgh.clock (List.pairwise_cons.mp htimes).1⟩
  | directory d => exact ⟨⟨rfl, .inl rfl⟩, { hgh with directory := rfl }⟩
  | draws d =>
      refine ⟨⟨rfl, .inl rfl⟩, { hgh with keeper := { hgh.keeper with world := ?_ } }⟩
      exact congrArg (fun w : World => { w with draws := d }) hgh.keeper.world

theorem skeleton_cons (m : Move) (ms : List Move) :
    skeleton (m :: ms) = if m.isSweep then skeleton ms else m.unswept :: skeleton ms := by
  cases hm : m.isSweep <;> simp [skeleton, hm]

theorem observed_cons (g : Gate κ ω) (m : Move) (ms : List Move) :
    observed deliver g (m :: ms) =
      if m.isSweep then observed deliver ((m.perform deliver).after g) ms
      else m.observe deliver g :: observed deliver ((m.perform deliver).after g) ms := by
  cases hm : m.isSweep <;> simp [observed, trace, step, hm]

/-- A run is alike the run of its skeleton. -/
theorem forall₂_alike_skeleton (hsteady : Gate.Steady deliver) (ms : List Move)
    (htimes : (ms.flatMap times).Pairwise (· ≤ ·)) {g h : Gate κ ω}
    (hgh : Gate.Lockstep (ms.flatMap times) g h) :
    List.Forall₂ Observation.Alike (observed deliver g ms) (observed deliver h (skeleton ms)) := by
  induction ms generalizing g h with
  | nil => exact .nil
  | cons m rest ih =>
      rw [List.flatMap_cons] at htimes hgh
      rw [observed_cons, skeleton_cons]
      have hrest := (List.pairwise_append.mp htimes).2.1
      cases hm : m.isSweep with
      | true =>
          obtain ⟨turn, before, after⟩ := m
          cases turn with
          | sweep duration =>
              rw [if_pos rfl, if_pos rfl]
              obtain ⟨n, g', hsweep, hgh'⟩ := hgh.sweep_left duration
              have hafter :
                  ((Move.mk (.sweep duration) before after).perform deliver).after g = g' := by
                rw [Action.after, perform, Turn.perform, run_map, hsweep]
              rw [hafter]
              exact ih hrest hgh'
          | _ => cases hm
      | false =>
          obtain ⟨halike, hafter⟩ := alike_observe_unswept hsteady hm htimes hgh
          have hunswept : m.unswept.isSweep = false := hm
          rw [if_neg (by simp), if_neg (by simp), observed_cons, hunswept, if_neg (by simp)]
          exact .cons halike (ih hrest hafter)

theorem times_unswept (m : Move) : m.unswept.times = m.times := by
  have hasides : ∀ asides, Aside.times (Aside.unswept asides) = Aside.times asides := by
    intro asides
    induction asides with
    | nil => rfl
    | cons a rest ih =>
        cases a with
        | clock now => exact congrArg (now :: ·) ih
        | sweep duration => exact ih
  obtain ⟨turn, before, after⟩ := m
  cases turn with
  | verify p response => exact congrArg₂ (· ++ ·) (hasides before) (hasides after)
  | _ => rfl

theorem times_skeleton (ms : List Move) : (skeleton ms).flatMap times = ms.flatMap times := by
  induction ms with
  | nil => rfl
  | cons m rest ih =>
      rw [skeleton_cons, List.flatMap_cons]
      cases hm : m.isSweep with
      | true =>
          obtain ⟨turn, before, after⟩ := m
          cases turn with
          | sweep duration => exact ih
          | _ => cases hm
      | false =>
          rw [if_neg (by simp), List.flatMap_cons, times_unswept, ih]

/-- Under a clock that answers and is never set back, two runs that differ in their sweeps
alone hand over the same parcels and come to the same outcomes and failures, but that a code
may be found expired in one run where in the other there is none. -/
theorem sweeps_unseen (hsteady : Gate.Steady deliver) {g : Gate κ ω}
    (hclock : g.keeper.world.clockFailures = 0) {ms ms' : List Move}
    (hms : skeleton ms = skeleton ms')
    (htimes : (g.keeper.world.now :: ms.flatMap times).Pairwise (· ≤ ·)) :
    List.Forall₂ Observation.Alike (observed deliver g ms) (observed deliver g ms') := by
  obtain ⟨hnow, htimes⟩ := List.pairwise_cons.mp htimes
  -- both runs are compared with the one skeleton they share
  have htimes' : ms'.flatMap times = ms.flatMap times := by
    rw [← times_skeleton, ← hms, times_skeleton]
  have hgg : Gate.Lockstep (ms.flatMap times) g g :=
    ⟨rfl, rfl, rfl, rfl, rfl, hclock, hnow, rfl, fun _ _ _ => Iff.rfl⟩
  have hleft := forall₂_alike_skeleton hsteady ms htimes hgg
  have hright := forall₂_alike_skeleton hsteady ms' (htimes' ▸ htimes) (htimes' ▸ hgg)
  rw [← hms] at hright
  exact Observation.forall₂_alike_trans hleft (Observation.forall₂_alike_symm hright)

theorem steady_handOver : Gate.Steady Gate.handOver where
  store _ _ _ _ := rfl
  now _ _ _ _ := rfl
  clockFailures _ _ _ _ := rfl
  answer _ _ _ _ _ _ := rfl
  surroundings _ _ _ _ _ h := h

/-- A code that comes too late, after a sweep beside the delivery and one after the expiry,
and without any. -/
theorem late_code_swept_or_not :
    ∃ g, Gate.new .usual .empty (Keyed.empty.put .email ()) () { now := ⟨1000000, by decide⟩ }
        = .ok g ∧
      List.Forall₂ Observation.Alike
        (observed Gate.handOver g [
          { turn := .verify (.withMail "ada" "ada@example.org") none, before := [.sweep 0],
            after := [.clock ⟨2000000, by decide⟩, .sweep 0] },
          { turn := .clock ⟨301000000, by decide⟩ }, { turn := .sweep 0 },
          { turn := .verify (.withMail "ada" "ada@example.org") (some (.ofString "000000")) }])
        (observed Gate.handOver g [
          { turn := .verify (.withMail "ada" "ada@example.org") none,
            after := [.clock ⟨2000000, by decide⟩] },
          { turn := .clock ⟨301000000, by decide⟩ },
          { turn := .verify (.withMail "ada" "ada@example.org")
              (some (.ofString "000000")) }]) := by
  have hnew : Gate.new .usual .empty (Keyed.empty.put .email ()) () { now := ⟨1000000, by decide⟩ }
    = .ok _ := rfl
  exact ⟨_, hnew, sweeps_unseen steady_handOver rfl rfl (by decide)⟩

end Move

end Passcode
