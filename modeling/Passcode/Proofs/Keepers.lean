import Passcode.Proofs.Actions
import Passcode.Proofs.Stores
import Passcode.Store.Keeper

/-!
# What the operations of a keeper do

Two laws for each operation. One is the run as a whole, with what is measured and reported in
it (`run_*`). The other is what most need to know of it (`ensures_*`): what it answers, what
becomes of the records, and that the sources of the world (clock, draws, serial numbers) stay
as they were unless the operation reads them. `World.hush` forgets what was measured and
reported, which every operation changes and no operation looks at.
-/

namespace Passcode

open Passcode.Action

namespace World

def reading? (w : World) : Option Instant := if w.clockFailures = 0 then some w.now else none

/-- A world without its metrics and its log. -/
def hush (w : World) : World := { w with metrics := {}, log := [] }

def told (w : World) (es : List Event) : World := { w with log := w.log ++ es }

@[simp] theorem told_told (w : World) (es fs : List Event) :
    (w.told es).told fs = w.told (es ++ fs) := by
  simp [told]

theorem now_eq_of_hush {w w' : World} (h : w'.hush = w.hush) : w'.now = w.now :=
  have hnow := congrArg World.now h
  hnow

theorem clockFailures_eq_of_hush {w w' : World} (h : w'.hush = w.hush) :
    w'.clockFailures = w.clockFailures :=
  have hfailures := congrArg World.clockFailures h
  hfailures

theorem draws_eq_of_hush {w w' : World} (h : w'.hush = w.hush) : w'.draws = w.draws :=
  have hdraws := congrArg World.draws h
  hdraws

theorem made_eq_of_hush {w w' : World} (h : w'.hush = w.hush) : w'.made = w.made :=
  have hmade := congrArg World.made h
  hmade

theorem reading?_eq_of_hush {w w' : World} (h : w'.hush = w.hush) :
    w'.reading? = w.reading? := by
  rw [reading?, reading?, now_eq_of_hush h, clockFailures_eq_of_hush h]

theorem reading?_of_answering {w : World} (h : w.clockFailures = 0) : w.reading? = some w.now :=
  if_pos h

theorem run_clock_of_reading {w : World} {now : Instant} (h : w.reading? = some now) :
    clock.run w = (.ok now, w) := by
  obtain ⟨now, failures, draws, made, metrics, log⟩ := w
  cases failures with
  | zero => obtain rfl := Option.some.inj h; rfl
  | succ n => cases h

theorem run_clock_of_silence {w : World} (h : w.reading? = none) :
    clock.run w = (.error (.broken "clock"), { w with clockFailures := w.clockFailures - 1 }) := by
  obtain ⟨now, failures, draws, made, metrics, log⟩ := w
  cases failures with
  | zero => cases h
  | succ n => rfl

@[simp] theorem run_report (e : Event) (w : World) : (report e).run w = (.ok ⟨⟩, w.told [e]) :=
  rfl

theorem run_drawCode_of_lt {length : Int} (h : length < 1) (a : Alphabet) (w : World) :
    (drawCode length a).run w = (.error (.misuse .lengthBelowOne), w) := by
  rw [drawCode, if_pos h]
  rfl

theorem run_drawCode_of_not_lt {length : Int} (h : ¬ length < 1) (a : Alphabet) (w : World) :
    (drawCode length a).run w =
      (.ok (w.draws.code a length.toNat), { w with draws := w.draws.skip length.toNat }) := by
  rw [drawCode, if_neg h]
  rfl

theorem drawFrom_of_demand {held : Held Alphabet} {a : Alphabet} (h : held.demand = .ok a)
    (length : Int) : drawFrom length held = drawCode length a := by
  funext w
  rw [drawFrom, h]
  by_cases hlength : length < 1
  · rw [if_pos hlength]
    exact (run_drawCode_of_lt hlength a w).symm
  · rw [if_neg hlength]
    rfl

theorem run_number (r : Record) (w : World) :
    (number r).run w = (.ok ⟨w.made, r⟩, { w with made := w.made + 1 }) := rfl

end World

namespace Keeper

variable {k : Keeper} {now : Instant} {id : String}

@[simp] theorem run_inWorld {α : Type} (a : Action World α) (k : Keeper) :
    (inWorld a).run k = ((a.run k.world).1, { k with world := (a.run k.world).2 }) := rfl

@[simp] theorem run_setStore (s : Store) (k : Keeper) :
    (setStore s).run k = (.ok ⟨⟩, { k with store := s }) := rfl

@[simp] theorem run_report (e : Event) (k : Keeper) :
    (report e).run k = (.ok ⟨⟩, { k with world := k.world.told [e] }) := rfl

@[simp] theorem run_reportAll (es : List Event) (k : Keeper) :
    (reportAll es).run k = (.ok ⟨⟩, { k with world := k.world.told es }) := by
  induction es generalizing k with
  | nil => simp [reportAll, World.told]
  | cons e es ih =>
      have hcons : reportAll (e :: es) = report e >>= fun _ => reportAll es := rfl
      rw [hcons, run_bind_of_ok (run_report e k), ih, World.told_told]
      rfl

@[simp] theorem run_updateActive (k : Keeper) :
    updateActive.run k = (.ok ⟨⟩, { k with world :=
      { k.world with metrics := { k.world.metrics with active := .int k.store.size } } }) := rfl

theorem run_clock_of_reading (h : k.world.reading? = some now) :
    (inWorld World.clock).run k = (.ok now, k) := by
  rw [run_inWorld, World.run_clock_of_reading h]

def misread (k : Keeper) : Keeper :=
  { k with world := { k.world with clockFailures := k.world.clockFailures - 1 } }

theorem run_clock_of_silence (h : k.world.reading? = none) :
    (inWorld World.clock).run k = (.error (.broken "clock"), k.misread) := by
  rw [run_inWorld, World.run_clock_of_silence h]
  rfl

/-! ## Opening -/

theorem run_start (k : Keeper) : start.run k =
    if k.store.closed then (.error (.refused .storeClosed), k)
    else (.ok ⟨⟩, ⟨k.world.told k.store.sweeper.start.2,
      { k.store with sweeper := k.store.sweeper.start.1 }⟩) := by
  unfold start
  cases hc : k.store.closed <;> simp [run_bind, hc]

theorem ensures_start (k : Keeper) :
    start.Ensures k fun _ k' => k'.store.records = k.store.records
      ∧ k'.store.closed = k.store.closed ∧ k'.world.hush = k.world.hush := by
  rw [Ensures, run_start]
  split <;> exact ⟨rfl, rfl, rfl⟩

/-! ## Keeping a store -/

def told (k : Keeper) (es : List Event) : Keeper := { k with world := k.world.told es }

def metered (k : Keeper) (f : Metrics → Metrics) : Keeper :=
  { k with world := { k.world with metrics := f k.world.metrics } }

/-- A keeper that took over a store and brought the number of codes up to date. -/
def keeping (k : Keeper) (s : Store) : Keeper :=
  { k.metered fun m => { m with active := .int s.size } with store := s }

/-! ## Operations that read the clock -/

theorem run_check_of_reading (h : k.world.reading? = some now) (id : String) (c : Option Glyphs) :
    (check id c).run k = match k.store.verdict now id c with
      | .ok a => (.ok a, (k.keeping (k.store.settled id a)).told [.checked id a])
      | .error e => (.error e, k) := by
  unfold check
  rw [run_bind_of_ok (run_clock_of_reading h), run_bind_of_ok (run_get k), Store.check_eq]
  cases k.store.verdict now id c <;> rfl

theorem ensures_check_of_reading (h : k.world.reading? = some now) (id : String)
    (c : Option Glyphs) : (check id c).Ensures k fun a k' =>
      a = k.store.verdict now id c ∧ k'.store = k.store.checked now id c
        ∧ k'.world.hush = k.world.hush := by
  rw [Ensures, run_check_of_reading h, Store.checked]
  cases k.store.verdict now id c <;> exact ⟨rfl, rfl, rfl⟩

theorem run_check_of_silence (h : k.world.reading? = none) (id : String) (c : Option Glyphs) :
    (check id c).run k = (.error (.broken "clock"), k.misread) := by
  unfold check
  rw [run_bind_of_error (run_clock_of_silence h)]

theorem ensures_check_of_silence (h : k.world.reading? = none) (id : String)
    (c : Option Glyphs) : (check id c).Ensures k fun a k' =>
      a = .error (.broken "clock") ∧ k'.store = k.store := by
  rw [Ensures, run_check_of_silence h]
  exact ⟨rfl, rfl⟩

/-- What a check answers. -/
theorem answer_check (k : Keeper) (id : String) (c : Option Glyphs) :
    ((check id c).run k).1 = match k.world.reading? with
      | some now => k.store.verdict now id c
      | none => .error (.broken "clock") := by
  cases h : k.world.reading? with
  | some now => exact (ensures_check_of_reading h id c).1
  | none => exact (ensures_check_of_silence h id c).1

theorem run_sweep_of_reading (h : k.world.reading? = some now) (duration : Float) :
    (sweep duration).run k = (.ok (k.store.sweep now).1.length,
      ((k.keeping (k.store.sweep now).2).metered
        fun m => { m with sweeps := m.sweeps.observe duration }).told
          ((k.store.sweep now).1.map .expiredRemoved ++
            [.sweepCompleted (k.store.sweep now).1.length (k.store.sweep now).2.size
              (Decimal.roundPlaces 3 (duration * 1000))])) := by
  unfold sweep
  rw [run_bind_of_ok (run_clock_of_reading h)]
  simp [run_bind, World.measure, keeping, metered, told, Except.map]

theorem ensures_sweep_of_reading (h : k.world.reading? = some now) (duration : Float) :
    (sweep duration).Ensures k fun a k' =>
      a = .ok (k.store.sweep now).1.length ∧ k'.store = (k.store.sweep now).2
        ∧ k'.world.hush = k.world.hush := by
  rw [Ensures, run_sweep_of_reading h]
  exact ⟨rfl, rfl, rfl⟩

theorem run_sweep_of_silence (h : k.world.reading? = none) (duration : Float) :
    (sweep duration).run k = (.error (.broken "clock"), k.misread) := by
  unfold sweep
  rw [run_bind_of_error (run_clock_of_silence h)]

theorem ensures_sweep_of_silence (h : k.world.reading? = none) (duration : Float) :
    (sweep duration).Ensures k fun a k' =>
      a = .error (.broken "clock") ∧ k'.store = k.store := by
  rw [Ensures, run_sweep_of_silence h]
  exact ⟨rfl, rfl⟩

/-! ## Operations that do not -/

theorem run_put (k : Keeper) (id : String) (x : Issued) :
    (put id x).run k = match k.store.put id x with
      | .ok (b, s) => (.ok b, k.keeping s)
      | .error e => (.error e, k) := by
  unfold put
  rcases hput : k.store.put id x with e | ⟨b, s⟩
  · simp [run_bind, hput]
  · simp [run_bind, hput, Except.map]
    rfl

theorem ensures_put (k : Keeper) (id : String) (r : Issued) :
    (put id r).Ensures k fun a k' =>
      (∃ b s, k.store.put id r = .ok (b, s) ∧ a = .ok b ∧ k'.store = s ∧
          k'.world.hush = k.world.hush)
        ∨ ∃ e, k.store.put id r = .error e ∧ a = .error e ∧ k' = k := by
  rw [Ensures, run_put]
  rcases k.store.put id r with e | ⟨b, s⟩
  · exact .inr ⟨e, rfl, rfl, rfl⟩
  · exact .inl ⟨b, s, rfl, rfl, rfl, rfl⟩

theorem run_invalidate (k : Keeper) (id : String) : (invalidate id).run k =
    (.ok (k.store.records.contains id), (k.keeping (k.store.remove id)).told
      (if k.store.records.contains id then [.invalidated id] else [])) := by
  unfold invalidate
  cases hc : k.store.records.contains id <;>
    simp [run_bind, Store.invalidate, hc, keeping, metered, told, World.told, Except.map]

theorem ensures_invalidate (k : Keeper) (id : String) :
    (invalidate id).Ensures k fun a k' =>
      a = .ok (k.store.records.contains id) ∧ k'.store = k.store.remove id
        ∧ k'.world.hush = k.world.hush := by
  rw [Ensures, run_invalidate]
  exact ⟨rfl, rfl, rfl⟩

theorem run_discard (k : Keeper) (id : String) (r : Issued) : (discard id r).run k =
    (.ok (k.store.discard id r).1, k.keeping (k.store.discard id r).2) := rfl

theorem ensures_discard (k : Keeper) (id : String) (r : Issued) :
    (discard id r).Ensures k fun a k' =>
      a = .ok (k.store.discard id r).1 ∧ k'.store = (k.store.discard id r).2
        ∧ k'.world.hush = k.world.hush := by
  rw [Ensures, run_discard]
  exact ⟨rfl, rfl, rfl⟩

theorem run_shutdown (k : Keeper) : shutdown.run k =
    (.ok ⟨⟩, (k.keeping k.store.close.1).told (k.store.close.2 ++ [.storeShutdown])) := by
  unfold shutdown
  simp [run_bind, keeping, metered, told, World.told]

theorem ensures_shutdown (k : Keeper) :
    shutdown.Ensures k fun a k' =>
      a = .ok ⟨⟩ ∧ k'.store = k.store.close.1 ∧ k'.world.hush = k.world.hush := by
  rw [Ensures, run_shutdown]
  exact ⟨rfl, rfl, rfl⟩

/-! ## Issuing -/

theorem ensures_store_inWorld {α : Type} {s : Store} (a : Action World α) (h : k.store = s) :
    (inWorld a).Ensures k fun _ k' => k'.store = s := h

theorem ensures_store_lift {α : Type} {s : Store} (r : Except Failure α) (h : k.store = s) :
    (liftM r : Action Keeper α).Ensures k fun _ k' => k'.store = s := h

/-- A record that is issued has been taken in, and a failure on the way leaves the records
as they were. -/
theorem ensures_issue (k : Keeper) (id : String) (length timeout : Value)
    (draw : Action World String) : (issue id length timeout draw).Ensures k fun a k' =>
      (∃ x b, a = .ok x ∧ k.store.put id x = .ok (b, k'.store))
        ∨ ∃ e, a = .error e ∧ k'.store = k.store := by
  have hfail : ∀ (e : Failure) (k' : Keeper), k'.store = k.store →
      (∃ x b, (.error e : Except Failure Issued) = .ok x ∧ k.store.put id x = .ok (b, k'.store))
        ∨ ∃ e', (.error e : Except Failure Issued) = .error e' ∧ k'.store = k.store :=
    fun e k' h => .inr ⟨e, rfl, h⟩
  unfold issue
  refine (ensures_store_lift timeout.number rfl).bind (fun n k₁ h => ?_) hfail
  split
  · exact hfail _ _ h
  refine (ensures_store_inWorld draw h).bind (fun code k₂ h => ?_) hfail
  refine (ensures_store_inWorld World.clock h).bind (fun now k₃ h => ?_) hfail
  refine (ensures_store_lift _ h).bind (fun record k₄ h => ?_) hfail
  refine (ensures_store_inWorld (World.number record) h).bind (fun x k₅ h => ?_) hfail
  refine (ensures_put k₅ id x).bind (fun b k₆ hput => ?_) fun e k₆ hput => ?_
  · obtain ⟨b, s, hs, -, rfl, -⟩ | ⟨e, -, he, -⟩ := hput
    · exact .inl ⟨x, b, rfl, h ▸ hs⟩
    · cases he
  · obtain ⟨b, s, -, he, -, -⟩ | ⟨e, -, -, rfl⟩ := hput
    · cases he
    · exact hfail _ _ h

theorem generateFrom_of_demand {held : Held Alphabet} {a : Alphabet} (h : held.demand = .ok a)
    (id : String) (length timeout : Int) :
    generateFrom id length timeout held = generate id length timeout a := by
  rw [generateFrom, World.drawFrom_of_demand h]
  rfl

/-- Where the alphabet cannot be had, nothing is issued. -/
theorem run_generateFrom_of_error {held : Held Alphabet} {e : Failure}
    (h : held.demand = .error e) (k : Keeper) (id : String) (length timeout : Int) :
    (generateFrom id length timeout held).run k =
      (.error (if timeout < 1 then .misuse .timeoutBelowOne
        else if length < 1 then .misuse .lengthBelowOne else e), k) := by
  have hdraw : (inWorld (World.drawFrom length held)).run k =
      (.error (if length < 1 then .misuse .lengthBelowOne else e), k) := by
    rw [run_inWorld, World.drawFrom, h]
    split <;> rfl
  unfold generateFrom issue
  rw [run_bind, run_lift, Value.number]
  dsimp only [Number.belowOne]
  by_cases htimeout : timeout < 1
  · simp only [htimeout, decide_true, if_true]
    rfl
  · simp only [htimeout, decide_false, Bool.false_eq_true, if_false]
    rw [run_bind_of_error hdraw]

theorem ensures_generate (k : Keeper) (id : String) (length timeout : Int) (alphabet : Alphabet) :
    (generate id length timeout alphabet).Ensures k fun a k' =>
      (∃ x b, a = .ok x ∧ k.store.put id x = .ok (b, k'.store))
        ∨ ∃ e, a = .error e ∧ k'.store = k.store :=
  ensures_issue k id (.int length) (.int timeout) (World.drawCode length alphabet)

/-! ## Two keepers -/

section Coupled

variable {R : Keeper → Keeper → Prop}

/-- Two keepers that are both open or both shut take records in alike. -/
theorem coupled_put {T : Keeper → Keeper → Prop} {x y : Issued}
    (hclosed : ∀ k l, R k l → k.store.closed = l.store.closed)
    (hT : ∀ k l k' l' b b', R k l → k.store.put id x = .ok (b, k'.store) →
      l.store.put id y = .ok (b', l'.store) → k'.world.hush = k.world.hush →
      l'.world.hush = l.world.hush → T k' l') :
    Coupled R (put id x) (put id y) (fun _ _ => T) R := by
  intro k l hkl
  have hsame := hclosed k l hkl
  rw [run_put, run_put]
  cases hk : k.store.closed with
  | true =>
      rw [Store.put_of_closed hk, Store.put_of_closed (hsame ▸ hk)]
      exact .error hkl
  | false =>
      have hputk := Store.put_of_open hk id x
      have hputl := Store.put_of_open (hsame ▸ hk) id y
      rw [hputk, hputl]
      exact .ok (hT k l (k.keeping _) (l.keeping _) _ _ hkl hputk hputl rfl rfl)

/-- Two keepers draw codes that are related as the codes of their draws are. -/
theorem coupled_draw {C : String → String → Prop} {length : Int} {alphabet : Alphabet}
    (hcode : ∀ k l, R k l → C (k.world.draws.code alphabet length.toNat)
      (l.world.draws.code alphabet length.toNat))
    (hskip : ∀ k l n, R k l → R { k with world := { k.world with draws := k.world.draws.skip n } }
      { l with world := { l.world with draws := l.world.draws.skip n } }) :
    Coupled R (inWorld (World.drawCode length alphabet)) (inWorld (World.drawCode length alphabet))
      (fun c c' k l => C c c' ∧ R k l) R := by
  intro k l hkl
  rw [run_inWorld, run_inWorld]
  by_cases hlength : length < 1
  · rw [World.run_drawCode_of_lt hlength, World.run_drawCode_of_lt hlength]
    exact .error hkl
  · rw [World.run_drawCode_of_not_lt hlength, World.run_drawCode_of_not_lt hlength]
    exact .ok ⟨hcode k l hkl, hskip k l _ hkl⟩

/-- The records of two codes with one lifetime come to be alike, but for the codes. -/
theorem coupled_create {C : String → String → Prop} {code code' : String} (hcode : C code code')
    (span : Value) (now : Instant) : Coupled R (liftM (Record.create code span now))
      (liftM (Record.create code' span now))
      (fun r r' k l => (C r.code r'.code ∧ r.expiresAt = r'.expiresAt) ∧ R k l) R := by
  unfold Record.create
  rcases Span.micros span with e | n
  · exact fun k l hkl => .error hkl
  · intro k l hkl
    rw [run_lift, run_lift]
    simp only [Bind.bind, Except.bind]
    cases now.addMicros? n with
    | none => exact .error hkl
    | some t => exact .ok ⟨⟨hcode, rfl⟩, hkl⟩

/-- Two keepers issue records alike if they draw, read the clock, number records and take
them in alike. The codes they draw need only be related in some way, and so do what they say
about a record that was there before. -/
theorem coupled_issue_of {C : String → String → Prop} {X : Issued → Issued → Prop}
    {B : Bool → Bool → Prop} {T : Issued → Issued → Keeper → Keeper → Prop}
    {length timeout : Value} {draw : Action World String}
    (hdraw : Coupled R (inWorld draw) (inWorld draw) (fun c c' k l => C c c' ∧ R k l) R)
    (hclock : Coupled R (inWorld World.clock) (inWorld World.clock)
      (fun x y k l => x = y ∧ R k l) R)
    (hnumber : ∀ r r', C r.code r'.code → r.expiresAt = r'.expiresAt →
      Coupled R (inWorld (World.number r)) (inWorld (World.number r'))
        (fun x y k l => X x y ∧ R k l) R)
    (hput : ∀ x y, X x y →
      Coupled R (put id x) (put id y) (fun b b' k l => B b b' ∧ T x y k l) R)
    (hreport : ∀ x y b b', B b b' → Coupled (T x y) (report (.generated id length timeout b))
      (report (.generated id length timeout b')) (fun _ _ => T x y) R) :
    Coupled R (issue id length timeout draw) (issue id length timeout draw) T R := by
  have hnumber? : Coupled R (liftM timeout.number : Action Keeper Number) (liftM timeout.number)
      (fun x y k l => x = y ∧ R k l) R := coupled_lift (fun _ _ _ h => ⟨rfl, h⟩) fun _ _ h => h
  unfold issue
  refine hnumber?.bind_same fun n => ?_
  split
  · exact coupled_throw fun _ _ h => h
  refine hdraw.bind fun code code' k l hcode => ?_
  refine (hclock.bind_same fun now => ?_) hcode.2
  refine (coupled_create hcode.1 timeout now).bind fun record record' k l hrecord => ?_
  refine ((hnumber record record' hrecord.1.1 hrecord.1.2).bind fun x y k l hxy => ?_) hrecord.2
  refine ((hput x y hxy.1).bind fun b b' k l hbb => ?_) hxy.2
  exact ((hreport x y b b' hbb.1).bind fun _ _ => coupled_pure fun _ _ h => h) hbb.2

/-- Two keepers issue records alike if they draw the same codes besides. -/
theorem coupled_issue {X : Issued → Issued → Prop} {T : Issued → Issued → Keeper → Keeper → Prop}
    {length timeout : Value} {draw : Action World String}
    (hdraw : Coupled R (inWorld draw) (inWorld draw) (fun x y k l => x = y ∧ R k l) R)
    (hclock : Coupled R (inWorld World.clock) (inWorld World.clock)
      (fun x y k l => x = y ∧ R k l) R)
    (hnumber : ∀ r, Coupled R (inWorld (World.number r)) (inWorld (World.number r))
      (fun x y k l => X x y ∧ R k l) R)
    (hput : ∀ x y, X x y → Coupled R (put id x) (put id y) (fun _ _ => T x y) R)
    (hreport : ∀ x y e e', Coupled (T x y) (report e) (report e') (fun _ _ => T x y) R) :
    Coupled R (issue id length timeout draw) (issue id length timeout draw) T R := by
  refine coupled_issue_of (C := Eq) (B := fun _ _ => True) hdraw hclock (fun r r' hcode hexpiry => ?_)
    (fun x y hxy => (hput x y hxy).imp (fun _ _ h => h) (fun _ _ _ _ h => ⟨trivial, h⟩)
      fun _ _ h => h) fun x y b b' _ => hreport x y _ _
  obtain rfl : r = r' := by
    cases r
    cases r'
    exact congrArg₂ Record.mk hcode hexpiry
  exact hnumber r

end Coupled

end Keeper

theorem Store.new_eq (interval : Value) : Store.new interval =
    (Periodic.new "otp-session-sweep" interval).map fun sweeper => { sweeper } := by
  unfold Store.new
  cases Periodic.new "otp-session-sweep" interval <;> rfl

/-- Opening a store, as a whole: the world hears of the task that sweeps it, and that is all. -/
theorem World.run_openStore (interval : Value) (autostart : Bool) (w : World) :
    (World.openStore interval autostart).run w =
      match Periodic.new "otp-session-sweep" interval with
      | .error e => (.error e, w)
      | .ok task =>
        if autostart then (.ok { sweeper := task.start.1 }, w.told task.start.2)
        else (.ok { sweeper := task }, w) := by
  unfold World.openStore
  rw [Store.new_eq]
  cases Periodic.new "otp-session-sweep" interval with
  | error e => rfl
  | ok task =>
      cases autostart with
      | false => rfl
      | true =>
          have hstart : Keeper.start.run ⟨w, { sweeper := task }⟩ =
            (.ok ⟨⟩, ⟨w.told task.start.2, { sweeper := task.start.1 }⟩) := Keeper.run_start _
          simp [Except.map, run_bind, hstart]

/-- A store is opened empty, and ready to take records in. -/
theorem World.ensures_openStore (interval : Value) (autostart : Bool) (w : World) :
    (World.openStore interval autostart).Ensures w fun a w' =>
      (∀ s, a = .ok s → s.records = .empty ∧ s.closed = false) ∧ w'.hush = w.hush := by
  rw [Ensures, World.run_openStore]
  cases Periodic.new "otp-session-sweep" interval with
  | error e => exact ⟨nofun, rfl⟩
  | ok task => cases autostart <;> exact ⟨fun s hs => Except.ok.inj hs ▸ ⟨rfl, rfl⟩, rfl⟩

/-- Opening a store measures nothing. -/
theorem World.metrics_after_openStore (interval : Value) (autostart : Bool) (w : World) :
    ((World.openStore interval autostart).after w).metrics = w.metrics := by
  rw [after, World.run_openStore]
  cases Periodic.new "otp-session-sweep" interval with
  | error e => rfl
  | ok task => cases autostart <;> rfl

section Opened

variable {interval : Value} {autostart : Bool} {w₀ w : World} {s : Store}

theorem World.records_of_openStore
    (h : (World.openStore interval autostart).run w₀ = (.ok s, w)) : s.records = .empty := by
  have hopen := World.ensures_openStore interval autostart w₀
  rw [Ensures, h] at hopen
  exact (hopen.1 s rfl).1

/-- A store that was opened knows of no codes. -/
theorem World.find?_of_openStore (h : (World.openStore interval autostart).run w₀ = (.ok s, w))
    (id : String) : s.find? id = none := by
  rw [Store.find?, World.records_of_openStore h]
  rfl

end Opened

end Passcode
