import Passcode.Proofs.Calls
import Passcode.Proofs.Issuing

/-!
# Why a call fails, and what that leaves behind

A call of a keeper fails for one reason (`Keeper.Hindered`). To issue a code there are five of
them, and the first that applies is the one that is given: the timeout, the length, the clock,
the calendar, the store. A failed call may have drawn a code or used a reading of the clock up,
but the store, the metrics and the log are as they were (`Keeper.Unmoved`). So a code that was
issued before outlives every attempt to replace it that fails
(`Keeper.hindered_calls_change_nothing`).
-/

namespace Passcode

open Passcode.Action Run

/-! ## The end of the calendar -/

namespace Instant

def last : Instant := ⟨calendarDays * microsPerDay - 1, by decide⟩

example : last.text = "9999-12-31T23:59:59.999999+00:00" := by decide

variable {t u : Instant} {n : Int}

theorem addMicros?_eq_some_iff : t.addMicros? n = some u ↔ (u.micros : Int) = t.micros + n := by
  constructor
  · exact micros_of_addMicros?
  · intro h
    have hbounds := u.inCalendar
    rw [addMicros?, ofMicros?, dif_pos (by omega)]
    have hmicros : ((t.micros : Int) + n).toNat = u.micros := by omega
    cases u
    simpa using hmicros

/-- What lies later is in the calendar, or beyond its last instant. -/
theorem addMicros?_eq_none_iff (hn : 0 ≤ n) :
    t.addMicros? n = none ↔ (last.micros : Int) < t.micros + n := by
  have hlast : last.micros + 1 = calendarDays * microsPerDay := by decide
  rw [addMicros?, ofMicros?]
  split
  · next h => simp only [reduceCtorEq, false_iff]; omega
  · next h => simp only [true_iff]; omega

end Instant

namespace Keeper

/-! ## Reasons -/

/-- What stands against issuing a code of a length for a number of seconds: the first of five
things that is not as it should be. -/
inductive Objection (k : Keeper) (length timeout : Int) : Failure → Prop
  | timeout (h : timeout < 1) : Objection k length timeout (.misuse .timeoutBelowOne)
  | length (htimeout : 1 ≤ timeout) (h : length < 1) :
      Objection k length timeout (.misuse .lengthBelowOne)
  | clock (htimeout : 1 ≤ timeout) (hlength : 1 ≤ length) (h : k.world.reading? = none) :
      Objection k length timeout (.broken "clock")
  | calendar {now} (htimeout : 1 ≤ timeout) (hlength : 1 ≤ length)
      (hnow : k.world.reading? = some now)
      (h : (Instant.last.micros : Int) < now.micros + timeout * 1000000) :
      Objection k length timeout .outOfCalendar
  | closed {now} (htimeout : 1 ≤ timeout) (hlength : 1 ≤ length)
      (hnow : k.world.reading? = some now)
      (hend : now.micros + timeout * 1000000 ≤ (Instant.last.micros : Int))
      (h : k.store.closed = true) : Objection k length timeout (.refused .storeClosed)

/-- What stands against checking a code: the clock fails, or what is to be compared with a code
that is in time is no text. -/
inductive Unreadable (k : Keeper) (id : String) : Option Glyphs → Failure → Prop
  | clock {candidate} (h : k.world.reading? = none) : Unreadable k id candidate (.broken "clock")
  | illegible {now x gs e} (hnow : k.world.reading? = some now)
      (hfind : k.store.find? id = some x) (hlive : now < x.record.expiresAt)
      (htext : gs.isText = false) (h : gs.encoded = .error e) : Unreadable k id (some gs) e

/-- Why a keeper fails a call. -/
inductive Hindered (k : Keeper) : Call → Failure → Prop
  | generate {id length timeout alphabet e} (h : Objection k length timeout e) :
      Hindered k (.order (.generate id length timeout alphabet)) e
  | put {id r} (h : k.store.closed = true) :
      Hindered k (.order (.put id r)) (.refused .storeClosed)
  | check {id c e} (h : Unreadable k id c e) : Hindered k (.order (.check id c)) e
  | consume {id c e} (h : Unreadable k id c e) : Hindered k (.consume id c) e
  | sweep {duration} (h : k.world.reading? = none) :
      Hindered k (.order (.sweep duration)) (.broken "clock")
  | start (h : k.store.closed = true) : Hindered k .start (.refused .storeClosed)

variable {k : Keeper} {c : Call} {e : Failure}

/-- The reasons against issuing a code, as they are looked at. -/
theorem answer_generate_eq_error_iff {id : String} {length timeout : Int} {alphabet : Alphabet} :
    ((generate id length timeout alphabet).run k).1 = .error e ↔
      Objection k length timeout e := by
  have hend : 1 ≤ timeout → ∀ now : Instant, now.addMicros? (timeout * 1000000) = none ↔
      (Instant.last.micros : Int) < now.micros + timeout * 1000000 :=
    fun ht now => Instant.addMicros?_eq_none_iff (by omega)
  rw [answer_generate]
  constructor
  · intro h
    split at h
    · next ht => obtain rfl := Except.error.inj h; exact .timeout ht
    next ht =>
    have ht : 1 ≤ timeout := by omega
    split at h
    · next hl => obtain rfl := Except.error.inj h; exact .length ht hl
    next hl =>
    have hl : 1 ≤ length := by omega
    split at h
    · next hnow => obtain rfl := Except.error.inj h; exact .clock ht hl hnow
    next now hnow =>
    split at h
    · next hnone =>
      obtain rfl := Except.error.inj h
      exact .calendar ht hl hnow ((hend ht now).mp hnone)
    next t hsome =>
    split at h
    · next hclosed =>
      obtain rfl := Except.error.inj h
      have hin := mt (hend ht now).mpr (by rw [hsome]; exact nofun)
      exact .closed ht hl hnow (Int.not_lt.mp hin) hclosed
    · cases h
  · intro h
    cases h with
    | timeout h => rw [if_pos h]
    | length ht h => rw [if_neg (by omega), if_pos h]
    | clock ht hl h => rw [if_neg (by omega), if_neg (by omega), h]
    | calendar ht hl hnow h =>
        rw [if_neg (by omega), if_neg (by omega), hnow]
        dsimp only
        rw [(hend ht _).mpr h]
    | @closed now ht hl hnow hin h =>
        have hsome := mt (hend ht now).mp (Int.not_lt.mpr hin)
        obtain ⟨t, hsome⟩ := Option.ne_none_iff_exists'.mp hsome
        rw [if_neg (by omega), if_neg (by omega), hnow]
        dsimp only
        rw [hsome]
        exact if_pos h

theorem answer_put_eq_error_iff {id : String} {r : Issued} :
    ((put id r).run k).1 = .error e ↔ k.store.closed = true ∧ e = .refused .storeClosed := by
  rw [run_put]
  cases hclosed : k.store.closed with
  | true => simp [Store.put_of_closed hclosed, eq_comm]
  | false => simp [Store.put_of_open hclosed]

theorem answer_check_eq_error_iff {id : String} {candidate : Option Glyphs} :
    ((check id candidate).run k).1 = .error e ↔ Unreadable k id candidate e := by
  cases hnow : k.world.reading? with
  | none =>
      rw [run_check_of_silence hnow]
      constructor
      · intro h
        obtain rfl := Except.error.inj h
        exact .clock hnow
      · intro h
        cases h with
        | clock => rfl
        | illegible hsome => cases hnow.symm.trans hsome
  | some now =>
      rw [(ensures_check_of_reading hnow id candidate).1, Store.verdict_eq_error_iff]
      constructor
      · rintro ⟨x, gs, hfind, hlive, rfl, htext, h⟩
        exact .illegible hnow hfind hlive htext h
      · intro h
        cases h with
        | clock hnone => cases hnow.symm.trans hnone
        | illegible hnow' hfind hlive htext h =>
            obtain rfl := Option.some.inj (hnow.symm.trans hnow')
            exact ⟨_, _, hfind, hlive, rfl, htext, h⟩

theorem answer_consume_eq_error_iff {id : String} {candidate : Option Glyphs} :
    ((consume id candidate).run k).1 = .error e ↔ Unreadable k id candidate e := by
  have hcheck : ((consume id candidate).run k).1 = .error e ↔
      ((check id candidate).run k).1 = .error e := by
    rw [run_consume]
    cases ((check id candidate).run k).1 <;> simp [Except.map]
  rw [hcheck, answer_check_eq_error_iff]

theorem answer_sweep_eq_error_iff {duration : Float} :
    ((sweep duration).run k).1 = .error e ↔ k.world.reading? = none ∧ e = .broken "clock" := by
  cases h : k.world.reading? with
  | none => simp [run_sweep_of_silence h, eq_comm]
  | some now => simp [run_sweep_of_reading h]

theorem answer_start_eq_error_iff :
    (start.run k).1 = .error e ↔ k.store.closed = true ∧ e = .refused .storeClosed := by
  rw [run_start]
  cases k.store.closed <;> simp [eq_comm]

/-- A call fails for a reason, and there are no other reasons. -/
theorem answer_eq_error_iff_hindered : (c.perform.run k).1 = .error e ↔ Hindered k c e := by
  cases c with
  | order o =>
      rw [Call.perform, answer_map_eq_error_iff]
      cases o with
      | generate id length timeout alphabet =>
          rw [Order.perform, answer_map_eq_error_iff, answer_generate_eq_error_iff]
          constructor
          · exact .generate
          · intro h
            cases h with
            | generate h => exact h
      | put id r =>
          rw [Order.perform, answer_map_eq_error_iff, answer_put_eq_error_iff]
          constructor
          · rintro ⟨h, rfl⟩
            exact .put h
          · intro h
            cases h with
            | put h => exact ⟨h, rfl⟩
      | check id candidate =>
          rw [Order.perform, answer_map_eq_error_iff, answer_check_eq_error_iff]
          constructor
          · exact .check
          · intro h
            cases h with
            | check h => exact h
      | sweep duration =>
          rw [Order.perform, answer_map_eq_error_iff, answer_sweep_eq_error_iff]
          constructor
          · rintro ⟨h, rfl⟩
            exact .sweep h
          · intro h
            cases h with
            | sweep h => exact ⟨h, rfl⟩
      | invalidate id =>
          rw [Order.perform, answer_map_eq_error_iff, run_invalidate]
          constructor <;> rintro ⟨⟩
      | discard id r =>
          rw [Order.perform, answer_map_eq_error_iff, run_discard]
          constructor <;> rintro ⟨⟩
      | shutdown =>
          rw [Order.perform, answer_map_eq_error_iff, run_shutdown]
          constructor <;> rintro ⟨⟩
      | setClock now failures => constructor <;> rintro ⟨⟩
  | consume id candidate =>
      rw [Call.perform, answer_map_eq_error_iff, answer_consume_eq_error_iff]
      constructor
      · exact .consume
      · intro h
        cases h with
        | consume h => exact h
  | start =>
      rw [Call.perform, answer_map_eq_error_iff, answer_start_eq_error_iff]
      constructor
      · rintro ⟨h, rfl⟩
        exact .start h
      · intro h
        cases h with
        | start h => exact ⟨h, rfl⟩
  | cycle duration =>
      rw [Call.perform, answer_map_eq_error_iff, run_cycle]
      constructor <;> rintro ⟨⟩

/-! ## What is left behind -/

/-- A keeper with the same store, the same metrics and the same log. It may have drawn a code,
numbered a record or lost a reading of the clock. -/
structure Unmoved (k k' : Keeper) : Prop where
  store : k'.store = k.store
  metrics : k'.world.metrics = k.world.metrics
  log : k'.world.log = k.world.log

theorem unmoved_of_generate {id : String} {length timeout : Int} {alphabet : Alphabet}
    (h : ((generate id length timeout alphabet).run k).1 = .error e) :
    k.Unmoved ((generate id length timeout alphabet).after k) := by
  unfold after
  rw [run_generate] at h ⊢
  split_ifs at h ⊢
  · exact ⟨rfl, rfl, rfl⟩
  · exact ⟨rfl, rfl, rfl⟩
  split at h
  · exact ⟨rfl, rfl, rfl⟩
  next now hnow =>
  split at h
  · exact ⟨rfl, rfl, rfl⟩
  next t hsome =>
  dsimp only at h ⊢
  split at h
  · exact ⟨rfl, rfl, rfl⟩
  · cases h

theorem unmoved_of_unreadable {id : String} {candidate : Option Glyphs}
    (h : Unreadable k id candidate e) : k.Unmoved ((check id candidate).after k) := by
  unfold after
  cases h with
  | clock hnone =>
      rw [run_check_of_silence hnone]
      exact ⟨rfl, rfl, rfl⟩
  | illegible hnow hfind hlive htext h =>
      rw [run_check_of_reading hnow,
        Store.verdict_eq_error_iff.mpr ⟨_, _, hfind, hlive, rfl, htext, h⟩]
      exact ⟨rfl, rfl, rfl⟩

/-- Whatever a call fails for, the store, the metrics and the log stay as they were. -/
theorem unmoved_of_hindered (h : Hindered k c e) : k.Unmoved (c.perform.after k) := by
  have hsilent : k.Unmoved k.misread := ⟨rfl, rfl, rfl⟩
  have hsame : k.Unmoved k := ⟨rfl, rfl, rfl⟩
  cases h with
  | generate h =>
      rw [Call.perform, after_map, Order.perform, after_map]
      exact unmoved_of_generate (answer_generate_eq_error_iff.mpr h)
  | put h =>
      rw [Call.perform, after_map, Order.perform, after_map, after, run_put, Store.put_of_closed h]
      exact hsame
  | check h =>
      rw [Call.perform, after_map, Order.perform, after_map]
      exact unmoved_of_unreadable h
  | consume h =>
      rw [Call.perform, after_map, after, run_consume]
      exact unmoved_of_unreadable h
  | sweep h =>
      rw [Call.perform, after_map, Order.perform, after_map, after, run_sweep_of_silence h]
      exact hsilent
  | start h =>
      rw [Call.perform, after_map, after, run_start, if_pos h]
      exact hsame

/-! ## Codes that are issued -/

/-- With nothing against it a code is issued: its record is there for the identifier, and it is
valid as long as the clock has not moved on by the number of seconds. -/
theorem issued_of_no_objection {length timeout : Int} (h : ∀ e, ¬ Objection k length timeout e)
    (id : String) (alphabet : Alphabet) : ∃ x now, k.world.reading? = some now ∧
      ((generate id length timeout alphabet).run k).1 = .ok x ∧
      ((generate id length timeout alphabet).after k).store.find? id = some x ∧
      ∀ t : Instant, x.record.isValid t = true ↔
        (t.micros : Int) < now.micros + timeout * 1000000 := by
  have hanswer := answer_generate k id length timeout alphabet
  obtain ⟨x, b, hx, hput⟩ | ⟨e, he, -⟩ := ensures_generate k id length timeout alphabet
  · rw [hx] at hanswer
    split at hanswer
    · cases hanswer
    split at hanswer
    · cases hanswer
    split at hanswer
    · cases hanswer
    next now hnow =>
    split at hanswer
    · cases hanswer
    next t hsome =>
    split at hanswer
    · cases hanswer
    have hexpiry := Instant.addMicros?_eq_some_iff.mp hsome
    have hfind : ((generate id length timeout alphabet).after k).store.find? id = some x := by
      rw [after, Store.find?_of_put hput, if_pos rfl]
    refine ⟨x, now, hnow, hx, hfind, fun u => ?_⟩
    obtain rfl := Except.ok.inj hanswer
    rw [Record.isValid_eq_true_iff, ← hexpiry, Int.ofNat_lt]
    rfl
  · exact absurd (answer_generate_eq_error_iff.mp he) (h e)

/-- A call fails for the first thing that stands against it, and for nothing else. Then it leaves
the records in their order, the closing mark, the gauge and all else that is measured or reported
as they were; so a code that was issued before is still there after an attempt to issue another
one that fails. With nothing against it a code is issued, and it is valid for exactly the number
of seconds from the reading of the clock. -/
theorem hindered_calls_change_nothing (k : Keeper) :
    (∀ (c : Call) e, (c.perform.run k).1 = .error e ↔ Hindered k c e) ∧
    (∀ (c : Call) e, (c.perform.run k).1 = .error e → k.Unmoved (c.perform.after k)) ∧
    (∀ id length timeout alphabet, (∀ e, ¬ Objection k length timeout e) →
      ∃ x now, k.world.reading? = some now ∧
        ((generate id length timeout alphabet).run k).1 = .ok x ∧
        ((generate id length timeout alphabet).after k).store.find? id = some x ∧
        ∀ t : Instant, x.record.isValid t = true ↔
          (t.micros : Int) < now.micros + timeout * 1000000) ∧
    ∀ id length timeout alphabet e, ((generate id length timeout alphabet).run k).1 = .error e →
      Objection k length timeout e ∧ ∀ j r, k.store.find? j = some r →
        ((generate id length timeout alphabet).after k).store.find? j = some r := by
  refine ⟨fun c e => answer_eq_error_iff_hindered, fun c e h => ?_, ?_, ?_⟩
  · exact unmoved_of_hindered (answer_eq_error_iff_hindered.mp h)
  · intro id length timeout alphabet h
    exact issued_of_no_objection h id alphabet
  · intro id length timeout alphabet e h
    refine ⟨answer_generate_eq_error_iff.mp h, fun j r hfind => ?_⟩
    rwa [(unmoved_of_generate h).store]

/-- One second before the calendar ends: a code for two seconds cannot be issued, and neither can
one whose timeout and length are both below one, which fails for the timeout. The code that was
there stays through both. A code for one second is issued, and lasts to the very end. -/
theorem code_outlives_failed_successors :
    ∃ (w : World) (s : Store) (r : Issued) (k : Keeper),
      w = { now := ⟨calendarDays * microsPerDay - 1000001, by decide⟩, made := 1 } ∧
      s = { records := .ofList [("ada", r)], sweeper := ⟨"otp-session-sweep", .int 60, [], none⟩ } ∧
      r = ⟨0, "123456", ⟨1, by decide⟩⟩ ∧ k = ⟨w, s⟩ ∧
      ((generate "ada" 0 0 .numeric).run k).1 = .error (.misuse .timeoutBelowOne) ∧
      ((generate "ada" 0 0 .numeric).after k).store.find? "ada" = some r ∧
      ((generate "ada" 6 2 .numeric).run k).1 = .error .outOfCalendar ∧
      k.Unmoved ((Call.order (.generate "ada" 6 2 .numeric)).perform.after k) ∧
      (∀ e, ¬ Objection k 6 1 e) ∧
      ∃ x, ((generate "ada" 6 1 .numeric).run k).1 = .ok x ∧ ∀ t : Instant,
        x.record.isValid t = true ↔ t.micros < Instant.last.micros := by
  have hlasts : ∀ k : Keeper, (∀ e, ¬ Objection k 6 1 e) →
      k.world.reading? = some ⟨calendarDays * microsPerDay - 1000001, by decide⟩ →
      ∃ x, ((generate "ada" 6 1 .numeric).run k).1 = .ok x ∧ ∀ t : Instant,
        x.record.isValid t = true ↔ t.micros < Instant.last.micros := by
    intro k hnone hreading
    obtain ⟨x, now, hnow, hx, -, hvalid⟩ :=
      (hindered_calls_change_nothing k).2.2.1 "ada" 6 1 .numeric hnone
    obtain rfl := Option.some.inj (hreading.symm.trans hnow)
    have hend : ((calendarDays * microsPerDay - 1000001 : Nat) : Int) + 1 * 1000000 =
      (Instant.last.micros : Int) := by decide
    refine ⟨x, hx, fun t => (hvalid t).trans ?_⟩
    rw [hend]
    exact Int.ofNat_lt
  refine ⟨_, _, _, _, rfl, rfl, rfl, rfl, ?hbelow,
    ((hindered_calls_change_nothing _).2.2.2 _ _ _ _ _ ?hbelow).2 _ _ rfl, ?hbeyond,
    (hindered_calls_change_nothing _).2.1 _ .outOfCalendar
      (answer_map_eq_error_iff.mpr (answer_map_eq_error_iff.mpr ?hbeyond)), ?hnone,
    hlasts _ ?hnone rfl⟩
  case hbelow => decide +kernel
  case hbeyond => decide +kernel
  case hnone =>
    intro e h
    cases h with
    | timeout h => exact absurd h (by decide)
    | length _ h => exact absurd h (by decide)
    | clock _ _ h => cases h
    | calendar _ _ hnow h =>
        obtain rfl := Option.some.inj hnow
        exact absurd h (by decide)
    | closed _ _ _ _ h => cases h

end Keeper

end Passcode
