import Passcode.Proofs.Keepers

/-!
# What issuing a code answers

A code is issued unless something on the way is not as it should be: the timeout, the
length, the clock, the calendar, the store, in that order (`Keeper.answer_generate`). What the
keeper does besides is told by `Keeper.run_generate`. With a timeout in whole seconds no
rounding takes place, so the expiry is exact.
-/

namespace Passcode

/-! ## Whole seconds -/

theorem Decimal.roundDiv_mul (m : Nat) {den : Nat} (h : 0 < den) : roundDiv (m * den) den = m := by
  have hquotient : m * den / den = m := Nat.mul_div_cancel m h
  have hremainder : m * den % den = 0 := Nat.mul_mod_left m den
  unfold roundDiv
  rw [hquotient, hremainder]
  simp [h]

theorem Decimal.Dyadic.fraction_zero (e : Int) :
    ∃ den, 0 < den ∧ (Dyadic.mk 0 e).fraction = (0, den) := by
  unfold fraction
  split
  · exact ⟨1, Nat.one_pos, by simp⟩
  · exact ⟨_, Nat.two_pow_pos _, rfl⟩

namespace Span

/-- The sum of two whole parts leaves nothing over. -/
theorem rounded_whole (n : Int) : rounded n (0 + 0) = n := by
  have hbits : Decimal.Dyadic.ofBits (0 + 0 : Float).toBits = ⟨0, -1074⟩ := by decide
  have hsign : Decimal.signBit (0 + 0) = false := by decide
  obtain ⟨den, hpos, hfraction⟩ := Decimal.Dyadic.fraction_zero (-1074)
  unfold rounded
  rw [hbits, hfraction, hsign]
  have habs : (n * den + 0 : Int).natAbs = n.natAbs * den := by
    rw [Int.add_zero, Int.natAbs_mul, Int.natAbs_natCast]
  have hneg : n * (den : Int) + 0 < 0 ↔ n < 0 := by
    rw [Int.add_zero]
    exact ⟨fun h => Int.not_le.mp fun hn => Int.not_le.mpr h (Int.mul_nonneg hn (by omega)),
      fun h => Int.mul_neg_of_neg_of_pos h (by omega)⟩
  simp only [Bool.false_eq_true, ↓reduceIte, Int.ofNat_zero, habs, Decimal.roundDiv_mul _ hpos, hneg]
  split <;> omega

theorem micros_int (n : Int) : micros (.int n) = .ok (n * 1000000) := by
  have hsum : micros (.int n) = .ok (rounded (0 * (1 : Nat) + n * (1000000 : Nat)) (0 + 0)) := rfl
  rw [hsum, rounded_whole, Int.zero_mul, Int.zero_add]
  rfl

end Span

theorem Record.create_int (code : String) (n : Int) (now : Instant) :
    create code (.int n) now = match now.addMicros? (n * 1000000) with
      | some t => .ok ⟨code, t⟩
      | none => .error .outOfCalendar := by
  rw [create, Span.micros_int]
  change (match now.addMicros? (n * 1000000) with
    | some t => (.ok ⟨code, t⟩ : Except Failure Record)
    | none => .error .outOfCalendar) = _
  cases now.addMicros? (n * 1000000) <;> rfl

/-! ## Issuing -/

namespace Keeper

open Passcode.Action

variable {k : Keeper} {id : String} {length timeout : Int} {alphabet : Alphabet}

/-- A keeper after a code of so many characters was drawn. -/
def drawn (k : Keeper) (n : Nat) : Keeper :=
  { k with world := { k.world with draws := k.world.draws.skip n } }

def numbered (k : Keeper) : Keeper := { k with world := { k.world with made := k.world.made + 1 } }

/-- Issuing a code of an alphabet, as a whole. -/
theorem run_generate (k : Keeper) (id : String) (length timeout : Int) (alphabet : Alphabet) :
    (generate id length timeout alphabet).run k =
      if timeout < 1 then (.error (.misuse .timeoutBelowOne), k)
      else if length < 1 then (.error (.misuse .lengthBelowOne), k)
      else match k.world.reading? with
        | none => (.error (.broken "clock"), (k.drawn length.toNat).misread)
        | some now => match now.addMicros? (timeout * 1000000) with
          | none => (.error .outOfCalendar, k.drawn length.toNat)
          | some t =>
            let x : Issued := ⟨k.world.made, k.world.draws.code alphabet length.toNat, t⟩
            match k.store.put id x with
            | .error e => (.error e, (k.drawn length.toNat).numbered)
            | .ok (b, s) => (.ok x, ((k.drawn length.toNat).numbered.keeping s).told
                [.generated id (.int length) (.int timeout) b]) := by
  have hnumber : (liftM (Value.int timeout).number : Action Keeper Number).run k =
    (.ok (.int timeout), k) := rfl
  unfold generate issue
  rw [run_bind_of_ok hnumber]
  by_cases htimeout : timeout < 1
  · have hbelow : (Number.int timeout).belowOne = true := decide_eq_true htimeout
    rw [if_pos htimeout, if_pos hbelow, run_bind_of_error (run_throw _ k)]
  have hbelow : ¬ (Number.int timeout).belowOne = true := fun h => htimeout (of_decide_eq_true h)
  rw [if_neg htimeout, if_neg hbelow]
  by_cases hlength : length < 1
  · have hdraw : (inWorld (World.drawCode length alphabet)).run k =
        (.error (.misuse .lengthBelowOne), k) := by
      rw [run_inWorld, World.run_drawCode_of_lt hlength]
    rw [if_pos hlength, run_bind_of_error hdraw]
  have hdraw : (inWorld (World.drawCode length alphabet)).run k =
      (.ok (k.world.draws.code alphabet length.toNat), k.drawn length.toNat) := by
    rw [run_inWorld, World.run_drawCode_of_not_lt hlength]
    rfl
  rw [if_neg hlength, run_bind_of_ok hdraw]
  -- what is drawn leaves the clock as it is
  have hreading : (k.drawn length.toNat).world.reading? = k.world.reading? := rfl
  cases hnow : k.world.reading? with
  | none => rw [run_bind_of_error (run_clock_of_silence (hreading.trans hnow))]
  | some now =>
      rw [run_bind_of_ok (run_clock_of_reading (hreading.trans hnow)), Record.create_int]
      dsimp only
      cases now.addMicros? (timeout * 1000000) with
      | none => rfl
      | some t =>
          have hrecord : ∀ r : Record, (inWorld (World.number r)).run (k.drawn length.toNat) =
              (.ok ⟨k.world.made, r⟩, (k.drawn length.toNat).numbered) := fun _ => rfl
          have hlift : ∀ r : Record, (liftM (.ok r : Except Failure Record) :
              Action Keeper Record).run (k.drawn length.toNat) =
                (.ok r, k.drawn length.toNat) := fun _ => rfl
          dsimp only
          rw [run_bind_of_ok (hlift _), run_bind_of_ok (hrecord _)]
          have hstore : (k.drawn length.toNat).numbered.store = k.store := rfl
          rw [run_bind, run_put, hstore]
          cases k.store.put id ⟨k.world.made, k.world.draws.code alphabet length.toNat, t⟩ with
          | error e => rfl
          | ok placed => rfl

/-- Issuing a code of an alphabet keeps what its stages keep: the code is drawn, the clock may
fail, the record is given its number and may be taken in. -/
theorem keeps_generate {I : Keeper → Prop} (hdrawn : ∀ k n, I k → I (k.drawn n))
    (hmisread : ∀ k, I k → I k.misread) (hnumbered : ∀ k, I k → I k.numbered)
    (htaken : ∀ k x b s, I k → k.store.put id x = .ok (b, s) →
      I ((k.keeping s).told [.generated id (.int length) (.int timeout) b])) :
    Keeps I (generate id length timeout alphabet) := by
  intro k hk
  unfold after
  rw [run_generate]
  have hnext := hdrawn k length.toNat hk
  split_ifs
  · exact hk
  · exact hk
  cases k.world.reading? with
  | none => exact hmisread _ hnext
  | some now =>
      dsimp only
      cases now.addMicros? (timeout * 1000000) with
      | none => exact hnext
      | some t =>
          dsimp only
          split
          · exact hnumbered _ hnext
          · next b s hput => exact htaken _ _ b s (hnumbered _ hnext) hput

/-- A record that is issued has the next number and uses it up. No number is taken back. -/
theorem ensures_made_generate (k : Keeper) (id : String) (length timeout : Int)
    (alphabet : Alphabet) : (generate id length timeout alphabet).Ensures k fun a k' =>
      (∀ x, a = .ok x → x.serial = k.world.made ∧ k'.world.made = k.world.made + 1) ∧
        k.world.made ≤ k'.world.made := by
  rw [Ensures, run_generate]
  split_ifs
  · exact ⟨fun x hx => (by cases hx), le_rfl⟩
  · exact ⟨fun x hx => (by cases hx), le_rfl⟩
  cases k.world.reading? with
  | none => exact ⟨fun x hx => (by cases hx), le_rfl⟩
  | some now =>
      dsimp only
      cases now.addMicros? (timeout * 1000000) with
      | none => exact ⟨fun x hx => (by cases hx), le_rfl⟩
      | some t =>
          dsimp only
          cases k.store.put id _ with
          | error e => exact ⟨fun x hx => (by cases hx), Nat.le_succ _⟩
          | ok placed =>
              exact ⟨fun x hx => by obtain rfl := Except.ok.inj hx; exact ⟨rfl, rfl⟩,
                Nat.le_succ _⟩

/-- What issuing a code of an alphabet answers. -/
theorem answer_generate (k : Keeper) (id : String) (length timeout : Int) (alphabet : Alphabet) :
    ((generate id length timeout alphabet).run k).1 =
      if timeout < 1 then .error (.misuse .timeoutBelowOne)
      else if length < 1 then .error (.misuse .lengthBelowOne)
      else match k.world.reading? with
        | none => .error (.broken "clock")
        | some now => match now.addMicros? (timeout * 1000000) with
          | none => .error .outOfCalendar
          | some t => if k.store.closed then .error (.refused .storeClosed)
            else .ok ⟨k.world.made, k.world.draws.code alphabet length.toNat, t⟩ := by
  rw [run_generate]
  by_cases htimeout : timeout < 1
  · rw [if_pos htimeout, if_pos htimeout]
  rw [if_neg htimeout, if_neg htimeout]
  by_cases hlength : length < 1
  · rw [if_pos hlength, if_pos hlength]
  rw [if_neg hlength, if_neg hlength]
  cases k.world.reading? with
  | none => rfl
  | some now =>
      dsimp only
      cases now.addMicros? (timeout * 1000000) with
      | none => rfl
      | some t =>
          cases hclosed : k.store.closed with
          | true => simp [Store.put_of_closed hclosed]
          | false => simp [Store.put_of_open hclosed]

/-- The code of a record that is issued is spelled by the next numbers. -/
theorem code_of_issued {x : Issued} (h : ((generate id length timeout alphabet).run k).1 = .ok x) :
    x.record.code = k.world.draws.code alphabet length.toNat := by
  rw [answer_generate] at h
  split at h
  · cases h
  split at h
  · cases h
  split at h
  · cases h
  split at h
  · cases h
  split at h
  · cases h
  · obtain rfl := Except.ok.inj h
    rfl

/-- What was reported before does not matter. -/
theorem answer_generate_told (k : Keeper) (es : List Event) (id : String) (length timeout : Int)
    (alphabet : Alphabet) : ((generate id length timeout alphabet).run (k.told es)).1 =
      ((generate id length timeout alphabet).run k).1 := by
  rw [answer_generate, answer_generate]
  rfl

end Keeper

end Passcode
