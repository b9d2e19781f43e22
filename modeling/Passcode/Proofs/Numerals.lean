import Mathlib.Data.Nat.Digits.Defs
import Passcode.Proofs.Spellings

/-!
# The texts that are read as a whole number

The grammar of whole numbers, rule by rule (`Decimal.DigitRun`, `Decimal.Numeral`), and the number
that digits write in base ten. Reading follows them exactly (`Decimal.int?_eq_some_iff`), so the
reader of numbers of at least one accepts the numerals of those numbers within the limit of digits,
and blames any other text for what is wrong with it (`numerals_read_exactly`).
-/

namespace Passcode

namespace Decimal

variable {cs : List Char} {ds : List Nat} {negative : Bool}

/-- A run of digits with their values: at least one digit, and single underscores between two of
them only. -/
inductive DigitRun : List Char → List Nat → Prop
  | one {c : Char} {d : Nat} (hc : Text.digitValue? c = some d) : DigitRun [c] [d]
  | next {c : Char} {d : Nat} {cs : List Char} {ds : List Nat} (hc : Text.digitValue? c = some d)
      (hcs : DigitRun cs ds) : DigitRun (c :: cs) (d :: ds)
  | gap {c : Char} {d : Nat} {cs : List Char} {ds : List Nat} (hc : Text.digitValue? c = some d)
      (hcs : DigitRun cs ds) : DigitRun (c :: '_' :: cs) (d :: ds)

/-- A run of digits with one optional sign before it, and whether that is a minus. -/
inductive Numeral : List Char → Bool → List Nat → Prop
  | bare {cs : List Char} {ds : List Nat} (hcs : DigitRun cs ds) : Numeral cs false ds
  | plus {cs : List Char} {ds : List Nat} (hcs : DigitRun cs ds) : Numeral ('+' :: cs) false ds
  | minus {cs : List Char} {ds : List Nat} (hcs : DigitRun cs ds) : Numeral ('-' :: cs) true ds

/-- The whole number that a sign and digits write in base ten. -/
def value (negative : Bool) (ds : List Nat) : Int :=
  let n : Nat := Nat.ofDigits 10 ds.reverse
  if negative then -n else n

/-- A text of a whole number within the limit of digits, white space around it aside. -/
def Writes (raw : String) (n : Int) : Prop := ∃ negative ds,
  Numeral (Text.trim raw).toList negative ds ∧ ds.length ≤ maxDigits ∧ value negative ds = n

/-! ## Runs of digits -/

theorem DigitRun.ne_nil (h : DigitRun cs ds) : cs ≠ [] := by
  cases h <;> exact List.cons_ne_nil _ _

theorem DigitRun.isDigit_head {c : Char} (h : DigitRun (c :: cs) ds) : Text.isDigit c = true := by
  rw [Text.isDigit]
  cases h with
  | one hc => exact Option.isSome_of_eq_some hc
  | next hc _ => exact Option.isSome_of_eq_some hc
  | gap hc _ => exact Option.isSome_of_eq_some hc

theorem digitRun?_eq_some_of_digitRun (h : DigitRun cs ds) : digitRun? cs = some ds := by
  induction h with
  | one hc => simp [digitRun?, hc]
  | @next c d cs ds hc hcs ih =>
      cases cs with
      | nil => exact absurd rfl hcs.ne_nil
      | cons x rest =>
          have hx : x ≠ '_' := by
            rintro rfl
            exact absurd hcs.isDigit_head (by decide)
          simp [digitRun?, hc, ih]
  | gap hc hcs ih => simp [digitRun?, hc, ih]

theorem digitRun?_eq_some_iff : digitRun? cs = some ds ↔ DigitRun cs ds := by
  refine ⟨fun h => ?_, digitRun?_eq_some_of_digitRun⟩
  fun_induction digitRun? cs generalizing ds with
  | case1 => cases h
  | case2 => cases h
  | case3 c d hc =>
      obtain rfl := Option.some.inj h
      exact .one hc
  | case4 c d rest hc ih =>
      obtain ⟨rest', hrest, rfl⟩ := Option.map_eq_some_iff.mp h
      exact .gap hc (ih hrest)
  | case5 c d x rest _ hc ih =>
      obtain ⟨rest', hrest, rfl⟩ := Option.map_eq_some_iff.mp h
      exact .next hc (ih hrest)

theorem DigitRun.splitSign_eq (h : DigitRun cs ds) : splitSign cs = (false, cs) := by
  unfold splitSign
  split
  · exact absurd h.isDigit_head (by decide)
  · exact absurd h.isDigit_head (by decide)
  · rfl

/-! ## Numerals -/

theorem numeral_iff :
    Numeral cs negative ds ↔ ∃ rest, splitSign cs = (negative, rest) ∧ DigitRun rest ds := by
  constructor
  · intro h
    cases h with
    | bare hcs => exact ⟨_, hcs.splitSign_eq, hcs⟩
    | plus hcs => exact ⟨_, rfl, hcs⟩
    | minus hcs => exact ⟨_, rfl, hcs⟩
  · rintro ⟨rest, hsplit, hrest⟩
    unfold splitSign at hsplit
    split at hsplit
    all_goals obtain ⟨rfl, rfl⟩ := Prod.mk.inj hsplit
    · exact .minus hrest
    · exact .plus hrest
    · exact .bare hrest

theorem ofDigits_eq (ds : List Nat) : ofDigits ds = Nat.ofDigits 10 ds.reverse := by
  rw [Nat.ofDigits_eq_foldr, List.foldr_reverse, ofDigits]
  simp only [Nat.cast_id, Nat.add_comm]

theorem int?_eq_some_iff {raw : String} {n : Int} : int? raw.toList = some n ↔ Writes raw n := by
  simp only [Writes, numeral_iff, Text.toList_trim, int?, value, ← ofDigits_eq,
    ← digitRun?_eq_some_iff]
  rcases splitSign (Text.trimChars raw.toList) with ⟨negative, rest⟩
  cases hrest : digitRun? rest with
  | none => simp [hrest]
  | some ds =>
      by_cases hmax : maxDigits < ds.length
      · simp [hrest, hmax]
      · simp [hrest, hmax, Nat.le_of_not_lt hmax]

/-- A number of at least one is written without a minus. -/
theorem writes_iff_of_one_le {raw : String} {n : Int} (hone : 1 ≤ n) :
    Writes raw n ↔ ∃ ds, Numeral (Text.trim raw).toList false ds ∧ ds.length ≤ maxDigits ∧
      value false ds = n := by
  constructor
  · rintro ⟨_ | _, ds, hnumeral, hmax, hvalue⟩
    · exact ⟨ds, hnumeral, hmax, hvalue⟩
    · have hle : value true ds ≤ 0 := by simp [value]
      omega
  · rintro ⟨ds, hds⟩
    exact ⟨false, ds, hds⟩

end Decimal

namespace Reader

open Decimal (Writes int?_eq_some_iff)

variable {raw : String}

theorem positiveInt_eq_ok_iff {n : Int} : positiveInt raw = .ok n ↔ Writes raw n ∧ 1 ≤ n := by
  rw [← int?_eq_some_iff, positiveInt]
  cases Decimal.int? raw.toList with
  | none => simp
  | some m =>
      dsimp only
      split
      · next hm =>
        simp only [reduceCtorEq, Option.some.injEq, false_iff]
        omega
      · next hm =>
        simp only [Except.ok.injEq, Option.some.injEq]
        omega

theorem positiveInt_eq_error_iff {c : Complaint} : positiveInt raw = .error c ↔
    ((∃ n, Writes raw n ∧ n < 1) ∧ c = .belowOne) ∨
      ((¬ ∃ n, Writes raw n) ∧ c = .notAnInteger) := by
  simp only [← int?_eq_some_iff, positiveInt]
  cases Decimal.int? raw.toList with
  | none => simp [eq_comm]
  | some m =>
      dsimp only
      split
      · next hm => simp [hm, eq_comm]
      · next hm => simp [hm]

end Reader

open Decimal (Numeral Writes maxDigits value)

/-- The reader of whole numbers of at least one reads their numerals, with a plus sign or none and
within the limit of digits. It blames a numeral of another number for being below one, and any other
text for not being an integer. Each number that can be written within the limit is read back from
its decimal text. -/
theorem numerals_read_exactly (key : String) (source : Option String) (raw : String) :
    (∀ n, Reader.positiveInt.read key source (some raw) = .ok n ↔
        (∃ ds, Numeral (Text.trim raw).toList false ds ∧ ds.length ≤ maxDigits ∧
          value false ds = n) ∧ 1 ≤ n) ∧
      (∀ e, Reader.positiveInt.read key source (some raw) = .error e ↔
        ((∃ n, Writes raw n ∧ n < 1) ∧
            e = .refused (.configuration key raw source "must be at least 1")) ∨
          ((¬ ∃ n, Writes raw n) ∧
            e = .refused (.configuration key raw source "not an integer"))) ∧
      ∀ n : Int, 1 ≤ n → n < 10 ^ maxDigits →
        Reader.positiveInt.read key source (some (toString n)) = .ok n := by
  refine ⟨fun n => ?reads, fun e => ?refuses, fun n hone hmax => ?back⟩
  case reads =>
    rw [Reader.read_eq_ok_iff, Reader.positiveInt_eq_ok_iff]
    exact and_congr_left Decimal.writes_iff_of_one_le
  case refuses =>
    rw [Reader.read_eq_error_iff]
    simp only [Reader.positiveInt_eq_error_iff, or_and_right, exists_or, and_assoc, exists_and_left,
      exists_eq_left]
    rfl
  case back =>
    have hpad : Text.Padded (toString n) (toString n) := ⟨[], [], rfl, rfl, by simp⟩
    exact Reader.read_eq_ok_iff.mpr (Reader.positiveInt_of_numeral hone hmax hpad)

/-- Digits of three scripts, a zero in front and an underscore between two of them, a minus before
zero, and the greatest number within the limit. -/
theorem numerals_of_mixed_scripts :
    Reader.positiveInt.read "otp-timeout" (some "group:ops") (some "\u2003+0\u0664_\u09687\u00A0") =
        .ok 427 ∧
      Reader.positiveInt.read "otp-length" none (some " -0 ") =
        .error (.refused (.configuration "otp-length" " -0 " none "must be at least 1")) ∧
      Reader.positiveInt.read "OTP_LENGTH" (some "environment")
          (some (toString ((10 : Int) ^ maxDigits - 1))) = .ok (10 ^ maxDigits - 1) := by
  have hplus : (Text.trim "\u2003+0\u0664_\u09687\u00A0").toList =
      ['+', '0', '\u0664', '_', '\u0968', '7'] := by decide +kernel
  have hminus : (Text.trim " -0 ").toList = ['-', '0'] := by decide +kernel
  have hmax : (1 : Int) < 10 ^ maxDigits := one_lt_pow₀ (by decide) (by decide)
  refine ⟨((numerals_read_exactly _ _ _).1 427).mpr ⟨⟨[0, 4, 2, 7], ?_, by decide, by decide⟩,
      by decide⟩,
    ((numerals_read_exactly _ _ _).2.1 _).mpr
      (.inl ⟨⟨0, ⟨true, [0], ?_, by decide, by decide⟩, by decide⟩, rfl⟩),
    (numerals_read_exactly _ _ "").2.2 _ (by omega) (by omega)⟩
  · rw [hplus]
    exact .plus (.next (by decide) (.gap (by decide) (.next (by decide) (.one (by decide)))))
  · rw [hminus]
    exact .minus (.one (by decide))

end Passcode
