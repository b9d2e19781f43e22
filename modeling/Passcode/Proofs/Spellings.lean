import Mathlib.Algebra.Group.Nat.Defs
import Mathlib.Algebra.Group.Int.Defs
import Passcode.Choice
import Passcode.Proofs.Trims
import Passcode.Reader

/-!
# Spellings that are read

How a value can be written so that its reader gives it back, whatever white space is around it.
A member of a vocabulary is written as its word or its name, and a truth value as its word, with
ASCII letters in either case (`Vocabulary.Spells`, `Text.SameLetters`); a whole number below the
limit of digits is written in decimal (`Reader.positiveInt_of_numeral`).
-/

namespace Passcode

/-! ## Letters in either case -/

namespace Text

/-- Two texts that differ in nothing but the case of their ASCII letters. -/
def SameLetters (s t : String) : Prop := s.toList.map Char.toLower = t.toList.map Char.toLower

instance (s t : String) : Decidable (SameLetters s t) :=
  inferInstanceAs (Decidable (s.toList.map Char.toLower = t.toList.map Char.toLower))

/-- A text of ASCII characters without white space. -/
def Solid (s : String) : Prop := (s.toList.all fun c => c.toNat < 128 && !isBlankChar c) = true

instance (s : String) : Decidable (Solid s) :=
  inferInstanceAs (Decidable ((s.toList.all fun c => c.toNat < 128 && !isBlankChar c) = true))

theorem solid_iff {s : String} :
    Solid s ↔ ∀ c ∈ s.toList, c.toNat < 128 ∧ isBlankChar c = false := by
  simp [Solid]

theorem lowerChar_of_lt {c : Char} (h : c.toNat < 128) : lowerChar c = [c.toLower] := by
  have := lowerChar_ascii ⟨c.toNat, h⟩
  rwa [Char.ofNat_toNat] at this

theorem toNat_le_toLower (c : Char) : c.toNat ≤ c.toLower.toNat := by
  unfold Char.toLower
  split
  · next h =>
    have hle : c.val.toNat ≤ 90 := h.2
    show c.val.toNat ≤ (c.val + 32).toNat
    rw [UInt32.toNat_add]
    show c.val.toNat ≤ (c.val.toNat + 32) % 4294967296
    omega
  · exact Nat.le_refl _

theorem toLower_ascii : ∀ n : Fin 128, (Char.ofNat n).toLower.toNat < 128 ∧
    isBlankChar (Char.ofNat n).toLower = isBlankChar (Char.ofNat n) := by
  decide +kernel

/-- A character that becomes the same small letter is ASCII and no white space either. -/
theorem solid_of_toLower {c d : Char} (heq : c.toLower = d.toLower)
    (hd : d.toNat < 128 ∧ isBlankChar d = false) : c.toNat < 128 ∧ isBlankChar c = false := by
  have hsmall := toLower_ascii ⟨d.toNat, hd.1⟩
  rw [Char.ofNat_toNat, ← heq] at hsmall
  have hc : c.toNat < 128 := Nat.lt_of_le_of_lt (toNat_le_toLower c) hsmall.1
  have hblank := (toLower_ascii ⟨c.toNat, hc⟩).2
  rw [Char.ofNat_toNat] at hblank
  exact ⟨hc, by rw [← hblank, hsmall.2, hd.2]⟩

theorem SameLetters.solid {s t : String} (h : SameLetters s t) (ht : Solid t) : Solid s := by
  rw [solid_iff] at ht ⊢
  intro c hc
  have hmem : c.toLower ∈ t.toList.map Char.toLower := h ▸ List.mem_map_of_mem hc
  obtain ⟨d, hd, heq⟩ := List.mem_map.mp hmem
  exact solid_of_toLower heq.symm (ht d hd)

theorem lower_of_solid {s : String} (h : Solid s) :
    lower s = String.ofList (s.toList.map Char.toLower) := by
  have hchars : s.toList.flatMap lowerChar = s.toList.map Char.toLower := by
    rw [List.map_eq_flatMap]
    exact List.flatMap_congr fun c hc => lowerChar_of_lt (solid_iff.mp h c hc).1
  rw [lower, hchars]

theorem trim_of_solid {s : String} (h : Solid s) : trim s = s :=
  trim_eq_self fun c hc => (solid_iff.mp h c hc).2

/-- The letters of a text may be of either case and white space may stand around it: trimmed and
in lower case it is the same. -/
theorem lower_trim_of_padded {inner outer t : String} (hpad : Padded inner outer)
    (h : SameLetters inner t) (ht : Solid t) : lower (trim outer) = lower (trim t) := by
  have hinner := h.solid ht
  rw [hpad.trim_eq, trim_of_solid hinner, trim_of_solid ht, lower_of_solid hinner,
    lower_of_solid ht, h]

end Text

/-! ## Members of a vocabulary -/

namespace Vocabulary

variable {α : Type} [Vocabulary α] {m : α} {raw : String}

/-- A text for a member: its word or its name, in letters of either case, with white space around
it. -/
def Spells (m : α) (raw : String) : Prop := ∃ inner,
  (Text.SameLetters inner (word m) ∨ Text.SameLetters inner (name m)) ∧ Text.Padded inner raw

/-- Words and names are ASCII without white space, each of them is read as its own member, and
the empty text is read as none. -/
structure Distinct (α : Type) [Vocabulary α] : Prop where
  solid : ∀ m : α, Text.Solid (word m) ∧ Text.Solid (name m)
  read : ∀ m : α, read? (word m) = some m ∧ read? (name m) = some m
  unnamed : (read? "" : Option α) = none

theorem distinct_channel : Distinct Channel :=
  ⟨by intro m; cases m <;> decide +kernel, by intro m; cases m <;> decide +kernel,
    by decide +kernel⟩

theorem distinct_alphabet : Distinct Alphabet :=
  ⟨by intro m; cases m <;> decide +kernel, by intro m; cases m <;> decide +kernel,
    by decide +kernel⟩

theorem distinct_missingAction : Distinct MissingAction :=
  ⟨by intro m; cases m <;> decide +kernel, by intro m; cases m <;> decide +kernel,
    by decide +kernel⟩

theorem distinct_encryption : Distinct Encryption :=
  ⟨by intro m; cases m <;> decide +kernel, by intro m; cases m <;> decide +kernel,
    by decide +kernel⟩

/-- Only the lower case of the trimmed text is looked at. -/
theorem read?_congr {s t : String} (h : Text.lower (Text.trim s) = Text.lower (Text.trim t)) :
    (read? s : Option α) = read? t := by
  have haccepts : accepts s = (accepts t : α → Bool) := by
    funext m
    rw [accepts, accepts, h]
  rw [read?, read?, haccepts]

theorem Distinct.read?_of_spells (hα : Distinct α) (h : Spells m raw) : read? raw = some m := by
  obtain ⟨inner, hword | hname, hpad⟩ := h
  · rw [read?_congr (Text.lower_trim_of_padded hpad hword (hα.solid m).1), (hα.read m).1]
  · rw [read?_congr (Text.lower_trim_of_padded hpad hname (hα.solid m).2), (hα.read m).2]

end Vocabulary

namespace Reader

variable {raw : String}

/-! ## Truth values -/

/-- A text for a truth value: its word in letters of either case, with white space around it. -/
def SpellsTruth (b : Bool) (raw : String) : Prop := ∃ inner,
  Text.SameLetters inner (if b then "true" else "false") ∧ Text.Padded inner raw

theorem boolean_congr {s t : String} (h : Text.lower (Text.trim s) = Text.lower (Text.trim t)) :
    boolean s = boolean t := by
  rw [boolean, boolean, h]

theorem boolean_of_spells {b : Bool} (h : SpellsTruth b raw) : boolean raw = .ok b := by
  obtain ⟨inner, hword, hpad⟩ := h
  have hsolid : Text.Solid (if b then "true" else "false") := by cases b <;> decide
  rw [boolean_congr (Text.lower_trim_of_padded hpad hword hsolid)]
  cases b <;> decide

end Reader

/-! ## Whole numbers -/

namespace Decimal

theorem isDigit_iff {c : Char} : c.isDigit = true ↔ 48 ≤ c.toNat ∧ c.toNat ≤ 57 := by
  simp [Char.isDigit, UInt32.le_iff_toNat_le]

theorem digitValue?_of_isDigit {c : Char} (h : c.isDigit = true) :
    Text.digitValue? c = some (c.toNat - '0'.toNat) := by
  have hlow := isDigit_iff.mp h
  have hd := Text.digitValue?_ascii ⟨c.toNat - 48, by omega⟩
  have hc : Char.ofNat (0x30 + (c.toNat - 48)) = c := by
    rw [show 0x30 + (c.toNat - 48) = c.toNat by omega, Char.ofNat_toNat]
  rwa [hc] at hd

theorem digitRun?_of_isDigit {cs : List Char} (hne : cs ≠ [])
    (h : ∀ c ∈ cs, c.isDigit = true) :
    digitRun? cs = some (cs.map fun c => c.toNat - '0'.toNat) := by
  induction cs with
  | nil => exact absurd rfl hne
  | cons c cs ih =>
      have hc := digitValue?_of_isDigit (h c List.mem_cons_self)
      cases cs with
      | nil => simp [digitRun?, hc]
      | cons d rest =>
          have hrest := ih (List.cons_ne_nil d rest) fun x hx => h x (List.mem_cons_of_mem c hx)
          have hd : d ≠ '_' := by
            rintro rfl
            exact absurd (h '_' (by simp)) (by decide)
          simp [digitRun?, hc, hrest]

theorem ofDigits_map (cs : List Char) :
    ofDigits (cs.map fun c => c.toNat - '0'.toNat) = Nat.ofDigitChars 10 cs 0 := by
  rw [ofDigits, Nat.ofDigitChars_eq_foldl, List.foldl_map]

theorem splitSign_of_isDigit {cs : List Char} (h : ∀ c ∈ cs, c.isDigit = true) :
    splitSign cs = (false, cs) := by
  cases cs with
  | nil => rfl
  | cons c cs =>
      have hc := h c List.mem_cons_self
      have hminus : c ≠ '-' := by
        rintro rfl
        exact absurd hc (by decide)
      have hplus : c ≠ '+' := by
        rintro rfl
        exact absurd hc (by decide)
      simp [splitSign, hminus, hplus]

theorem int?_of_trimChars {n : Nat} {cs : List Char} (hmax : n < 10 ^ maxDigits)
    (h : Text.trimChars cs = Nat.toDigits 10 n) : int? cs = some (n : Int) := by
  have hdigits : ∀ c ∈ Nat.toDigits 10 n, c.isDigit = true := fun c hc =>
    Nat.isDigit_of_mem_toDigits (by decide) (by decide) hc
  have hlength : (Nat.toDigits 10 n).length ≤ maxDigits :=
    (Nat.length_toDigits_le_iff (by decide) (by decide)).mpr hmax
  have hrun := digitRun?_of_isDigit Nat.toDigits_ne_nil hdigits
  rw [int?, h, splitSign_of_isDigit hdigits]
  dsimp only
  rw [hrun]
  dsimp only
  rw [List.length_map, if_neg (by omega), ofDigits_map, Nat.ofDigitChars_ten_toDigits]
  rfl

end Decimal

namespace Text

theorem digit_not_blank : ∀ n : Fin 128, (Char.ofNat n).isDigit = true →
    isBlankChar (Char.ofNat n) = false := by
  decide +kernel

theorem solid_toString (n : Nat) : Text.Solid (toString n) := by
  rw [solid_iff]
  intro c hc
  rw [Nat.toString_eq_repr, Nat.toList_repr] at hc
  have hdigit : c.isDigit = true := Nat.isDigit_of_mem_toDigits (by decide) (by decide) hc
  have hlow : c.toNat < 128 := by
    have := (Decimal.isDigit_iff.mp hdigit).2
    omega
  have hsolid := digit_not_blank ⟨c.toNat, hlow⟩
  rw [Char.ofNat_toNat] at hsolid
  exact ⟨hlow, hsolid hdigit⟩

end Text

/-- The decimal text of a whole number of at least one, below the limit of digits. -/
theorem Reader.positiveInt_of_numeral {n : Int} {raw : String} (hone : 1 ≤ n)
    (hmax : n < 10 ^ Decimal.maxDigits) (hpad : Text.Padded (toString n) raw) :
    positiveInt raw = .ok n := by
  obtain ⟨k, rfl⟩ : ∃ k : Nat, n = k := ⟨n.toNat, by omega⟩
  have hk : k < 10 ^ Decimal.maxDigits := by
    rw [← Int.ofNat_lt, Int.natCast_pow]
    exact hmax
  have htext : toString (k : Int) = toString k := rfl
  have htrim : Text.trimChars raw.toList = Nat.toDigits 10 k := by
    rw [← Text.toList_trim, hpad.trim_eq, htext, Text.trim_of_solid (Text.solid_toString k),
      Nat.toString_eq_repr, Nat.toList_repr]
  rw [positiveInt, Decimal.int?_of_trimChars hk htrim]
  exact if_neg (by omega)

/-! ## Blank texts -/

namespace Reader

variable {α : Type}

/-- A reader that looks at the trimmed text only, and reads nothing from a text that is empty. -/
structure Strict (r : Reader α) : Prop where
  congr : ∀ {s t : String}, Text.trim s = Text.trim t → r s = r t
  empty : ∀ a, r "" ≠ .ok a

theorem Strict.isBlank_eq_false {r : Reader α} (hr : r.Strict) {raw : String} {a : α}
    (h : r raw = .ok a) : Text.isBlank (some raw) = false := by
  by_contra hblank
  have htrim : Text.trim raw = Text.trim "" :=
    Text.trim_of_isBlank ((Bool.not_eq_false _).mp hblank)
  exact hr.empty a (hr.congr htrim ▸ h)

theorem strict_choice [Vocabulary α] (hα : Vocabulary.Distinct α) : (choice : Reader α).Strict where
  congr h := by rw [choice, choice, Vocabulary.read?_congr (congrArg Text.lower h)]
  empty a := by
    rw [choice, hα.unnamed]
    exact nofun

theorem strict_boolean : boolean.Strict where
  congr h := boolean_congr (congrArg Text.lower h)
  empty a := by
    rw [show boolean "" = .error .notABoolean by decide]
    exact nofun

theorem strict_positiveInt : positiveInt.Strict where
  congr h := by
    rw [positiveInt, positiveInt, Decimal.int?, Decimal.int?, ← Text.toList_trim,
      ← Text.toList_trim, h]
  empty a := by
    rw [show positiveInt "" = .error .notAnInteger by decide]
    exact nofun

theorem strict_positiveFloat : positiveFloat.Strict where
  congr h := by
    rw [positiveFloat, positiveFloat, Decimal.float?, Decimal.float?, ← Text.toList_trim,
      ← Text.toList_trim, h]
  empty a := by
    rw [show positiveFloat "" = .error .notANumber from rfl]
    exact nofun

end Reader

end Passcode
