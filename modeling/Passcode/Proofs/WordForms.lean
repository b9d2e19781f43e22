import Mathlib.Data.List.Forall2
import Passcode.Proofs.Spellings

/-!
# The texts that are read as a choice

Lower-casing leads to a small letter of ASCII from three characters at most: the letter itself, its
capital, and for k the Kelvin sign (`Text.lowerChar_eq_singleton_iff`). So a text has a word of such
letters as its lower case exactly if it renders that word letter by letter (`Text.lower_eq_iff`).

The words and names of a choice are made of such letters, and no text renders the words of two
members. What a reader of choices or truth values does with a text then follows from the words alone
(`Reader.ReadsWords`, `choices_read_by_their_words`).
-/

namespace Passcode

/-! ## Letters and what stands for them -/

namespace Text

/-- A character in the place of a small letter: the letter, its capital, or, for k, the Kelvin
sign. -/
def StandsFor (c l : Char) : Prop := c = l ∨ c = l.toUpper ∨ (l = 'k' ∧ c = '\u212A')

instance (c l : Char) : Decidable (StandsFor c l) :=
  inferInstanceAs (Decidable (c = l ∨ c = l.toUpper ∨ (l = 'k' ∧ c = '\u212A')))

/-- A text with as many characters as a word has letters, each standing for the letter in its
place. -/
def Renders (s word : String) : Prop := List.Forall₂ StandsFor s.toList word.toList

/-- A word of small letters of ASCII. -/
def IsLettered (word : String) : Prop := word.toList.all Char.isLower = true

instance (word : String) : Decidable (IsLettered word) :=
  inferInstanceAs (Decidable (word.toList.all Char.isLower = true))

theorem isLower_iff {c : Char} : c.isLower = true ↔ 97 ≤ c.toNat ∧ c.toNat ≤ 122 := by
  show (decide (97 ≤ c.val) && decide (c.val ≤ 122)) = true ↔ _
  rw [Bool.and_eq_true, decide_eq_true_eq, decide_eq_true_eq, UInt32.le_iff_toNat_le,
    UInt32.le_iff_toNat_le]
  exact Iff.rfl

theorem standsFor_toLower : ∀ n : Fin 128, StandsFor (Char.ofNat n) (Char.ofNat n).toLower := by
  decide +kernel

theorem lowerChar_toUpper : ∀ n : Fin 128, (Char.ofNat n).isLower = true →
    lowerChar (Char.ofNat n) = [Char.ofNat n] ∧
      lowerChar (Char.ofNat n).toUpper = [Char.ofNat n] := by
  decide +kernel

/-- Small letters of ASCII belong to capitals of ASCII, and to the Kelvin sign. -/
theorem last_lt_of_small_lt : ∀ r ∈ caseRuns, r.small < 128 →
    r.last < 128 ∨ r = ⟨0x212A, 0x212A, 1, 'k'.toNat⟩ := by
  decide +kernel

theorem toNat_ofNat_eq_or (n : Nat) : (Char.ofNat n).toNat = n ∨ (Char.ofNat n).toNat = 0 := by
  by_cases h : n.isValidChar
  · left
    rw [Char.ofNat, dif_pos h]
    rfl
  · right
    rw [Char.ofNat, dif_neg h]
    rfl

theorem eq_kelvin_of_lowerChar {c l : Char} (hc : 128 ≤ c.toNat) (hl : l.isLower = true)
    (h : lowerChar c = [l]) : l = 'k' ∧ c = '\u212A' := by
  have hletter := isLower_iff.mp hl
  unfold lowerChar at h
  split at h
  · cases h
  split at h
  · next r hr =>
    obtain rfl := List.singleton_inj.mp h
    have hrun := List.find?_some hr
    have hmem := List.mem_of_find?_eq_some hr
    simp only [CaseRun.contains, Bool.and_eq_true, decide_eq_true_eq] at hrun
    -- a number that is no character would be read as zero, which is no letter
    have hsmall : r.small < 128 := by
      have := toNat_ofNat_eq_or (r.small + (c.toNat - r.first))
      omega
    obtain hlast | rfl := last_lt_of_small_lt r hmem hsmall
    · omega
    · have hnat : c.toNat = 0x212A := Nat.le_antisymm hrun.1.2 hrun.1.1
      rw [hnat]
      exact ⟨rfl, by rw [← Char.ofNat_toNat c, hnat]⟩
  · obtain rfl := List.singleton_inj.mp h
    omega

/-- The characters whose lower case is a small letter of ASCII. -/
theorem lowerChar_eq_singleton_iff {c l : Char} (hl : l.isLower = true) :
    lowerChar c = [l] ↔ StandsFor c l := by
  have hletter := isLower_iff.mp hl
  constructor
  · intro h
    by_cases hc : c.toNat < 128
    · rw [lowerChar_of_lt hc] at h
      obtain rfl := List.singleton_inj.mp h
      have hstands := standsFor_toLower ⟨c.toNat, hc⟩
      rwa [Char.ofNat_toNat] at hstands
    · exact .inr (.inr (eq_kelvin_of_lowerChar (by omega) hl h))
  · have hboth := lowerChar_toUpper ⟨l.toNat, by omega⟩
    rw [Char.ofNat_toNat] at hboth
    rintro (rfl | rfl | ⟨rfl, rfl⟩)
    · exact (hboth hl).1
    · exact (hboth hl).2
    · exact lowerChar_kelvin

/-- Lower-casing makes one character of a character, or the two of the dotted capital I. -/
theorem lowerChar_cases (c : Char) :
    (∃ x, lowerChar c = [x]) ∨ lowerChar c = ['i', '\u0307'] := by
  unfold lowerChar
  split
  · exact .inr rfl
  · split <;> exact .inl ⟨_, rfl⟩

theorem flatMap_lowerChar_eq_iff {cs ls : List Char} (hls : ∀ l ∈ ls, l.isLower = true) :
    cs.flatMap lowerChar = ls ↔ List.Forall₂ StandsFor cs ls := by
  induction cs generalizing ls with
  | nil => rw [List.flatMap_nil, List.forall₂_nil_left_iff, eq_comm]
  | cons c cs ih =>
      rw [List.flatMap_cons]
      cases ls with
      | nil =>
          rw [List.forall₂_nil_right_iff]
          obtain ⟨x, hx⟩ | hx := lowerChar_cases c <;> simp [hx]
      | cons l ls =>
          obtain ⟨hl, hrest⟩ := List.forall_mem_cons.mp hls
          rw [List.forall₂_cons, ← lowerChar_eq_singleton_iff hl, ← ih hrest]
          obtain ⟨x, hx⟩ | hx := lowerChar_cases c
          · simp [hx]
          · -- the combining dot is no letter
            have hdot : '\u0307' ∉ ls := fun hmem => absurd (hrest _ hmem) (by decide)
            rw [hx]
            constructor
            · intro h
              obtain ⟨-, rfl⟩ := List.cons.inj h
              exact absurd List.mem_cons_self hdot
            · rintro ⟨h, -⟩
              cases h

theorem lower_eq_iff {s word : String} (hword : IsLettered word) :
    lower s = word ↔ Renders s word := by
  rw [Renders, ← flatMap_lowerChar_eq_iff (List.all_eq_true.mp hword), lower, ← String.toList_inj,
    String.toList_ofList]

end Text

/-! ## Readers of words -/

namespace Reader

variable {α : Type}

/-- A reader that reads each member from its words and from nothing else. The words are in small
letters; a text is trimmed and put into lower case, or compared with them letter by letter. -/
structure ReadsWords (r : Reader α) (words : α → List String) (reason : String) : Prop where
  /-- A member is read if and only if the trimmed text in lower case is a word for it. -/
  reads : ∀ key source raw m, r.read key source (some raw) = .ok m ↔
    Text.lower (Text.trim raw) ∈ words m
  /-- That is so if and only if the trimmed text renders such a word letter by letter. -/
  renders : ∀ raw m, Text.lower (Text.trim raw) ∈ words m ↔
    ∃ word ∈ words m, Text.Renders (Text.trim raw) word
  /-- No text has words for two members. -/
  unique : ∀ raw m m', Text.lower (Text.trim raw) ∈ words m →
    Text.lower (Text.trim raw) ∈ words m' → m = m'
  /-- In whatever order the members are tried, the first that the text has a word for is the one
  that is read. -/
  inAnyOrder : ∀ (members : List α), (∀ m, m ∈ members) → ∀ raw m,
    members.find? (Text.lower (Text.trim raw) ∈ words ·) = some m ↔ r raw = .ok m
  /-- Any other text is refused as it was given, for the attribute and source that were given. -/
  refuses : ∀ key source raw e, r.read key source (some raw) = .error e ↔
    (∀ m, Text.lower (Text.trim raw) ∉ words m) ∧
      e = .refused (.configuration key raw source reason)
  /-- Blank texts are among them. -/
  blank : ∀ raw, Text.isBlank (some raw) = true → ∀ m, Text.lower (Text.trim raw) ∉ words m

variable {r : Reader α} {words : α → List String} {c : Complaint}

theorem readsWords_of_reads (hlettered : ∀ m, ∀ word ∈ words m, Text.IsLettered word)
    (hnonempty : ∀ m, "" ∉ words m)
    (hreads : ∀ raw m, r raw = .ok m ↔ Text.lower (Text.trim raw) ∈ words m)
    (hcomplains : ∀ raw c', r raw = .error c' → c' = c) : ReadsWords r words c.text where
  reads key source raw m := by
    rw [read_eq_ok_iff, hreads]
  renders raw m := by
    constructor
    · intro h
      exact ⟨_, h, (Text.lower_eq_iff (hlettered m _ h)).mp rfl⟩
    · rintro ⟨word, hword, hrenders⟩
      rwa [(Text.lower_eq_iff (hlettered m word hword)).mpr hrenders]
  unique raw m m' h h' :=
    Except.ok.inj (((hreads raw m).mpr h).symm.trans ((hreads raw m').mpr h'))
  inAnyOrder members hall raw m := by
    have hfinds : ∀ {m}, members.find? (Text.lower (Text.trim raw) ∈ words ·) = some m →
        r raw = .ok m := by
      intro m h
      have hword := List.find?_some h
      exact (hreads raw m).mpr (of_decide_eq_true hword)
    refine ⟨hfinds, fun h => ?_⟩
    cases hfound : members.find? (Text.lower (Text.trim raw) ∈ words ·) with
    | none =>
        exact absurd (decide_eq_true ((hreads raw m).mp h)) (List.find?_eq_none.mp hfound m (hall m))
    | some m' => rw [Except.ok.inj ((hfinds hfound).symm.trans h)]
  refuses key source raw e := by
    simp only [← hreads, read_eq_error_iff]
    cases hraw : r raw with
    | ok m => simp
    | error c' =>
        obtain rfl := hcomplains raw c' hraw
        simp
  blank raw hblank m h := by
    rw [Text.trim_of_isBlank hblank] at h
    exact hnonempty m h

end Reader

/-! ## Choices -/

namespace Vocabulary

variable {α : Type} [Vocabulary α]

def lowerWords (m : α) : List String := [Text.lower (word m), Text.lower (name m)]

/-- What members are called is made of letters of ASCII. -/
def Lettered (α : Type) [Vocabulary α] : Prop :=
  ∀ m : α, ∀ w ∈ lowerWords m, Text.IsLettered w ∧ w ≠ ""

theorem accepts_iff {raw : String} {m : α} :
    accepts raw m = true ↔ Text.lower (Text.trim raw) ∈ lowerWords m := by
  simp [accepts, lowerWords]

/-- A text that is accepted for a member is read as that member. -/
theorem Distinct.read?_eq_some_iff (hα : Distinct α) {raw : String} {m : α} :
    read? raw = some m ↔ accepts raw m = true := by
  constructor
  · exact List.find?_some
  · intro h
    obtain ⟨hsolid, hsolid'⟩ := hα.solid m
    obtain ⟨hword, hname⟩ := hα.read m
    simp only [accepts, Bool.or_eq_true, decide_eq_true_eq] at h
    obtain h | h := h
    · rw [← hword, read?_congr (h.trans (by rw [Text.trim_of_solid hsolid]))]
    · rw [← hname, read?_congr (h.trans (by rw [Text.trim_of_solid hsolid']))]

theorem Distinct.readsWords (hα : Distinct α) (hletters : Lettered α) :
    Reader.ReadsWords (Reader.choice : Reader α) lowerWords (Complaint.notAmong (words α)).text := by
  refine Reader.readsWords_of_reads (fun m w hw => (hletters m w hw).1)
    (fun m hm => (hletters m "" hm).2 rfl) (fun raw m => ?_) fun raw c' h => ?_
  · rw [← accepts_iff, ← hα.read?_eq_some_iff, Reader.choice]
    cases (read? raw : Option α) <;> simp
  · rw [Reader.choice] at h
    split at h
    · cases h
    · exact (Except.error.inj h).symm

theorem lettered_channel : Lettered Channel := by
  intro m
  cases m <;> decide +kernel

theorem lettered_alphabet : Lettered Alphabet := by
  intro m
  cases m <;> decide +kernel

theorem lettered_missingAction : Lettered MissingAction := by
  intro m
  cases m <;> decide +kernel

theorem lettered_encryption : Lettered Encryption := by
  intro m
  cases m <;> decide +kernel

end Vocabulary

/-! ## Truth values -/

namespace Reader

def truthWords (b : Bool) : List String := [if b then "true" else "false"]

theorem boolean_eq_ok_iff {raw : String} {b : Bool} :
    boolean raw = .ok b ↔ Text.lower (Text.trim raw) ∈ truthWords b := by
  simp only [boolean, truthWords, List.mem_singleton]
  by_cases htrue : Text.lower (Text.trim raw) = "true"
  · cases b <;> simp [htrue]
  · by_cases hfalse : Text.lower (Text.trim raw) = "false"
    · cases b <;> simp [hfalse]
    · cases b <;> simp [htrue, hfalse]

theorem readsWords_boolean : ReadsWords boolean truthWords Complaint.notABoolean.text := by
  refine readsWords_of_reads ?_ ?_ (fun raw b => boolean_eq_ok_iff) fun raw c' h => ?_
  · intro b
    cases b <;> decide
  · intro b
    cases b <;> decide
  · simp only [boolean] at h
    split at h
    · cases h
    split at h
    · cases h
    · exact (Except.error.inj h).symm

end Reader

/-- The four choices and truth values are read from their words and names, in either case and with
white space around them, and from nothing else. The members are told apart by every text, so it does
not matter in which order they are tried. Any other text is refused, with the words that are
expected. -/
theorem choices_read_by_their_words :
    Reader.ReadsWords (Reader.choice : Reader Channel) Vocabulary.lowerWords
        "expected one of: email, sms" ∧
      Reader.ReadsWords (Reader.choice : Reader Alphabet) Vocabulary.lowerWords
        "expected one of: numeric, alpha, alphanumeric, all" ∧
      Reader.ReadsWords (Reader.choice : Reader MissingAction) Vocabulary.lowerWords
        "expected one of: block, allow" ∧
      Reader.ReadsWords (Reader.choice : Reader Encryption) Vocabulary.lowerWords
        "expected one of: none, ssl, starttls" ∧
      Reader.ReadsWords Reader.boolean Reader.truthWords "expected 'true' or 'false'" :=
  ⟨Vocabulary.distinct_channel.readsWords Vocabulary.lettered_channel,
    Vocabulary.distinct_alphabet.readsWords Vocabulary.lettered_alphabet,
    Vocabulary.distinct_missingAction.readsWords Vocabulary.lettered_missingAction,
    Vocabulary.distinct_encryption.readsWords Vocabulary.lettered_encryption,
    Reader.readsWords_boolean⟩

/-- The Kelvin sign stands for the k of a word, the dotted capital I for no letter. -/
theorem block_with_kelvin_sign :
    (Reader.choice : Reader MissingAction).read "OTP_MISSING_ACTION" (some "environment")
        (some " BLOC\u212A\u00A0") = .ok .block ∧
      (Reader.choice : Reader Channel).read "otp-method" (some "group:ops") (some "ema\u0130l ") =
        .error (.refused (.configuration "otp-method" "ema\u0130l " (some "group:ops")
          "expected one of: email, sms")) :=
  ⟨(choices_read_by_their_words.2.2.1.reads _ _ _ _).mpr (by decide +kernel),
    (choices_read_by_their_words.1.refuses _ _ _ _).mpr
      ⟨fun m => by cases m <;> decide +kernel, rfl⟩⟩

end Passcode
