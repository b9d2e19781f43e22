import Passcode.Failure
import Passcode.Instant
import Passcode.Span
import Passcode.Text.Glyph
import Passcode.Vocabulary

/-!
# Records

An outstanding code and the instant at which it expires. A code is accepted strictly
before that instant and only when it is submitted exactly as it was issued. What is submitted
is compared in UTF-8, so a text with halves of characters in it is neither accepted nor found
wrong: the comparison fails.

An `Issued` record carries a serial number besides: two records are the same record only
if their numbers agree, whatever their codes.
-/

namespace Passcode

/-! ## Texts in UTF-8 -/

namespace Glyphs

/-- The text that some glyphs are, if they are all characters. Octets count as the halves of
characters that stand for them. -/
def encoded (gs : Glyphs) : Except Failure String :=
  match gs.firstUnit? Glyph.unit? with
  | some (unit, position, count) => .error (.halves unit.toNat position count)
  | none => .ok (String.ofList (gs.filterMap Glyph.char?))

@[simp] theorem encoded_ofString (s : String) : (ofString s).encoded = .ok s := by
  have hnone : (ofString s).firstUnit? Glyph.unit? = none := by
    rw [firstUnit?_eq_none_iff]
    intro g hg
    obtain ⟨c, -, rfl⟩ := List.mem_map.mp hg
    rfl
  rw [encoded, hnone, ofString, List.filterMap_map]
  simp [Function.comp_def, Glyph.char?]

theorem ofString_injective {s t : String} (h : ofString s = ofString t) : s = t := by
  have hs := encoded_ofString s
  rw [h, encoded_ofString] at hs
  exact (Except.ok.inj hs).symm

theorem encoded_of_not_isText {gs : Glyphs} (h : gs.isText = false) :
    ∃ unit position count, gs.encoded = .error (.halves unit position count) := by
  rw [encoded]
  split
  · exact ⟨_, _, _, rfl⟩
  · next hnone =>
    rw [firstUnit?_eq_none_iff] at hnone
    obtain ⟨g, hg, hchar⟩ := List.all_eq_false.mp h
    have hunit := hnone g hg
    cases g with
    | char c => exact absurd rfl hchar
    | octet _ => cases hunit
    | half _ => cases hunit

end Glyphs

/-! ## Records -/

/-- An outstanding code and when it expires. -/
structure Record where
  code : String
  expiresAt : Instant
deriving DecidableEq, Repr

namespace Record

def create (code : String) (span : Value) (now : Instant) : Except Failure Record := do
  match now.addMicros? (← Span.micros span) with
  | some t => return ⟨code, t⟩
  | none => .error .outOfCalendar

/-- Whether the code can still be used. -/
def isValid (r : Record) (now : Instant) : Bool := now < r.expiresAt

/-- Whether a submitted code is the outstanding one, and in time. A code that comes too late is
not looked at. -/
def accepts (r : Record) (candidate : Option Glyphs) (now : Instant) : Except Failure Bool :=
  match candidate with
  | none => .ok false
  | some c => if r.isValid now then c.encoded.map (· = r.code) else .ok false

/-- The expiry as it is told to the user. -/
def notice (r : Record) : String := r.expiresAt.notice

/-- A record as it may be shown in a log: the code is left out. -/
def shown (r : Record) : String :=
  "OTPRecord(code=<redacted>, expires_at=" ++ r.expiresAt.text ++ ")"

end Record

/-- A record together with the number that tells it from every other one. -/
structure Issued where
  serial : Nat
  record : Record
deriving DecidableEq, Repr

/-- What a single check of a submitted code finds. -/
inductive CheckResult where
  | noChallenge
  | expired
  | mismatch
  | accepted
deriving DecidableEq, Repr

instance : Vocabulary CheckResult where
  title := "CheckResult"
  members := [.noChallenge, .expired, .mismatch, .accepted]
  word
    | .noChallenge => "no_challenge"
    | .expired => "expired"
    | .mismatch => "mismatch"
    | .accepted => "accepted"
  name
    | .noChallenge => "NO_CHALLENGE"
    | .expired => "EXPIRED"
    | .mismatch => "MISMATCH"
    | .accepted => "ACCEPTED"

end Passcode
