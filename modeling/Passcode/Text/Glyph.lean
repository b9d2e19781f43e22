import Passcode.Text.Blank
import Passcode.Text.Utf8

/-!
# Glyphs

What a text consists of that need not be well-formed: characters, octets that no charset
explains, and halves of characters. The text of a header is one while it is being read, for
some charsets can name halves; in the end the octets are read as UTF-8, together with the
characters around them, and what is still unexplained becomes a replacement character. A text
that a user submits is another. Half of a character cannot be written.
-/

namespace Passcode

/-- A character, an octet that is not known to be part of one, or half of a character: a
code unit of those that stand for characters in pairs only. -/
inductive Glyph where
  | char (c : Char)
  | octet (b : UInt8)
  | half (unit : UInt16)
deriving DecidableEq, Repr

/-- A text that may hold unexplained octets. -/
abbrev Glyphs := List Glyph

namespace Glyph

def among (cs : List Char) : Glyph → Bool
  | char c => c ∈ cs
  | _ => false

def isSpace (g : Glyph) : Bool := g.among [' ', '\t']

/-- Whether a glyph is white space of any kind. -/
def isBlank : Glyph → Bool
  | char c => Text.isBlankChar c
  | _ => false

def char? : Glyph → Option Char
  | char c => some c
  | _ => none

/-- The octets of a glyph in UTF-8, in which half a character has none. -/
def utf8 : Glyph → List UInt8
  | char c => String.utf8EncodeChar c
  | octet b => [b]
  | half _ => []

/-- The glyph with a code point. The upper part of the range of halves stands for octets. -/
def ofCode (n : Nat) : Glyph :=
  if 0xDC80 ≤ n ∧ n ≤ 0xDCFF then .octet (UInt8.ofNat (n - 0xDC00))
  else if 0xD800 ≤ n ∧ n ≤ 0xDFFF then .half (UInt16.ofNat n)
  else .char (Char.ofNat n)

def isChar : Glyph → Bool
  | char _ => true
  | _ => false

/-- The code unit of a glyph that is half of a character. -/
def half? : Glyph → Option UInt16
  | half u => some u
  | _ => none

/-- The code unit of a glyph that is no character: an octet has one of the upper part of the
range of halves. -/
def unit? : Glyph → Option UInt16
  | char _ => none
  | octet b => some (0xDC00 + b.toUInt16)
  | half u => some u

/-- The octet of a glyph that is a character of ASCII or an octet already. -/
def octet? : Glyph → Option UInt8
  | char c => if c.toNat < 0x80 then some (UInt8.ofNat c.toNat) else none
  | octet b => some b
  | half _ => none

end Glyph

namespace Glyphs

def ofString (s : String) : Glyphs := s.toList.map .char

def isText (gs : Glyphs) : Bool := gs.all Glyph.isChar

/-- The glyphs of octets in UTF-8; what is no character stays as it is. -/
def ofUtf8 (bs : List UInt8) : Glyphs :=
  (Text.Utf8.pieces bs).flatMap fun
    | .char c => [.char c]
    | .fault os => os.map .octet

/-- Where the first glyph that has a code unit is among some glyphs, and how many glyphs from it
on are no characters. -/
def firstUnit? (unit? : Glyph → Option UInt16) : Glyphs → Option (UInt16 × Nat × Nat)
  | [] => none
  | g :: gs =>
    match unit? g with
    | some u => some (u, 0, (gs.takeWhile (!·.isChar)).length + 1)
    | none => (firstUnit? unit? gs).map fun r => (r.1, r.2.1 + 1, r.2.2)

@[simp] theorem isText_ofString (s : String) : (ofString s).isText = true := by
  simp [isText, ofString, Glyph.isChar]

theorem isText_iff {gs : Glyphs} : gs.isText = true ↔ ∃ s, gs = ofString s := by
  constructor
  · intro h
    refine ⟨String.ofList (gs.filterMap Glyph.char?), ?_⟩
    rw [ofString, String.toList_ofList, List.map_filterMap]
    induction gs with
    | nil => rfl
    | cons g gs ih =>
      obtain ⟨hg, hgs⟩ := Bool.and_eq_true_iff.mp h
      cases g with
      | char c => exact congrArg (.char c :: ·) (ih hgs)
      | octet _ => cases hg
      | half _ => cases hg
  · rintro ⟨s, rfl⟩
    exact isText_ofString s

theorem firstUnit?_eq_none_iff {unit? : Glyph → Option UInt16} {gs : Glyphs} :
    gs.firstUnit? unit? = none ↔ ∀ g ∈ gs, unit? g = none := by
  induction gs with
  | nil => simp [firstUnit?]
  | cons g gs ih =>
    rw [firstUnit?, List.forall_mem_cons]
    cases unit? g <;> simp [ih]

/-- The text of some glyphs; octets that are no characters are replaced, and halves of
characters left out. -/
def toText (gs : Glyphs) : String :=
  String.ofList ((Text.Utf8.pieces (gs.flatMap Glyph.utf8)).map fun
    | .char c => c
    | .fault _ => '\uFFFD')

/-- The glyphs with every run of white space that begins with a space or a tab made one
space. -/
def collapse : (blank : Bool) → Glyphs → Glyphs
  | _, [] => []
  | blank, g :: gs =>
    if blank && g.isBlank then collapse true gs
    else if g.isSpace then .char ' ' :: collapse true gs
    else g :: collapse false gs

def mention (cs : List Char) (gs : Glyphs) : Bool := gs.any (·.among cs)

/-- The glyphs in quotation marks, with a backslash before every quotation mark and
backslash in them. -/
def inQuotes (gs : Glyphs) : Glyphs :=
  .char '"' :: (gs.flatMap fun g => if g.among ['\\', '"'] then [.char '\\', g] else [g])
    ++ [.char '"']

end Glyphs

end Passcode
