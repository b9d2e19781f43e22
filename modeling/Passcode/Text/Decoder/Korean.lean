import Passcode.Text.Decoder
import Passcode.Text.Plane.Ksx1001

/-!
# Korean

EUC with KS X 1001, which can also spell a syllable that has no cell of its own; code page
949, which has cells for all of these; and Johab, in which two octets are the letters of a
syllable, five bits each.
-/

namespace Passcode.Text.Decoder

/-! ## Letters and syllables -/

/-- The letters that begin syllables, by the lower octets of their code points. -/
def initials : List Nat :=
  [0x31, 0x32, 0x34, 0x37, 0x38, 0x39, 0x41, 0x42, 0x43, 0x45, 0x46, 0x47, 0x48, 0x49, 0x4A,
   0x4B, 0x4C, 0x4D, 0x4E]

/-- The letters that end syllables, by the lower octets of their code points. -/
def finals : List Nat :=
  [0x31, 0x32, 0x33, 0x34, 0x35, 0x36, 0x37, 0x39, 0x3A, 0x3B, 0x3C, 0x3D, 0x3E, 0x3F, 0x40,
   0x41, 0x42, 0x44, 0x45, 0x46, 0x47, 0x48, 0x4A, 0x4B, 0x4C, 0x4D, 0x4E]

/-- The syllable of an initial, a medial and a final, each by its number; zero is no final. -/
def syllable (initial medial final : Nat) : Char :=
  Char.ofNat (0xAC00 + initial * 588 + medial * 28 + final)

def letter (low : Nat) : Char := Char.ofNat (0x3100 + low)

/-! ## EUC -/

/-- The syllable that three letters spell, each given by its cell in the row of letters. The
filler ends a syllable without a final. -/
def spelled? (initial medial final : Nat) : Option Char := do
  let i ← initials.idxOf? (initial - 0x70)
  let m ← if 0xBF ≤ medial ∧ medial ≤ 0xD3 then some (medial - 0xBF) else none
  let f ← if final = 0xD4 then some 0 else (finals.idxOf? (final - 0x70)).map (· + 1)
  return syllable i m f

/-- The character of two octets in KS X 1001. -/
def koreanChar? (a b : Nat) : Option Char :=
  if 0x80 ≤ a ∧ 0x80 ≤ b then Plane.ksx1001.char? (a - 0x80) (b - 0x80) else none

/-- What octets after the filler mean, which are three letters, each after the octet of their
row. -/
def spelling : List UInt8 → Reading
  | a :: i :: b :: m :: c :: f :: _ =>
    if a = 0xA4 ∧ b = 0xA4 ∧ c = 0xA4 then
      .ofChar? (spelled? i.toNat m.toNat f.toNat) 8
    else .fault 1
  | bs => .fault (2 + bs.length)

def eucKr : Decoder Unit :=
  stateless <| asciiOr fun a bs =>
    match a, bs with
    | 0xA4, 0xD4 :: bs => spelling bs
    | a, b :: _ => .ofChar? (koreanChar? a.toNat b.toNat) 2
    | _, [] => .fault 1

/-! ## Code page 949 -/

/-- The number of a trailing octet of code page 949 among those outside KS X 1001. -/
def trail949? (b : Nat) : Option Nat :=
  if 0x41 ≤ b ∧ b ≤ 0x5A then some (b - 0x41)
  else if 0x61 ≤ b ∧ b ≤ 0x7A then some (b - 0x61 + 26)
  else if 0x81 ≤ b ∧ b ≤ 0xFE then some (b - 0x81 + 52)
  else none

/-- The number of a syllable of code page 949 among those that KS X 1001 lacks. -/
def index949? (a b : Nat) : Option Nat := do
  let i ← trail949? b
  if 0x81 ≤ a ∧ a ≤ 0xA0 then some (178 * (a - 0x81) + i)
  else if 0xA1 ≤ a ∧ a ≤ 0xC6 ∧ i < 84 then some (178 * 32 + 84 * (a - 0xA1) + i)
  else none

/-- The syllables of KS X 1001 in the order of their code points, as distances from the
first syllable. -/
def syllablesOfKsx1001 : List Nat :=
  ((Plane.ksx1001.chars.map Char.toNat).filter (fun n => 0xAC00 ≤ n && n ≤ 0xD7A3)
    |>.map (· - 0xAC00)).mergeSort

/-- The syllable of a number among those that KS X 1001 lacks. -/
def syllable949? (n : Nat) : Option Char :=
  let k := nthAbsent syllablesOfKsx1001 n
  if k ≤ 0xD7A3 - 0xAC00 then some (Char.ofNat (0xAC00 + k)) else none

def codePage949 : Decoder Unit :=
  stateless <| pairs fun a b => (koreanChar? a b).or ((index949? a b).bind syllable949?)

/-! ## Johab -/

/-- A letter in five bits: none, the filler, or a number among the letters of its kind. -/
inductive JohabLetter where
  | filler
  | letter (n : Nat)
deriving DecidableEq, Repr

def johabInitial? (n : Nat) : Option JohabLetter :=
  if n = 1 then some .filler
  else if 2 ≤ n ∧ n ≤ 20 then some (.letter (n - 2))
  else none

/-- A medial. They stand in rows of six, with two unused numbers between the rows. -/
def johabMedial? (n : Nat) : Option JohabLetter :=
  if n = 2 then some .filler
  else if 3 ≤ n ∧ n ≤ 7 then some (.letter (n - 3))
  else if 10 ≤ n ∧ n ≤ 15 then some (.letter (n - 5))
  else if 18 ≤ n ∧ n ≤ 23 then some (.letter (n - 7))
  else if 26 ≤ n ∧ n ≤ 29 then some (.letter (n - 9))
  else none

def johabFinal? (n : Nat) : Option JohabLetter :=
  if n = 1 then some .filler
  else if 2 ≤ n ∧ n ≤ 17 then some (.letter (n - 2))
  else if 19 ≤ n ∧ n ≤ 29 then some (.letter (n - 3))
  else none

/-- The character of three letters, some of which may be fillers. -/
def johabJoin? : (initial medial final : JohabLetter) → Option Char
  | .letter i, .letter m, .filler => some (syllable i m 0)
  | .letter i, .letter m, .letter f => some (syllable i m (f + 1))
  | .letter i, .filler, .filler => initials[i]?.map letter
  | .filler, .letter m, .filler => some (letter (0x4F + m))
  | .filler, .filler, .letter f => finals[f]?.map letter
  | .filler, .filler, .filler => some '\u3000'
  | _, _, _ => none

/-- The character of two octets of Johab that are letters. -/
def johabSyllable? (a b : Nat) : Option Char := do
  let n := a * 256 + b
  johabJoin? (← johabInitial? (n / 1024 % 32)) (← johabMedial? (n / 32 % 32))
    (← johabFinal? (n % 32))

/-- The character of two octets of Johab that are a place in KS X 1001. -/
def johabPlace? (a b : Nat) : Option Char :=
  if a < 0xD9 ∨ a = 0xDF ∨ 0xF9 < a ∨ b < 0x31 ∨ (0x80 ≤ b ∧ b < 0x91) ∨ b % 0x80 = 0x7F
      ∨ (a = 0xDA ∧ 0xA1 ≤ b ∧ b ≤ 0xD3) then none
  else
    let row := if a < 0xE0 then 2 * (a - 0xD9) else 2 * a - 0x197
    let cell := if b < 0x91 then b - 0x31 else b - 0x43
    Plane.ksx1001.char? (row + cell / 0x5E + 0x21) (cell % 0x5E + 0x21)

def johab : Decoder Unit :=
  stateless <| pairs fun a b => if a < 0xD8 then johabSyllable? a b else johabPlace? a b

end Passcode.Text.Decoder
