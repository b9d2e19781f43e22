import Passcode.Text.Decoder
import Passcode.Text.Plane.CodePage932
import Passcode.Text.Plane.Jis0208
import Passcode.Text.Plane.Jis0212
import Passcode.Text.Plane.Jis0213

/-!
# Japanese

The charsets that write the planes of the Japanese standards side by side with ASCII:
Shift JIS, which moves their rows and cells to make room for the narrow kana, and EUC,
which takes the upper half of the octets. Both have forms for JIS X 0213.
-/

namespace Passcode.Text

/-! ## Planes -/

/-- An edition of JIS X 0213. -/
inductive JisEdition where
  | of2000
  | of2004
deriving DecidableEq, Repr

/-- The character of JIS X 0208 in a cell. Its reverse solidus is the wide one, since ASCII
stands beside it. -/
def jis0208Char? (row cell : Nat) : Option Char :=
  if row = 0x21 ∧ cell = 0x40 then some '＼' else Plane.jis0208.char? row cell

/-- The cells that the edition of 2004 added to the first plane of JIS X 0213. -/
def cellsOf2004 : List (Nat × Nat) :=
  [(0x2E, 0x21), (0x2F, 0x7E), (0x4F, 0x54), (0x4F, 0x7E), (0x74, 0x27), (0x7E, 0x7A),
   (0x7E, 0x7B), (0x7E, 0x7C), (0x7E, 0x7D), (0x7E, 0x7E)]

namespace JisEdition

/-- Whether an edition lacks a cell of the first plane. -/
def lacks (e : JisEdition) (row cell : Nat) : Bool := e = .of2000 && (row, cell) ∈ cellsOf2004

/-- What the first plane has in a cell besides JIS X 0208. -/
def added? (row cell : Nat) : Option String :=
  ((Plane.jis0213First.char? row cell).map fun c => String.ofList [c]).or
    ((Plane.jis0213Pairs.find? fun p => p.1 = row && p.2.1 = cell).map (·.2.2))

/-- The text of a cell of the first plane, with the characters of JIS X 0208 as a reader
finds them. -/
def first? (e : JisEdition) (common : Nat → Nat → Option Char) (row cell : Nat) :
    Option String :=
  if e.lacks row cell then none
  else ((common row cell).map fun c => String.ofList [c]).or (added? row cell)

/-- Two octets that are a cell of the first plane. If the edition lacks it, both are at
fault. -/
def firstReading (e : JisEdition) (common : Nat → Nat → Option Char) (row cell : Nat) :
    Reading :=
  if e.lacks row cell then .fault 2 else .ofText? (e.first? common row cell) 2

def second? (e : JisEdition) (row cell : Nat) : Option Char :=
  if e = .of2000 ∧ row = 0x7D ∧ cell = 0x3B then some (Char.ofNat 0x9B1D)
  else Plane.jis0213Second.char? row cell

end JisEdition

def narrowKana? (b : UInt8) : Option Char :=
  if 0xA1 ≤ b ∧ b ≤ 0xDF then some (Char.ofNat (0xFEC0 + b.toNat)) else none

namespace Decoder

/-! ## Shift JIS -/

/-- The place of two octets of Shift JIS: the number of a row, from zero on, and a cell. Each
leading octet has two rows. -/
def shiftPlace? (a b : Nat) : Option (Nat × Nat) :=
  if b < 0x40 ∨ b = 0x7F ∨ 0xFC < b then none
  else
    let i := b - (if b < 0x80 then 0x40 else 0x41)
    if 0x81 ≤ a ∧ a ≤ 0x9F then some (2 * (a - 0x81) + i / 94, 0x21 + i % 94)
    else if 0xE0 ≤ a ∧ a ≤ 0xFC then some (2 * (a - 0xC1) + i / 94, 0x21 + i % 94)
    else none

/-- The character of JIS X 0208 at the place of two octets. -/
def shiftChar? (a b : Nat) : Option Char :=
  (shiftPlace? a b).bind fun p => jis0208Char? (p.1 + 0x21) p.2

/-- ASCII and narrow katakana as single octets, and anything else by two octets. -/
def kanaOr (single? : UInt8 → Option Char) (pair : Nat → Nat → Reading) :
    List UInt8 → Reading
  | [] => .fault 1
  | a :: bs =>
    match (single? a).or (narrowKana? a) with
    | some c => .ofChar c 1
    | none =>
      match bs with
      | [] => .fault 1
      | b :: _ => pair a.toNat b.toNat

def asciiChar? (b : UInt8) : Option Char :=
  if b < 0x80 then some (Char.ofNat b.toNat) else none

/-- The character of an octet in the Roman set of JIS X 0201, which differs from ASCII in two
places. -/
def romanChar? (b : UInt8) : Option Char :=
  if b = 0x5C then some '¥' else if b = 0x7E then some '‾' else asciiChar? b

def shiftJis : Decoder Unit :=
  stateless <| kanaOr asciiChar? fun a b => .ofChar? (shiftChar? a b) 2

/-- The character of a single octet in code page 932. -/
def single932? (b : UInt8) : Option Char :=
  if b ≤ 0x80 then some (Char.ofNat b.toNat)
  else if b = 0xA0 then some (Char.ofNat 0xF8F0)
  else if 0xFD ≤ b then some (Char.ofNat (0xF8F1 + (b.toNat - 0xFD)))
  else none

/-- The character of two octets in code page 932. -/
def pair932? (a b : Nat) : Option Char :=
  if 0xF0 ≤ a ∧ a ≤ 0xF9 then
    if b < 0x40 ∨ b = 0x7F ∨ 0xFC < b then none
    else some (Char.ofNat (0xE000 + 188 * (a - 0xF0) + (b - (if b < 0x80 then 0x40 else 0x41))))
  else (Plane.codePage932.char? a b).or (if a ≤ 0xEA then shiftChar? a b else none)

def codePage932 : Decoder Unit :=
  stateless <| kanaOr single932? fun a b => .ofChar? (pair932? a b) 2

/-- The row of the second plane that has a number among the rows of Shift JIS, which leave
out those that the plane does not use. -/
def secondRow (n : Nat) : Nat :=
  if 0x67 ≤ n then n + 7 else if 0x63 ≤ n ∨ n = 0x5F then n - 0x37 else n - 0x3D

/-- What two octets mean in Shift JIS with JIS X 0213. -/
def shift213 (e : JisEdition) (a b : Nat) : Reading :=
  match shiftPlace? a b with
  | some (n, cell) =>
    if n < 0x5E then e.firstReading Plane.jis0208.char? (n + 0x21) cell
    else .ofChar? (e.second? (secondRow n) cell) 2
  | none => .fault 1

def shiftJis213 (e : JisEdition) : Decoder Unit := stateless (kanaOr romanChar? (shift213 e))

/-! ## EUC -/

/-- A reader of EUC: ASCII, narrow katakana after a mark, three octets after another mark, and
anything else by two octets. -/
def euc (two : Nat → Nat → Reading) (three? : Nat → Nat → Option Char) :
    Decoder Unit :=
  stateless <| asciiOr fun a bs =>
    match a, bs with
    | 0x8E, b :: _ => .ofChar? (narrowKana? b) 2
    | 0x8F, b :: c :: _ =>
      if b < 0x80 ∨ c < 0x80 then .fault 1
      else .ofChar? (three? (b.toNat - 0x80) (c.toNat - 0x80)) 3
    | 0x8F, _ => .fault (1 + bs.length)
    | _, b :: _ =>
      if b < 0x80 then .fault 1 else two (a.toNat - 0x80) (b.toNat - 0x80)
    | _, [] => .fault 1

/-- EUC with JIS X 0208 and JIS X 0212. -/
def eucJp : Decoder Unit :=
  euc (fun r c => .ofChar? (jis0208Char? r c) 2) Plane.jis0212.char?

/-- The character of JIS X 0208 in a cell, with a wide tilde where JIS X 0213 has one. -/
def tildeChar? (row cell : Nat) : Option Char :=
  if row = 0x22 ∧ cell = 0x32 then some '～' else jis0208Char? row cell

/-- EUC with JIS X 0213, and with JIS X 0212 where its second plane is empty. -/
def eucJis213 (e : JisEdition) : Decoder Unit :=
  euc (e.firstReading tildeChar?) fun r c => (e.second? r c).or (Plane.jis0212.char? r c)

end Decoder

end Passcode.Text
