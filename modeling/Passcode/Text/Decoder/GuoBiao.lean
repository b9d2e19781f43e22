import Passcode.Text.Decoder
import Passcode.Text.Plane.Gb18030
import Passcode.Text.Plane.Gb2312

/-!
# Chinese in simplified characters

GB 2312, its extensions GBK and GB 18030, and HZ, which writes GB 2312 with the octets of
ASCII alone.
-/

namespace Passcode.Text.Decoder

/-! ## GB 2312 -/

/-- The character of two octets in GB 2312, which has its rows in the upper half. -/
def gb2312Char? (a b : Nat) : Option Char :=
  if 0x80 ≤ a ∧ 0x80 ≤ b then Plane.gb2312.char? (a - 0x80) (b - 0x80) else none

def gb2312 : Decoder Unit := stateless (pairs gb2312Char?)

/-! ## GBK -/

/-- The hanzi of GB 2312 in the order of their code points, as distances from the first
hanzi of Unicode. -/
def hanziOfGb2312 : List Nat :=
  ((Plane.gb2312.chars.map Char.toNat).filter (fun n => 0x4E00 ≤ n && n ≤ 0x9FA5)
    |>.map (· - 0x4E00)).mergeSort

/-- The number of a hanzi of GBK among those that GB 2312 lacks. -/
def gbkIndex? (a b : Nat) : Option Nat :=
  let i := b - 0x40 - (if 0x7F < b then 1 else 0)
  if b < 0x40 ∨ b = 0x7F ∨ 0xFE < b then none
  else if 0x81 ≤ a ∧ a ≤ 0xA0 then some (190 * (a - 0x81) + i)
  else if 0xAA ≤ a ∧ a ≤ 0xFE ∧ b ≤ 0xA0 then some (6080 + 96 * (a - 0xAA) + i)
  else none

/-- The hanzi of a number among those that GB 2312 lacks: first the ones of Unicode in
their order, then the compatibility forms. -/
def gbkHanzi? (n : Nat) : Option Char :=
  if n < 14139 then some (Char.ofNat (0x4E00 + nthAbsent hanziOfGb2312 n))
  else Plane.gbkForms.toList[n - 14139]?

def gbkChar? (a b : Nat) : Option Char :=
  if a = 0xA1 ∧ b = 0xA4 then some '·'
  else if a = 0xA1 ∧ b = 0xAA then some '—'
  else
    (gb2312Char? a b).or <| (Plane.gbkSigns.char? a b).or <| (gbkIndex? a b).bind gbkHanzi?

def gbk : Decoder Unit := stateless (pairs gbkChar?)

/-! ## GB 18030 -/

/-- The character of two octets that GBK has not, in a run of consecutive ones. -/
def gb18030Run? (a b : Nat) : Option Char :=
  (Plane.gb18030Runs.find? fun r => r.1 = a && r.2.1 ≤ b && b < r.2.1 + r.2.2.1).map fun r =>
    Char.ofNat (r.2.2.2 + (b - r.2.1))

/-- The character of two octets in the areas that are left to users. -/
def gb18030User? (a b : Nat) : Option Char :=
  if b < 0x40 ∨ b = 0x7F ∨ 0xFE < b then none
  else if 0xAA ≤ a ∧ a ≤ 0xAF ∧ 0xA1 ≤ b then
    some (Char.ofNat (0xE000 + 94 * (a - 0xAA) + (b - 0xA1)))
  else if 0xF8 ≤ a ∧ a ≤ 0xFE ∧ 0xA1 ≤ b then
    some (Char.ofNat (0xE234 + 94 * (a - 0xF8) + (b - 0xA1)))
  else if 0xA1 ≤ a ∧ a ≤ 0xA7 ∧ b ≤ 0xA0 then
    some (Char.ofNat (0xE4C6 + 96 * (a - 0xA1) + (b - 0x40 - (if 0x7F < b then 1 else 0))))
  else none

def gb18030Pair? (a b : Nat) : Option Char :=
  (gb18030Run? a b).or <| (gbkChar? a b).or <| gb18030User? a b

/-- The character of four octets by its number: below U+10000 by ranges, and above it in
the order of the code points. -/
def gb18030Far? (n : Nat) : Option Char :=
  if n < 39420 then
    (Plane.gb18030Ranges.reverse.find? fun r => r.1 ≤ n).map fun r => Char.ofNat (r.2 + (n - r.1))
  else if 189000 ≤ n ∧ n - 189000 + 0x10000 ≤ 0x10FFFF then
    some (Char.ofNat (n - 189000 + 0x10000))
  else none

/-- What octets from one beyond ASCII on mean in GB 18030. A second octet that is a digit
makes them four. -/
def gb18030Beyond (a : UInt8) : List UInt8 → Reading
  | [] => .fault 1
  | b :: bs =>
    if 0x30 ≤ b ∧ b ≤ 0x39 then
      match bs with
      | c :: d :: _ =>
        if a = 0x80 ∨ c < 0x81 ∨ c = 0xFF ∨ d < 0x30 ∨ 0x39 < d then .fault 1
        else
          let high := (a.toNat - 0x81) * 10 + (b.toNat - 0x30)
          .ofChar? (gb18030Far? (high * 1260 + (c.toNat - 0x81) * 10 + (d.toNat - 0x30))) 4
      | _ => .fault (2 + bs.length)
    else .ofChar? (gb18030Pair? a.toNat b.toNat) 2

def gb18030 : Decoder Unit := stateless (asciiOr gb18030Beyond)

/-! ## HZ -/

/-- HZ. A tilde and a brace begin and end stretches in GB 2312; the state says whether one
has begun. -/
def hz : Decoder Bool
  | inside, a :: bs =>
    match a, bs with
    | 0x7E, 0x7D :: _ => if inside then (.glyphs [] 2, false) else (.fault 1, inside)
    | 0x7E, b :: _ =>
      if inside then (.fault 1, inside)
      else if b = 0x7E then (.ofChar '~' 2, inside)
      else if b = 0x7B then (.glyphs [] 2, true)
      else if b = 0x0A then (.glyphs [] 2, inside)
      else (.fault 1, inside)
    | 0x7E, [] => (.fault 1, inside)
    | _, _ =>
      if 0x80 ≤ a then (.fault 1, inside)
      else if inside then
        (.ofChar? (bs.head?.bind fun b => Plane.gb2312.char? a.toNat b.toNat) 2, inside)
      else (.ofOctet a, inside)
  | inside, [] => (.fault 1, inside)

end Passcode.Text.Decoder
