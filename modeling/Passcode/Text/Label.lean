import Passcode.Text.Prepared
import Passcode.Text.Punycode

/-!
# Labels

The parts of a domain name between points, in ASCII. A label that begins with `xn--` stands
for another text, which is in Punycode after these four; it is read only if writing that text
again, with its capitals made small, gives the same label. `Labels.decode?` reads a name.
-/

namespace Passcode.Text.Labels

/-- What a label in Punycode begins with. -/
def mark : List UInt8 := [0x78, 0x6E, 0x2D, 0x2D]

def marked : List UInt8 → Bool
  | [] => false
  | b :: bs => mark.isPrefixOf (b :: bs) || marked bs

def ascii? (bs : List UInt8) : Option (List Char) :=
  bs.mapM fun b => if b < 0x80 then some (Char.ofNat b.toNat) else none

def unpack? (bs : List UInt8) : Option (List Char) := do
  let cs ← (← Punycode.decode? bs).mapM Glyph.char?
  let small := cs.map Char.toLower
  let code := (← ascii? bs).map Char.toLower
  if small.any (0x80 ≤ ·.toNat) && Prepared.isPrepared small && Punycode.encode small = code
      && mark.length + code.length < 64 then
    some cs
  else none

def label? (bs : List UInt8) : Option (List Char) :=
  if 1024 < bs.length then none
  else if mark.isPrefixOf bs then unpack? (bs.drop mark.length)
  else ascii? bs

def split : List UInt8 → List (List UInt8)
  | [] => [[]]
  | b :: bs =>
    if b = 0x2E then [] :: split bs
    else match split bs with
      | l :: ls => (b :: l) :: ls
      | [] => [[b]]

/-- The text of a name. Without a mark it is the name itself. -/
def decode? (bs : List UInt8) : Option Glyphs :=
  (if marked bs then
    (((split bs).mapM label?).map fun ls => List.intercalate ['.'] ls)
  else ascii? bs).map fun cs => cs.map .char

end Passcode.Text.Labels
