import Passcode.Text.Glyph

/-!
# Punycode

Any text in letters, digits and hyphens: the characters of ASCII as they are, then a hyphen,
and then numbers that say, in ascending order of the code points, how far it is from one
insertion to the next one, counted in code points and in places between the characters.
The numbers are written with digits of base 36, and the last digit of each is known by its
being below a threshold, which follows the size of the numbers before.
-/

namespace Passcode.Text.Punycode

def digit? (b : UInt8) : Option Nat :=
  let n := b.toNat
  if 0x41 ≤ n ∧ n ≤ 0x5A then some (n - 0x41)
  else if 0x61 ≤ n ∧ n ≤ 0x7A then some (n - 0x61)
  else if 0x30 ≤ n ∧ n ≤ 0x39 then some (n - 0x30 + 26)
  else none

def digitChar (d : Nat) : Char :=
  if d < 26 then Char.ofNat (0x61 + d) else Char.ofNat (0x30 + (d - 26))

/-- The threshold for the digit in a place, from zero on. -/
def threshold (place bias : Nat) : Nat := min 26 (max 1 (36 * (place + 1) - bias))

/-- Divides a number until it is small enough: the quotient, and 36 for every division. -/
def scale : (steps : Nat) → Nat → Nat × Nat
  | 0, n => (n, 0)
  | k + 1, n =>
    if 455 < n then
      let (m, d) := scale k (n / 35)
      (m, d + 36)
    else (n, 0)

/-- The bias after a number, among so many characters. -/
def adapt (delta : Nat) (isFirst : Bool) (count : Nat) : Nat :=
  let delta := if isFirst then delta / 700 else delta / 2
  let (n, d) := scale (delta + delta / count) (delta + delta / count)
  d + 36 * n / (n + 38)

/-! ## Reading -/

/-- The number at the beginning of some octets, and what follows it. -/
def number? (bias : Nat) : (place weight : Nat) → List UInt8 → Option (Nat × List UInt8)
  | _, _, [] => none
  | place, weight, b :: bs => do
    let d ← digit? b
    let t := threshold place bias
    if d < t then return (d * weight, bs)
    else
      let (n, rest) ← number? bias (place + 1) (weight * (36 - t)) bs
      return (d * weight + n, rest)

/-- Inserts the characters that some octets tell of into a text: the code point and the place
to go on from, and the bias. There are at most as many insertions as octets. -/
def insertions : (steps : Nat) → (code place bias : Nat) → (isFirst : Bool) → Glyphs →
    List UInt8 → Option Glyphs
  | _, _, _, _, _, gs, [] => some gs
  | 0, _, _, _, _, _, _ :: _ => none
  | n + 1, code, place, bias, isFirst, gs, b :: bs => do
    let (delta, rest) ← number? bias 0 1 (b :: bs)
    let count := gs.length + 1
    let code := code + (place + delta) / count
    let place := (place + delta) % count
    if 0x10FFFF < code then none
    else
      let gs := gs.take place ++ .ofCode code :: gs.drop place
      insertions n code (place + 1) (adapt delta isFirst count) false gs rest

/-- The octets before the last hyphen, and those after it; all are after it if there is
none. -/
def divide (bs : List UInt8) : List UInt8 × List UInt8 :=
  let after := (bs.reverse.takeWhile (· ≠ 0x2D)).reverse
  (bs.take (bs.length - after.length - 1), after)

def decode? (bs : List UInt8) : Option Glyphs :=
  if bs.any (0x80 ≤ ·) then none
  else
    let (plain, numbers) := divide bs
    let gs := plain.map fun b => Glyph.char (Char.ofNat b.toNat)
    insertions numbers.length 0x80 0 72 true gs numbers

/-! ## Writing -/

def digits (bias : Nat) : (steps : Nat) → (place n : Nat) → List Char
  | 0, _, _ => []
  | k + 1, place, n =>
    let t := threshold place bias
    if n < t then [digitChar n]
    else digitChar (t + (n - t) % (36 - t)) :: digits bias k (place + 1) ((n - t) / (36 - t))

/-- How far the writing of the characters with one code point has come: the digits so far, the
number that is not written yet, the bias, and the characters that are there already. -/
structure Writing where
  digits : List Char := []
  delta : Nat := 0
  bias : Nat := 72
  count : Nat

/-- One more character, where those with a code point are being written; whether it is the
first insertion of all. -/
def Writing.step (plain code : Nat) (w : Writing) (c : Char) : Writing :=
  if c.toNat < code then { w with delta := w.delta + 1 }
  else if c.toNat = code then
    { digits := w.digits ++ Punycode.digits w.bias (w.delta + 1) 0 w.delta
      delta := 0
      bias := adapt w.delta (w.count = plain) (w.count + 1)
      count := w.count + 1 }
  else w

/-- Writes the characters of a text with the given code points, which ascend. -/
def write (cs : List Char) (plain : Nat) : (code : Nat) → Writing → List Nat → List Char
  | _, w, [] => w.digits
  | code, w, n :: ns =>
    let w := cs.foldl (Writing.step plain n)
      { w with delta := w.delta + (n - code) * (w.count + 1) }
    write cs plain (n + 1) { w with delta := w.delta + 1 } ns

def encode (cs : List Char) : List Char :=
  let plain := cs.filter (·.toNat < 0x80)
  let codes := ((cs.map Char.toNat).filter (0x80 ≤ ·)).mergeSort.eraseDups
  let numbers := write cs plain.length 0x80 { count := plain.length } codes
  if plain.isEmpty then numbers else plain ++ '-' :: numbers

end Passcode.Text.Punycode
