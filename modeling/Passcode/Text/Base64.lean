/-!
# Base64

Octets written as digits of six bits, four digits for three octets, with equals signs in
the place of missing digits at the end. `Base64.octets?` reads them back. A strict reader
refuses whatever is no digit and whatever is amiss with the padding; a lenient one passes
over it, and refuses only data whose digits do not come out even.
-/

namespace Passcode.Text.Base64

def digit? (b : UInt8) : Option Nat :=
  let n := b.toNat
  if 0x41 ≤ n ∧ n ≤ 0x5A then some (n - 0x41)
  else if 0x61 ≤ n ∧ n ≤ 0x7A then some (n - 0x61 + 26)
  else if 0x30 ≤ n ∧ n ≤ 0x39 then some (n - 0x30 + 52)
  else if n = 0x2B then some 62
  else if n = 0x2F then some 63
  else none

/-- How far the reading of four digits has come: how many were read, the bits that are
not part of an octet yet, and the equals signs since the last digit. -/
structure Quad where
  digits : Nat := 0
  bits : Nat := 0
  pads : Nat := 0
  padded : Bool := false
deriving DecidableEq, Repr

/-- One more digit: the octet that it completes, and how far the reading has come. -/
def Quad.digit (q : Quad) (d : Nat) : List UInt8 × Quad :=
  match q.digits with
  | 0 => ([], { q with digits := 1, bits := d, pads := 0 })
  | 1 => ([UInt8.ofNat (4 * q.bits + d / 16)], { q with digits := 2, bits := d % 16, pads := 0 })
  | 2 => ([UInt8.ofNat (16 * q.bits + d / 4)], { q with digits := 3, bits := d % 4, pads := 0 })
  | _ => ([UInt8.ofNat (64 * q.bits + d)], { q with digits := 0, bits := 0, pads := 0 })

/-- One more equals sign; it counts from the second digit on. -/
def Quad.pad (q : Quad) : Quad :=
  { q with pads := if 2 ≤ q.digits then q.pads + 1 else q.pads, padded := true }

/-- Whether four places are filled, by digits or equals signs. -/
def Quad.isFull (q : Quad) : Bool := 2 ≤ q.digits && 4 ≤ q.digits + q.pads

/-- Reads data from some point on. Nothing is read after the four places are filled by
equals signs. -/
def readFrom (strict : Bool) : Quad → List UInt8 → Option (List UInt8)
  | q, [] => if q.digits = 0 then some [] else none
  | q, b :: bs =>
    if b = 0x3D then
      if q.pad.isFull then (if strict && !bs.isEmpty then none else some [])
      else readFrom strict q.pad bs
    else
      match digit? b with
      | none => if strict then none else readFrom strict q bs
      | some d =>
        if strict && q.padded then none
        else (readFrom strict (q.digit d).2 bs).map ((q.digit d).1 ++ ·)

def octets? (strict : Bool) (data : List UInt8) : Option (List UInt8) :=
  if strict && data.head? = some 0x3D then none else readFrom strict {} data

/-- The octets that data stand for in the most favourable reading: padded as needed and
read strictly, else read leniently as they are, else leniently with padding added. Data
that cannot be read at all stand for themselves. -/
def octets (data : List UInt8) : List UInt8 :=
  let missing := List.replicate ((4 - data.length % 4) % 4) (0x3D : UInt8)
  ((octets? true (data ++ missing)).or
    ((octets? false data).or (octets? false (data ++ [0x3D, 0x3D])))).getD data

end Passcode.Text.Base64
