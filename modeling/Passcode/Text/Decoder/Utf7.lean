import Passcode.Text.Base64
import Passcode.Text.Decoder.Utf16

/-!
# UTF-7

ASCII, with stretches of UTF-16 in Base64 between a plus sign and whatever is not of Base64. A
minus sign at the end of a stretch is part of it, and a plus sign with a minus sign right
after it is a plus sign.
-/

namespace Passcode.Text.Utf7

/-- The units of two octets that digits of Base64 make, from so many bits of a number on, and
the bits that remain of the last one. -/
def units : (bits value : Nat) → List Nat → List Nat × Nat × Nat
  | bits, value, [] => ([], bits, value)
  | bits, value, d :: ds =>
    let value := value * 64 + d
    if 10 ≤ bits then
      let rest := 1 <<< (bits - 10)
      let (us, left) := units (bits - 10) (value % rest) ds
      (value / rest :: us, left)
    else units (bits + 6) value ds

/-- The glyphs of units, after a first half or none. A half without its other half stays one,
and one at the end is left over. -/
def glyphs : Option Nat → List Nat → Glyphs × Option Nat
  | half, [] => ([], half)
  | half, u :: us =>
    match half, isLowHalf u with
    | some h, true =>
      let (gs, left) := glyphs none us
      (.char (joinHalves h u) :: gs, left)
    | _, _ =>
      let alone := (half.map Glyph.ofCode).toList
      if isHighHalf u then
        let (gs, left) := glyphs (some u) us
        (alone ++ gs, left)
      else
        let (gs, left) := glyphs none us
        (alone ++ .ofCode u :: gs, left)

def digits : List UInt8 → List Nat
  | [] => []
  | b :: bs =>
    match Base64.digit? b with
    | some d => d :: digits bs
    | none => []

/-- A stretch of Base64 after a plus sign. The bits that fill up its last digit have to be
zero, and no half may be left over at the end of the text. -/
def stretch (bs : List UInt8) : Reading :=
  let ds := digits bs
  let (us, bits, value) := units 0 0 ds
  let (gs, left) := glyphs none us
  let rest := bs.drop ds.length
  if 6 ≤ bits ∨ value ≠ 0 then .fault 1
  else
    match rest, left with
    | [], some _ => .fault 1
    | [], none => .glyphs gs (1 + ds.length)
    | b :: _, _ =>
      let tail := if b < 0x80 then (left.map Glyph.ofCode).toList else []
      .glyphs (gs ++ tail) (1 + ds.length + (if b = 0x2D then 1 else 0))

end Passcode.Text.Utf7

namespace Passcode.Text.Decoder

def utf7 : Decoder Unit :=
  stateless <| asciiOrPlus fun bs =>
    match bs with
    | 0x2D :: _ => .ofChar '+' 2
    | [] => .glyphs [] 1
    | b :: _ => if (Base64.digit? b).isSome then Utf7.stretch bs else .fault 1
where
  /-- ASCII as it is, but for a plus sign. -/
  asciiOrPlus (plus : List UInt8 → Reading) : List UInt8 → Reading
    | 0x2B :: bs => plus bs
    | bs => asciiOr (fun _ _ => .fault 1) bs

end Passcode.Text.Decoder
