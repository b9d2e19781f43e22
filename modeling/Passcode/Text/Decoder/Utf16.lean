import Passcode.Text.Decoder

/-!
# UTF-16 and UTF-32

Code points in units of two octets, where the high ones are pairs of halves, and in units of
four. The order of the octets in a unit is part of the charset, or a mark at the beginning
gives it.
-/

namespace Passcode.Text

/-- Which octet of a unit comes first. -/
inductive ByteOrder where
  | little
  | big
deriving DecidableEq, Repr

def ByteOrder.number (o : ByteOrder) (bs : List UInt8) : Nat :=
  let highFirst := match o with
    | .little => bs.reverse
    | .big => bs
  highFirst.foldl (fun n (b : UInt8) => n * 256 + b.toNat) 0

def isHighHalf (u : Nat) : Bool := 0xD800 ≤ u && u ≤ 0xDBFF

def isLowHalf (u : Nat) : Bool := 0xDC00 ≤ u && u ≤ 0xDFFF

def joinHalves (high low : Nat) : Char :=
  Char.ofNat (0x10000 + (high - 0xD800) * 0x400 + (low - 0xDC00))

namespace Decoder

def utf16 (o : ByteOrder) : Decoder Unit :=
  stateless fun
    | a :: b :: bs =>
      let u := o.number [a, b]
      if isHighHalf u then
        match bs with
        | c :: d :: _ =>
          let v := o.number [c, d]
          if isLowHalf v then .ofChar (joinHalves u v) 4 else .fault 2
        | _ => .fault (2 + bs.length)
      else if isLowHalf u then .fault 2
      else .ofChar (Char.ofNat u) 2
    | bs => .fault bs.length

def utf32 (o : ByteOrder) : Decoder Unit :=
  stateless fun
    | a :: b :: c :: d :: _ =>
      let n := o.number [a, b, c, d]
      if n.isValidChar then .ofChar (Char.ofNat n) 4 else .fault 4
    | bs => .fault bs.length

end Decoder

end Passcode.Text
