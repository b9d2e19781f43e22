import Passcode.Text.Decoder
import Passcode.Text.Plane.Big5
import Passcode.Text.Plane.Big5Extensions

/-!
# Chinese in traditional characters

Big5, and its extensions by code page 950 and by the government of Hong Kong.
-/

namespace Passcode.Text.Decoder

def big5 : Decoder Unit := stateless (pairs Plane.big5.char?)

def codePage950 : Decoder Unit :=
  stateless (pairs fun a b => (Plane.codePage950.char? a b).or (Plane.big5.char? a b))

/-- Two octets that stand for a letter with two marks. -/
def markedLetters : List ((Nat × Nat) × String) :=
  [((0x88, 0x62), "Ê\u0304"), ((0x88, 0x64), "Ê\u030C"), ((0x88, 0xA3), "ê\u0304"),
   ((0x88, 0xA5), "ê\u030C")]

/-- Whether the supplement of Hong Kong leaves two octets to Big5. -/
def leftToBig5 (a b : Nat) : Bool := a < 0xC6 || 0xC8 < a || (a = 0xC6 && b < 0xA1)

/-- What two octets mean in Big5 with the supplement of Hong Kong. -/
def hongKongText? (a b : Nat) : Option String :=
  let plain := if leftToBig5 a b then Plane.big5.char? a b else none
  ((plain.or (Plane.hongKong.char? a b)).map fun c => String.ofList [c]).or
    (markedLetters.lookup (a, b))

def big5HongKong : Decoder Unit :=
  stateless <| asciiOr fun a bs =>
    match bs with
    | [] => .fault 1
    | b :: _ => .ofText? (hongKongText? a.toNat b.toNat) 2

end Passcode.Text.Decoder
