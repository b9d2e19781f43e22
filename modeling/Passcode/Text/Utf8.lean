/-!
# UTF-8

Octets taken apart into characters. Where octets are no character, the longest run of
them that begins one without going on like one is a fault of its own; what comes after
is read afresh.

`Utf8.pieces` takes octets apart, one after the other.
-/

namespace Passcode.Text.Utf8

/-- What some octets are: a character, or the fruitless beginning of one. -/
inductive Piece where
  | char (c : Char)
  | fault (octets : List UInt8)
deriving DecidableEq, Repr

/-- A character that has begun: its octets so far, their bits, how many octets are still
to come, and between which bounds the next one must lie. -/
structure Begun where
  octets : List UInt8
  bits : Nat
  owed : Nat
  low : Nat := 0x80
  high : Nat := 0xBF
deriving DecidableEq, Repr

/-- The bounds for the second octet of a character. They keep out longer forms of shorter
characters, surrogates, and everything beyond the last code point. -/
def secondBounds (first : Nat) : Nat × Nat :=
  if first = 0xE0 then (0xA0, 0xBF)
  else if first = 0xED then (0x80, 0x9F)
  else if first = 0xF0 then (0x90, 0xBF)
  else if first = 0xF4 then (0x80, 0x8F)
  else (0x80, 0xBF)

def start (b : UInt8) : List Piece × Option Begun :=
  let n := b.toNat
  let (low, high) := secondBounds n
  if n < 0x80 then ([.char (Char.ofNat n)], none)
  else if n < 0xC2 then ([.fault [b]], none)
  else if n < 0xE0 then ([], some ⟨[b], n - 0xC0, 1, low, high⟩)
  else if n < 0xF0 then ([], some ⟨[b], n - 0xE0, 2, low, high⟩)
  else if n < 0xF5 then ([], some ⟨[b], n - 0xF0, 3, low, high⟩)
  else ([.fault [b]], none)

def step : Option Begun → UInt8 → List Piece × Option Begun
  | none, b => start b
  | some g, b =>
    let n := b.toNat
    if g.low ≤ n ∧ n ≤ g.high then
      let bits := 64 * g.bits + (n - 0x80)
      if g.owed ≤ 1 then ([.char (Char.ofNat bits)], none)
      else ([], some { octets := g.octets ++ [b], bits, owed := g.owed - 1 })
    else
      let (ps, next) := start b
      (.fault g.octets :: ps, next)

/-- Takes octets apart, after the beginning of a character. -/
def piecesAfter : Option Begun → List UInt8 → List Piece
  | none, [] => []
  | some g, [] => [.fault g.octets]
  | g, b :: bs =>
    let (ps, next) := step g b
    ps ++ piecesAfter next bs

/-- Takes octets apart into characters and faults. -/
def pieces (bs : List UInt8) : List Piece := piecesAfter none bs

end Passcode.Text.Utf8
