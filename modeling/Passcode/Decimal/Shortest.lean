import Passcode.Decimal.Binary64

/-!
# Shortest decimal text

The text of a floating-point number: the fewest decimal digits that read back as the
same number, and of those digits the nearest to it. Digits stand around a point when
the point falls among or close to them, with at least one digit on each side; outside
that window the number has one digit before the point and a power of ten.

The numbers that read back as a given one form an interval around it, whose ends lie
half-way to its neighbours and belong to it when its mantissa is even. On a decimal grid
only the two points next to the number have to be tried.
-/

namespace Passcode.Decimal

/-- The numbers that read back as `value / unit`: those between `low / unit` and
`high / unit`, the ends included when `closed`. -/
structure Basin where
  low : Nat
  value : Nat
  high : Nat
  unit : Nat
  closed : Bool
deriving Repr, DecidableEq

/-- The interval of a positive number. Below a power of two the neighbour is nearer. -/
def Basin.of (d : Dyadic) : Basin :=
  let lift := (d.exponent - 2).toNat
  let drop := (2 - d.exponent).toNat
  let gap := if d.mantissa = Nat.pow 2 52 ∧ -1074 < d.exponent then 1 else 2
  { low := (4 * d.mantissa - gap) * Nat.pow 2 lift
    value := 4 * d.mantissa * Nat.pow 2 lift
    high := (4 * d.mantissa + 2) * Nat.pow 2 lift
    unit := Nat.pow 2 drop
    closed := d.mantissa % 2 == 0 }

/-- A decimal number `digits * 10 ^ exponent`. -/
structure Scientific where
  digits : Nat
  exponent : Int
deriving Repr, DecidableEq

/-- The greatest `k` with `10 ^ k ≤ num / den`, for positive numbers. -/
def floorLog10 (num den : Nat) : Int :=
  let k : Int := (digitCount num : Int) - (digitCount den : Int)
  let reached := if 0 ≤ k then den * Nat.pow 10 k.toNat ≤ num else den ≤ num * Nat.pow 10 (-k).toNat
  if reached then k else k - 1

/-- The point of the grid of multiples of `10 ^ k` that lies in the interval and is the
nearest to its value, if one of the two around the value does. -/
def Basin.hit? (b : Basin) (k : Int) : Option Nat :=
  let step := b.unit * Nat.pow 10 k.toNat
  let scale := Nat.pow 10 (-k).toNat
  let inside (d : Nat) : Bool :=
    if b.closed then b.low * scale ≤ d * step && d * step ≤ b.high * scale
    else b.low * scale < d * step && d * step < b.high * scale
  let below := b.value * scale / step
  let rest := b.value * scale % step
  match inside below, inside (below + 1) with
  | true, true =>
    some (if 2 * rest < step ∨ 2 * rest = step ∧ below % 2 = 0 then below else below + 1)
  | true, false => some below
  | false, true => some (below + 1)
  | false, false => none

/-- A decimal number without zeros at the end of its digits. -/
def Scientific.reduce (fuel : Nat) (s : Scientific) : Scientific :=
  match fuel with
  | 0 => s
  | fuel + 1 =>
    if s.digits ≠ 0 ∧ s.digits % 10 = 0 then reduce fuel ⟨s.digits / 10, s.exponent + 1⟩ else s

/-- The shortest decimal number that reads back as a positive one. Seventeen digits
always do. -/
def shortest (d : Dyadic) : Scientific :=
  let b := Basin.of d
  let top := floorLog10 b.value b.unit
  let found := (List.range 17).findSome? fun (n : Nat) =>
    (b.hit? (top - n)).map fun digits => (⟨digits, top - n⟩ : Scientific)
  match found with
  | some s => s.reduce 17
  | none => ⟨0, 0⟩

/-! ## Layout -/

/-- Where positional notation ends: the point may stand up to so many places before the
first digit, and up to so many places after it. -/
structure Window where
  zerosBefore : Int
  placesAfter : Int
deriving Repr, DecidableEq

/-- Numbers from 0.0001 up to below 10 to the 16th are written with a point alone. -/
def window : Window := ⟨3, 16⟩

/-- An exponent of ten, at least two digits, always with a sign. -/
def exponentText (e : Int) : String :=
  let digits := toString e.natAbs
  (if e < 0 then "e-" else "e+") ++ (if digits.length < 2 then "0" ++ digits else digits)

/-- The digits laid out: `point` digits stand before the point. -/
def layout (w : Window) (digits : List Char) (point : Int) : String :=
  if -w.zerosBefore ≤ point ∧ point ≤ w.placesAfter then
    if point ≤ 0 then
      "0." ++ String.ofList (List.replicate (-point).toNat '0' ++ digits)
    else
      let whole := digits.take point.toNat
      let rest := digits.drop point.toNat
      String.ofList (whole ++ List.replicate (point.toNat - digits.length) '0') ++ "."
        ++ (if rest.isEmpty then "0" else String.ofList rest)
  else
    String.ofList (digits.take 1)
      ++ (if digits.length ≤ 1 then "" else "." ++ String.ofList (digits.drop 1))
      ++ exponentText (point - 1)

def magnitudeText (d : Dyadic) : String :=
  let s := shortest d
  let digits := Nat.toDigits 10 s.digits
  layout window digits (digits.length + s.exponent)

def floatText (x : Float) : String :=
  if x.isNaN then "nan"
  else
    let sign := if signBit x then "-" else ""
    if x.isInf then sign ++ "inf"
    else
      let d := Dyadic.ofBits x.toBits
      sign ++ (if d.mantissa = 0 then "0.0" else magnitudeText d)

end Passcode.Decimal
