/-!
# Binary floating-point numbers, exactly

A finite number of the 64-bit format is a mantissa times a power of two. `Dyadic.ofBits`
reads that pair off the bits, and `nearestBits` goes the other way: it gives the bits of
the number nearest to a quotient, a tie going to the even mantissa, with infinity beyond
the largest number and zero below half of the smallest. Both are exact arithmetic on
natural numbers.
-/

namespace Passcode.Decimal

/-- The whole number nearest to a quotient; a half goes to the even neighbour. -/
def roundDiv (num den : Nat) : Nat :=
  let q := num / den
  let r := num % den
  if 2 * r < den then q else if den < 2 * r then q + 1 else q + q % 2

/-- The number `mantissa * 2 ^ exponent`. -/
structure Dyadic where
  mantissa : Nat
  exponent : Int
deriving Repr, DecidableEq

/-- The magnitude that the bits of a finite number stand for; the sign is not looked at. -/
def Dyadic.ofBits (bits : UInt64) : Dyadic :=
  let field : Nat := bits.toNat / Nat.pow 2 52 % Nat.pow 2 11
  let fraction : Nat := bits.toNat % Nat.pow 2 52
  if field = 0 then ⟨fraction, -1074⟩ else ⟨Nat.pow 2 52 + fraction, (field : Int) - 1075⟩

/-- The magnitude as a quotient of natural numbers. -/
def Dyadic.fraction (d : Dyadic) : Nat × Nat :=
  if 0 ≤ d.exponent then (d.mantissa * Nat.pow 2 d.exponent.toNat, 1)
  else (d.mantissa, Nat.pow 2 (-d.exponent).toNat)

def digitCount (n : Nat) : Nat := (Nat.toDigits 10 n).length

def infinityBits : Nat := 0x7FF * Nat.pow 2 52

def nearestBits (num den : Nat) : Nat :=
  if num = 0 then 0
  else
    let scaled (e : Int) : Nat × Nat :=
      if 0 ≤ e then (num, den * Nat.pow 2 e.toNat) else (num * Nat.pow 2 (-e).toNat, den)
    let low : Int := (num.log2 : Int) - (den.log2 : Int) - 53
    let start := scaled low
    let e := max (if Nat.pow 2 53 * start.2 ≤ start.1 then low + 1 else low) (-1074)
    let q := roundDiv (scaled e).1 (scaled e).2
    if q < Nat.pow 2 52 then q
    else min infinityBits ((e + 1075).toNat * Nat.pow 2 52 + (q - Nat.pow 2 52))

/-- The number nearest to `num / den`, with a sign. -/
def nearest (negative : Bool) (num den : Nat) : Float :=
  Float.ofBits (UInt64.ofNat ((if negative then Nat.pow 2 63 else 0) + nearestBits num den))

/-- Whether the sign bit is set, zero and all. -/
def signBit (x : Float) : Bool := Nat.pow 2 63 ≤ x.toBits.toNat

/-- The number nearest to a whole number. -/
def ofInt (n : Int) : Float := nearest (n < 0) n.natAbs 1

/-- A number rounded to so many decimal places, a half going to the even neighbour. -/
def roundPlaces (places : Nat) (x : Float) : Float :=
  if x.isFinite then
    let f := (Dyadic.ofBits x.toBits).fraction
    nearest (signBit x) (roundDiv (f.1 * Nat.pow 10 places) f.2) (Nat.pow 10 places)
  else x

example : nearestBits 1 10 = 0x3FB999999999999A := by decide
example : nearestBits 1 (Nat.pow 2 1075) = 0 ∧ nearestBits 3 (Nat.pow 2 1075) = 2 := by decide +kernel
example : nearestBits (Nat.pow 10 309) 1 = infinityBits := by decide +kernel

end Passcode.Decimal
