import Passcode.Decimal.Binary64
import Passcode.Value

/-!
# Spans of time

A span of time is given in seconds and microseconds, whole or not, and counted in
microseconds. What a floating-point number says beyond its whole part is multiplied out as
such a number; what it then says beyond whole microseconds is a leftover. The leftovers are
added up as floating-point numbers, and the sum of everything is rounded once to the
nearest microsecond, a half to the even one.
-/

namespace Passcode.Span

/-- The whole part of a finite magnitude, and the bits of what is beyond it. -/
def cut (d : Decimal.Dyadic) : Nat × Nat :=
  let (num, den) := d.fraction
  (num / den, Decimal.nearestBits (num % den) den)

/-- Whole microseconds and a leftover, of a floating-point number of units of so many
microseconds. -/
def split (unit : Nat) (x : Float) : Except Failure (Int × Float) :=
  if x.isNaN then .error (.misuse (.other "cannot convert float NaN to integer"))
  else if x.isInf then .error .outOfCalendar
  else
    let (whole, rest) := cut (Decimal.Dyadic.ofBits x.toBits)
    let (num, den) := (Decimal.Dyadic.ofBits (UInt64.ofNat rest)).fraction
    let (more, leftover) :=
      cut (Decimal.Dyadic.ofBits (UInt64.ofNat (Decimal.nearestBits (num * unit) den)))
    let n : Int := (whole * unit + more : Nat)
    let l := Float.ofBits (UInt64.ofNat leftover)
    .ok (if Decimal.signBit x then (-n, -l) else (n, l))

/-- Whole microseconds and a leftover, of a number of units of so many microseconds. -/
def part (unit : Nat) (v : Value) : Except Failure (Int × Float) := do
  match ← v.number with
  | .int n => return (n * unit, 0)
  | .float x => split unit x

/-- A whole number and a leftover, rounded to the nearest whole number. -/
def rounded (n : Int) (leftover : Float) : Int :=
  let (num, den) := (Decimal.Dyadic.ofBits leftover.toBits).fraction
  let total : Int := n * den + (if Decimal.signBit leftover then -(num : Int) else num)
  let q : Int := Decimal.roundDiv total.natAbs den
  if total < 0 then -q else q

/-- The microseconds of so many seconds and microseconds. The microseconds are looked at
first. -/
def between (seconds micros : Value) : Except Failure Int := do
  let (m, l) ← part 1 micros
  let (s, k) ← part 1000000 seconds
  return rounded (m + s) (l + k)

def micros (seconds : Value) : Except Failure Int := between seconds (.int 0)

end Passcode.Span
