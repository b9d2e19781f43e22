import Passcode.Text.Blank
import Passcode.Text.Digit
import Passcode.Decimal.Binary64

/-!
# Reading numbers

The two number grammars of attributes and settings; white space at either end is passed
over. Digits of any script count, and a single underscore may stand
between two digits. A whole number has one optional sign and at most `maxDigits` digits.
A floating-point number has a decimal point, an exponent, or both, or is one of the
words for infinity and not-a-number in any case; it is rounded to the nearest number
that the format holds.
-/

namespace Passcode.Decimal

open Text (digitValue?)

/-! ## Digits -/

/-- The values of a run of digits: at least one, with single underscores allowed between
two of them. -/
def digitRun? : List Char → Option (List Nat)
  | [] => none
  | c :: cs =>
    match digitValue? c, cs with
    | none, _ => none
    | some d, [] => some [d]
    | some d, '_' :: rest => (digitRun? rest).map (d :: ·)
    | some d, next :: rest => (digitRun? (next :: rest)).map (d :: ·)

/-- The number that a list of digit values writes in base ten. -/
def ofDigits (ds : List Nat) : Nat := ds.foldl (fun n d => 10 * n + d) 0

/-- Splits off one optional sign: whether it is a minus, and what follows. -/
def splitSign : List Char → Bool × List Char
  | '-' :: cs => (true, cs)
  | '+' :: cs => (false, cs)
  | cs => (false, cs)

/-! ## Whole numbers -/

/-- The most digits that a whole number may be written with, zeros at the front
included. -/
def maxDigits : Nat := 4300

def int? (cs : List Char) : Option Int :=
  let (negative, rest) := splitSign (Text.trimChars cs)
  match digitRun? rest with
  | none => none
  | some ds =>
    if maxDigits < ds.length then none
    else some (if negative then -(ofDigits ds : Int) else ofDigits ds)

/-! ## Floating-point numbers -/

/-- A decimal number beyond these powers of ten is infinite or zero whatever its digits
are. -/
def exponentBound : Int := 400

/-- The number nearest to `digits * 10 ^ exponent`. -/
def ofScientific (negative : Bool) (digits : Nat) (exponent : Int) : Float :=
  let size := (digitCount digits : Int) + exponent
  if digits = 0 ∨ size < -exponentBound then nearest negative 0 1
  else if exponentBound < size then nearest negative (Nat.pow 10 exponentBound.toNat) 1
  else if 0 ≤ exponent then nearest negative (digits * Nat.pow 10 exponent.toNat) 1
  else nearest negative digits (Nat.pow 10 (-exponent).toNat)

/-- Reads the digits on one side of the point, which may be missing. -/
def side? : List Char → Option (List Nat)
  | [] => some []
  | cs => digitRun? cs

/-- Reads what stands before the exponent: the digits as one number, and how many of
them follow the point. -/
def significand? (cs : List Char) : Option (Nat × Nat) := do
  let whole ← side? (cs.takeWhile (· ≠ '.'))
  let rest := cs.dropWhile (· ≠ '.')
  let part ← side? (rest.drop 1)
  if whole.isEmpty && part.isEmpty then none
  else some (ofDigits (whole ++ part), part.length)

/-- Reads an exponent after its letter; without a letter it is zero. -/
def exponent? : List Char → Option Int
  | [] => some 0
  | _ :: cs =>
    let (negative, rest) := splitSign cs
    (digitRun? rest).map fun ds => if negative then -(ofDigits ds : Int) else ofDigits ds

def float? (cs : List Char) : Option Float :=
  let (negative, rest) := splitSign (Text.trimChars cs)
  let word := String.ofList (rest.map Char.toLower)
  if word = "inf" ∨ word = "infinity" then some (nearest negative (Nat.pow 10 exponentBound.toNat) 1)
  else if word = "nan" then some (0.0 / 0.0)
  else
    let isMark (c : Char) : Bool := c = 'e' || c = 'E'
    do
      let (digits, places) ← significand? (rest.takeWhile (!isMark ·))
      let power ← exponent? (rest.dropWhile (!isMark ·))
      some (ofScientific negative digits (power - places))

end Passcode.Decimal
