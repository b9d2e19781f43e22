import Passcode.Text.CharacterName
import Passcode.Text.Decoder

/-!
# Escapes

Octets that are the characters of the same numbers, with escapes for all others: a
backslash, a letter and hexadecimal digits. The full set of escapes also has the usual ones
for control characters and quotation marks, octal numbers and names. An escape that is not
one of them stands for itself.
-/

namespace Passcode.Text.Decoder

/-- The value of a hexadecimal digit; capitals and small letters stand for the same digits. -/
def hexDigit? (b : UInt8) : Option Nat :=
  let n := b.toNat
  if 0x30 ≤ n ∧ n ≤ 0x39 then some (n - 0x30)
  else if 0x41 ≤ n ∧ n ≤ 0x46 then some (n - 0x41 + 10)
  else if 0x61 ≤ n ∧ n ≤ 0x66 then some (n - 0x61 + 10)
  else none

/-- An escape of so many hexadecimal digits after a backslash and a letter. -/
def hexEscape (count : Nat) (bs : List UInt8) : Reading :=
  let ds := bs.take count
  match if ds.length = count then ds.mapM hexDigit? else none with
  | some ds =>
    let n := ds.foldl (fun n d => n * 16 + d) 0
    if n ≤ 0x10FFFF then .glyphs [.ofCode n] (2 + count) else .fault 1
  | none => .fault 1

/-- A backslash and the octet after it, as they are. -/
def noEscape (b : UInt8) : Reading :=
  .glyphs [.char '\\', .char (Char.ofNat b.toNat)] 2

/-- Octets with escapes for characters beyond them only. A backslash at the end is one. -/
def rawEscapes : Decoder Unit :=
  stateless fun
    | 0x5C :: 0x75 :: bs => hexEscape 4 bs
    | 0x5C :: 0x55 :: bs => hexEscape 8 bs
    | 0x5C :: b :: _ => noEscape b
    | b :: _ => .ofOctet b
    | [] => .fault 1

/-- What a letter or sign after a backslash stands for. -/
def escapedChar? (b : UInt8) : Option Char :=
  [(0x5C, '\\'), (0x27, '\''), (0x22, '"'), (0x61, '\x07'), (0x62, '\x08'), (0x66, '\x0C'),
   (0x6E, '\n'), (0x72, '\r'), (0x74, '\t'), (0x76, '\x0B')].lookup b

def octalDigits (bs : List UInt8) : List UInt8 := bs.takeWhile fun b => 0x30 ≤ b && b ≤ 0x37

/-- A character by its name in braces, after a backslash and a letter. -/
def namedEscape : List UInt8 → Reading
  | 0x7B :: bs =>
    let name := bs.takeWhile (· ≠ 0x7D)
    if name.length < bs.length then
      .ofChar? (charNamed? (name.map fun b => Char.ofNat b.toNat)) (name.length + 4)
    else .fault 1
  | _ => .fault 1

/-- What octets after a backslash stand for. The backslash cannot be the last octet. -/
def escape (bs : List UInt8) : Reading :=
  match bs with
  | [] => .fault 1
  | 0x0A :: _ => .glyphs [] 2
  | 0x78 :: bs => hexEscape 2 bs
  | 0x75 :: bs => hexEscape 4 bs
  | 0x55 :: bs => hexEscape 8 bs
  | 0x4E :: bs => namedEscape bs
  | b :: _ =>
    match escapedChar? b, octalDigits (bs.take 3) with
    | some c, _ => .ofChar c 2
    | none, [] => noEscape b
    | none, ds =>
      .ofChar (Char.ofNat (ds.foldl (fun n d => n * 8 + (d.toNat - 0x30)) 0)) (1 + ds.length)

def escapes : Decoder Unit :=
  stateless fun
    | 0x5C :: bs => escape bs
    | b :: _ => .ofOctet b
    | [] => .fault 1

end Passcode.Text.Decoder
