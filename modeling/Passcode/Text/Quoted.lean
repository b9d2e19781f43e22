import Passcode.Text.Printable

/-!
# Quoted text

How a text is shown inside a message, so that its ends and its invisible characters
can be seen. It stands between single quotes, or between double quotes if it holds a
single quote and no double one. The backslash and the quote in use are written after a
backslash; line feed, carriage return and tab have letters; any other character that is
not printable is written by its code point in two, four or eight hexadecimal digits.
-/

namespace Passcode.Text

/-- The digits of a number in base sixteen, small letters, at least `width` of them. -/
def hex (width n : Nat) : List Char :=
  let digits := Nat.toDigits 16 n
  List.replicate (width - digits.length) '0' ++ digits

/-- The quote around a text: double only where that saves an escape. -/
def quoteFor (cs : List Char) : Char :=
  if '\'' ∈ cs ∧ '"' ∉ cs then '"' else '\''

def escapeChar (quote c : Char) : List Char :=
  if c = quote ∨ c = '\\' then ['\\', c]
  else if c = '\n' then ['\\', 'n']
  else if c = '\r' then ['\\', 'r']
  else if c = '\t' then ['\\', 't']
  else if isPrintable c then [c]
  else if c.toNat < 0x100 then '\\' :: 'x' :: hex 2 c.toNat
  else if c.toNat < 0x10000 then '\\' :: 'u' :: hex 4 c.toNat
  else '\\' :: 'U' :: hex 8 c.toNat

def quoted (s : String) : String :=
  let cs := s.toList
  let quote := quoteFor cs
  String.ofList (quote :: cs.flatMap (escapeChar quote) ++ [quote])

/-- A text that may be absent: quoted, or the word for nothing. -/
def quotedOrNone : Option String → String
  | none => "None"
  | some s => quoted s

end Passcode.Text
