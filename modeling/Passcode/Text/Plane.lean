/-!
# Tables of characters

A code page has its characters by one octet: the octets below `first` stand for the
characters of the same numbers, those from `first` on for the characters listed in `upper`.
In a plane a character is found by two numbers, a row and a cell in it; a plane is given as
strips, some neighbouring cells of one row. A replacement character in a list or a strip
marks what stands for nothing, and so does everything outside of them.
-/

namespace Passcode.Text

/-! ## One octet -/

/-- A charset of one octet a character: what it is called, and the characters of its
octets from `first` on. -/
structure CodePage where
  name : String
  aliases : List String := []
  first : Nat
  upper : String
deriving Repr

def CodePage.char? (p : CodePage) (b : UInt8) : Option Char :=
  let n := b.toNat
  if n < p.first then some (Char.ofNat n)
  else (p.upper.toList[n - p.first]?).filter (· ≠ '\uFFFD')

/-! ## Rows and cells -/

/-- Some neighbouring cells of a row, from the first of them on. -/
structure Strip where
  row : Nat
  cell : Nat
  text : String

def Strip.char? (s : Strip) (row cell : Nat) : Option Char :=
  if s.row = row ∧ s.cell ≤ cell then (s.text.toList[cell - s.cell]?).filter (· ≠ '\uFFFD')
  else none

/-- A table of characters by row and cell. -/
abbrev Plane := List Strip

namespace Plane

def char? (p : Plane) (row cell : Nat) : Option Char := p.findSome? (·.char? row cell)

def chars (p : Plane) : List Char := p.flatMap fun s => s.text.toList.filter (· ≠ '\uFFFD')

end Plane

/-- The `n`-th number that is not in an ascending list. -/
def nthAbsent (present : List Nat) (n : Nat) : Nat :=
  present.foldl (fun k p => if p ≤ k then k + 1 else k) n

end Passcode.Text
