/-!
# Blank characters

The white space of Unicode as the reader of attributes and settings sees it: the
control characters that move the cursor or separate records, the spaces, and the
line and paragraph separators. Zero-width characters are not blank.

`trim` takes blanks off both ends of a text; a text is blank when nothing is left.
-/

namespace Passcode.Text

def inRanges (ranges : List (Nat × Nat)) (n : Nat) : Bool :=
  ranges.any fun r => r.1 ≤ n && n ≤ r.2

/-- The code points of white space, as closed ranges in increasing order. -/
def blankRanges : List (Nat × Nat) :=
  [(0x9, 0xD), (0x1C, 0x20), (0x85, 0x85), (0xA0, 0xA0), (0x1680, 0x1680),
   (0x2000, 0x200A), (0x2028, 0x2029), (0x202F, 0x202F), (0x205F, 0x205F),
   (0x3000, 0x3000)]

def isBlankChar (c : Char) : Bool := inRanges blankRanges c.toNat

/-! ## Trimming -/

/-- The characters without the blanks at the front. -/
def trimStart (cs : List Char) : List Char := cs.dropWhile isBlankChar

/-- The characters without the blanks at either end. -/
def trimChars (cs : List Char) : List Char :=
  (trimStart (trimStart cs).reverse).reverse

/-- The text without the white space at either end. -/
def trim (s : String) : String := String.ofList (trimChars s.toList)

/-- A text is blank when it is absent or holds white space only. -/
def isBlank : Option String → Bool
  | none => true
  | some s => s.toList.all isBlankChar

theorem toList_trim (s : String) : (trim s).toList = trimChars s.toList := by
  simp [trim]

end Passcode.Text
