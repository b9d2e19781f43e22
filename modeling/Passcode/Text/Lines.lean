/-!
# Lines

A text divided into lines. A line ends after a line feed, a carriage return, the two
together, a vertical tab, a form feed, one of the three upper separators of ASCII, the
next-line control, or the line or paragraph separator. The ends stay with their lines,
so the lines of a text put together are the text.
-/

namespace Passcode.Text

def isLineEnd (c : Char) : Bool :=
  c ∈ ['\n', '\r', '\x0b', '\x0c', '\x1c', '\x1d', '\x1e', '\u0085', '\u2028', '\u2029']

def prepend (c : Char) : List (List Char) → List (List Char)
  | [] => [[c]]
  | l :: ls => (c :: l) :: ls

def lines : List Char → List (List Char)
  | [] => []
  | '\r' :: '\n' :: cs => ['\r', '\n'] :: lines cs
  | c :: cs => if isLineEnd c then [c] :: lines cs else prepend c (lines cs)

theorem length_prepend (c : Char) (ls : List (List Char)) :
    (prepend c ls).length = max 1 ls.length := by
  cases ls with
  | nil => rfl
  | cons l ls => exact (Nat.max_eq_right (Nat.succ_le_succ (Nat.zero_le _))).symm

end Passcode.Text
