import Passcode.Choice

/-!
# Draws

The source of randomness: a sequence of numbers, of which each code takes as many as it
has characters. A number picks a character of an alphabet by its remainder.

`Draws.code` gives the code of the next numbers; the numbers of two codes never overlap.
-/

namespace Passcode

namespace Alphabet

theorem length_chars_pos (a : Alphabet) : 0 < a.chars.length := by cases a <;> decide

def pick (a : Alphabet) (n : Int) : Char :=
  a.chars.get ⟨(n % a.chars.length).toNat, by
    have h := a.length_chars_pos
    have h₁ := Int.emod_nonneg n (show (a.chars.length : Int) ≠ 0 by omega)
    have h₂ := Int.emod_lt_of_pos n (show (0 : Int) < a.chars.length by omega)
    omega⟩

theorem pick_mem (a : Alphabet) (n : Int) : a.pick n ∈ a.chars := List.get_mem ..

end Alphabet

/-- The numbers drawn, and how many have been taken so far. -/
structure Draws where
  source : Nat → Int
  taken : Nat := 0

namespace Draws

/-- The numbers of a list, over and over. -/
def cycle (xs : List Int) : Draws := ⟨fun k => xs[k % xs.length]?.getD 0, 0⟩

instance : Inhabited Draws := ⟨cycle []⟩

/-- The code that the next numbers pick, as a list of characters. -/
def codeChars (d : Draws) (a : Alphabet) (length : Nat) : List Char :=
  (List.range length).map fun i => a.pick (d.source (d.taken + i))

def code (d : Draws) (a : Alphabet) (length : Nat) : String :=
  String.ofList (d.codeChars a length)

/-- The draws after so many more have been taken. -/
def skip (d : Draws) (length : Nat) : Draws := { d with taken := d.taken + length }

theorem length_codeChars (d : Draws) (a : Alphabet) (n : Nat) : (d.codeChars a n).length = n := by
  simp [codeChars]

theorem mem_of_mem_codeChars {d : Draws} {a : Alphabet} {n : Nat} {c : Char}
    (h : c ∈ d.codeChars a n) : c ∈ a.chars := by
  simp only [codeChars, List.mem_map] at h
  obtain ⟨i, -, rfl⟩ := h
  exact a.pick_mem _

end Draws

end Passcode
