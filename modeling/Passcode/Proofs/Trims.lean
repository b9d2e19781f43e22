import Mathlib.Data.List.DropRight
import Passcode.Text.Blank

/-!
# Trimmed texts

Trimming takes the white space off both ends and nothing else: it does so once and for all
(`trim_trim`), it makes no text blank that was not (`isBlank_trim`), and whatever white space is
put around a text is taken off again (`Padded.trim_eq`).
-/

namespace Passcode.Text

theorem trimChars_eq (cs : List Char) :
    trimChars cs = (cs.dropWhile isBlankChar).rdropWhile isBlankChar := rfl

theorem dropWhile_trimChars (cs : List Char) :
    (trimChars cs).dropWhile isBlankChar = trimChars cs := by
  have hlead : (trimChars cs) <+: cs.dropWhile isBlankChar := List.rdropWhile_prefix ..
  rw [List.dropWhile_eq_self_iff]
  intro hpos
  have hself := List.dropWhile_eq_self_iff.mp (List.dropWhile_idempotent isBlankChar cs)
  rw [hlead.getElem hpos]
  exact hself (hpos.trans_le hlead.length_le)

theorem trim_trim (s : String) : trim (trim s) = trim s := by
  rw [trim, toList_trim, trimChars_eq (trimChars _), dropWhile_trimChars, trimChars_eq,
    List.rdropWhile_idempotent]
  rfl

theorem trimChars_eq_nil_iff {cs : List Char} :
    trimChars cs = [] ↔ ∀ c ∈ cs, isBlankChar c = true := by
  rw [trimChars_eq, List.rdropWhile_eq_nil_iff]
  constructor
  · intro hall
    -- what is left begins with no blank, so if all of it is blank nothing is left
    have hrest : (cs.dropWhile isBlankChar).dropWhile isBlankChar = [] :=
      List.dropWhile_eq_nil_iff.mpr hall
    rw [List.dropWhile_idempotent isBlankChar cs] at hrest
    exact List.dropWhile_eq_nil_iff.mp hrest
  · intro hall c hc
    rw [List.dropWhile_eq_nil_iff.mpr hall] at hc
    cases hc

theorem isBlank_iff {s : String} : isBlank (some s) = true ↔ trim s = "" := by
  have htrim : trim s = "" ↔ trimChars s.toList = [] := by
    rw [← String.toList_inj, toList_trim]
    rfl
  rw [htrim, trimChars_eq_nil_iff, isBlank, List.all_eq_true]

theorem trim_of_isBlank {s : String} (h : isBlank (some s) = true) : trim s = "" :=
  isBlank_iff.mp h

theorem isBlank_trim (s : String) : isBlank (some (trim s)) = isBlank (some s) := by
  rw [Bool.eq_iff_iff, isBlank_iff, isBlank_iff, trim_trim]

theorem trim_eq_self {s : String} (h : ∀ c ∈ s.toList, isBlankChar c = false) : trim s = s := by
  have hfront : s.toList.dropWhile isBlankChar = s.toList :=
    List.dropWhile_eq_self_iff.mpr fun hpos => by simp [h _ (List.getElem_mem hpos)]
  have hback : s.toList.rdropWhile isBlankChar = s.toList :=
    List.rdropWhile_eq_self_iff.mpr fun hne => by simp [h _ (List.getLast_mem hne)]
  rw [← String.toList_inj, toList_trim, trimChars_eq, hfront, hback]

/-- The second text is the first with white space around it. -/
def Padded (inner outer : String) : Prop :=
  ∃ front back : List Char, front.all isBlankChar = true ∧ back.all isBlankChar = true ∧
    outer.toList = front ++ inner.toList ++ back

namespace Padded

variable {inner outer : String}

theorem trim_eq (h : Padded inner outer) : trim outer = trim inner := by
  obtain ⟨front, back, hfront, hback, houter⟩ := h
  rw [List.all_eq_true] at hfront hback
  have hdrop : (front ++ inner.toList ++ back).dropWhile isBlankChar =
      (inner.toList ++ back).dropWhile isBlankChar := by
    rw [List.append_assoc, List.dropWhile_append_of_pos hfront]
  have hend : ∀ cs : List Char,
      (cs ++ back).rdropWhile isBlankChar = cs.rdropWhile isBlankChar := by
    intro cs
    have hrev : ∀ c ∈ back.reverse, isBlankChar c = true := fun c hc =>
      hback c (List.mem_reverse.mp hc)
    rw [List.rdropWhile, List.reverse_append, List.dropWhile_append_of_pos hrev, List.rdropWhile]
  rw [← String.toList_inj, toList_trim, toList_trim, houter, trimChars_eq, hdrop,
    List.dropWhile_append]
  split
  · next hnone =>
    rw [List.isEmpty_iff] at hnone
    have hnil : back.dropWhile isBlankChar = [] := List.dropWhile_eq_nil_iff.mpr hback
    rw [hnil, trimChars_eq, hnone]
  · rw [hend, trimChars_eq]

theorem isBlank_eq (h : Padded inner outer) : isBlank (some outer) = isBlank (some inner) := by
  rw [Bool.eq_iff_iff, isBlank_iff, isBlank_iff, h.trim_eq]

end Padded

end Passcode.Text
