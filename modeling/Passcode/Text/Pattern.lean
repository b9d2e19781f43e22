/-!
# Patterns

The forms that whole texts can have, as rows of parts: some characters of one kind, at least
one of them, or a certain character. Where a character may belong to the part before or to the
part after, every division of the text is tried.
-/

namespace Passcode.Text

/-- A part of a pattern: one or more characters of a kind, or a certain character. -/
inductive Pattern.Part where
  | many (kind : Char → Bool)
  | just (c : Char)

/-- The parts of a pattern in order. -/
abbrev Pattern := List Pattern.Part

namespace Pattern

/-- Whether all of a text has the form of a pattern. A character of a kind that is wanted may be
the last of its part, or another one of the kind may follow. -/
def fits : List Char → Pattern → Bool
  | [], p => p.isEmpty
  | _ :: _, [] => false
  | c :: cs, .just d :: p => c = d && fits cs p
  | c :: cs, .many kind :: p => kind c && (fits cs p || fits cs (.many kind :: p))

theorem fits_nil_iff {cs : List Char} : fits cs [] = true ↔ cs = [] := by
  cases cs <;> simp [fits]

theorem fits_just_iff {cs : List Char} {d : Char} {p : Pattern} :
    fits cs (.just d :: p) = true ↔ ∃ rest, cs = d :: rest ∧ fits rest p = true := by
  cases cs with
  | nil => simp [fits]
  | cons c cs =>
      simp only [fits, Bool.and_eq_true, decide_eq_true_eq, List.cons.injEq]
      exact ⟨fun ⟨h, hrest⟩ => ⟨cs, ⟨h, rfl⟩, hrest⟩, fun ⟨_, ⟨h, rfl⟩, hrest⟩ => ⟨h, hrest⟩⟩

/-- Some characters of a kind can be divided off in front. -/
theorem fits_many_iff {cs : List Char} {kind : Char → Bool} {p : Pattern} :
    fits cs (.many kind :: p) = true ↔
      ∃ front rest, cs = front ++ rest ∧ front ≠ [] ∧ (∀ c ∈ front, kind c = true) ∧
        fits rest p = true := by
  induction cs with
  | nil => simp [fits]
  | cons c cs ih =>
      simp only [fits, Bool.and_eq_true, Bool.or_eq_true, ih]
      constructor
      · rintro ⟨hc, hrest | ⟨front, rest, rfl, -, hfront, hrest⟩⟩
        · exact ⟨[c], cs, rfl, List.cons_ne_nil _ _, by simpa using hc, hrest⟩
        · exact ⟨c :: front, rest, rfl, List.cons_ne_nil _ _,
            List.forall_mem_cons.mpr ⟨hc, hfront⟩, hrest⟩
      · rintro ⟨front, rest, heq, hne, hfront, hrest⟩
        obtain ⟨d, front, rfl⟩ := List.exists_cons_of_ne_nil hne
        obtain ⟨rfl, rfl⟩ := List.cons.inj heq
        obtain ⟨hc, hfront⟩ := List.forall_mem_cons.mp hfront
        refine ⟨hc, ?_⟩
        -- the first character is alone in its part, or not
        cases front with
        | nil => exact .inl hrest
        | cons e front => exact .inr ⟨e :: front, rest, rfl, List.cons_ne_nil _ _, hfront, hrest⟩

end Pattern

end Passcode.Text
