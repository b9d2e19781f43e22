import Passcode.Mail.Message
import Passcode.Text.Lines

/-!
# What a bare address is

The form of an address can be found in a text in several ways, since points may stand in every
part of it. What is accepted does not depend on the way: a text is an address exactly if there is
something in front of an at sign, a domain with a point inside it behind, and none of the
characters that have no place in either (`Mail.isAddress_iff_bare`).
-/

namespace Passcode

theorem Text.isBlankChar_of_isLineEnd {c : Char} (h : Text.isLineEnd c = true) :
    Text.isBlankChar c = true := by
  have hall : ['\n', '\r', '\x0b', '\x0c', '\x1c', '\x1d', '\x1e', '\u0085', '\u2028',
      '\u2029'].all Text.isBlankChar = true := by decide
  exact List.all_eq_true.mp hall c (of_decide_eq_true h)

namespace Mail

/-- What stands before and after the at sign of an address. The domain has a point that is
neither its first character nor its last. -/
structure Bare (user domain : List Char) : Prop where
  user_ne_nil : user ≠ []
  unmarked : ∀ c ∈ user ++ domain, c ≠ '@' ∧ Text.isBlankChar c = false ∧
    c ∉ ['<', '>', ',', ';', '"', '(', ')']
  point : ∃ front rest, domain = front ++ '.' :: rest ∧ front ≠ [] ∧ rest ≠ []

theorem isPlain_iff {c : Char} : isPlain c = true ↔
    c ≠ '@' ∧ Text.isBlankChar c = false ∧ c ∉ ['<', '>', ',', ';', '"', '(', ')'] := by
  simp only [isPlain, Bool.and_eq_true, Bool.not_eq_true', decide_eq_true_eq,
    List.mem_cons (b := '@'), not_or]
  exact and_left_comm

/-- A text has the form of an address if and only if it can be divided at an at sign into what
stands before and after it in an address. -/
theorem isAddress_iff_bare {s : String} :
    isAddress s = true ↔ ∃ user domain, s.toList = user ++ '@' :: domain ∧ Bare user domain := by
  simp only [isAddress, addressPattern, Text.Pattern.fits_many_iff, Text.Pattern.fits_just_iff,
    Text.Pattern.fits_nil_iff]
  constructor
  · rintro ⟨user, _, hs, huser, hplain, domain, rfl, front, _, rfl, hfront, hinner, _, rfl, rest, _,
      rfl, hrest, hlast, rfl⟩
    refine ⟨user, front ++ '.' :: rest, by simpa using hs, huser, fun c hc => ?_, front, rest, rfl,
      hfront, hrest⟩
    have hpoint : isPlain '.' = true := by decide
    refine isPlain_iff.mp ?_
    simp only [List.mem_append, List.mem_cons] at hc
    obtain hc | hc | rfl | hc := hc
    · exact hplain c hc
    · exact hinner c hc
    · exact hpoint
    · exact hlast c hc
  · rintro ⟨user, _, hs, huser, hunmarked, front, rest, rfl, hfront, hrest⟩
    have hplain : ∀ c ∈ user ++ (front ++ '.' :: rest), isPlain c = true :=
      fun c hc => isPlain_iff.mpr (hunmarked c hc)
    simp only [List.forall_mem_append, List.forall_mem_cons] at hplain
    obtain ⟨huserplain, hinner, -, hlast⟩ := hplain
    exact ⟨user, _, hs, huser, huserplain, _, rfl, front, _, rfl, hfront, hinner, _, rfl, rest, [],
      by simp, hrest, hlast, rfl⟩

/-- An address has one at sign. -/
theorem Bare.count_at {user domain : List Char} (h : Bare user domain) :
    (user ++ '@' :: domain).count '@' = 1 := by
  have hnone : ∀ cs : List Char, (∀ c ∈ cs, c ≠ '@') → cs.count '@' = 0 := fun cs hcs =>
    List.count_eq_zero.mpr fun hmem => hcs _ hmem rfl
  have huser := hnone user fun c hc => (h.unmarked c (List.mem_append_left _ hc)).1
  have hdomain := hnone domain fun c hc => (h.unmarked c (List.mem_append_right _ hc)).1
  rw [List.count_append, List.count_cons_self, huser, hdomain]

/-- Every character of an address is its at sign, or one that may stand anywhere else. -/
theorem forall_mem_address {s : String} (h : isAddress s = true) {P : Char → Prop} (hat : P '@')
    (hplain : ∀ c, isPlain c = true → P c) : ∀ c ∈ s.toList, P c := by
  obtain ⟨user, domain, hs, hbare⟩ := isAddress_iff_bare.mp h
  have hparts : ∀ c ∈ user ++ domain, P c := fun c hc =>
    hplain c (isPlain_iff.mpr (hbare.unmarked c hc))
  rw [List.forall_mem_append] at hparts
  rw [hs, List.forall_mem_append, List.forall_mem_cons]
  exact ⟨hparts.1, hat, hparts.2⟩

theorem isBlankChar_of_mem_address {s : String} (h : isAddress s = true) :
    ∀ c ∈ s.toList, Text.isBlankChar c = false :=
  forall_mem_address h (by decide) fun _ hc => (isPlain_iff.mp hc).2.1

/-- An address is something, an at sign, and a domain with a point inside it, without any of the
characters that have no place in it. So it has exactly one at sign, and no line ends in it or at
the end of it. -/
theorem addresses_are_bare (s : String) :
    (isAddress s = true ↔ ∃ user domain, s.toList = user ++ '@' :: domain ∧ Bare user domain) ∧
    (isAddress s = true → s.toList.count '@' = 1) ∧
    ((∃ c ∈ s.toList, Text.isLineEnd c = true) → isAddress s = false) := by
  refine ⟨isAddress_iff_bare, fun h => ?_, fun ⟨c, hc, hend⟩ => ?_⟩
  · obtain ⟨user, domain, hs, hbare⟩ := isAddress_iff_bare.mp h
    rw [hs]
    exact hbare.count_at
  · cases h : isAddress s with
    | false => rfl
    | true =>
        have hblank := Text.isBlankChar_of_isLineEnd hend
        rw [isBlankChar_of_mem_address h c hc] at hblank
        cases hblank

/-- Points may stand side by side and at the ends of both parts, as long as one is inside the
domain. With a line feed at its end the same text is refused. -/
theorem address_full_of_points :
    isAddress ".a..@..b" = true ∧ ".a..@..b".toList.count '@' = 1 ∧
      (∃ user domain, ".a..@..b".toList = user ++ '@' :: domain ∧ Bare user domain) ∧
      isAddress ".a..@..b\n" = false :=
  ⟨by decide, (addresses_are_bare _).2.1 (by decide), (addresses_are_bare _).1.mp (by decide),
    (addresses_are_bare _).2.2 ⟨'\n', by decide, by decide⟩⟩

end Mail

end Passcode
