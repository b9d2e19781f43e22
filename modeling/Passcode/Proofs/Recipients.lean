import Mathlib.Data.List.Induction
import Passcode.Proofs.AddressLists

/-!
# Whom a message is for

A mailer takes a list of recipients if every one of them is a bare address, and otherwise refuses
to compose anything, for the first one that is not. What it hands to the header keeps the
recipients apart: no address holds a comma or white space, so the list can be divided again where
its commas and spaces are (`Mail.entries_joinAddresses`).

The header is another matter, since it reads the list it is given. A bare address may hold marks
with a meaning of their own there, such as the colon after the name of a group, and then the
header names others than were asked for (`Mailer.colon_makes_group`). For common addresses it
says the list as it is (`Mailer.recipients_kept_apart`).
-/

namespace Passcode

namespace Mail

/-- The entries of a list in which a comma and a space separate them. -/
def entries : List Char → List (List Char)
  | [] => [[]]
  | ',' :: ' ' :: cs => [] :: entries cs
  | c :: cs => Text.prepend c (entries cs)

theorem entries_cons {c : Char} (hc : c ≠ ',') (cs : List Char) :
    entries (c :: cs) = Text.prepend c (entries cs) := by
  rw [entries]
  rintro _ rfl
  exact absurd rfl hc

theorem entries_of_no_comma {cs : List Char} (hcs : ∀ c ∈ cs, c ≠ ',') : entries cs = [cs] := by
  induction cs with
  | nil => rfl
  | cons c cs ih =>
      obtain ⟨hc, hcs⟩ := List.forall_mem_cons.mp hcs
      rw [entries_cons hc, ih hcs, Text.prepend]

theorem entries_append {cs : List Char} (hcs : ∀ c ∈ cs, c ≠ ',') (more : List Char) :
    entries (cs ++ [',', ' '] ++ more) = cs :: entries more := by
  induction cs with
  | nil => rfl
  | cons c cs ih =>
      obtain ⟨hc, hcs⟩ := List.forall_mem_cons.mp hcs
      rw [List.cons_append, List.cons_append, entries_cons hc, ih hcs, Text.prepend]

theorem ne_comma_of_mem_address {s : String} (h : isAddress s = true) :
    ∀ c ∈ s.toList, c ≠ ',' :=
  forall_mem_address h (by decide) fun c hc => by
    rintro rfl
    exact absurd hc (by decide)

variable {rs : List String}

/-- Addresses that have been joined can be told apart again. -/
theorem entries_joinAddresses (hne : rs ≠ []) (hrs : ∀ a ∈ rs, isAddress a = true) :
    entries (joinAddresses rs).toList = rs.map String.toList := by
  induction rs with
  | nil => exact absurd rfl hne
  | cons a rs ih =>
      obtain ⟨ha, hrs⟩ := List.forall_mem_cons.mp hrs
      have hcomma := ne_comma_of_mem_address ha
      cases rs with
      | nil => rw [toList_joinAddresses_singleton, entries_of_no_comma hcomma]; rfl
      | cons b rs =>
          rw [toList_joinAddresses_cons_cons, entries_append hcomma, ih (List.cons_ne_nil _ _) hrs]
          rfl

/-- The only white space among joined addresses is a space for each comma between them. -/
theorem blanks_joinAddresses (hrs : ∀ a ∈ rs, isAddress a = true) :
    (joinAddresses rs).toList.filter Text.isBlankChar = List.replicate (rs.length - 1) ' ' := by
  induction rs with
  | nil => rfl
  | cons a rs ih =>
      obtain ⟨ha, hrs⟩ := List.forall_mem_cons.mp hrs
      have hblank : a.toList.filter Text.isBlankChar = [] := by
        simpa [List.filter_eq_nil_iff] using isBlankChar_of_mem_address ha
      cases rs with
      | nil => rw [toList_joinAddresses_singleton, hblank]; rfl
      | cons b rs =>
          have hseparator : [',', ' '].filter Text.isBlankChar = [' '] := by decide
          rw [toList_joinAddresses_cons_cons, List.filter_append, List.filter_append, hblank,
            hseparator, ih hrs]
          rfl

end Mail

namespace Mailer

variable {m : Mailer} {rs : List String} {r : Record}

theorem checkRecipients_eq_ok_iff :
    checkRecipients rs = .ok () ↔ ∀ a ∈ rs, Mail.isAddress a = true := by
  have hfind : (rs.find? fun a => !Mail.isAddress a) = none ↔
      ∀ a ∈ rs, Mail.isAddress a = true := by simp
  rw [← hfind, checkRecipients]
  cases rs.find? fun a => !Mail.isAddress a <;> simp

theorem compose_eq_error_of_checkRecipients {f : Failure} (h : checkRecipients rs = .error f) :
    m.compose rs r = .error f := by
  rw [compose, h]
  rfl

/-- A composed message has passed the check, and is for whom the header says. -/
theorem recipients_of_compose_eq_ok {message : Message} (h : m.compose rs r = .ok message) :
    checkRecipients rs = .ok () ∧
      Mail.addresses (Mail.joinAddresses rs) = .ok message.recipients := by
  rw [compose] at h
  obtain ⟨_, hcheck, h⟩ := ok_of_bind h
  obtain ⟨subject, -, h⟩ := ok_of_bind h
  obtain ⟨sender, -, h⟩ := ok_of_bind h
  obtain ⟨addressees, haddressees, h⟩ := ok_of_bind h
  split at h
  · obtain ⟨text, -, h⟩ := ok_of_bind h
    cases h
    exact ⟨hcheck, haddressees⟩
  · cases h

/-- If the recipients are bare addresses they pass the check, and otherwise the first one that is
not is what the mailer objects to, whatever else is wrong with the message. In a composed message
they have been handed to the header in such a way that the list can be divided again, with no
white space but a space after each comma. The header says them as they are if they are common
addresses. -/
theorem recipients_kept_apart (m : Mailer) (rs : List String) (hne : rs ≠ []) (r : Record) :
    (checkRecipients rs = .ok () ↔ ∀ a ∈ rs, Mail.isAddress a = true) ∧
    ((¬ ∀ a ∈ rs, Mail.isAddress a = true) → ∃ before a after, rs = before ++ a :: after ∧
      (∀ b ∈ before, Mail.isAddress b = true) ∧ Mail.isAddress a = false ∧
      m.compose rs r = .error (.refused (.badRecipient a (Vocabulary.word Channel.email)))) ∧
    ∀ message, m.compose rs r = .ok message →
      (∀ a ∈ rs, Mail.isAddress a = true) ∧
      Mail.addresses (Mail.joinAddresses rs) = .ok message.recipients ∧
      Mail.entries (Mail.joinAddresses rs).toList = rs.map String.toList ∧
      (Mail.joinAddresses rs).toList.filter Text.isBlankChar = List.replicate (rs.length - 1) ' ' ∧
      ((∀ a ∈ rs, Mail.IsCommon a) → message.recipients = Mail.joinAddresses rs) := by
  refine ⟨checkRecipients_eq_ok_iff, fun hbad => ?_, fun message hcompose => ?_⟩
  · cases hfind : rs.find? fun a => !Mail.isAddress a with
    | none => exact absurd (by simpa using hfind) hbad
    | some a =>
        obtain ⟨ha, before, after, hrs, hbefore⟩ := List.find?_eq_some_iff_append.mp hfind
        refine ⟨before, a, after, hrs, by simpa using hbefore, by simpa using ha, ?_⟩
        exact compose_eq_error_of_checkRecipients (by rw [checkRecipients, hfind])
  · obtain ⟨hcheck, haddresses⟩ := recipients_of_compose_eq_ok hcompose
    have hrs := checkRecipients_eq_ok_iff.mp hcheck
    refine ⟨hrs, haddresses, Mail.entries_joinAddresses hne hrs, Mail.blanks_joinAddresses hrs,
      fun hcommon => ?_⟩
    rw [Mail.addresses_joinAddresses hne hcommon] at haddresses
    exact (Except.ok.inj haddresses).symm

/-- Two common addresses, one of them beyond ASCII: the message says them as they were given. -/
theorem two_recipients_kept_apart :
    ∃ message, compose { sender := .text "otp@example.com", template := .text "Code: $OTP" }
        ["a.b@c.de", "é@f.gh"] ⟨"482913", ⟨0, by decide⟩⟩ = .ok message ∧
      message.recipients = "a.b@c.de, é@f.gh" ∧
      Mail.entries message.recipients.toList = ["a.b@c.de".toList, "é@f.gh".toList] := by
  have hcompose : compose { sender := .text "otp@example.com", template := .text "Code: $OTP" }
      ["a.b@c.de", "é@f.gh"] ⟨"482913", ⟨0, by decide⟩⟩ =
      .ok ⟨"One-time password", "otp@example.com", "a.b@c.de, é@f.gh", "Code: 482913\n"⟩ := by
    decide +kernel
  have hcommon : ∀ a ∈ ["a.b@c.de", "é@f.gh"], Mail.IsCommon a := by
    rintro a (_ | ⟨_, _ | ⟨_, ⟨⟩⟩⟩)
    · exact ⟨['a', '.', 'b'], ['c', '.', 'd', 'e'], rfl,
        .point (by decide : Mail.IsAtom ['a']) (.atom (by decide)),
        .point (by decide : Mail.IsAtom ['c']) (.atom (by decide))⟩
    · exact ⟨['é'], ['f', '.', 'g', 'h'], rfl, .atom (by decide),
        .point (by decide : Mail.IsAtom ['f']) (.atom (by decide))⟩
  obtain ⟨-, -, hmessage⟩ := recipients_kept_apart
    { sender := .text "otp@example.com", template := .text "Code: $OTP" } ["a.b@c.de", "é@f.gh"]
    (by decide) ⟨"482913", ⟨0, by decide⟩⟩
  obtain ⟨-, -, hentries, -, hkept⟩ := hmessage _ hcompose
  have hto := hkept hcommon
  refine ⟨_, hcompose, rfl, ?_⟩
  rw [hto]
  exact hentries

/-- A bare address with a colon in it is the beginning of a group in the header: the group is
named after what stands before the colon, and the next recipient is a member of it. So the header
says something else than the list. -/
theorem colon_makes_group :
    (∀ a ∈ ["team:a@b.cd", "e@f.gh"], Mail.isAddress a = true) ∧
      compose { sender := .text "otp@example.com", template := .text "Code: $OTP" }
        ["team:a@b.cd", "e@f.gh"] ⟨"482913", ⟨0, by decide⟩⟩ =
        .ok ⟨"One-time password", "otp@example.com", "team: a@b.cd, e@f.gh;", "Code: 482913\n"⟩ ∧
      Mail.entries "team: a@b.cd, e@f.gh;".toList ≠ ["team:a@b.cd", "e@f.gh"].map String.toList :=
  ⟨by decide, by decide +kernel, by decide⟩

end Mailer

end Passcode
