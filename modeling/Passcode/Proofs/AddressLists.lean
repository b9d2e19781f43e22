import Mathlib.Data.List.TakeDrop
import Passcode.Mail.Message
import Passcode.Proofs.AddressGrammar
import Passcode.Proofs.Octets
import Passcode.Proofs.Scans

/-!
# Lists of common addresses

A common address has atoms with points between them on both sides of its at sign: characters
without a meaning of their own, of which none begin like an encoded word. What a reader does in
front of such an address is settled by the mark that comes next, so each reader has one law, and
the laws follow the readers from atoms to lists. In a list, the space after a comma is the gap in
front of the next address.

A list of common addresses is read as what it is (`readAddresses_joinAddresses`), and a header
says it as it was given (`addresses_joinAddresses`).
-/

namespace Passcode.Mail

open Scan

/-! ## Common addresses -/

/-- Whether a character may stand in an atom of an address: a plain character that has no meaning
of its own in an address list. -/
def isAtomic (c : Char) : Bool := isPlain c && c ∉ ['.', ':', '[', ']', '\\']

/-- Some characters that stand for nothing but themselves in an address list. -/
structure IsAtom (cs : List Char) : Prop where
  ne_nil : cs ≠ []
  atomic : ∀ c ∈ cs, isAtomic c = true
  unencoded : ¬ ['=', '?'] <+: cs

instance (cs : List Char) : Decidable (IsAtom cs) :=
  decidable_of_iff (cs ≠ [] ∧ cs.all isAtomic = true ∧ ¬ ['=', '?'] <+: cs)
    ⟨fun ⟨hne, hatomic, hmark⟩ => ⟨hne, List.all_eq_true.mp hatomic, hmark⟩,
      fun h => ⟨h.ne_nil, List.all_eq_true.mpr h.atomic, h.unencoded⟩⟩

/-- Atoms with points between them. -/
inductive IsDotted : List Char → Prop
  | atom {cs : List Char} (h : IsAtom cs) : IsDotted cs
  | point {cs more : List Char} (h : IsAtom cs) (hmore : IsDotted more) :
      IsDotted (cs ++ '.' :: more)

/-! ## What stands next -/

variable {cs marks : List Char} {lead rest : Glyphs}

theorem among_of_isAtomic {c : Char} (hc : isAtomic c = true)
    (hmarks : marks.any isAtomic = false) : (Glyph.char c).among marks = false :=
  decide_eq_false fun hmem => List.any_eq_false.mp hmarks c hmem hc

/-- No gap begins with a character of an atom. -/
theorem ungapped_of_isAtomic {c : Char} (hc : isAtomic c = true) :
    ((Glyph.char c).isBlank || (Glyph.char c).among gapStarts) = false := by
  have hblank : (Glyph.char c).isBlank = false :=
    (isPlain_iff.mp (Bool.and_eq_true_iff.mp hc).1).2.1
  rw [hblank, among_of_isAtomic hc (by decide)]
  rfl

/-- A text ends, or one of some marks stands next in it. -/
def Bounded (marks : List Char) (rest : Glyphs) : Prop :=
  ∀ g ∈ rest.head?, ∃ c ∈ marks, g = .char c

theorem bounded_cons {c : Char} (hc : c ∈ marks) (rest : Glyphs) :
    Bounded marks (.char c :: rest) := fun _ hg => ⟨c, hc, (Option.mem_some.mp hg).symm⟩

theorem Bounded.mono (h : Bounded marks rest) {wider : List Char} (hsub : marks ⊆ wider) :
    Bounded wider rest := fun g hg => (h g hg).imp fun _ hc => ⟨hsub hc.1, hc.2⟩

theorem Bounded.any_head? (h : Bounded marks rest) {p : Glyph → Bool}
    (hp : marks.any (fun c => p (.char c)) = false) : rest.head?.any p = false := by
  cases hhead : rest.head? with
  | none => rfl
  | some g =>
      obtain ⟨c, hc, rfl⟩ := h g hhead
      exact Bool.eq_false_iff.mpr (List.any_eq_false.mp hp c hc)

theorem IsAtom.any_head? (h : IsAtom cs) {p : Glyph → Bool} {b : Bool}
    (hp : ∀ c, isAtomic c = true → p (.char c) = b) (rest : Glyphs) :
    (cs.map Glyph.char ++ rest).head?.any p = b := by
  obtain ⟨c, cs, rfl⟩ := List.exists_cons_of_ne_nil h.ne_nil
  exact hp c (h.atomic c List.mem_cons_self)

theorem IsDotted.ne_nil (h : IsDotted cs) : cs ≠ [] := by
  cases h with
  | atom h => exact h.ne_nil
  | point h _ => simp

/-- A row of atoms holds nothing but the characters of atoms and points. -/
theorem IsDotted.forall_mem (h : IsDotted cs) {P : Char → Prop} (hpoint : P '.')
    (hatomic : ∀ c, isAtomic c = true → P c) : ∀ c ∈ cs, P c := by
  induction h with
  | atom h => exact fun c hc => hatomic c (h.atomic c hc)
  | point h _ ih =>
      simp only [List.forall_mem_append, List.forall_mem_cons]
      exact ⟨fun c hc => hatomic c (h.atomic c hc), hpoint, ih⟩

theorem IsDotted.any_head? (h : IsDotted cs) {p : Glyph → Bool} {b : Bool}
    (hp : ∀ c, isAtomic c = true → p (.char c) = b) (rest : Glyphs) :
    (cs.map Glyph.char ++ rest).head?.any p = b := by
  cases h with
  | atom h => exact h.any_head? hp rest
  | point h _ =>
      rw [List.map_append, List.append_assoc]
      exact h.any_head? hp _

/-- No mark stands where a row of atoms begins. -/
theorem IsDotted.unseen (h : IsDotted cs) (hmarks : marks.any isAtomic = false)
    (rest : Glyphs) : Reads (sees marks) [] (cs.map .char ++ rest) false :=
  reads_sees (h.any_head? (fun _ hc => among_of_isAtomic hc hmarks) rest)

/-- What goes on up to some marks goes on with an atom. -/
theorem IsAtom.going (h : IsAtom cs) (hmarks : marks.any isAtomic = false) (rest : Glyphs) :
    (cs.map Glyph.char ++ rest).head?.any (!·.among marks) = true :=
  h.any_head? (fun _ hc => by rw [among_of_isAtomic hc hmarks]; rfl) rest

theorem IsAtom.begins_eq_false (h : IsAtom cs) (hrest : Bounded ['.', '@', ','] rest) :
    EncodedWord.begins (cs.map Glyph.char ++ rest) = false := by
  obtain ⟨c, cs, rfl⟩ := List.exists_cons_of_ne_nil h.ne_nil
  cases cs with
  | nil =>
      cases rest with
      | nil => rfl
      | cons g rest =>
          obtain ⟨d, hd, rfl⟩ := hrest g rfl
          have hne : d ≠ '?' := by
            rintro rfl
            exact absurd hd (by decide)
          simp [EncodedWord.begins, hne]
  | cons d cs =>
      have hmark : ¬ (c = '=' ∧ d = '?') := by
        rintro ⟨rfl, rfl⟩
        exact h.unencoded ⟨cs, rfl⟩
      simpa [EncodedWord.begins] using hmark

/-! ## Words -/

theorem misses_encodedWord {s : Glyphs} (h : EncodedWord.begins s = false) :
    Misses encodedWord s := by
  have hread : EncodedWord.read s = .error .absent := by simp [EncodedWord.read, h]
  refine misses_get_bind fun written => ?_
  rw [hread]
  exact misses_noMatch

/-- A gap is nothing, or a single space. -/
theorem reads_gap (hlead : lead = [] ∨ lead = [.char ' '])
    (hrest : rest.head?.any (fun g => g.isBlank || g.among gapStarts) = false) :
    Reads gap lead rest lead := by
  have hlength : ∀ blank, gapLength 0 blank false rest = 0 := by
    intro blank
    cases rest with
    | nil => rfl
    | cons g rest =>
        have hg : g.isBlank = false ∧ g.among gapStarts = false := by simpa using hrest
        have hspace : g.isSpace = false := by
          cases g <;> simp_all [Glyph.isSpace, Glyph.among, gapStarts]
        have hopen : g ≠ .char '(' := by
          rintro rfl
          exact absurd hg.2 (by decide)
        simp [gapLength, hspace, hg.1, hopen]
  obtain rfl | rfl := hlead
  · refine (reads_take ?_).rewritten rfl
    rw [List.nil_append, hlength, List.splitAt_eq]
    rfl
  · refine (reads_take ?_).rewritten rfl
    have hone : gapLength 0 false false ([.char ' '] ++ rest) = 1 := by
      simp [gapLength, Glyph.isSpace, Glyph.among, hlength]
    rw [hone, List.splitAt_eq]
    rfl

theorem span_append {front : Glyphs} {p : Glyph → Bool} (hfront : ∀ g ∈ front, p g = true)
    (hrest : rest.head?.any p = false) : (front ++ rest).span p = (front, rest) := by
  have hstop : rest.takeWhile p = [] ∧ rest.dropWhile p = rest := by
    cases rest with
    | nil => exact ⟨rfl, rfl⟩
    | cons g rest =>
        have hg : ¬ p g = true := by simpa using hrest
        exact ⟨List.takeWhile_cons_of_neg hg, List.dropWhile_cons_of_neg hg⟩
  rw [List.span_eq_takeWhile_dropWhile, List.takeWhile_append_of_pos hfront,
    List.dropWhile_append_of_pos hfront, hstop.1, hstop.2, List.append_nil]

theorem IsAtom.reads_atomText (h : IsAtom cs) (hrest : Bounded ['.', '@', ','] rest) :
    Reads atomText (cs.map .char) rest (cs.map .char) := by
  have hgoes : ∀ g ∈ cs.map Glyph.char, (!g.among atomEnds) = true := by
    simp only [List.forall_mem_map]
    exact fun c hc => by rw [among_of_isAtomic (h.atomic c hc) (by decide)]; rfl
  have hdivide : (cs.map Glyph.char ++ rest).span (!·.among atomEnds) = (cs.map .char, rest) :=
    span_append hgoes (hrest.any_head? (by decide))
  refine (reads_take hdivide).bind_pure ?_
  rw [if_neg (by simpa using h.ne_nil)]
  exact reads_pure _

theorem IsAtom.reads_atomCore (h : IsAtom cs) (hrest : Bounded ['.', '@', ','] rest) :
    Reads atomCore (cs.map .char) rest (.atom (cs.map .char)) :=
  ((misses_encodedWord (h.begins_eq_false hrest)).map _).orElse_reads
    ((h.reads_atomText hrest).map _)

theorem IsAtom.reads_word (h : IsAtom cs) (hrest : Bounded ['.', '@', ','] rest)
    (hlead : lead = [] ∨ lead = [.char ' ']) :
    Reads word (lead ++ cs.map .char) rest ⟨lead, .atom (cs.map .char), []⟩ := by
  refine (reads_next (by simp [h.ne_nil])).bind_nil ?_
  refine (reads_gap hlead (h.any_head? (fun _ => ungapped_of_isAtomic) rest)).bind ?_
  refine Reads.ite_false ((IsDotted.atom h).unseen (by decide) rest) ?_
  refine (h.reads_atomCore hrest).bind_pure ?_
  exact Reads.bind_pure (reads_gap (.inl rfl) (hrest.any_head? (by decide))) (reads_pure _)

/-! ## Rows of atoms -/

theorem IsAtom.reads_pointedAtom (h : IsAtom cs) :
    Reads pointedAtom (cs.map .char ++ [.char '.']) rest (cs.map .char ++ [.char '.'], true) := by
  refine Reads.bind (h.reads_atomText (bounded_cons (by decide) rest)) ?_
  refine Reads.ite_true (reads_sees rfl) ?_
  exact Reads.bind_pure reads_skip (reads_pure _)

theorem IsAtom.reads_lastAtom (h : IsAtom cs) (hrest : Bounded ['@', ','] rest) :
    Reads pointedAtom (cs.map .char) rest (cs.map .char, false) := by
  refine (h.reads_atomText (hrest.mono (by decide))).bind_pure ?_
  exact Reads.ite_false (reads_sees (hrest.any_head? (by decide))) (reads_pure _)

/-- Every atom but the last one takes its point along. -/
theorem IsDotted.readsAll_pointedAtom (h : IsDotted cs) (hrest : Bounded ['@', ','] rest) :
    ∃ ps, ReadsAll (!·.among atomEnds) pointedAtom rest (cs.map .char) ps ∧
      (∃ gs, ps.getLast? = some (gs, false)) ∧ ps.flatMap (·.1) = cs.map .char := by
  have hmarks : atomEnds.any isAtomic = false := by decide
  have hstop : rest.head?.any (!·.among atomEnds) = false := hrest.any_head? (by decide)
  induction h with
  | @atom cs h =>
      have hlast := ReadsAll.more (by simpa using h.ne_nil) (h.going hmarks [])
        (h.reads_lastAtom hrest) (.stop hstop)
      rw [List.append_nil] at hlast
      exact ⟨_, hlast, ⟨_, rfl⟩, by simp⟩
  | @point cs more h _ ih =>
      obtain ⟨ps, hps, ⟨gs, hlast⟩, htext⟩ := ih
      have hfirst := ReadsAll.more (by simp) (by rw [List.append_assoc]; exact h.going hmarks _)
        h.reads_pointedAtom hps
      refine ⟨_, by simpa using hfirst, ⟨gs, ?_⟩, by simp [htext]⟩
      rw [List.getLast?_cons, hlast]
      rfl

theorem IsDotted.reads_dottedText (h : IsDotted cs) (hrest : Bounded ['@', ','] rest) :
    Reads dottedText (cs.map .char) rest (cs.map .char) := by
  obtain ⟨ps, hps, ⟨gs, hlast⟩, htext⟩ := h.readsAll_pointedAtom hrest
  refine hps.repeatWhile.bind_pure ?_
  rw [hlast, htext]
  exact reads_pure _

theorem IsDotted.reads_dottedCore (h : IsDotted cs) (hrest : Bounded ['@', ','] rest) :
    Reads dottedCore (cs.map .char) rest (.atom (cs.map .char), []) := by
  have hbegins : EncodedWord.begins (cs.map Glyph.char ++ rest) = false := by
    cases h with
    | atom h => exact h.begins_eq_false (hrest.mono (by decide))
    | @point cs more h _ =>
        have hfirst := h.begins_eq_false (bounded_cons (c := '.') (by decide)
          (more.map Glyph.char ++ rest))
        simpa using hfirst
  refine Reads.bind_pure (((misses_encodedWord hbegins).map _).orElse_reads
    ((h.reads_dottedText hrest).map _)) ?_
  exact Reads.bind_pure (reads_gap (.inl rfl) (hrest.any_head? (by decide))) (reads_pure _)

/-! ## Phrases -/

theorem IsAtom.reads_furtherPart (h : IsAtom cs) (hrest : Bounded ['.', '@', ','] rest) :
    Reads Phrase.furtherPart (cs.map .char) rest (.word ⟨[], .atom (cs.map .char), []⟩) :=
  Reads.ite_false ((IsDotted.atom h).unseen (by decide) rest)
    (((h.reads_word hrest (.inl rfl)).map _).orElse _)

theorem reads_furtherPoint : Reads Phrase.furtherPart [.char '.'] rest .point :=
  Reads.ite_true (reads_sees rfl) (Reads.bind_pure reads_skip (reads_pure _))

/-- After its first atom a phrase goes on with points and atoms in turn. -/
theorem IsDotted.readsAll_furtherPart (h : IsDotted cs) (hrest : Bounded ['@', ','] rest) :
    ∃ ps, ReadsAll (!·.among phraseEnds) Phrase.furtherPart rest
      ([.char '.'] ++ cs.map .char) ps := by
  have hmarks : phraseEnds.any isAtomic = false := by decide
  have hstop : rest.head?.any (!·.among phraseEnds) = false := hrest.any_head? (by decide)
  induction h with
  | @atom cs h =>
      have hlast := ReadsAll.more (by simpa using h.ne_nil) (h.going hmarks [])
        (h.reads_furtherPart (hrest.mono (by decide))) (.stop hstop)
      rw [List.append_nil] at hlast
      exact ⟨_, .more (List.cons_ne_nil _ _) rfl reads_furtherPoint hlast⟩
  | @point cs more h _ ih =>
      obtain ⟨ps, hps⟩ := ih
      have hfirst := ReadsAll.more (by simpa using h.ne_nil) (h.going hmarks _)
        (h.reads_furtherPart (bounded_cons (c := '.') (by decide) _)) hps
      rw [List.map_append]
      exact ⟨_, .more (List.cons_ne_nil _ _) rfl reads_furtherPoint hfirst⟩

/-- Atoms with points between them are a phrase, and it begins with a word. -/
theorem IsDotted.reads_phrase (h : IsDotted cs) (hrest : Bounded ['@', ','] rest)
    (hlead : lead = [] ∨ lead = [.char ' ']) :
    ∃ w ps, Reads Phrase.scan (lead ++ cs.map .char) rest (.word w :: ps) := by
  cases h with
  | atom h =>
      have hword := ((h.reads_word (hrest.mono (by decide)) hlead).map
        fun w => [Part.word w]).orElse (pure [])
      have hstop : ReadsAll (!·.among phraseEnds) Phrase.furtherPart rest [] [] :=
        .stop (hrest.any_head? (by decide))
      exact ⟨_, _, hword.bind_pure (hstop.repeatWhile.bind_pure (reads_pure _))⟩
  | @point cs more h hmore =>
      obtain ⟨ps, hps⟩ := hmore.readsAll_furtherPart hrest
      have hword := ((h.reads_word (bounded_cons (c := '.') (by decide) (more.map .char ++ rest))
        hlead).map fun w => [Part.word w]).orElse (pure [])
      rw [List.map_append, ← List.append_assoc]
      exact ⟨_, _, hword.bind (hps.repeatWhile.bind_pure (reads_pure _))⟩

/-! ## Addresses -/

/-- An at sign ends the name that a group would have. -/
theorem IsDotted.misses_group (h : IsDotted cs)
    (hlead : lead = [] ∨ lead = [.char ' ']) (rest : Glyphs) :
    Misses group (lead ++ cs.map .char ++ .char '@' :: rest) := by
  obtain ⟨w, ps, hphrase⟩ := h.reads_phrase (bounded_cons (c := '@') (by decide) rest) hlead
  exact hphrase.bind_misses (Reads.misses_ite_false (reads_sees rfl) (misses_noMatch.bind _))

/-- What stands in front of the at sign could be a name, but no bracket follows it. -/
theorem IsDotted.misses_namedAddress (h : IsDotted cs)
    (hlead : lead = [] ∨ lead = [.char ' ']) (rest : Glyphs) :
    Misses namedAddress (lead ++ cs.map .char ++ .char '@' :: rest) := by
  obtain ⟨w, ps, hphrase⟩ := h.reads_phrase (bounded_cons (c := '@') (by decide) rest) (.inl rfl)
  have hmore : (cs.map Glyph.char ++ .char '@' :: rest).isEmpty = false := by simp
  have hname : Reads addressName (lead ++ cs.map .char) (.char '@' :: rest)
      (some (.word w :: ps)) := by
    refine (reads_next (by simp)).bind_nil ?_
    refine (reads_gap hlead (h.any_head? (fun _ => ungapped_of_isAtomic) _)).bind ?_
    refine Reads.ite_false (h.unseen (by decide) _) (Reads.ite_false (h.unseen (by decide) _) ?_)
    refine Reads.ite_false (hmore ▸ reads_atEnd) ?_
    refine hphrase.bind_pure (Reads.ite_false reads_atEnd ?_)
    rw [if_neg (by simp)]
    exact reads_pure _
  refine hname.bind_misses (Misses.bind ?_ _)
  refine Reads.misses_bind (reads_gap (.inl rfl) rfl) ?_
  exact Reads.misses_ite_false (reads_sees rfl) (misses_noMatch.bind _)

theorem IsDotted.reads_localPart (h : IsDotted cs)
    (hlead : lead = [] ∨ lead = [.char ' ']) (rest : Glyphs) :
    Reads localPart (lead ++ cs.map .char) (.char '@' :: rest)
      (.plain (.atom (cs.map .char))) := by
  have hmore : (cs.map Glyph.char ++ .char '@' :: rest).isEmpty = false := by simp
  have hcore := h.reads_dottedCore (bounded_cons (c := '@') (by decide) rest)
  refine (reads_next (by simp)).bind_nil (reads_get_bind fun written => ?_)
  refine (reads_gap hlead (h.any_head? (fun _ => ungapped_of_isAtomic) _)).bind ?_
  refine Reads.ite_false (hmore ▸ reads_atEnd) ?_
  refine ((hcore.map _).orElse _).bind_pure (reads_next?.bind_nil ?_)
  -- an at sign does not go on a local part, so nothing is read anew
  have hat : goesOnLocal (.char '@') = false := by decide
  rw [if_neg (by simp [hat])]
  exact reads_pure _

theorem IsDotted.unspaced_eq (h : IsDotted cs) : unspaced (cs.map .char) = cs.map .char := by
  have hpoint : (!(Glyph.char '.').isBlank) = true := by decide
  simp only [unspaced, List.filter_eq_self, List.forall_mem_map]
  exact h.forall_mem hpoint fun c hc => by
    have hblank := (Bool.or_eq_false_iff.mp (ungapped_of_isAtomic hc)).1
    rw [hblank]
    rfl

theorem IsDotted.reads_domain (h : IsDotted cs) (hrest : Bounded [','] rest) :
    Reads domain (cs.map .char) rest (some (cs.map .char)) := by
  have hcore := h.reads_dottedCore (hrest.mono (by decide))
  refine (reads_next (by simp [h.ne_nil])).bind_nil ?_
  refine (reads_gap (.inl rfl) (h.any_head? (fun _ => ungapped_of_isAtomic) _)).bind_nil ?_
  refine Reads.ite_false (h.unseen (by decide) rest) ?_
  refine ((hcore.map _).orElse _).bind_pure ?_
  refine Reads.ite_false (reads_sees (hrest.any_head? (by decide))) ?_
  have hstop : ReadsAll (·.among ['.']) furtherAtom rest [] [] :=
    .stop (hrest.any_head? (by decide))
  refine hstop.repeatWhile.bind_pure ?_
  simp only [Core.text, List.flatMap_nil, List.append_nil, h.unspaced_eq]
  exact reads_pure _

/-- A common address as a mailbox: without a name, and with one word for its local part. -/
def commonMailbox (user host : List Char) : Mailbox where
  localPart := some (.plain (.atom (user.map .char)))
  domain := some (host.map .char)

variable {user host : List Char}

theorem reads_bareAddress (huser : IsDotted user) (hhost : IsDotted host)
    (hlead : lead = [] ∨ lead = [.char ' ']) (hrest : Bounded [','] rest) :
    Reads bareAddress (lead ++ user.map .char ++ .char '@' :: host.map .char) rest
      (commonMailbox user host, false) := by
  refine (huser.reads_localPart hlead _).bind ?_
  have hat : Reads skip [.char '@'] (host.map .char ++ rest) () := reads_skip
  exact Reads.ite_true (reads_sees rfl)
    (hat.bind ((hhost.reads_domain hrest).bind_pure (reads_pure _)))

theorem reads_address (huser : IsDotted user) (hhost : IsDotted host)
    (hlead : lead = [] ∨ lead = [.char ' ']) (hrest : Bounded [','] rest) :
    Reads address (lead ++ user.map .char ++ .char '@' :: host.map .char) rest
      (.mailbox (commonMailbox user host)) := by
  have hbare := reads_bareAddress huser hhost hlead hrest
  have hname := huser.misses_namedAddress hlead (host.map .char ++ rest)
  have hgroup := huser.misses_group hlead (host.map .char ++ rest)
  -- neither a group nor a mailbox with a name, so the bare address is what is left
  have hmailbox : Reads mailbox (lead ++ user.map .char ++ .char '@' :: host.map .char) rest
      (commonMailbox user host) := by
    refine Reads.bind_pure (Misses.orElse_reads (by simpa using hname) hbare) ?_
    exact reads_pure _
  refine Reads.bind_pure (Misses.orElse_reads (by simpa using hgroup) (hmailbox.map _)) ?_
  refine reads_next?.bind_nil ?_
  have hend : rest.head?.any (!·.among [',']) = false := hrest.any_head? (by decide)
  rw [List.nil_append, hend, if_neg Bool.false_ne_true]
  exact reads_pure _

theorem IsDotted.mention_eq_false (h : IsDotted cs)
    (hatomic : marks.any isAtomic = false) (hpoint : '.' ∉ marks) :
    Glyphs.mention marks (cs.map .char) = false := by
  have hamong : (Glyph.char '.').among marks = false := decide_eq_false hpoint
  rw [Glyphs.mention, List.any_map, List.any_eq_false]
  exact h.forall_mem (by simpa using hamong) fun c hc => by
    simpa using among_of_isAtomic hc hatomic

/-- A common address is written as it was. -/
theorem text_commonMailbox (huser : IsDotted user) (hhost : IsDotted host) :
    (commonMailbox user host).text = .ok (user.map .char ++ .char '@' :: host.map .char) := by
  have hends : Glyphs.mention ['\r', '\n'] (user.map .char ++ host.map .char) = false := by
    rw [Glyphs.mention, List.any_append, ← Glyphs.mention, ← Glyphs.mention,
      huser.mention_eq_false (by decide) (by decide),
      hhost.mention_eq_false (by decide) (by decide)]
    rfl
  have huserText : quotedLocal (user.map .char) = user.map .char := by
    rw [quotedLocal, huser.mention_eq_false (by decide) (by decide), if_neg Bool.false_ne_true]
  have hwrite : Mailbox.write [] (user.map .char) (host.map .char) =
      user.map .char ++ .char '@' :: host.map .char := by
    simp [Mailbox.write, huserText, hhost.ne_nil]
  show (if Glyphs.mention ['\r', '\n'] (user.map .char ++ host.map .char) then
      Except.error (Failure.misuse .lineEndInAddress)
    else Except.ok (Mailbox.write [] (user.map .char) (host.map .char))) = _
  rw [hends, hwrite]
  rfl

/-! ## Lists -/

/-- A common address. -/
def IsCommon (s : String) : Prop :=
  ∃ user host, s.toList = user ++ '@' :: host ∧ IsDotted user ∧ IsDotted host

theorem IsCommon.reads_address {s : String} (h : IsCommon s)
    (hlead : lead = [] ∨ lead = [.char ' ']) (hrest : Bounded [','] rest) :
    ∃ a, Reads address (lead ++ Glyphs.ofString s) rest a ∧ a.text = .ok (Glyphs.ofString s) := by
  obtain ⟨user, host, hs, huser, hhost⟩ := h
  have htext : Glyphs.ofString s = user.map .char ++ .char '@' :: host.map .char := by
    rw [Glyphs.ofString, hs, List.map_append, List.map_cons]
  rw [htext, ← List.append_assoc]
  exact ⟨_, Mail.reads_address huser hhost hlead hrest, text_commonMailbox huser hhost⟩

theorem IsCommon.ofString_ne_nil {s : String} (h : IsCommon s) : Glyphs.ofString s ≠ [] := by
  obtain ⟨user, host, hs, -⟩ := h
  simp [Glyphs.ofString, hs]

/-- Each entry takes the comma after it along, and the next one begins with the space. -/
theorem readsAll_addressEntry {rs : List String} (hne : rs ≠ []) (hrs : ∀ s ∈ rs, IsCommon s)
    (hlead : lead = [] ∨ lead = [.char ' ']) : ∃ as : List Address,
      ReadsAll (fun _ => true) addressEntry [] (lead ++ commaList (rs.map Glyphs.ofString))
        (as.map some) ∧
      as.mapM Address.text = .ok (rs.map Glyphs.ofString) := by
  have hgoes {gs : Glyphs} (hgs : gs ≠ []) : gs.head?.any (fun _ => true) = true := by
    obtain ⟨g, gs, rfl⟩ := List.exists_cons_of_ne_nil hgs
    rfl
  -- the first entry of a list has no gap in front of it, every other one has
  induction rs generalizing lead with
  | nil => exact absurd rfl hne
  | cons s rs ih =>
      obtain ⟨hs, hrs⟩ := List.forall_mem_cons.mp hrs
      cases rs with
      | nil =>
          have hend : Bounded [','] [] := nofun
          obtain ⟨a, ha, htext⟩ := hs.reads_address hlead hend
          have hentry : Reads addressEntry (lead ++ Glyphs.ofString s) [] (some a) :=
            ((ha.map some).orElse _).bind_pure (reads_skip_nil.bind_pure (reads_pure _))
          have hfront : lead ++ Glyphs.ofString s ≠ [] := by simp [hs.ofString_ne_nil]
          have hall := ReadsAll.more hfront (hgoes (by simpa using hfront)) hentry (.stop rfl)
          rw [List.append_nil] at hall
          exact ⟨[a], hall, by simp [htext]⟩
      | cons t rs =>
          obtain ⟨as, has, htexts⟩ := ih (List.cons_ne_nil _ _) hrs (.inr rfl)
          have hcomma : Bounded [',']
              (.char ',' :: ([.char ' '] ++ commaList ((t :: rs).map Glyphs.ofString))) :=
            bounded_cons (by decide) _
          obtain ⟨a, ha, htext⟩ := hs.reads_address hlead hcomma
          have hentry : Reads addressEntry (lead ++ Glyphs.ofString s ++ [.char ','])
              ([.char ' '] ++ commaList ((t :: rs).map Glyphs.ofString) ++ []) (some a) := by
            rw [List.append_nil]
            exact ((ha.map some).orElse _).bind (reads_skip.bind_pure (reads_pure _))
          have hall := ReadsAll.more (by simp) (hgoes (by simp)) hentry has
          refine ⟨a :: as, by simpa [commaList] using hall, ?_⟩
          rw [List.mapM_cons, htext, htexts]
          rfl

/-! ## Headers -/

theorem toList_joinAddresses_singleton (a : String) : (joinAddresses [a]).toList = a.toList := by
  simp [joinAddresses]

theorem toList_joinAddresses_cons_cons (a b : String) (rs : List String) :
    (joinAddresses (a :: b :: rs)).toList =
      a.toList ++ [',', ' '] ++ (joinAddresses (b :: rs)).toList := by
  simp only [joinAddresses, String.toList_intercalate, List.map_cons, List.intercalate_cons_cons]
  rfl

theorem ofString_joinAddresses (rs : List String) :
    Glyphs.ofString (joinAddresses rs) = commaList (rs.map Glyphs.ofString) := by
  induction rs with
  | nil => rfl
  | cons a rs ih =>
      cases rs with
      | nil => simp only [Glyphs.ofString, toList_joinAddresses_singleton, List.map, commaList]
      | cons b rs =>
          rw [Glyphs.ofString, toList_joinAddresses_cons_cons, List.map_append, List.map_append,
            ← Glyphs.ofString, ← Glyphs.ofString, ih]
          rfl

theorem readAddresses_joinAddresses {rs : List String} (hne : rs ≠ [])
    (hrs : ∀ s ∈ rs, IsCommon s) :
    ∃ as : List Address,
      readAddresses (joinAddresses rs) = .ok (as, Glyphs.ofString (joinAddresses rs)) ∧
      as.mapM Address.text = .ok (rs.map Glyphs.ofString) := by
  obtain ⟨as, has, htexts⟩ := readsAll_addressEntry hne hrs (.inl rfl)
  refine ⟨as, ?_, htexts⟩
  have hlist : Reads addressList (Glyphs.ofString (joinAddresses rs)) [] as := by
    rw [ofString_joinAddresses]
    refine has.repeatWhile.bind_pure ?_
    rw [List.filterMap_map]
    simpa using reads_pure as
  have hrun := hlist []
  rw [List.append_nil] at hrun
  simp [readAddresses, hrun]

theorem finalText_ofString (s : String) : finalText (Glyphs.ofString s) = .ok s := by
  have hnone : (Glyphs.ofString s).firstUnit? Glyph.half? = none := by
    rw [Glyphs.firstUnit?_eq_none_iff]
    intro g hg
    obtain ⟨c, -, rfl⟩ := List.mem_map.mp hg
    rfl
  rw [finalText, hnone, Glyphs.toText_ofString]

/-- A text in which no line ends is a single line, if it is not empty. -/
theorem singleLine_eq_ok {s : String} (hs : ∀ c ∈ s.toList, Text.isLineEnd c = false) :
    singleLine s = .ok s := by
  have hlength {cs : List Char} (hcs : ∀ c ∈ cs, Text.isLineEnd c = false) :
      (Text.lines cs).length ≤ 1 := by
    fun_induction Text.lines cs with
    | case1 => exact Nat.zero_le 1
    | case2 cs ih => exact absurd (hcs '\r' List.mem_cons_self) (by decide)
    | case3 c cs _ hend ih => exact absurd (hcs c List.mem_cons_self) (by simp [hend])
    | case4 c cs _ hend ih =>
        have hcs := ih (List.forall_mem_cons.mp hcs).2
        rw [Text.length_prepend]
        omega
  rw [singleLine, if_neg (Nat.not_lt.mpr (hlength hs))]

theorem IsCommon.isLineEnd_eq_false {s : String} (h : IsCommon s) :
    ∀ c ∈ s.toList, Text.isLineEnd c = false := by
  obtain ⟨user, host, hs, huser, hhost⟩ := h
  have hatomic (c : Char) (hc : isAtomic c = true) : Text.isLineEnd c = false := by
    have hblank : Text.isBlankChar c = false :=
      (Bool.or_eq_false_iff.mp (ungapped_of_isAtomic hc)).1
    rw [Bool.eq_false_iff]
    exact fun hend => Bool.false_ne_true (hblank.symm.trans (Text.isBlankChar_of_isLineEnd hend))
  rw [hs, List.forall_mem_append, List.forall_mem_cons]
  exact ⟨huser.forall_mem (by decide) hatomic, by decide, hhost.forall_mem (by decide) hatomic⟩

theorem forall_mem_joinAddresses {rs : List String} {P : Char → Prop} (hcomma : P ',')
    (hspace : P ' ') (hrs : ∀ s ∈ rs, ∀ c ∈ s.toList, P c) :
    ∀ c ∈ (joinAddresses rs).toList, P c := by
  induction rs with
  | nil => exact nofun
  | cons s rs ih =>
      obtain ⟨hs, hrs⟩ := List.forall_mem_cons.mp hrs
      cases rs with
      | nil => rwa [toList_joinAddresses_singleton]
      | cons t rs =>
          simp only [toList_joinAddresses_cons_cons, List.forall_mem_append, List.forall_mem_cons]
          exact ⟨⟨hs, hcomma, hspace, nofun⟩, ih hrs⟩

/-- A header to common addresses says what it was given. -/
theorem addresses_joinAddresses {rs : List String} (hne : rs ≠ []) (hrs : ∀ s ∈ rs, IsCommon s) :
    addresses (joinAddresses rs) = .ok (joinAddresses rs) := by
  obtain ⟨as, hread, htexts⟩ := readAddresses_joinAddresses hne hrs
  have hline : singleLine (joinAddresses rs) = .ok (joinAddresses rs) :=
    singleLine_eq_ok (forall_mem_joinAddresses (by decide) (by decide) fun s hs =>
      (hrs s hs).isLineEnd_eq_false)
  rw [addresses, hline]
  show addressText (joinAddresses rs) = _
  rw [addressText, hread]
  show (as.mapM Address.text >>= fun ts => finalText (commaList ts)) = _
  rw [htexts]
  show finalText (commaList (rs.map Glyphs.ofString)) = _
  rw [← ofString_joinAddresses, finalText_ofString]

end Passcode.Mail
