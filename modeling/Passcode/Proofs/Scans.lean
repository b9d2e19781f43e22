import Passcode.Mail.Scan

/-!
# How scans compose

What a sequence of readers takes off the front of a text, from what its parts take. Two ways of
speaking are used throughout.

* A reader `Reads` some glyphs in front of a text if it takes these, gives a certain answer,
  and writes them as they are.
* A reader `Misses` at a text if it finds nothing there that it could read.

The text that follows what is read is always part of the statement, since most readers look at
it before they stop. The rules follow the structure of a `do` block; a reader that does not take
anything reads the empty text.
-/

namespace Passcode.Mail.Scan

variable {α β : Type} {front more rest : Glyphs}

/-- Some glyphs in front of a text are read, with an answer, and written as they are. -/
def Reads (p : Scan α) (front rest : Glyphs) (a : α) : Prop :=
  ∀ written, p ⟨front ++ rest, written⟩ = .ok (a, ⟨rest, front.reverse ++ written⟩)

/-- Nothing that could be read is found at a text. -/
def Misses (p : Scan α) (s : Glyphs) : Prop :=
  ∀ written, p ⟨s, written⟩ = .error .noMatch

/-! ## Sequences -/

theorem run_bind (p : Scan α) (q : α → Scan β) (c : Cursor) :
    (p >>= q) c = (p c).bind fun r => q r.1 r.2 := rfl

theorem reads_pure (a : α) : Reads (pure a) [] rest a := fun _ => rfl

theorem Reads.bind {p : Scan α} {q : α → Scan β} {a : α} {b : β}
    (hp : Reads p front (more ++ rest) a) (hq : Reads (q a) more rest b) :
    Reads (p >>= q) (front ++ more) rest b := by
  intro written
  rw [run_bind, List.append_assoc, hp written]
  show q a ⟨more ++ rest, front.reverse ++ written⟩ = _
  rw [hq, List.reverse_append, List.append_assoc]

/-- What a reader that only looks ahead answers is known before the next one reads. -/
theorem Reads.bind_nil {p : Scan α} {q : α → Scan β} {a : α} {b : β}
    (hp : Reads p [] (front ++ rest) a) (hq : Reads (q a) front rest b) :
    Reads (p >>= q) front rest b := hp.bind hq

theorem Reads.bind_pure {p : Scan α} {q : α → Scan β} {a : α} {b : β}
    (hp : Reads p front rest a) (hq : Reads (q a) [] rest b) : Reads (p >>= q) front rest b := by
  have h : Reads (p >>= q) (front ++ []) rest b := hp.bind hq
  rwa [List.append_nil] at h

theorem Reads.map {p : Scan α} {a : α} (f : α → β) (hp : Reads p front rest a) :
    Reads (f <$> p) front rest (f a) := by
  rw [map_eq_pure_bind]
  exact hp.bind_pure (reads_pure _)

/-- A reader may depend on how the text before has been written. -/
theorem reads_get_bind {q : Cursor → Scan β} {b : β}
    (hq : ∀ written, Reads (q ⟨front ++ rest, written⟩) front rest b) :
    Reads (get >>= q) front rest b :=
  fun written => hq written written

theorem misses_noMatch {s : Glyphs} : Misses (noMatch : Scan α) s := fun _ => rfl

theorem Misses.bind {p : Scan α} {s : Glyphs} (hp : Misses p s) (q : α → Scan β) :
    Misses (p >>= q) s := by
  intro written
  rw [run_bind, hp written]
  rfl

theorem Misses.map {p : Scan α} {s : Glyphs} (hp : Misses p s) (f : α → β) :
    Misses (f <$> p) s := by
  rw [map_eq_pure_bind]
  exact hp.bind _

theorem Reads.bind_misses {p : Scan α} {q : α → Scan β} {a : α}
    (hp : Reads p front rest a) (hq : Misses (q a) rest) : Misses (p >>= q) (front ++ rest) := by
  intro written
  rw [run_bind, hp written]
  exact hq _

/-- What a reader that only looks ahead answers is known before the next one finds nothing. -/
theorem Reads.misses_bind {p : Scan α} {q : α → Scan β} {s : Glyphs} {a : α} (hp : Reads p [] s a)
    (hq : Misses (q a) s) : Misses (p >>= q) s := hp.bind_misses hq

theorem misses_get_bind {q : Cursor → Scan β} {s : Glyphs}
    (hq : ∀ written, Misses (q ⟨s, written⟩) s) : Misses (get >>= q) s :=
  fun written => hq written written

/-! ## Choices -/

theorem Reads.ite_true {p : Scan Bool} {q q' : Scan β} {b : β}
    (hp : Reads p [] (front ++ rest) true) (hq : Reads q front rest b) :
    Reads (p >>= fun yes => if yes = true then q else q') front rest b :=
  hp.bind_nil (by rwa [if_pos rfl])

theorem Reads.ite_false {p : Scan Bool} {q q' : Scan β} {b : β}
    (hp : Reads p [] (front ++ rest) false) (hq : Reads q' front rest b) :
    Reads (p >>= fun yes => if yes = true then q else q') front rest b :=
  hp.bind_nil (by rwa [if_neg Bool.false_ne_true])

theorem Reads.misses_ite_false {p : Scan Bool} {q q' : Scan β} {s : Glyphs}
    (hp : Reads p [] s false) (hq : Misses q' s) :
    Misses (p >>= fun yes => if yes = true then q else q') s :=
  hp.misses_bind (by rwa [if_neg Bool.false_ne_true])

theorem Reads.orElse {p : Scan α} {a : α} (hp : Reads p front rest a) (q : Scan α) :
    Reads (orElse p q) front rest a := by
  intro written
  rw [Scan.orElse, hp written]

theorem Misses.orElse_reads {p q : Scan α} {a : α} (hp : Misses p (front ++ rest))
    (hq : Reads q front rest a) : Reads (orElse p q) front rest a := by
  intro written
  rw [Scan.orElse, hp written]
  exact hq written

/-! ## Looking ahead -/

theorem reads_next? : Reads next? [] rest rest.head? := fun _ => rfl

theorem reads_next (hne : rest ≠ []) : Reads next [] rest (rest.head hne) := by
  obtain ⟨g, s, rfl⟩ := List.exists_cons_of_ne_nil hne
  exact fun _ => rfl

theorem reads_atEnd : Reads atEnd [] rest rest.isEmpty := fun _ => rfl

theorem reads_sees {cs : List Char} {seen : Bool} (h : rest.head?.any (·.among cs) = seen) :
    Reads (sees cs) [] rest seen := h ▸ fun _ => rfl

/-! ## Taking glyphs -/

theorem reads_take {divide : Glyphs → Glyphs × Glyphs}
    (h : divide (front ++ rest) = (front, rest)) :
    Reads (take divide) front rest front := by
  intro written
  show Except.ok ((divide (front ++ rest)).1,
    Cursor.mk (divide (front ++ rest)).2 ((divide (front ++ rest)).1.reverse ++ written)) = _
  rw [h]

theorem reads_skip {g : Glyph} : Reads skip [g] rest () :=
  (reads_take (List.splitAt_eq ..)).bind_pure (reads_pure ())

theorem reads_skip_nil : Reads skip [] [] () :=
  (reads_take (List.splitAt_eq ..)).bind_pure (reads_pure ())

theorem Reads.rewritten {p : Scan α} {a : α} {form : α → Glyphs} (hp : Reads p front rest a)
    (hform : form a = front) : Reads (rewritten form p) front rest a := by
  intro written
  show (p ⟨front ++ rest, written⟩).bind (fun r =>
    Except.ok (r.1, Cursor.mk r.2.rest ((form r.1).reverse ++ written))) = _
  rw [hp written, ← hform]
  rfl

/-! ## Reading again and again -/

/-- What a reader takes and answers as long as the next glyph is of a kind. -/
inductive ReadsAll (going : Glyph → Bool) (p : Scan α) (rest : Glyphs) : Glyphs → List α → Prop
  | stop (h : rest.head?.any going = false) : ReadsAll going p rest [] []
  | more {front more : Glyphs} {a : α} {as : List α} (hne : front ≠ [])
      (hgoing : (front ++ more).head?.any going = true) (hp : Reads p front (more ++ rest) a)
      (h : ReadsAll going p rest more as) : ReadsAll going p rest (front ++ more) (a :: as)

theorem ReadsAll.repeatWithin {going : Glyph → Bool} {p : Scan α} {as : List α}
    (h : ReadsAll going p rest front as) {times : Nat} (htimes : front.length ≤ times) :
    Reads (repeatWithin going p times) front rest as := by
  induction h generalizing times with
  | stop h =>
      cases times with
      | zero => exact reads_pure []
      | succ n =>
          refine reads_next?.bind_nil ?_
          rw [List.nil_append, if_neg (by simp [h])]
          exact reads_pure []
  | @more front more a as hne hgoing hp h ih =>
      cases times with
      | zero =>
          have hfront : front.length = 0 := by
            rw [List.length_append] at htimes
            omega
          exact absurd (List.length_eq_zero_iff.mp hfront) hne
      | succ n =>
          have hpos : 0 < front.length := List.length_pos_iff.mpr hne
          have hmore : more.length ≤ n := by
            rw [List.length_append] at htimes
            omega
          have hhead : (front ++ more ++ rest).head?.any going = true := by
            obtain ⟨g, front, rfl⟩ := List.exists_cons_of_ne_nil hne
            exact hgoing
          refine reads_next?.bind_nil ?_
          rw [if_pos hhead]
          exact hp.bind ((ih hmore).bind_pure (reads_pure _))

/-- Every glyph in front of the end is enough for one more time, so the times do not run out. -/
theorem ReadsAll.repeatWhile {going : Glyph → Bool} {p : Scan α} {as : List α}
    (h : ReadsAll going p rest front as) : Reads (repeatWhile going p) front rest as :=
  reads_get_bind fun _ => h.repeatWithin (by simp)

end Passcode.Mail.Scan
