import Mathlib.Data.Set.Card
import Passcode.Store.Basic

/-!
# What the operations of a store do to its records

Each operation through the view `Store.find?`: which record of which identifier is there
afterwards. The size is the number of identifiers with a record.
-/

namespace Passcode

theorem Instant.lt_iff_not_le {s t : Instant} : s < t ↔ ¬ t ≤ s := Nat.not_le.symm

theorem Record.isValid_eq_true_iff {r : Record} {now : Instant} :
    r.isValid now = true ↔ now < r.expiresAt := decide_eq_true_iff

theorem Record.isValid_eq_false_iff {r : Record} {now : Instant} :
    r.isValid now = false ↔ r.expiresAt ≤ now := by
  rw [isValid, decide_eq_false_iff_not]
  exact Nat.not_lt

namespace Store

theorem contains_records_iff {s : Store} {id : String} :
    s.records.contains id = true ↔ ∃ r, s.find? id = some r := by
  rw [Keyed.contains, Option.isSome_iff_exists]
  rfl

theorem put_of_closed {s : Store} (hs : s.closed = true) (id : String) (r : Issued) :
    s.put id r = .error (.refused .storeClosed) := by
  rw [put, if_pos hs]

theorem put_of_open {s : Store} (hs : s.closed = false) (id : String) (r : Issued) :
    s.put id r =
      .ok (s.records.contains id, { s with records := s.records.put id r }) := by
  rw [put, if_neg (by simp [hs])]

theorem find?_put (s : Store) (id : String) (r : Issued) (j : String) :
    ({ s with records := s.records.put id r } : Store).find? j =
      if j = id then some r else s.find? j := by
  by_cases h : j = id
  · subst h
    rw [if_pos rfl]
    exact s.records.find?_put_self j r
  · rw [if_neg h]
    exact s.records.find?_put_of_ne r h

theorem find?_of_put {s s' : Store} {id : String} {r : Issued} {b : Bool}
    (h : s.put id r = .ok (b, s')) (j : String) :
    s'.find? j = if j = id then some r else s.find? j := by
  unfold put at h
  split at h
  · cases h
  · obtain ⟨-, rfl⟩ := Prod.mk.inj (Except.ok.inj h)
    exact s.find?_put id r j

theorem find?_eq_some_iff_of_put {s s' : Store} {id : String} {r : Issued} {b : Bool}
    (h : s.put id r = .ok (b, s')) {j : String} {x : Issued} :
    s'.find? j = some x ↔ (id = j ∧ r = x) ∨ (s.find? j = some x ∧ ¬ id = j) := by
  rw [find?_of_put h]
  by_cases hj : j = id
  · simp [hj]
  · simp [hj, Ne.symm hj]

theorem find?_remove (s : Store) (id j : String) :
    (s.remove id).find? j = if j = id then none else s.find? j := by
  by_cases h : j = id
  · subst h
    rw [if_pos rfl]
    exact s.records.find?_erase_self j
  · rw [if_neg h]
    exact s.records.find?_erase_of_ne h

theorem find?_remove_eq_some_iff {s : Store} {id j : String} {x : Issued} :
    (s.remove id).find? j = some x ↔ s.find? j = some x ∧ ¬ id = j := by
  rw [find?_remove]
  by_cases hj : j = id
  · simp [hj]
  · simp [hj, Ne.symm hj]

theorem find?_sweep_eq_some_iff {s : Store} {now : Instant} {id : String} {x : Issued} :
    (s.sweep now).2.find? id = some x ↔ s.find? id = some x ∧ now < x.record.expiresAt := by
  have h : (s.sweep now).2.find? id = (s.find? id).filter fun r => r.record.isValid now :=
    s.records.find?_filter _ id
  rw [h, Option.filter_eq_some_iff, Record.isValid_eq_true_iff]

theorem find?_close (s : Store) (id : String) : s.close.1.find? id = none := rfl

theorem find?_discard_eq_some_iff {s : Store} {id : String} {r : Issued} {j : String}
    {x : Issued} : (s.discard id r).2.find? j = some x ↔
      s.find? j = some x ∧ ¬ (j = id ∧ x.serial = r.serial) := by
  unfold discard
  split
  · next h =>
    obtain ⟨y, hy, hserial⟩ := Option.map_eq_some_iff.mp h
    rw [find?_remove]
    by_cases hj : j = id
    · subst hj
      simp only [↓reduceIte, reduceCtorEq, true_and, false_iff, not_and, not_not]
      intro hx
      obtain rfl : y = x := Option.some.inj (hy.symm.trans hx)
      exact hserial
    · simp [hj]
  · next h =>
    by_cases hj : j = id
    · subst hj
      simp only [true_and, iff_self_and]
      intro hx hserial
      exact h (by simp [hx, hserial])
    · simp [hj]

/-- What has just been taken in is there to be discarded. -/
theorem discard_of_put {s s' : Store} {id : String} {r : Issued} {b : Bool}
    (h : s.put id r = .ok (b, s')) : s'.discard id r = (true, s'.remove id) := by
  have hfind : s'.find? id = some r := by rw [find?_of_put h, if_pos rfl]
  rw [discard, if_pos (by rw [hfind, Option.map_some])]

/-! ## What stays open -/

theorem closed_of_put {s s' : Store} {id : String} {r : Issued} {b : Bool}
    (h : s.put id r = .ok (b, s')) : s'.closed = s.closed := by
  unfold put at h
  split at h
  · cases h
  · obtain ⟨-, rfl⟩ := Prod.mk.inj (Except.ok.inj h)
    rfl

@[simp] theorem closed_remove (s : Store) (id : String) : (s.remove id).closed = s.closed := rfl

@[simp] theorem closed_sweep (s : Store) (now : Instant) :
    (s.sweep now).2.closed = s.closed := rfl

@[simp] theorem closed_discard (s : Store) (id : String) (r : Issued) :
    (s.discard id r).2.closed = s.closed := by
  unfold discard
  split <;> rfl

/-! ## Checks -/

/-- How a check of a submitted code goes: there is no record, or it is too late for it; or in time
the code is right, or it is wrong, or it cannot be compared. -/
inductive Finds (s : Store) (now : Instant) (id : String) :
    Option Glyphs → Except Failure CheckResult → Prop
  | none {c : Option Glyphs} (hfind : s.find? id = none) : Finds s now id c (.ok .noChallenge)
  | late {c : Option Glyphs} {r : Issued} (hfind : s.find? id = some r)
      (hlate : r.record.expiresAt ≤ now) : Finds s now id c (.ok .expired)
  | right {r : Issued} (hfind : s.find? id = some r) (hlive : now < r.record.expiresAt) :
      Finds s now id (some (.ofString r.record.code)) (.ok .accepted)
  | wrong {c : Option Glyphs} {r : Issued} (hfind : s.find? id = some r)
      (hlive : now < r.record.expiresAt) (hcode : c ≠ some (.ofString r.record.code))
      (htext : ∀ gs ∈ c, gs.isText = true) : Finds s now id c (.ok .mismatch)
  | illegible {gs : Glyphs} {r : Issued} (hfind : s.find? id = some r)
      (hlive : now < r.record.expiresAt) (htext : gs.isText = false) {unit position count : Nat}
      (herror : gs.encoded = .error (.halves unit position count)) :
      Finds s now id (some gs) (.error (.halves unit position count))

theorem finds_verdict (s : Store) (now : Instant) (id : String) (c : Option Glyphs) :
    Finds s now id c (s.verdict now id c) := by
  unfold verdict
  cases hfind : s.find? id with
  | none => exact .none hfind
  | some r =>
    by_cases hlate : r.record.expiresAt ≤ now
    · simpa [Record.isValid_eq_false_iff.mpr hlate] using .late hfind hlate
    have hlive := Instant.lt_iff_not_le.mpr hlate
    cases c with
    | none =>
      simpa [Record.isValid_eq_true_iff.mpr hlive, Record.accepts, Except.map] using
        .wrong hfind hlive nofun nofun
    | some gs =>
      simp only [Record.isValid_eq_true_iff.mpr hlive, Record.accepts, Bool.not_true,
        Bool.false_eq_true, if_false, if_true]
      cases htext : gs.isText with
      | false =>
        obtain ⟨unit, position, count, herror⟩ := Glyphs.encoded_of_not_isText htext
        rw [herror]
        exact .illegible hfind hlive htext herror
      | true =>
        obtain ⟨t, rfl⟩ := Glyphs.isText_iff.mp htext
        rw [Glyphs.encoded_ofString]
        by_cases hcode : t = r.record.code
        · subst hcode
          simpa [Except.map] using .right hfind hlive
        · have hne : some (Glyphs.ofString t) ≠ some (.ofString r.record.code) := fun h =>
            hcode (Glyphs.ofString_injective (Option.some.inj h))
          have hall : ∀ gs ∈ some (Glyphs.ofString t), gs.isText = true := by
            rintro gs ⟨⟩
            exact htext
          simpa [Except.map, hcode] using .wrong hfind hlive hne hall

section Verdict

variable {s : Store} {now : Instant} {id : String} {c : Option Glyphs}

theorem verdict_eq_noChallenge_iff : s.verdict now id c = .ok .noChallenge ↔ s.find? id = none := by
  have h := s.finds_verdict now id c
  generalize s.verdict now id c = a at h ⊢
  cases h <;> simp_all

theorem verdict_eq_expired_iff : s.verdict now id c = .ok .expired ↔
    ∃ r, s.find? id = some r ∧ r.record.expiresAt ≤ now := by
  have h := s.finds_verdict now id c
  generalize s.verdict now id c = a at h ⊢
  cases h <;> simp_all [Instant.lt_iff_not_le]

theorem verdict_eq_accepted_iff : s.verdict now id c = .ok .accepted ↔
    ∃ r, s.find? id = some r ∧ now < r.record.expiresAt ∧ c = some (.ofString r.record.code) := by
  have h := s.finds_verdict now id c
  generalize s.verdict now id c = a at h ⊢
  cases h with
  | @illegible gs r hfind hlive htext =>
    have hne : gs ≠ .ofString r.record.code := by
      rintro rfl
      cases (Glyphs.isText_ofString _).symm.trans htext
    simp [hfind, hne]
  | _ => simp_all [Instant.lt_iff_not_le]

theorem verdict_eq_error_iff {e : Failure} : s.verdict now id c = .error e ↔
    ∃ r gs, s.find? id = some r ∧ now < r.record.expiresAt ∧ c = some gs ∧ gs.isText = false ∧
      gs.encoded = .error e := by
  have h := s.finds_verdict now id c
  generalize s.verdict now id c = a at h ⊢
  cases h <;> simp_all [Instant.lt_iff_not_le]

theorem halves_of_verdict {e : Failure} (h : s.verdict now id c = .error e) :
    ∃ unit position count, e = .halves unit position count := by
  have hfinds := s.finds_verdict now id c
  rw [h] at hfinds
  cases hfinds
  exact ⟨_, _, _, rfl⟩

end Verdict

theorem check_eq (s : Store) (now : Instant) (id : String) (c : Option Glyphs) :
    s.check now id c = (s.verdict now id c).map fun a => (a, s.settled id a) := by
  unfold check
  cases s.verdict now id c <;> rfl

/-- The store after a check, which uses up a code that it accepts. -/
def checked (s : Store) (now : Instant) (id : String) (c : Option Glyphs) : Store :=
  match s.verdict now id c with
  | .ok a => s.settled id a
  | .error _ => s

theorem checked_cases (s : Store) (now : Instant) (id : String) (c : Option Glyphs) :
    (s.verdict now id c = .ok .accepted ∧ s.checked now id c = s.remove id) ∨
      (s.verdict now id c ≠ .ok .accepted ∧ s.checked now id c = s) := by
  unfold checked
  cases s.verdict now id c with
  | error e => exact .inr ⟨nofun, rfl⟩
  | ok a =>
    cases a with
    | accepted => exact .inl ⟨rfl, rfl⟩
    | _ => exact .inr ⟨nofun, rfl⟩

/-- A check brings no record into the store. -/
theorem find?_of_find?_checked {s : Store} {now : Instant} {id j : String} {c : Option Glyphs}
    {r : Issued} (h : (s.checked now id c).find? j = some r) : s.find? j = some r := by
  obtain ⟨-, hs⟩ | ⟨-, hs⟩ := s.checked_cases now id c <;> rw [hs] at h
  · exact (find?_remove_eq_some_iff.mp h).1
  · exact h

@[simp] theorem closed_checked (s : Store) (now : Instant) (id : String) (c : Option Glyphs) :
    (s.checked now id c).closed = s.closed := by
  obtain ⟨-, h⟩ | ⟨-, h⟩ := s.checked_cases now id c <;> rw [h]
  rfl

/-- Where no record is in time, a check finds none or a late one. -/
theorem verdict_of_lapsed {s : Store} {now : Instant} {id : String} (c : Option Glyphs)
    (h : ∀ r, s.find? id = some r → r.record.expiresAt ≤ now) :
    s.verdict now id c = .ok .noChallenge ∨ s.verdict now id c = .ok .expired := by
  cases hfind : s.find? id with
  | none => exact .inl (verdict_eq_noChallenge_iff.mpr hfind)
  | some r => exact .inr (verdict_eq_expired_iff.mpr ⟨r, hfind, h r hfind⟩)

end Store

end Passcode
