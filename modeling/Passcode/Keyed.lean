/-!
# Keyed lists

A finite map that remembers the order of its keys. `put` replaces the value of a key in
place, or adds a new key at the end; `erase` and `filter` keep the order of the rest. So
the keys stand in the order in which they last became present.

Main statements: `find?` after `put` and after `erase`, the keys after `put`, and the
sizes.
-/

namespace Passcode

/-- A map from `κ` to `α` with its keys in order. -/
structure Keyed (κ α : Type) where
  entries : List (κ × α)
  nodup : (entries.map Prod.fst).Nodup

namespace Keyed

variable {κ α : Type}

@[ext] theorem ext {m n : Keyed κ α} (h : m.entries = n.entries) : m = n := by
  cases m; cases n; cases h; rfl

instance [DecidableEq κ] [DecidableEq α] : DecidableEq (Keyed κ α) := fun m n =>
  decidable_of_iff (m.entries = n.entries) ⟨ext, congrArg _⟩

instance [Repr κ] [Repr α] : Repr (Keyed κ α) := ⟨fun m n => reprPrec m.entries n⟩

def empty : Keyed κ α := ⟨[], List.nodup_nil⟩

instance : Inhabited (Keyed κ α) := ⟨empty⟩

def keys (m : Keyed κ α) : List κ := m.entries.map Prod.fst

def size (m : Keyed κ α) : Nat := m.entries.length

/-- The entries that pass a test, in order. -/
def filter (m : Keyed κ α) (p : κ × α → Bool) : Keyed κ α :=
  ⟨m.entries.filter p, m.nodup.sublist (List.filter_sublist.map _)⟩

theorem size_eq_length_keys (m : Keyed κ α) : m.size = m.keys.length := by simp [size, keys]

variable [DecidableEq κ]

def find? (m : Keyed κ α) (k : κ) : Option α := (m.entries.find? (·.1 = k)).map Prod.snd

def contains (m : Keyed κ α) (k : κ) : Bool := (m.find? k).isSome

def erase (m : Keyed κ α) (k : κ) : Keyed κ α := m.filter fun e => !decide (e.1 = k)

def replaceIn (k : κ) (v : α) (es : List (κ × α)) : List (κ × α) :=
  es.map fun e => if e.1 = k then (k, v) else e

theorem map_fst_replaceIn (k : κ) (v : α) (es : List (κ × α)) :
    (replaceIn k v es).map Prod.fst = es.map Prod.fst := by
  induction es with
  | nil => rfl
  | cons e es ih =>
    simp only [replaceIn, List.map_cons] at ih ⊢
    rw [ih]
    by_cases h : e.1 = k <;> simp [h]

/-- The map with a key set to a value: in place if the key is there, else at the end. -/
def put (m : Keyed κ α) (k : κ) (v : α) : Keyed κ α :=
  if h : k ∈ m.entries.map Prod.fst then
    ⟨replaceIn k v m.entries, by rw [map_fst_replaceIn]; exact m.nodup⟩
  else
    ⟨m.entries ++ [(k, v)], by
      rw [List.map_append, List.nodup_append]
      refine ⟨m.nodup, by simp, ?_⟩
      rintro a ha b hb rfl
      simp only [List.map_cons, List.map_nil, List.mem_singleton] at hb
      exact h (hb ▸ ha)⟩

/-- The map that a list of entries makes; of two values for a key the later stands. -/
def ofList (es : List (κ × α)) : Keyed κ α := es.foldl (fun m e => m.put e.1 e.2) empty

/-! ## What the operations do to look-up -/

theorem find?_isSome_iff {m : Keyed κ α} {k : κ} : (m.find? k).isSome ↔ k ∈ m.keys := by
  simp only [find?, keys, Option.isSome_map, List.find?_isSome, decide_eq_true_eq, List.mem_map]

@[simp] theorem find?_empty (k : κ) : (empty : Keyed κ α).find? k = none := rfl

theorem find?_replaceIn_self {k : κ} {v : α} {es : List (κ × α)} (h : k ∈ es.map Prod.fst) :
    ((replaceIn k v es).find? (·.1 = k)).map Prod.snd = some v := by
  induction es with
  | nil => simp at h
  | cons e es ih =>
    by_cases he : e.1 = k
    · simp [replaceIn, he]
    · have : k ∈ es.map Prod.fst := by
        simp only [List.map_cons, List.mem_cons] at h
        exact h.resolve_left fun hk => he hk.symm
      simpa [replaceIn, he] using ih this

theorem find?_replaceIn_of_ne {k j : κ} {v : α} {es : List (κ × α)} (h : j ≠ k) :
    (replaceIn k v es).find? (·.1 = j) = es.find? (·.1 = j) := by
  induction es with
  | nil => rfl
  | cons e es ih =>
    simp only [replaceIn, List.map_cons] at ih ⊢
    by_cases he : e.1 = k
    · have hk : ¬ k = j := fun hk => h hk.symm
      rw [if_pos he, List.find?_cons_of_neg (by simpa using hk), ih,
        List.find?_cons_of_neg (by simpa [he] using hk)]
    · rw [if_neg he]
      by_cases hj : e.1 = j
      · rw [List.find?_cons_of_pos (by simpa using hj), List.find?_cons_of_pos (by simpa using hj)]
      · rw [List.find?_cons_of_neg (by simpa using hj), ih,
          List.find?_cons_of_neg (by simpa using hj)]

@[simp] theorem find?_put_self (m : Keyed κ α) (k : κ) (v : α) : (m.put k v).find? k = some v := by
  unfold put
  split
  · next h => exact find?_replaceIn_self h
  · next h =>
    have : m.entries.find? (·.1 = k) = none := by
      rw [List.find?_eq_none]
      intro e he
      simp only [decide_eq_true_eq]
      exact fun hk => h (List.mem_map.2 ⟨e, he, hk⟩)
    simp only [find?, List.find?_append, this, Option.none_or]
    simp

theorem find?_put_of_ne (m : Keyed κ α) {k j : κ} (v : α) (h : j ≠ k) :
    (m.put k v).find? j = m.find? j := by
  unfold put
  split
  · simp only [find?]; rw [find?_replaceIn_of_ne h]
  · have hk : ¬ k = j := fun hk => h hk.symm
    simp [find?, List.find?_append, hk]

theorem find?_filter (m : Keyed κ α) (p : κ × α → Bool) (k : κ) :
    (m.filter p).find? k = (m.find? k).filter fun v => p (k, v) := by
  obtain ⟨es, hes⟩ := m
  simp only [find?, filter]
  induction es with
  | nil => rfl
  | cons e es ih =>
    simp only [List.map_cons, List.nodup_cons] at hes
    by_cases he : e.1 = k
    · subst he
      have hno : ∀ q : κ × α → Bool, (es.filter q).find? (·.1 = e.1) = none := by
        intro q
        rw [List.find?_eq_none]
        intro x hx
        simp only [decide_eq_true_eq]
        exact fun hxe => hes.1 (List.mem_map.2 ⟨x, (List.mem_filter.1 hx).1, hxe⟩)
      by_cases hp : p e = true
      · rw [List.filter_cons_of_pos hp, List.find?_cons_of_pos (by simp),
          List.find?_cons_of_pos (by simp)]
        exact (Option.filter_some_pos (p := fun v => p (e.1, v)) hp).symm
      · rw [List.filter_cons_of_neg hp, hno p, List.find?_cons_of_pos (by simp)]
        exact (Option.filter_some_neg (p := fun v => p (e.1, v)) (by simpa using hp)).symm
    · by_cases hp : p e = true
      · simpa [List.filter_cons, hp, he] using ih hes.2
      · simp only [Bool.not_eq_true] at hp
        simpa [List.filter_cons, hp, he] using ih hes.2

@[simp] theorem find?_erase_self (m : Keyed κ α) (k : κ) : (m.erase k).find? k = none := by
  rw [erase, find?_filter]
  cases m.find? k <;> simp

theorem find?_erase_of_ne (m : Keyed κ α) {k j : κ} (h : j ≠ k) :
    (m.erase k).find? j = m.find? j := by
  rw [erase, find?_filter]
  cases m.find? j <;> simp [h]

/-! ## Keys and sizes -/

theorem keys_put (m : Keyed κ α) (k : κ) (v : α) :
    (m.put k v).keys = if k ∈ m.keys then m.keys else m.keys ++ [k] := by
  unfold put
  by_cases h : k ∈ m.entries.map Prod.fst
  · rw [dif_pos h, keys, map_fst_replaceIn, if_pos (show k ∈ m.keys from h), keys]
  · rw [dif_neg h, if_neg (show k ∉ m.keys from h)]; simp [keys]

end Keyed

end Passcode
