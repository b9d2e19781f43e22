import Passcode.Action

/-!
# How actions compose

What a sequence of actions leaves behind, from what its parts leave behind. Two ways of
speaking are used throughout, of one run and of two.

* An action `Ensures` a condition from a state if the condition holds of its answer and of
  the state after it, and it `Keeps` a condition on states if it never leads out of it.
* Two actions are `Coupled` if, from related states, either both answer, with related
  answers and states, or both fail, with one failure and related states. The rules follow
  the structure of a `do` block, so a property of two runs is shown by one walk over their
  common text.
-/

namespace Passcode.Action

variable {σ τ υ ρ α β γ δ : Type}

@[simp] theorem run_on (part : σ → τ) (restore : σ → τ → σ) (a : Action τ α) (s : σ) :
    (a.on part restore).run s = ((a.run (part s)).1, restore s (a.run (part s)).2) := rfl

@[simp] theorem run_attempt (a : Action σ α) (s : σ) :
    a.attempt.run s = (.ok (a.run s).1, (a.run s).2) := rfl

@[simp] theorem run_map (f : α → β) (a : Action σ α) (s : σ) :
    (f <$> a).run s = ((a.run s).1.map f, (a.run s).2) := by
  rw [map_eq_pure_bind, run_bind]
  rcases a.run s with ⟨_ | _, _⟩ <;> rfl

@[simp] theorem after_map (f : α → β) (a : Action σ α) (s : σ) : (f <$> a).after s = a.after s := by
  rw [after, run_map, after]

theorem map_eq_ok_iff {ε : Type} {f : α → β} {r : Except ε α} {y : β} :
    r.map f = .ok y ↔ ∃ x, r = .ok x ∧ f x = y := by
  cases r <;> simp [Except.map]

theorem map_eq_error_iff {ε : Type} {f : α → β} {r : Except ε α} {e : ε} :
    r.map f = .error e ↔ r = .error e := by
  cases r <;> simp [Except.map]

theorem answer_map_eq_error_iff {f : α → β} {a : Action σ α} {s : σ} {e : Failure} :
    ((f <$> a).run s).1 = .error e ↔ (a.run s).1 = .error e := by
  rw [run_map, map_eq_error_iff]

theorem run_bind_of_ok {a : Action σ α} {f : α → Action σ β} {s t : σ} {x : α}
    (h : a.run s = (.ok x, t)) : (a >>= f).run s = (f x).run t := by
  rw [run_bind, h]

theorem run_bind_of_error {a : Action σ α} {f : α → Action σ β} {s t : σ} {e : Failure}
    (h : a.run s = (.error e, t)) : (a >>= f).run s = (.error e, t) := by
  rw [run_bind, h]

/-! ## One run -/

/-- A condition on the answer of an action and on the state after it holds. -/
def Ensures (a : Action σ α) (s : σ) (Q : Except Failure α → σ → Prop) : Prop :=
  Q (a.run s).1 (a.run s).2

theorem Ensures.imp {a : Action σ α} {s : σ} {Q Q' : Except Failure α → σ → Prop}
    (h : a.Ensures s Q) (hQ : ∀ r t, Q r t → Q' r t) : a.Ensures s Q' :=
  hQ _ _ h

theorem Ensures.bind {a : Action σ α} {f : α → Action σ β} {s : σ}
    {P : Except Failure α → σ → Prop} {Q : Except Failure β → σ → Prop} (ha : a.Ensures s P)
    (hok : ∀ x t, P (.ok x) t → (f x).Ensures t Q)
    (herror : ∀ e t, P (.error e) t → Q (.error e) t) :
    (a >>= f).Ensures s Q := by
  unfold Ensures at ha ⊢
  rw [run_bind]
  rcases hr : a.run s with ⟨e | x, t⟩ <;> rw [hr] at ha
  · exact herror e t ha
  · exact hok x t ha

/-- An action keeps a condition on states if it leads from states that meet it to states
that meet it, whatever it answers. -/
def Keeps (I : σ → Prop) (a : Action σ α) : Prop :=
  ∀ s, I s → I (a.after s)

section Keeps

variable {I : σ → Prop}

theorem keeps_pure (x : α) : Keeps I (Pure.pure x) := fun _ hs => hs

theorem keeps_throw (e : Failure) : Keeps I (throw e : Action σ α) := fun _ hs => hs

theorem keeps_lift (r : Except Failure α) : Keeps I (liftM r : Action σ α) := fun _ hs => hs

theorem Keeps.bind {a : Action σ α} {f : α → Action σ β} (ha : Keeps I a)
    (hf : ∀ x, Keeps I (f x)) : Keeps I (a >>= f) := by
  intro s hs
  have ht := ha s hs
  unfold after at ht ⊢
  rw [run_bind]
  rcases hr : a.run s with ⟨e | x, t⟩ <;> rw [hr] at ht
  · exact ht
  · exact hf x t ht

theorem Keeps.attempt {a : Action σ α} (ha : Keeps I a) : Keeps I a.attempt := ha

end Keeps

/-! ## Two runs -/

/-- Two runs that ended alike: both with an answer, or both with the same failure. -/
inductive Paired (S : α → β → σ → τ → Prop) (E : σ → τ → Prop) :
    Except Failure α × σ → Except Failure β × τ → Prop
  | ok {x y s t} (h : S x y s t) : Paired S E (.ok x, s) (.ok y, t)
  | error {e s t} (h : E s t) : Paired S E (.error e, s) (.error e, t)

theorem Paired.of_answers {S : α → β → σ → τ → Prop} {E : σ → τ → Prop}
    {u : Except Failure α × σ} {v : Except Failure β × τ} {x : α} {y : β} (hu : u.1 = .ok x)
    (hv : v.1 = .ok y) (h : S x y u.2 v.2) : Paired S E u v := by
  obtain ⟨a, s⟩ := u
  obtain ⟨b, t⟩ := v
  obtain rfl : a = .ok x := hu
  obtain rfl : b = .ok y := hv
  exact .ok h

theorem Paired.of_failures {S : α → β → σ → τ → Prop} {E : σ → τ → Prop}
    {u : Except Failure α × σ} {v : Except Failure β × τ} {e : Failure} (hu : u.1 = .error e)
    (hv : v.1 = .error e) (h : E u.2 v.2) : Paired S E u v := by
  obtain ⟨a, s⟩ := u
  obtain ⟨b, t⟩ := v
  obtain rfl : a = .error e := hu
  obtain rfl : b = .error e := hv
  exact .error h

/-- Runs that give one answer, or fail with one failure, in related states. -/
theorem Paired.both {E : σ → τ → Prop} {u : Except Failure α × σ} {v : Except Failure α × τ}
    (h : Paired (fun x y s t => x = y ∧ E s t) E u v) : u.1 = v.1 ∧ E u.2 v.2 := by
  cases h with
  | ok h => exact ⟨congrArg _ h.1, h.2⟩
  | error h => exact ⟨rfl, h⟩

/-- From states related by `R`, two actions end alike. -/
def Coupled (R : σ → τ → Prop) (a : Action σ α) (b : Action τ β)
    (S : α → β → σ → τ → Prop) (E : σ → τ → Prop) : Prop :=
  ∀ ⦃s t⦄, R s t → Paired S E (a.run s) (b.run t)

variable {R R' : σ → τ → Prop} {S S' : α → β → σ → τ → Prop} {E E' : σ → τ → Prop}

theorem Coupled.imp {a : Action σ α} {b : Action τ β} (h : Coupled R a b S E)
    (hR : ∀ s t, R' s t → R s t) (hS : ∀ x y s t, S x y s t → S' x y s t)
    (hE : ∀ s t, E s t → E' s t) : Coupled R' a b S' E' := by
  intro s t hst
  have hp := h (hR s t hst)
  generalize a.run s = u, b.run t = v at hp ⊢
  cases hp with
  | ok h => exact .ok (hS _ _ _ _ h)
  | error h => exact .error (hE _ _ h)

theorem coupled_pure {x : α} {y : β} (h : ∀ s t, R s t → S x y s t) :
    Coupled R (Pure.pure x) (Pure.pure y) S E :=
  fun s t hst => .ok (h s t hst)

theorem coupled_throw {e : Failure} (h : ∀ s t, R s t → E s t) :
    Coupled R (throw e : Action σ α) (throw e : Action τ β) S E :=
  fun s t hst => .error (h s t hst)

theorem coupled_lift {r : Except Failure α} {S : α → α → σ → τ → Prop}
    (hS : ∀ x s t, R s t → S x x s t) (hE : ∀ s t, R s t → E s t) :
    Coupled R (liftM r : Action σ α) (liftM r : Action τ α) S E := by
  intro s t hst
  cases r with
  | error e => exact .error (hE s t hst)
  | ok x => exact .ok (hS x s t hst)

theorem Coupled.bind {a : Action σ α} {b : Action τ β} {f : α → Action σ γ} {g : β → Action τ δ}
    {T : γ → δ → σ → τ → Prop} (h : Coupled R a b S E)
    (hf : ∀ x y, Coupled (S x y) (f x) (g y) T E) : Coupled R (a >>= f) (b >>= g) T E := by
  intro s t hst
  have hp := h hst
  rw [run_bind, run_bind]
  generalize a.run s = u, b.run t = v at hp ⊢
  cases hp with
  | ok h => exact hf _ _ h
  | error h => exact .error h

/-- What follows two actions with one answer needs to be looked at for that answer only. -/
theorem Coupled.bind_same {a : Action σ α} {b : Action τ α} {f : α → Action σ γ}
    {g : α → Action τ δ} {T : γ → δ → σ → τ → Prop}
    (h : Coupled R a b (fun x y s t => x = y ∧ R' s t) E)
    (hf : ∀ x, Coupled R' (f x) (g x) T E) : Coupled R (a >>= f) (b >>= g) T E := by
  refine h.bind fun x y s t hxy => ?_
  obtain ⟨rfl, hst⟩ := hxy
  exact hf x hst

theorem Coupled.map {a : Action σ α} {b : Action τ β} {f : α → γ} {g : β → δ}
    {T : γ → δ → σ → τ → Prop} (h : Coupled R a b S E)
    (hT : ∀ x y s t, S x y s t → T (f x) (g y) s t) : Coupled R (f <$> a) (g <$> b) T E := by
  rw [map_eq_pure_bind, map_eq_pure_bind]
  exact h.bind fun x y => coupled_pure (hT x y)

theorem Coupled.attempt {a : Action σ α} {b : Action τ β} (h : Coupled R a b S E) :
    Coupled R a.attempt b.attempt (fun x y s t => Paired S E (x, s) (y, t)) E' :=
  fun _ _ hst => .ok (h hst)

theorem Coupled.tryCatch {a : Action σ α} {b : Action τ β} {f : Failure → Action σ α}
    {g : Failure → Action τ β} (h : Coupled R a b S E) (hf : ∀ e, Coupled E (f e) (g e) S E') :
    Coupled R (tryCatch a f) (tryCatch b g) S E' := by
  intro s t hst
  have hp := h hst
  rw [run_tryCatch, run_tryCatch]
  generalize a.run s = u, b.run t = v at hp ⊢
  cases hp with
  | ok h => exact .ok h
  | error h => exact hf _ h

/-- Under a view of states, the action `b` is all that can be seen of the action `a`: from the
view of a state it gives the same answer, and it ends in the view of where `a` ends. -/
def Shadows (view : σ → σ) (a b : Action σ α) : Prop :=
  ∀ s, b.run (view s) = ((a.run s).1, view (a.run s).2)

/-- Two actions with one shadow are coupled by what can be seen of the states. -/
theorem coupled_of_shadows {view : σ → σ} {a b c : Action σ α} (ha : Shadows view a c)
    (hb : Shadows view b c) : Coupled (fun s t => view s = view t) a b
      (fun x y s t => x = y ∧ view s = view t) (fun s t => view s = view t) := by
  intro s t hst
  have hs := ha s
  rw [hst, hb t] at hs
  obtain ⟨hanswer, hafter⟩ := Prod.mk.inj hs
  generalize a.run s = u, b.run t = w at hanswer hafter ⊢
  obtain ⟨r, s'⟩ := u
  obtain ⟨r', t'⟩ := w
  obtain rfl : r' = r := hanswer
  cases r' with
  | error e => exact .error hafter.symm
  | ok x => exact .ok ⟨rfl, hafter.symm⟩

/-- Two actions on parts of the states are coupled if they are on those parts, and if what
they leave there puts the states as a whole into the wanted relation. -/
theorem Coupled.on {σ' τ' : Type} {part : σ → σ'} {restore : σ → σ' → σ} {part' : τ → τ'}
    {restore' : τ → τ' → τ} {a : Action σ' α} {b : Action τ' β} {P : σ' → τ' → Prop}
    {Q : α → β → σ' → τ' → Prop} {F : σ' → τ' → Prop} (h : Coupled P a b Q F)
    (hR : ∀ s t, R s t → P (part s) (part' t))
    (hS : ∀ s t x y u v, R s t → Q x y u v → S x y (restore s u) (restore' t v))
    (hE : ∀ s t u v, R s t → F u v → E (restore s u) (restore' t v)) :
    Coupled R (a.on part restore) (b.on part' restore') S E := by
  intro s t hst
  have hp := h (hR s t hst)
  rw [run_on, run_on]
  generalize a.run (part s) = u, b.run (part' t) = v at hp ⊢
  cases hp with
  | ok h => exact .ok (hS s t _ _ _ _ hst h)
  | error h => exact .error (hE s t _ _ hst h)

end Passcode.Action
