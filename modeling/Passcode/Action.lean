import Passcode.Failure

/-!
# Actions

An operation on a state that answers or fails and leaves a state behind in either case:
what was done before a failure stays done. `Action.on` runs an action on a part of a
larger state.
-/

namespace Passcode

/-- An operation on `σ` that answers with an `α` or fails. -/
def Action (σ α : Type) : Type := σ → Except Failure α × σ

namespace Action

variable {σ τ α β : Type}

/-- The answer of an action, and the state after it. -/
def run (a : Action σ α) (s : σ) : Except Failure α × σ := a s

/-- The state after an action. -/
def after (a : Action σ α) (s : σ) : σ := (a.run s).2

/-- The action that gives a value and leaves the state alone. -/
def pure (x : α) : Action σ α := fun s => (.ok x, s)

/-- One action after another; a failure ends both. -/
def bind (a : Action σ α) (f : α → Action σ β) : Action σ β := fun s =>
  match a s with
  | (.ok x, t) => f x t
  | (.error e, t) => (.error e, t)

def fail (e : Failure) : Action σ α := fun s => (.error e, s)

/-- An action with another one in the place of its failure. -/
def orElse (a : Action σ α) (f : Failure → Action σ α) : Action σ α := fun s =>
  match a s with
  | (.ok x, t) => (.ok x, t)
  | (.error e, t) => f e t

instance : Monad (Action σ) where
  pure := pure
  bind := bind

instance : MonadExceptOf Failure (Action σ) where
  throw := fail
  tryCatch := orElse

instance : MonadStateOf σ (Action σ) where
  get := fun s => (.ok s, s)
  set t := fun _ => (.ok (), t)
  modifyGet f := fun s => let (x, t) := f s; (.ok x, t)

instance : MonadLift (Except Failure) (Action σ) where
  monadLift r := fun s => (r, s)

/-- An action run on a part of the state. -/
def on (part : σ → τ) (restore : σ → τ → σ) (a : Action τ α) : Action σ α := fun s =>
  let (r, t) := a (part s)
  (r, restore s t)

/-- The answer of an action, whether it gave one or failed. -/
def attempt (a : Action σ α) : Action σ (Except Failure α) := fun s =>
  let (r, t) := a s
  (.ok r, t)

/-! ## How actions run -/

@[simp] theorem run_pure (x : α) (s : σ) : (Pure.pure x : Action σ α).run s = (.ok x, s) := rfl

@[simp] theorem run_throw (e : Failure) (s : σ) : (throw e : Action σ α).run s = (.error e, s) :=
  rfl

@[simp] theorem run_get (s : σ) : (get : Action σ σ).run s = (.ok s, s) := rfl

@[simp] theorem run_set (s t : σ) : (set t : Action σ PUnit).run s = (.ok ⟨⟩, t) := rfl

@[simp] theorem run_modify (f : σ → σ) (s : σ) :
    (modify f : Action σ PUnit).run s = (.ok ⟨⟩, f s) := rfl

theorem run_bind (a : Action σ α) (f : α → Action σ β) (s : σ) :
    (a >>= f).run s = match a.run s with
      | (.ok x, t) => (f x).run t
      | (.error e, t) => (.error e, t) := rfl

theorem run_tryCatch (a : Action σ α) (f : Failure → Action σ α) (s : σ) :
    (tryCatch a f).run s = match a.run s with
      | (.ok x, t) => (.ok x, t)
      | (.error e, t) => (f e).run t := rfl

@[simp] theorem run_lift (r : Except Failure α) (s : σ) :
    (liftM r : Action σ α).run s = (r, s) := rfl

/-- Mapping the identity over an action changes nothing. -/
theorem map_id (a : Action σ α) : id <$> a = a := by
  funext s
  show (match a s with
    | (.ok x, t) => (Except.ok x, t)
    | (.error e, t) => (.error e, t)) = a s
  split <;> simp_all

/-- Only the order of three actions matters, not their grouping. -/
theorem bind_bind (a : Action σ α) (f : α → Action σ β) {γ : Type} (g : β → Action σ γ) :
    a >>= f >>= g = a >>= fun x => f x >>= g := by
  funext s
  show (match (match a s with
      | (.ok x, t) => f x t
      | (.error e, t) => (.error e, t)) with
    | (.ok x, t) => g x t
    | (.error e, t) => (.error e, t)) = _
  show _ = (match a s with
    | (.ok x, t) => (match f x t with
      | (.ok y, u) => g y u
      | (.error e, u) => (.error e, u))
    | (.error e, t) => (.error e, t))
  rcases a s with ⟨_ | _, _⟩ <;> rfl

instance : LawfulMonad (Action σ) :=
  LawfulMonad.mk' (Action σ) map_id (fun _ _ => rfl) (fun a f g => bind_bind a f g)

end Action

end Passcode
