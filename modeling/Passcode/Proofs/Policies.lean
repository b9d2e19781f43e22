import Passcode.Policy
import Passcode.Proofs.Keepers

/-!
# Looking policies up

To look a policy up, an action reads nothing of the world and changes nothing in it: it
tells the log what it found, and its answer is the same in every world (`World.Tells`). So
what it answers can be said without a world: `Policy.switch` is the value that says whether
the step is off, and `Policy.settled` is the policy of a user for whom it is on.
-/

namespace Passcode

open Passcode.Action

namespace World

variable {α β : Type}

/-- An action that answers alike in every world and leaves nothing behind but some events. -/
def Tells (r : Except Failure α) (a : Action World α) : Prop :=
  ∃ es, ∀ w, a.run w = (r, w.told es)

theorem told_nil (w : World) : w.told [] = w := by
  simp [told]

theorem tells_lift (r : Except Failure α) : Tells r (liftM r) :=
  ⟨[], fun w => by rw [run_lift, told_nil]⟩

theorem tells_pure (x : α) : Tells (Pure.pure x) (Pure.pure x) :=
  ⟨[], fun w => by rw [run_pure, told_nil]; rfl⟩

theorem tells_report (e : Event) : Tells (.ok ⟨⟩) (report e) :=
  ⟨[e], run_report e⟩

theorem Tells.bind {r : Except Failure α} {q : α → Except Failure β} {a : Action World α}
    {f : α → Action World β} (ha : Tells r a) (hf : ∀ x, Tells (q x) (f x)) :
    Tells (r >>= q) (a >>= f) := by
  obtain ⟨es, ha⟩ := ha
  cases r with
  | error e => exact ⟨es, fun w => run_bind_of_error (ha w)⟩
  | ok x =>
      obtain ⟨fs, hx⟩ := hf x
      exact ⟨es ++ fs, fun w => by rw [run_bind_of_ok (ha w), hx, told_told]; rfl⟩

/-- What a report says makes no difference to the answer. -/
theorem Tells.after_report {r : Except Failure α} {a : Action World α} (ha : Tells r a)
    (e : Event) : Tells r (report e >>= fun _ => a) :=
  (tells_report e).bind fun _ => ha

end World

open World

/-! ## The order of groups -/

namespace Group

theorem insert_of_forall_le {g : Group} {gs : List Group}
    (h : ∀ x ∈ gs, g.identifier ≤ x.identifier) : insert g gs = g :: gs := by
  cases gs with
  | nil => rfl
  | cons x rest => rw [insert, if_pos (h x List.mem_cons_self)]

theorem pairwise_insert {g : Group} {gs : List Group}
    (h : gs.Pairwise (·.identifier ≤ ·.identifier)) :
    (insert g gs).Pairwise (·.identifier ≤ ·.identifier) := by
  induction gs with
  | nil => exact List.pairwise_singleton _ _
  | cons x rest ih =>
      obtain ⟨hx, hrest⟩ := List.pairwise_cons.mp h
      rw [insert]
      split
      · next hle =>
        refine List.pairwise_cons.mpr ⟨fun y hy => ?_, h⟩
        rcases List.mem_cons.mp hy with rfl | hy
        · exact hle
        · exact String.le_trans hle (hx y hy)
      · next hlt =>
        refine List.pairwise_cons.mpr ⟨fun y hy => ?_, ih hrest⟩
        rcases List.mem_cons.mp ((insert_perm g rest).mem_iff.mp hy) with rfl | hy
        · exact (String.le_total _ _).resolve_left hlt
        · exact hx y hy

theorem pairwise_sort (gs : List Group) : (sort gs).Pairwise (·.identifier ≤ ·.identifier) := by
  induction gs with
  | nil => exact .nil
  | cons g rest ih => exact pairwise_insert ih

theorem sort_of_pairwise {gs : List Group} (h : gs.Pairwise (·.identifier ≤ ·.identifier)) :
    sort gs = gs := by
  induction gs with
  | nil => rfl
  | cons g rest ih =>
      obtain ⟨hg, hrest⟩ := List.pairwise_cons.mp h
      have hcons : sort (g :: rest) = insert g (sort rest) := rfl
      rw [hcons, ih hrest, insert_of_forall_le hg]

theorem sort_sort (gs : List Group) : sort (sort gs) = sort gs :=
  sort_of_pairwise (pairwise_sort gs)

end Group

/-! ## Attributes -/

namespace Tier

variable {α : Type} (p : Principal) (groups : List Group) (a : Attribute) (r : Reader α)
  (fallback : α)

/-- The value of an attribute, whoever supplied it. -/
def value : Except Failure α := (lookup p groups a r fallback).map Prod.fst

theorem winner?_sort : winner? p (Group.sort groups) a = winner? p groups a := by
  rw [winner?, winner?, Group.sort_sort]

theorem lookup_sort : lookup p (Group.sort groups) a r fallback = lookup p groups a r fallback := by
  rw [lookup, lookup, winner?_sort]

theorem value_sort : value p (Group.sort groups) a r fallback = value p groups a r fallback := by
  rw [value, value, lookup_sort]

theorem tells_resolve :
    Tells (lookup p groups a r fallback) (resolve p groups a r fallback) := by
  have h := (tells_lift (lookup p groups a r fallback)).bind fun x =>
    (tells_pure x).after_report (.attributeResolved a.key x.2.text)
  rwa [bind_pure] at h

theorem tells_value : Tells (value p groups a r fallback)
    (do return (← resolve p groups a r fallback).1) := by
  have h := (tells_resolve p groups a r fallback).bind fun x => tells_pure x.1
  rw [bind_pure_comp] at h
  exact h

end Tier

/-! ## Policies -/

namespace Policy

/-- The value that says whether the step is switched off for a user. -/
def switch (s : Settings) (p : Principal) (groups : List Group) : Except Failure Value :=
  Tier.value p groups .disabled (fun raw => (Reader.boolean raw).map .bool) s.disabled

/-- The policy of a user for whom the step is not switched off. -/
def settled (s : Settings) (p : Principal) (groups : List Group) : Except Failure Policy := do
  let channel ← Tier.value p groups .method .held s.defaultMethod
  let timeout ← Tier.value p groups .timeout .positiveInt s.defaultTimeout
  let length ← Tier.value p groups .length .positiveInt s.length
  let alphabet ← Tier.value p groups .alphabet .held s.alphabet
  return { channel, timeout, length, alphabet, disabled := .bool false }

variable (s : Settings) (p : Principal) (groups : List Group)

theorem tells_disabledFor : Tells (switch s p groups) (disabledFor s p groups) := by
  have hreport : ∀ x : Value × Tier, Tells (Pure.pure x.1) (do
      if x.1.isTrue then World.report (.disabledForUser p.identifier x.2.text)
      return x.1) := by
    intro x
    cases x.1.isTrue with
    | false => exact tells_pure x.1
    | true => exact (tells_pure x.1).after_report _
  have h := (Tier.tells_resolve p groups .disabled
    (fun raw => (Reader.boolean raw).map .bool) s.disabled).bind hreport
  rw [bind_pure_comp] at h
  exact h

/-- Looking a policy up sorts the groups once more, which changes nothing. -/
theorem tells_resolve :
    Tells (settled s p groups) (resolve s p groups (some (.bool false))) := by
  have h := (Tier.tells_value p (Group.sort groups) .method .held s.defaultMethod).bind
    fun channel =>
      (Tier.tells_value p (Group.sort groups) .timeout .positiveInt s.defaultTimeout).bind
    fun timeout =>
      (Tier.tells_value p (Group.sort groups) .length .positiveInt s.length).bind
    fun length =>
      (Tier.tells_value p (Group.sort groups) .alphabet .held s.alphabet).bind
    fun alphabet => tells_pure
      ({ channel, timeout, length, alphabet, disabled := .bool false } : Policy)
  simp only [Tier.value_sort] at h
  exact h

end Policy

end Passcode
