import Passcode.Proofs.Retractions

/-!
# What an attempt leaves alone

An attempt has one user, and no record but the user's comes or goes. Whether the user's does is
told by the answer: it is the one that was issued and handed to a courier if a code is asked
for, there is none if the code was used up or could not be delivered, and after any other
answer, and after a failure, the store is the one from before (`Framed`, `verify_framed`).
-/

namespace Passcode

open Passcode.Action

namespace Gate

variable {κ ω : Type}

/-- What an attempt does to the store, told from its answer and from what couriers are handed. -/
structure Framed (deliver : Deliver κ ω) (p : Principal) (response : Option Glyphs)
    (g : Gate κ ω) (answer : Except Failure Outcome) (s : Store) : Prop where
  others : ∀ id, id ≠ p.identifier → s.find? id = g.keeper.store.find? id
  asked : ∀ prompt, answer = .ok (.needsInput prompt) → ∃ parcel,
    g.Issues p parcel.record ∧ parcel.record.serial = g.keeper.world.made ∧
      parcels deliver p response g = [parcel] ∧ s.find? p.identifier = some parcel.record ∧
      prompt.expiresAt = parcel.record.record.expiresAt
  undelivered : ∀ message cause, answer = .ok (.rejected .deliveryFailed message cause) →
    s.find? p.identifier = none
  accepted : answer = .ok (.verified none) → s.find? p.identifier = none
  kept : (∀ prompt, answer ≠ .ok (.needsInput prompt)) →
    (∀ message cause, answer ≠ .ok (.rejected .deliveryFailed message cause)) →
    answer ≠ .ok (.verified none) → s = g.keeper.store
  nameless : s.find? "" = g.keeper.store.find? ""

/-! ## Reading an effect -/

namespace Effect

variable {id : String} {s s' : Store} {answer : Except Failure Outcome}
  {sent : List (Parcel κ)}

theorem find?_of_ne (h : Effect id s answer sent s') {j : String} (hj : j ≠ id) :
    s'.find? j = s.find? j := by
  cases h with
  | kept => rfl
  | issued hput => rw [Store.find?_of_put hput, if_neg hj]
  | retracted hput =>
      rw [Store.discard_of_put hput, Store.find?_remove, if_neg hj, Store.find?_of_put hput,
        if_neg hj]
  | accepted => rw [Store.find?_remove, if_neg hj]

theorem of_needsInput {prompt : Prompt} (h : Effect id s (.ok (.needsInput prompt)) sent s') :
    ∃ parcel, sent = [parcel] ∧ s'.find? id = some parcel.record ∧
      prompt.expiresAt = parcel.record.record.expiresAt := by
  cases h with
  | kept hquiet => cases hquiet _ rfl
  | issued hput hexpiry => exact ⟨_, rfl, by rw [Store.find?_of_put hput, if_pos rfl], hexpiry⟩

theorem of_deliveryFailed {message : String} {cause : Refusal}
    (h : Effect id s (.ok (.rejected .deliveryFailed message cause)) sent s') :
    s'.find? id = none := by
  generalize hanswer : Except.ok (Outcome.rejected .deliveryFailed message cause) = answer at h
  cases h with
  | kept hquiet => cases hquiet _ hanswer.symm
  | issued => cases hanswer
  | retracted hput => rw [Store.discard_of_put hput, Store.find?_remove, if_pos rfl]
  | accepted => cases hanswer

theorem of_verified_none (h : Effect id s (.ok (.verified none)) sent s') :
    s'.find? id = none := by
  cases h with
  | kept hquiet => cases hquiet _ rfl
  | accepted => rw [Store.find?_remove, if_pos rfl]

theorem eq_of_still (h : Effect id s answer sent s')
    (hneeds : ∀ prompt, answer ≠ .ok (.needsInput prompt))
    (hfailed : ∀ message cause, answer ≠ .ok (.rejected .deliveryFailed message cause))
    (hverified : answer ≠ .ok (.verified none)) : s' = s := by
  cases h with
  | kept => rfl
  | issued => exact absurd rfl (hneeds _)
  | retracted => exact absurd rfl (hfailed _ _)
  | accepted => exact absurd rfl hverified

end Effect

/-! ## The record that is asked for -/

theorem Issues.serial_eq {g : Gate κ ω} {p : Principal} {x : Issued} (h : g.Issues p x) :
    x.serial = g.keeper.world.made := by
  obtain ⟨terms, -, hx⟩ := h
  have hmade := Keeper.ensures_made_generate g.keeper p.identifier terms.length terms.timeout
    terms.alphabet
  exact (hmade.1 x hx).1

/-- What couriers are handed is what the challenge issues. -/
theorem issues_of_parcels {deliver : Deliver κ ω} {p : Principal} {response : Option Glyphs}
    {g : Gate κ ω} {parcel : Parcel κ} (h : parcels deliver p response g = [parcel]) :
    g.Issues p parcel.record := by
  obtain ⟨terms, x, courier, b, h', hplan, hx, -, -, hnotes⟩ | ⟨hnone, -⟩ :=
    notes_cases (fun courier recipients r _ => (⟨courier, recipients, r⟩ : Parcel κ)) deliver p
      response g
  · obtain rfl : parcel = ⟨courier, p.recipients terms.channel, x⟩ :=
      List.singleton_inj.mp (h.symm.trans hnotes)
    obtain ⟨-, -, rfl, -⟩ := plan_eq_issue_iff.mp hplan
    exact ⟨terms, hplan, hx⟩
  · cases h.symm.trans hnone

theorem store_after_verify_of_anonymous {p : Principal} (hp : p.isAnonymous = true)
    (deliver : Deliver κ ω) (response : Option Glyphs) (g : Gate κ ω) :
    ((verify deliver p response).after g).keeper.store = g.keeper.store := by
  unfold after verify
  rw [if_pos hp]
  rfl

/-- With couriers that leave the store alone and fail only as deliveries do, an attempt leaves
the records of all other users as they are, and that of its user changes as the answer says.
Nothing is ever taken in under the empty identifier. -/
theorem verify_framed {deliver : Deliver κ ω} (hpolite : Polite deliver) (p : Principal)
    (response : Option Glyphs) (g : Gate κ ω) :
    (verify deliver p response).Ensures g fun answer g' =>
      Framed deliver p response g answer g'.keeper.store := by
  have heffect := effect_verify hpolite p response g
  unfold after at heffect
  exact
    { others := fun id hid => heffect.find?_of_ne hid
      asked := fun prompt hanswer => by
        obtain ⟨parcel, hsent, hfind, hexpiry⟩ := (hanswer ▸ heffect).of_needsInput
        have hissues := issues_of_parcels hsent
        exact ⟨parcel, hissues, hissues.serial_eq, hsent, hfind, hexpiry⟩
      undelivered := fun message cause hanswer => (hanswer ▸ heffect).of_deliveryFailed
      accepted := fun hanswer => (hanswer ▸ heffect).of_verified_none
      kept := heffect.eq_of_still
      nameless := by
        by_cases hp : p.identifier = ""
        · exact congrArg (Store.find? · "")
            (store_after_verify_of_anonymous (decide_eq_true hp) deliver response g)
        · exact heffect.find?_of_ne (Ne.symm hp) }

/-- Couriers who come back with everything. -/
def comeBack : Deliver Unit Unit :=
  fun _ _ _ => throw (.refused (.delivery .failed "no answer" "email"))

theorem polite_comeBack : Polite comeBack := fun _ _ _ _ =>
  ⟨rfl, fun _ h => ⟨_, _, _, (Except.error.inj h).symm⟩⟩

/-- Two users have a code, and a second one for the first of them cannot be delivered: the
first user has none any more, and the other's stays. -/
theorem framed_of_undelivered :
    ∃ g : Gate Unit Unit, g = (verify handOver (.withMail "eve" "eve@example.org") none).after
        ((verify handOver (.withMail "ada" "ada@example.org") none).after
          (fresh .usual .empty () ())) ∧
      g.keeper.store.find? "ada" ≠ none ∧ g.keeper.store.find? "eve" ≠ none ∧
      ((verify comeBack (.withMail "ada" "ada@example.org") none).after g).keeper.store.find?
        "ada" = none ∧
      ((verify comeBack (.withMail "ada" "ada@example.org") none).after g).keeper.store.find?
        "eve" = g.keeper.store.find? "eve" := by
  refine ⟨_, rfl, ?_⟩
  generalize hg : (verify handOver (.withMail "eve" "eve@example.org") none).after
    ((verify handOver (.withMail "ada" "ada@example.org") none).after
      (fresh .usual .empty () ())) = g
  have hframed := verify_framed polite_comeBack (.withMail "ada" "ada@example.org") none g
  refine ⟨?_, ?_, hframed.undelivered "Error sending one-time password."
    (.delivery .failed "no answer" "email") ?_, hframed.others "eve" (by decide)⟩ <;>
      subst hg <;> decide +kernel

end Gate

end Passcode
