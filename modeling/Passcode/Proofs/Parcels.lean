import Passcode.Proofs.Watching

/-!
# What couriers are handed

A gate can be watched: beside what the couriers act on there is then a list of the parcels
they were handed (`watched`, `noting`). Watching changes nothing (`run_noting_verify`),
so the parcels of an attempt are those of the watched attempt.

Couriers are `Polite` if they leave the store alone and fail only as deliveries do. With
such couriers an attempt does one of four things to the store, and its outcome and its
parcels tell which (`Effect`, `effect_verify`).
-/

namespace Passcode

open Passcode.Action

/-- What a courier is handed. -/
structure Parcel (κ : Type) where
  courier : κ
  recipients : List String
  record : Issued
deriving DecidableEq

/-- Whether an outcome tells of a record that came or went: a code was accepted, or one was
issued, be it that it could not be delivered. -/
def Outcome.stirs : Outcome → Bool
  | verified none | needsInput _ | rejected .deliveryFailed .. => true
  | _ => false

namespace Gate

variable {κ ω : Type}

/-! ## Watching a gate -/

/-- A gate that keeps a list of parcels beside what its couriers act on. -/
abbrev WatchedGate (κ ω : Type) := Gate κ (List (Parcel κ) × ω)

/-- A gate that writes down the parcels its couriers are handed, after those already there. -/
def watched (g : Gate κ ω) (parcels : List (Parcel κ)) : WatchedGate κ ω :=
  { g with outside := (parcels, g.outside) }

def unwatched (g : WatchedGate κ ω) : Gate κ ω := { g with outside := g.outside.2 }

def noting (deliver : Deliver κ ω) : Deliver κ (List (Parcel κ) × ω) :=
  fun courier recipients r => do
    inOutside (modify fun o => (o.1 ++ [⟨courier, recipients, r⟩], o.2))
    (deliver courier recipients r).on unwatched fun g h => h.watched g.outside.1

theorem run_noting (deliver : Deliver κ ω) (courier : κ) (recipients : List String) (r : Issued)
    (g : WatchedGate κ ω) :
    (noting deliver courier recipients r).run g =
      (((deliver courier recipients r).run g.unwatched).1,
        ((deliver courier recipients r).run g.unwatched).2.watched
          (g.outside.1 ++ [⟨courier, recipients, r⟩])) := rfl

/-- A parcel is a note of what a courier is handed, and of nothing else. -/
theorem noting_eq (deliver : Deliver κ ω) :
    noting deliver = annotating (fun courier recipients r _ => ⟨courier, recipients, r⟩) deliver :=
  rfl

/-- An attempt at a watched gate ends as it does at the gate itself, and leaves the same gate
behind. -/
theorem run_noting_verify (deliver : Deliver κ ω) (p : Principal) (response : Option Glyphs)
    (g : Gate κ ω) (parcels : List (Parcel κ)) :
    ((verify (noting deliver) p response).run (g.watched parcels)).1 =
        ((verify deliver p response).run g).1 ∧
      ((verify (noting deliver) p response).after (g.watched parcels)).unwatched =
        (verify deliver p response).after g :=
  noting_eq deliver ▸ run_annotating_verify _ deliver p response g parcels

/-- The parcels that couriers are handed in an attempt. -/
def parcels (deliver : Deliver κ ω) (p : Principal) (response : Option Glyphs) (g : Gate κ ω) :
    List (Parcel κ) :=
  ((verify (noting deliver) p response).after (g.watched [])).outside.1

/-- What two watched attempts have in common is so of the attempts themselves, and of their
parcels. -/
theorem paired_verify {ω' : Type} {deliver : Deliver κ ω} {deliver' : Deliver κ ω'}
    {p : Principal} {response : Option Glyphs} {g : Gate κ ω} {h : Gate κ ω'}
    {S : Outcome → Outcome → WatchedGate κ ω → WatchedGate κ ω' → Prop}
    {E : WatchedGate κ ω → WatchedGate κ ω' → Prop}
    (hp : Paired S E ((verify (noting deliver) p response).run (g.watched []))
      ((verify (noting deliver') p response).run (h.watched []))) :
    Paired
      (fun o o' g' h' => S o o' (g'.watched (parcels deliver p response g))
        (h'.watched (parcels deliver' p response h)))
      (fun g' h' => E (g'.watched (parcels deliver p response g))
        (h'.watched (parcels deliver' p response h)))
      ((verify deliver p response).run g) ((verify deliver' p response).run h) := by
  obtain ⟨hg, hgs⟩ := run_noting_verify deliver p response g []
  obtain ⟨hh, hhs⟩ := run_noting_verify deliver' p response h []
  unfold parcels
  unfold after at *
  generalize (verify (noting deliver) p response).run (g.watched []) = u,
    (verify deliver p response).run g = u',
    (verify (noting deliver') p response).run (h.watched []) = v,
    (verify deliver' p response).run h = v' at *
  obtain ⟨a, g'⟩ := u'
  obtain ⟨b, h'⟩ := v'
  cases hp with
  | ok hS =>
      obtain rfl := hg
      obtain rfl := hgs
      obtain rfl := hh
      obtain rfl := hhs
      exact .ok hS
  | error hE =>
      obtain rfl := hg
      obtain rfl := hgs
      obtain rfl := hh
      obtain rfl := hhs
      exact .error hE

/-! ## What an attempt does to the store -/

/-- Couriers that leave the store alone, and that either deliver or fail as deliveries do. -/
def Polite (deliver : Deliver κ ω) : Prop :=
  ∀ courier recipients r g, (deliver courier recipients r).Ensures g fun a g' =>
    g'.keeper.store = g.keeper.store ∧
      ∀ e, a = .error e → ∃ fault message channel, e = .refused (.delivery fault message channel)

/-- Couriers that leave the store and the clock alone. -/
structure Aloof (deliver : Deliver κ ω) : Prop where
  store : ∀ courier recipients r g,
    ((deliver courier recipients r).after g).keeper.store = g.keeper.store
  now : ∀ courier recipients r g,
    ((deliver courier recipients r).after g).keeper.world.now = g.keeper.world.now
  clockFailures : ∀ courier recipients r g,
    ((deliver courier recipients r).after g).keeper.world.clockFailures =
      g.keeper.world.clockFailures

/-- What an attempt of a user does to a store, with the outcome and the parcels that go with
it: nothing at all, or a record is taken in and handed to a courier, or a record is taken in
and taken back, or the user's record is used up. -/
inductive Effect (id : String) (s : Store) :
    Except Failure Outcome → List (Parcel κ) → Store → Prop
  | kept {a} (h : ∀ o, a = .ok o → o.stirs = false) : Effect id s a [] s
  | issued {parcel : Parcel κ} {prompt b s'} (hput : s.put id parcel.record = .ok (b, s'))
      (hexpiry : prompt.expiresAt = parcel.record.record.expiresAt) :
      Effect id s (.ok (.needsInput prompt)) [parcel] s'
  | retracted {x cause parcels b s'} (hput : s.put id x = .ok (b, s')) :
      Effect id s (.ok (.refuse .deliveryFailed cause)) parcels (s'.discard id x).2
  | accepted : Effect id s (.ok (.verified none)) [] (s.remove id)

theorem stirs_of_conclude_error {e : Failure} {o : Outcome} (h : conclude (.error e) = .ok o) :
    o.stirs = false := by
  obtain ⟨reason, cause, h', -, ⟨rfl, -⟩ | ⟨rfl, -⟩⟩ | ⟨h', -⟩ := conclude_error_cases e <;>
    rw [h'] at h <;> cases h <;> rfl

section Effect

variable {deliver : Deliver κ ω} (hpolite : Polite deliver)
include hpolite

theorem Polite.frank_noting : Frank (noting deliver) := by
  intro courier recipients r g e h
  rw [run_noting] at h
  exact (hpolite courier recipients r g.unwatched).2 e h

theorem ensures_noting_dispatch (c : Channel) (p : Principal) (r : Issued)
    (g : WatchedGate κ ω) : (dispatch (noting deliver) c p r).Ensures g fun a g' =>
      g'.keeper.store = g.keeper.store ∧
        (∀ e, a = .error e → ∃ fault message channel,
          e = .refused (.delivery fault message channel)) ∧
        ∀ receipt, a = .ok receipt → ∃ courier,
          g'.outside.1 = g.outside.1 ++ [⟨courier, p.recipients c, r⟩] := by
  have herror := fun e => hpolite.frank_noting.error_of_dispatch (c := c) (p := p) (r := r)
    (g := g) (e := e)
  unfold Ensures
  refine ⟨?_, herror, ?_⟩
  · rw [run_dispatch]
    cases g.routes.courier c with
    | error e => rfl
    | ok courier => exact (hpolite courier _ r _).1
  · rw [run_dispatch]
    cases g.routes.courier c with
    | error e => exact fun receipt h => nomatch h
    | ok courier => exact fun receipt _ => ⟨courier, rfl⟩

theorem effect_sendOut {c : Channel} {p : Principal} {x : Issued} {b : Bool} {s : Store}
    {g : WatchedGate κ ω} (hput : s.put p.identifier x = .ok (b, g.keeper.store))
    (hnone : g.outside.1 = []) : (sendOut (noting deliver) c p x).Ensures g fun a g' =>
      Effect p.identifier s a g'.outside.1 g'.keeper.store := by
  refine (ensures_sendOut (noting deliver) c p x g).imp fun a g' hsendOut => ?_
  obtain ⟨d, h, hdispatch, hcases⟩ := hsendOut
  have hd := ensures_noting_dispatch hpolite c p x g
  rw [Ensures, hdispatch] at hd
  obtain ⟨hstore, hfailure, hparcel⟩ := hd
  rw [← hstore] at hput
  obtain ⟨receipt, prompt, rfl, rfl, hexpiry, hhush⟩ | ⟨cause, rfl, rfl, hs, -⟩ |
    ⟨e, rfl, -, -, hno⟩ := hcases
  · obtain ⟨courier, hparcels⟩ := hparcel receipt rfl
    rw [outside_eq_of_hush hhush, store_eq_of_hush hhush, hparcels, hnone]
    exact .issued hput hexpiry
  · rw [hs]
    exact .retracted hput
  · obtain ⟨fault, message, channel, rfl⟩ := hfailure e rfl
    exact absurd rfl (hno fault message channel)

theorem effect_perform (p : Principal) (plan : Plan) {g : WatchedGate κ ω}
    (hnone : g.outside.1 = []) : (plan.perform (noting deliver) p).Ensures g fun a g' =>
      Effect p.identifier g.keeper.store a g'.outside.1 g'.keeper.store := by
  have hkept : ∀ {a : Except Failure Outcome} {g' : WatchedGate κ ω},
      (∀ o, a = .ok o → o.stirs = false) → g'.keeper.store = g.keeper.store →
      g'.outside = g.outside →
      Effect p.identifier g.keeper.store a g'.outside.1 g'.keeper.store := by
    intro a g' ha hstore hout
    rw [hstore, hout, hnone]
    exact .kept ha
  cases plan with
  | fail e => exact hkept (fun o h => by cases h) rfl rfl
  | pass b => exact hkept (fun o h => by cases h; rfl) rfl rfl
  | turnAway c => exact hkept (fun o h => by cases h; rfl) rfl rfl
  | check code =>
      cases ht : g.keeper.world.reading? with
      | none =>
          refine (ensures_respond_of_silence ht p code).imp fun a g' h => ?_
          obtain ⟨rfl, hstore, hout⟩ := h
          exact hkept (fun o h => by cases h) hstore hout
      | some now =>
          refine (ensures_respond_of_reading ht p code).imp fun a g' h => ?_
          obtain ⟨rfl, hstore, hout⟩ := h
          unfold Store.checked at hstore
          cases hverdict : g.keeper.store.verdict now p.identifier (some code) with
          | error e =>
              rw [hverdict] at hstore
              exact hkept (fun o h => by cases h) hstore hout
          | ok result =>
              rw [hverdict] at hstore
              cases result with
              | accepted =>
                  rw [hstore, hout, hnone]
                  exact .accepted
              | noChallenge | expired | mismatch =>
                  exact hkept (fun o h => by cases h; rfl) hstore hout
  | issue terms =>
      have hgenerate := Keeper.ensures_generate g.keeper p.identifier terms.length terms.timeout
        terms.alphabet
      refine Ensures.bind (P := fun a (g₁ : WatchedGate κ ω) => g₁.outside.1 = [] ∧
        ((∃ x b, a = .ok x ∧ g.keeper.store.put p.identifier x = .ok (b, g₁.keeper.store)) ∨
          ∃ e, a = .error e ∧ g₁.keeper.store = g.keeper.store))
        ⟨hnone, hgenerate⟩ (fun x g₁ h => ?_) fun e g₁ h => ?_
      · obtain ⟨hnone₁, ⟨x', b, hx, hput⟩ | ⟨e, he, -⟩⟩ := h
        · cases hx
          exact effect_sendOut hpolite hput hnone₁
        · cases he
      · obtain ⟨hnone₁, ⟨x, b, hx, -⟩ | ⟨e', -, hstore⟩⟩ := h
        · cases hx
        · rw [hnone₁, hstore]
          exact .kept fun o h => by cases h

/-- What the outcome and the parcels of an attempt tell of the store. -/
theorem effect_verify (p : Principal) (response : Option Glyphs) (g : Gate κ ω) :
    Effect p.identifier g.keeper.store ((verify deliver p response).run g).1
      (parcels deliver p response g) ((verify deliver p response).after g).keeper.store := by
  obtain ⟨hanswer, hafter⟩ := run_noting_verify deliver p response g []
  have hstore : ((verify deliver p response).after g).keeper.store =
      ((verify (noting deliver) p response).after (g.watched [])).keeper.store := by
    rw [← hafter]
    rfl
  rw [← hanswer, hstore, parcels, after]
  obtain ⟨es, hend, hhush⟩ := ensures_verify (noting deliver) p response (g.watched [])
  have heffect := effect_perform hpolite p ((g.watched []).plan p response)
    (g := (g.watched []).told es) rfl
  rw [hend, outside_eq_of_hush hhush, store_eq_of_hush hhush]
  unfold Ensures at heffect
  unfold after
  generalize (((g.watched []).plan p response).perform (noting deliver) p).run
    ((g.watched []).told es) = performed at heffect ⊢
  rcases performed with ⟨e | o, g'⟩
  · dsimp only at heffect ⊢
    generalize hs : g'.outside.1 = sent, g'.keeper.store = s' at heffect ⊢
    cases heffect with
    | kept => exact .kept fun o h => stirs_of_conclude_error h
  · exact heffect

end Effect

end Gate

end Passcode
