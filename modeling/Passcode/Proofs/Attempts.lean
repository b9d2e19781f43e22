import Passcode.Proofs.Plans

/-!
# What an attempt does

Whatever is shown of an attempt, of one run or of two, is shown of the five plans that an
attempt can follow.

* `verified_none_iff`: when a submitted code lets a user through.
* `keeps_verify`: what an attempt keeps if the keeper and the couriers keep it.
* `coupled_verify`: what two attempts have in common if their keepers and couriers do.
-/

namespace Passcode.Gate

open Passcode.Action

variable {κ ω ω' : Type}

/-! ## One attempt -/

section OneAttempt

variable {deliver : Deliver κ ω} {p : Principal} {c : Channel} {r : Issued}

theorem run_dispatch (deliver : Deliver κ ω) (c : Channel) (p : Principal) (r : Issued)
    (g : Gate κ ω) : (dispatch deliver c p r).run g = match g.routes.courier c with
      | .ok courier => (deliver courier (p.recipients c) r).run
          (g.told [.dispatching p.identifier c (p.recipients c).length])
      | .error e => (.error e, g) := by
  rw [dispatch, run_bind_of_ok (run_get g)]
  cases g.routes.courier c <;> rfl

/-- Sending a record out ends in a prompt for its code, in a refusal after which the record
has been taken back, or in the failure of the courier. -/
theorem ensures_sendOut (deliver : Deliver κ ω) (c : Channel) (p : Principal) (r : Issued)
    (g : Gate κ ω) : (sendOut deliver c p r).Ensures g fun a g' =>
      ∃ d h, (dispatch deliver c p r).run g = (d, h) ∧
        ((∃ receipt prompt, d = .ok receipt ∧ a = .ok (.needsInput prompt) ∧
            prompt.expiresAt = r.record.expiresAt ∧ g'.hush = h.hush) ∨
          (∃ cause, d = .error (.refused cause) ∧ a = .ok (.refuse .deliveryFailed cause) ∧
            g'.keeper.store = (h.keeper.store.discard p.identifier r).2 ∧
            g'.outside = h.outside) ∨
          ∃ e, d = .error e ∧ a = .error e ∧ g' = h ∧
            ∀ fault message channel, e ≠ .refused (.delivery fault message channel)) := by
  unfold Ensures sendOut
  rcases hd : (dispatch deliver c p r).run g with ⟨e | receipt, h⟩
  · rw [run_bind, run_attempt, hd]
    refine ⟨_, _, rfl, ?_⟩
    dsimp only
    split
    · next heq => cases heq
    · next fault message channel heq =>
      cases heq
      obtain ⟨hdiscard, hstore, -⟩ := Keeper.ensures_discard h.keeper p.identifier r
      refine .inr (.inl ⟨_, rfl, ?_⟩)
      rw [run_bind, run_inKeeper, hdiscard]
      exact ⟨rfl, hstore, rfl⟩
    · next e' hno heq =>
      cases heq
      exact .inr (.inr ⟨_, rfl, rfl, rfl, hno⟩)
  · rw [run_bind, run_attempt, hd]
    exact ⟨_, _, rfl, .inl ⟨receipt, _, rfl, rfl, rfl, rfl⟩⟩

/-- Couriers that either deliver or fail as deliveries do. -/
def Frank (deliver : Deliver κ ω) : Prop :=
  ∀ courier recipients r g e, ((deliver courier recipients r).run g).1 = .error e →
    ∃ fault message channel, e = .refused (.delivery fault message channel)

theorem Frank.error_of_dispatch (hfrank : Frank deliver) {g : Gate κ ω} {e : Failure}
    (h : ((dispatch deliver c p r).run g).1 = .error e) :
    ∃ fault message channel, e = .refused (.delivery fault message channel) := by
  rw [run_dispatch] at h
  cases hcourier : g.routes.courier c with
  | error e' =>
      rw [hcourier] at h
      obtain rfl := Except.error.inj h
      unfold Routes.courier at hcourier
      split at hcourier
      · cases hcourier
      · exact ⟨_, _, _, (Except.error.inj hcourier).symm⟩
  | ok courier =>
      rw [hcourier] at h
      exact hfrank courier _ r _ e h

/-- With frank couriers, a record that is sent out is asked for, or its delivery failed. -/
theorem Frank.answer_sendOut (hfrank : Frank deliver) (c : Channel) (p : Principal) (r : Issued)
    (g : Gate κ ω) : (∃ prompt, ((sendOut deliver c p r).run g).1 = .ok (.needsInput prompt)) ∨
      ∃ cause, ((sendOut deliver c p r).run g).1 = .ok (.refuse .deliveryFailed cause) := by
  obtain ⟨d, h, hdispatch, hcases⟩ := ensures_sendOut deliver c p r g
  obtain ⟨_, prompt, -, ha, -⟩ | ⟨cause, -, ha, -⟩ | ⟨e, rfl, -, -, hno⟩ := hcases
  · exact .inl ⟨prompt, ha⟩
  · exact .inr ⟨cause, ha⟩
  · obtain ⟨fault, message, channel, rfl⟩ := hfrank.error_of_dispatch (congrArg Prod.fst hdispatch)
    exact absurd rfl (hno fault message channel)

/-- With frank couriers, a challenge fails only where no record is issued. -/
theorem Frank.answer_issue (hfrank : Frank deliver) (p : Principal) (terms : Terms)
    (g : Gate κ ω) :
    (∃ e, ((Keeper.generate p.identifier terms.length terms.timeout terms.alphabet).run
        g.keeper).1 = .error e ∧ (((Plan.issue terms).perform deliver p).run g).1 = .error e) ∨
      (∃ x, ((Keeper.generate p.identifier terms.length terms.timeout terms.alphabet).run
        g.keeper).1 = .ok x ∧
        ((∃ prompt, (((Plan.issue terms).perform deliver p).run g).1 =
            .ok (.needsInput prompt)) ∨
          ∃ cause, (((Plan.issue terms).perform deliver p).run g).1 =
            .ok (.refuse .deliveryFailed cause))) := by
  rw [Plan.perform, run_bind, run_inKeeper]
  rcases (Keeper.generate p.identifier terms.length terms.timeout terms.alphabet).run
    g.keeper with ⟨e | x, k⟩
  · exact .inl ⟨e, rfl, rfl⟩
  · exact .inr ⟨x, rfl, hfrank.answer_sendOut terms.channel p x _⟩

/-- What an answer to a code is, and what becomes of the store. -/
theorem ensures_respond_of_reading {g : Gate κ ω} {now : Instant}
    (h : g.keeper.world.reading? = some now) (p : Principal) (code : Glyphs) :
    (respond p code).Ensures g fun a g' =>
      a = (g.keeper.store.verdict now p.identifier (some code)).map (outcomeOf p.identifier) ∧
        g'.keeper.store = g.keeper.store.checked now p.identifier (some code) ∧
        g'.outside = g.outside := by
  obtain ⟨hcheck, hstore, -⟩ := Keeper.ensures_check_of_reading h p.identifier (some code)
  unfold Ensures respond
  rw [run_bind, run_inKeeper, hcheck]
  cases g.keeper.store.verdict now p.identifier (some code) with
  | error e => exact ⟨rfl, hstore, rfl⟩
  | ok result => exact ⟨rfl, hstore, rfl⟩

theorem ensures_respond_of_silence {g : Gate κ ω} (h : g.keeper.world.reading? = none)
    (p : Principal) (code : Glyphs) : (respond p code).Ensures g fun a g' =>
      a = .error (.broken "clock") ∧ g'.keeper.store = g.keeper.store ∧
        g'.outside = g.outside := by
  obtain ⟨hcheck, hstore⟩ := Keeper.ensures_check_of_silence h p.identifier (some code)
  unfold Ensures respond
  rw [run_bind, run_inKeeper, hcheck]
  exact ⟨rfl, hstore, rfl⟩

/-- A code that is no text is answered by no outcome while a record is in time. -/
theorem respond_eq_error_iff {code : Glyphs} {e : Failure} {g : Gate κ ω} :
    ((respond p code).run g).1 = .error e ↔
      (g.keeper.world.reading? = none ∧ e = .broken "clock") ∨ ∃ t r,
        g.keeper.world.reading? = some t ∧ g.keeper.store.find? p.identifier = some r ∧
        t < r.record.expiresAt ∧ code.isText = false ∧ code.encoded = .error e := by
  cases ht : g.keeper.world.reading? with
  | none =>
      rw [(ensures_respond_of_silence ht p code).1, Except.error.injEq, eq_comm]
      simp
  | some now =>
      rw [(ensures_respond_of_reading ht p code).1, map_eq_error_iff, Store.verdict_eq_error_iff]
      simp

theorem outcomeOf_eq_verified_iff {id : String} {result : CheckResult} {b : Option Bypass} :
    outcomeOf id result = .verified b ↔ result = .accepted ∧ b = none := by
  cases result <;> simp [outcomeOf, Outcome.refuse, eq_comm]

/-- A submitted code is answered by letting the user through if it is the one of the user's
record, and the record is in time. -/
theorem respond_eq_verified_iff {code : Glyphs} {b : Option Bypass} {g : Gate κ ω} :
    ((respond p code).run g).1 = .ok (.verified b) ↔ b = none ∧
      ∃ t r, g.keeper.world.reading? = some t ∧ g.keeper.store.find? p.identifier = some r ∧
        t < r.record.expiresAt ∧ code = .ofString r.record.code := by
  cases ht : g.keeper.world.reading? with
  | none =>
      rw [(ensures_respond_of_silence ht p code).1]
      simp
  | some now =>
      simp only [(ensures_respond_of_reading ht p code).1, map_eq_ok_iff, outcomeOf_eq_verified_iff]
      constructor
      · rintro ⟨_, hverdict, rfl, hb⟩
        obtain ⟨r, hr, hlt, hc⟩ := Store.verdict_eq_accepted_iff.mp hverdict
        exact ⟨hb, now, r, rfl, hr, hlt, Option.some.inj hc⟩
      · rintro ⟨hb, _, r, ⟨⟩, hr, hlt, hc⟩
        exact ⟨_, Store.verdict_eq_accepted_iff.mpr ⟨r, hr, hlt, congrArg some hc⟩, rfl, hb⟩

/-- No challenge lets a user through. -/
theorem issue_ne_verified {terms : Terms} {b : Option Bypass} {g : Gate κ ω} :
    (((Plan.issue terms).perform deliver p).run g).1 ≠ .ok (.verified b) := by
  intro h
  rw [Plan.perform, run_bind] at h
  rcases hgenerate : (inKeeper (Keeper.generate p.identifier terms.length terms.timeout
    terms.alphabet)).run g with ⟨e | r, g'⟩ <;> rw [hgenerate] at h
  · cases h
  · obtain ⟨d, h', -, hcases⟩ := ensures_sendOut deliver terms.channel p r g'
    obtain ⟨_, _, -, ha, -⟩ | ⟨_, -, ha, -⟩ | ⟨_, -, ha, -⟩ := hcases <;>
      exact absurd (ha.symm.trans h) (by simp [Outcome.refuse])

theorem perform_eq_verified_none_iff {plan : Plan} {g : Gate κ ω} :
    ((plan.perform deliver p).run g).1 = .ok (.verified none) ↔
      ∃ code t r, plan = .check code ∧ g.keeper.world.reading? = some t ∧
        g.keeper.store.find? p.identifier = some r ∧ t < r.record.expiresAt ∧
        code = .ofString r.record.code := by
  cases plan with
  | fail e => simp [Plan.perform]
  | pass b => simp [Plan.perform]
  | turnAway c => simp [Plan.perform, Outcome.refuse]
  | issue terms => exact iff_of_false issue_ne_verified (by simp)
  | check code =>
      rw [Plan.perform, respond_eq_verified_iff]
      constructor
      · rintro ⟨-, t, r, hrecord⟩
        exact ⟨code, t, r, rfl, hrecord⟩
      · rintro ⟨_, t, r, ⟨⟩, hrecord⟩
        exact ⟨rfl, t, r, hrecord⟩

/-- A submitted code lets a user through if and only if the step is enforced for the user,
the clock reads an instant before the expiry of the user's record, and the code is the one
of that record. No courier has a say in it. -/
theorem verified_none_iff {response : Option Glyphs} {g : Gate κ ω} :
    ((verify deliver p response).run g).1 = .ok (.verified none) ↔
      p.isAnonymous = false ∧ g.Enforces p ∧ ∃ code t r, response = some code ∧
        g.keeper.world.reading? = some t ∧ g.keeper.store.find? p.identifier = some r ∧
        t < r.record.expiresAt ∧ code = .ofString r.record.code := by
  obtain ⟨es, hanswer, -⟩ := ensures_verify deliver p response g
  rw [hanswer, conclude_eq_verified_iff, perform_eq_verified_none_iff]
  constructor
  · rintro ⟨code, t, r, hc, hrecord⟩
    obtain ⟨hp, hg, hresponse⟩ := plan_eq_check_iff.mp hc
    exact ⟨hp, hg, code, t, r, hresponse, hrecord⟩
  · rintro ⟨hp, hg, code, t, r, hresponse, hrecord⟩
    exact ⟨code, t, r, plan_eq_check_iff.mpr ⟨hp, hg, hresponse⟩, hrecord⟩

/-! ### What an attempt keeps -/

variable {I : Gate κ ω → Prop} (hhush : ∀ g g', g'.hush = g.hush → I g → I g')
include hhush

theorem keeps_dispatch (hdeliver : ∀ courier recipients r, Keeps I (deliver courier recipients r))
    (c : Channel) (p : Principal) (r : Issued) : Keeps I (dispatch deliver c p r) := by
  intro g hg
  unfold after
  rw [run_dispatch]
  cases g.routes.courier c with
  | error e => exact hg
  | ok courier => exact hdeliver courier _ r _ (hhush g _ rfl hg)

theorem keeps_sendOut (hdeliver : ∀ courier recipients r, Keeps I (deliver courier recipients r))
    (hdiscard : ∀ r, Keeps I (inKeeper (Keeper.discard p.identifier r))) (c : Channel)
    (r : Issued) : Keeps I (sendOut deliver c p r) := by
  refine (keeps_dispatch hhush hdeliver c p r).attempt.bind fun d => ?_
  split
  · exact fun g hg => hhush g _ rfl hg
  · exact (hdiscard r).bind fun _ g hg => hhush g _ rfl hg
  · exact keeps_throw _

/-- What the keeper does for the user of an attempt, and what couriers do, decides what the
attempt keeps. -/
theorem keeps_verify (hdeliver : ∀ courier recipients r, Keeps I (deliver courier recipients r))
    (hgenerate : ∀ length timeout alphabet,
      Keeps I (inKeeper (Keeper.generate p.identifier length timeout alphabet)))
    (hdiscard : ∀ r, Keeps I (inKeeper (Keeper.discard p.identifier r)))
    (hcheck : ∀ c, Keeps I (inKeeper (Keeper.check p.identifier c))) (response : Option Glyphs) :
    Keeps I (verify deliver p response) := by
  intro g hg
  obtain ⟨es, -, hafter⟩ := ensures_verify deliver p response g
  refine hhush _ _ hafter ?_
  have hperform : Keeps I ((g.plan p response).perform deliver p) := by
    cases g.plan p response with
    | fail e => exact keeps_throw e
    | pass b => exact keeps_pure _
    | turnAway c => exact keeps_pure _
    | issue terms =>
        exact (hgenerate _ _ _).bind fun r => keeps_sendOut hhush hdeliver hdiscard _ r
    | check code => exact (hcheck _).bind fun _ => keeps_pure _
  exact hperform _ (hhush g _ rfl hg)

end OneAttempt

/-! ## Two attempts -/

/-- A relation between gates that still holds when both hear of the same, and when both are
metered alike. -/
structure Deaf (R : Gate κ ω → Gate κ ω' → Prop) : Prop where
  told : ∀ {g h} (es : List Event), R g h → R (g.told es) (h.told es)
  metered : ∀ {g h} (f : Metrics → Metrics), R g h → R (g.metered f) (h.metered f)

section TwoAttempts

variable {deliver : Deliver κ ω} {deliver' : Deliver κ ω'} {p : Principal}
  {R R' : Gate κ ω → Gate κ ω' → Prop} {S : Outcome → Outcome → Prop}

theorem coupled_dispatch {c : Channel} {x y : Issued} (hroutes : ∀ g h, R g h → g.routes = h.routes)
    (hdeaf : Deaf R) (hR : ∀ g h, R g h → R' g h)
    (hdeliver : ∀ courier, Coupled R (deliver courier (p.recipients c) x)
      (deliver' courier (p.recipients c) y) (fun _ _ => R') R') :
    Coupled R (dispatch deliver c p x) (dispatch deliver' c p y) (fun _ _ => R') R' := by
  intro g h hgh
  rw [run_dispatch, run_dispatch, ← hroutes g h hgh]
  cases g.routes.courier c with
  | error e => exact .error (hR g h hgh)
  | ok courier => exact hdeliver courier (hdeaf.told _ hgh)

/-- Two records with one expiry, sent out by two couriers that end alike and taken back alike,
come to one outcome. -/
theorem coupled_sendOut {c : Channel} {x y : Issued} {Q : Gate κ ω → Gate κ ω' → Prop}
    (hxy : x.record.expiresAt = y.record.expiresAt) (hdeaf : Deaf R) (hQR : ∀ g h, Q g h → R g h)
    (hdispatch : Coupled R' (dispatch deliver c p x) (dispatch deliver' c p y) (fun _ _ => Q) Q)
    (hdiscard : Coupled Q (inKeeper (Keeper.discard p.identifier x))
      (inKeeper (Keeper.discard p.identifier y)) (fun _ _ => R) R) :
    Coupled R' (sendOut deliver c p x) (sendOut deliver' c p y)
      (fun o o' g h => o = o' ∧ R g h) R := by
  have hattempt : Coupled R' (dispatch deliver c p x).attempt (dispatch deliver' c p y).attempt
      (fun d d' g h => Paired (fun _ _ => Q) Q (d, g) (d', h)) R := hdispatch.attempt
  refine hattempt.bind fun d d' => ?_
  intro g h hd
  cases hd with
  | ok hgh =>
      exact .ok ⟨by rw [hxy], hdeaf.metered (·.countChallenge (Vocabulary.word c)) (hQR g h hgh)⟩
  | error hgh =>
      dsimp only
      split
      · next heq => cases heq
      · refine Coupled.bind hdiscard (fun b b' => ?_) hgh
        intro g h hgh
        exact .ok ⟨rfl, hdeaf.told _
          (hdeaf.metered (·.countDeliveryFailure (Vocabulary.word c)) hgh)⟩
      · exact .error (hQR g h hgh)

/-- Two plans that are carried out alike are settled alike. -/
theorem coupled_settle {plan plan' : Plan} (hdeaf : Deaf R) (hS : ∀ o, S o o)
    (hperform : Coupled R' (plan.perform deliver p) (plan'.perform deliver' p)
      (fun o o' g h => S o o' ∧ R g h) R)
    (hfinish : ∀ o o', S o o' → Coupled R (finish p o) (finish p o')
      (fun o o' g h => S o o' ∧ R g h) R) :
    Coupled R' (plan.settle deliver p) (plan'.settle deliver' p)
      (fun o o' g h => S o o' ∧ R g h) R := by
  have hrecover : ∀ e, Coupled R (recover p e) (recover p e)
      (fun o o' g h => S o o' ∧ R g h) R := by
    intro e g h hgh
    obtain ⟨es, hes⟩ := run_recover p e
    rw [hes, hes]
    cases conclude (.error e) with
    | error e => exact .error (hdeaf.told es hgh)
    | ok o => exact .ok ⟨hS o, hdeaf.told es hgh⟩
  refine (hperform.tryCatch hrecover).bind fun o o' g h hoo' => ?_
  exact hfinish o o' hoo'.1 hoo'.2

/-- Two attempts for one user with one request, under the same settings and in the same
directory, end alike if challenges do and checks do. -/
theorem coupled_verify (response : Option Glyphs)
    (hsame : ∀ g h, R' g h → g.settings = h.settings ∧ g.directory = h.directory)
    (hR : ∀ g h, R' g h → R g h) (hdeaf' : Deaf R') (hdeaf : Deaf R) (hS : ∀ o, S o o)
    (hissue : ∀ terms, Coupled R' ((Plan.issue terms).perform deliver p)
      ((Plan.issue terms).perform deliver' p) (fun o o' g h => S o o' ∧ R g h) R)
    (hrespond : ∀ code, Coupled R' (respond p code) (respond p code)
      (fun o o' g h => S o o' ∧ R g h) R)
    (hfinish : ∀ o o', S o o' → Coupled R (finish p o) (finish p o')
      (fun o o' g h => S o o' ∧ R g h) R) :
    Coupled R' (verify deliver p response) (verify deliver' p response)
      (fun o o' g h => S o o' ∧ R g h) R := by
  intro g h hgh
  obtain ⟨es, hes⟩ := run_verify_of g.settings g.directory p
  obtain ⟨hsettings, hdirectory⟩ := hsame g h hgh
  rw [hes response κ ω deliver g rfl rfl, hes response κ ω' deliver' h hsettings.symm
    hdirectory.symm]
  refine coupled_settle hdeaf hS ?_ hfinish (hdeaf'.told _ hgh)
  cases Plan.of g.settings g.directory p response with
  | fail e => exact coupled_throw hR
  | pass b => exact coupled_pure fun g h hgh => ⟨hS _, hR g h hgh⟩
  | turnAway c => exact coupled_pure fun g h hgh => ⟨hS _, hR g h hgh⟩
  | issue terms => exact hissue terms
  | check code => exact hrespond code

end TwoAttempts

end Passcode.Gate
