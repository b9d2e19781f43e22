import Passcode.Proofs.Issuing
import Passcode.Proofs.Tiers
import Passcode.Proofs.Turns

/-!
# Malformed policies

What an attempt comes to where the attributes of a user are malformed. `Gate.AtFault` says
when that matters and which text is named for it, `Gate.Admits` says what a user can be let
through by, and `fails_closed` says that these two are just when an attempt is refused for its
settings and when it succeeds. A malformed text never lets a user through, whatever the
action for missing attributes, and the gate is left as it was.
-/

namespace Passcode.Gate

open Passcode.Action

variable {κ ω : Type}

/-- Something is wrong with the attributes that an attempt looks at, and the cause says what:
the value that says whether the step is off is malformed, or it is on, a code is wanted, and
a value of the policy is malformed. -/
inductive AtFault (g : Gate κ ω) (p : Principal) (response : Option Glyphs) (cause : Refusal) :
    Prop
  | switch (h : Faulty g.directory p .disabled cause)
  | policy {v} (hv : Policy.Switched g.settings g.directory p v) (hon : v.isTrue = false)
      (hresponse : response = none) (h : FirstFault g.directory p Policy.settling cause)

/-- A user may be let through, with this bypass or by a code. -/
inductive Admits (g : Gate κ ω) (p : Principal) (response : Option Glyphs) : Option Bypass → Prop
  | disabled {v} (hv : Policy.Switched g.settings g.directory p v) (hoff : v.isTrue = true) :
      Admits g p response (some .disabled)
  | missing {v policy c} (hv : Policy.Switched g.settings g.directory p v) (hon : v.isTrue = false)
      (hresponse : response = none) (hpolicy : Policy.Governs g.settings g.directory p policy)
      (hchannel : policy.channel.demand = .ok c) (hnobody : p.recipients c = [])
      (hallow : g.settings.missingAction = .own .allow) :
      Admits g p response (some .missingAttributes)
  | code {v code now r} (hv : Policy.Switched g.settings g.directory p v) (hon : v.isTrue = false)
      (hresponse : response = some code) (hnow : g.keeper.world.reading? = some now)
      (hfind : g.keeper.store.find? p.identifier = some r) (hlt : now < r.record.expiresAt)
      (hcode : code = .ofString r.record.code) : Admits g p response none

variable {deliver : Deliver κ ω} {p : Principal} {response : Option Glyphs} {g : Gate κ ω}
  {cause : Refusal}

/-! ## Faults and plans -/

theorem Faulty.cause_eq {d : Directory} {a : Attribute} (h : Faulty d p a cause) :
    ∃ key value source reason, cause = .configuration key value source reason := by
  obtain ⟨tier, raw, c, -, -, rfl⟩ := h
  exact ⟨_, _, _, _, rfl⟩

theorem FirstFault.cause_eq {d : Directory} {as : List Attribute} (h : FirstFault d p as cause) :
    ∃ key value source reason, cause = .configuration key value source reason := by
  induction h with
  | here h => exact Faulty.cause_eq h
  | later _ _ ih => exact ih

theorem AtFault.cause_eq (h : g.AtFault p response cause) :
    ∃ key value source reason, cause = .configuration key value source reason := by
  cases h with
  | switch h => exact Faulty.cause_eq h
  | policy _ _ _ h => exact FirstFault.cause_eq h

/-- A plan fails for a text that is at fault, or for a member that is none of ours. -/
theorem plan_eq_fail_cases {e : Failure} (h : g.plan p response = .fail e) :
    (∃ cause, e = .refused cause ∧ g.AtFault p response cause) ∨ ∃ m, e = .misuse m := by
  rw [plan_eq_fail_iff, Policy.switch_eq_error_iff, Policy.settled_eq_error_iff,
    enforces_iff_switched] at h
  obtain ⟨-, ⟨cause, rfl, h⟩ | ⟨⟨v, hv, hon⟩, hresponse, ⟨cause, rfl, h⟩ | ⟨policy, -, h⟩⟩⟩ := h
  · exact .inl ⟨cause, rfl, .switch h⟩
  · exact .inl ⟨cause, rfl, .policy hv hon hresponse h⟩
  · exact .inr (Plan.misuse_of_ofPolicy h)

theorem plan_eq_fail_refused_iff (hp : p.isAnonymous = false) :
    g.plan p response = .fail (.refused cause) ↔ g.AtFault p response cause := by
  constructor
  · intro h
    obtain ⟨_, ⟨⟩, hfault⟩ | ⟨m, ⟨⟩⟩ := plan_eq_fail_cases h
    exact hfault
  · rw [plan_eq_fail_iff, Policy.switch_eq_error_iff, Policy.settled_eq_error_iff,
      enforces_iff_switched]
    intro h
    refine ⟨hp, ?_⟩
    cases h with
    | switch h => exact .inl ⟨cause, rfl, h⟩
    | policy hv hon hresponse h => exact .inr ⟨⟨_, hv, hon⟩, hresponse, .inl ⟨cause, rfl, h⟩⟩

theorem plan_eq_fail_misuse_iff {m : Misuse} : g.plan p response = .fail (.misuse m) ↔
    p.isAnonymous = false ∧ g.Enforces p ∧ response = none ∧ ∃ policy,
      Policy.Governs g.settings g.directory p policy ∧
      Plan.ofPolicy g.settings p policy = .fail (.misuse m) := by
  rw [plan_eq_fail_iff, Policy.switch_eq_error_iff, Policy.settled_eq_error_iff]
  simp [Policy.settled_eq_ok_iff]

theorem conclude_of_atFault (h : g.AtFault p response cause) :
    conclude (.error (.refused cause)) = .ok (.refuse .configurationError cause) := by
  obtain ⟨key, value, source, reason, rfl⟩ := h.cause_eq
  rfl

/-! ## Refusals for the settings -/

/-- No code is issued with a complaint about the settings. -/
theorem not_configuration_of_generate {k : Keeper} {id : String} {length timeout : Int}
    {alphabet : Alphabet} {e : Failure}
    (h : ((Keeper.generate id length timeout alphabet).run k).1 = .error e) :
    ∀ cause, e = .refused cause → cause.cause ≠ .configuration := by
  rintro cause rfl
  rw [Keeper.answer_generate] at h
  split at h
  · cases h
  split at h
  · cases h
  split at h
  · cases h
  split at h
  · cases h
  split at h
  · obtain rfl := Failure.refused.inj (Except.error.inj h)
    nofun
  · cases h

theorem conclude_ne_configurationError {e : Failure} {m : String}
    (h : ∀ cause, e = .refused cause → cause.cause ≠ .configuration) :
    conclude (.error e) ≠ .ok (.rejected .configurationError m cause) := by
  intro heq
  obtain ⟨reason, cause', hend, rfl, ⟨-, hcause⟩ | ⟨rfl, -⟩⟩ | ⟨hend, -⟩ := conclude_error_cases e
  · exact h cause' rfl hcause
  · rw [hend] at heq
    cases heq
  · rw [hend] at heq
    cases heq

theorem outcomeOf_ne_configurationError (id : String) (result : CheckResult) (m : String) :
    outcomeOf id result ≠ .rejected .configurationError m cause := by
  cases result <;> simp [outcomeOf, Outcome.refuse]

/-- Only a plan that fails ends in a refusal for the settings. -/
theorem conclude_perform_ne_configurationError (hfrank : Frank deliver) {plan : Plan} {m : String}
    (hplan : ∀ e, plan ≠ .fail e) (g : Gate κ ω) :
    conclude ((plan.perform deliver p).run g).1 ≠ .ok (.rejected .configurationError m cause) := by
  cases plan with
  | fail e => exact absurd rfl (hplan e)
  | pass b => simp [Plan.perform, conclude]
  | turnAway c => simp [Plan.perform, conclude, Outcome.refuse]
  | issue terms =>
      obtain ⟨e, hgenerate, ha⟩ | ⟨x, -, ⟨prompt, ha⟩ | ⟨cause', ha⟩⟩ :=
        hfrank.answer_issue p terms g
      · rw [ha]
        exact conclude_ne_configurationError (not_configuration_of_generate hgenerate)
      · rw [ha]
        simp [conclude]
      · rw [ha]
        simp [conclude, Outcome.refuse]
  | check code =>
      rw [Plan.perform]
      cases ht : g.keeper.world.reading? with
      | none =>
          rw [(ensures_respond_of_silence ht p code).1]
          exact conclude_ne_configurationError (by simp)
      | some now =>
          rw [(ensures_respond_of_reading ht p code).1]
          cases hv : g.keeper.store.verdict now p.identifier (some code) with
          | error e =>
              obtain ⟨unit, position, count, rfl⟩ := Store.halves_of_verdict hv
              exact conclude_ne_configurationError (by simp)
          | ok result =>
              exact fun h => outcomeOf_ne_configurationError _ result m (Except.ok.inj h)

theorem configurationError_iff (hfrank : Frank deliver) (hp : p.isAnonymous = false) (m : String) :
    ((verify deliver p response).run g).1 = .ok (.rejected .configurationError m cause) ↔
      m = cause.userMessage ∧ g.AtFault p response cause := by
  obtain ⟨es, hanswer, -⟩ := ensures_verify deliver p response g
  rw [hanswer]
  by_cases hfail : ∃ e, g.plan p response = .fail e
  · obtain ⟨e, hplan⟩ := hfail
    have hrun : ((Plan.fail e).perform deliver p).run (g.told es) = (.error e, g.told es) := rfl
    rw [hplan, hrun]
    obtain ⟨found, rfl, hfound⟩ | ⟨misuse, rfl⟩ := plan_eq_fail_cases hplan
    · rw [conclude_of_atFault hfound, Outcome.refuse, Except.ok.injEq, Outcome.rejected.injEq]
      constructor
      · rintro ⟨-, rfl, rfl⟩
        exact ⟨rfl, hfound⟩
      · rintro ⟨rfl, h⟩
        have hsame := hplan.symm.trans ((plan_eq_fail_refused_iff hp).mpr h)
        obtain rfl := Failure.refused.inj (Plan.fail.inj hsame)
        exact ⟨rfl, rfl, rfl⟩
    · constructor
      · intro h
        cases h
      · rintro ⟨-, h⟩
        cases hplan.symm.trans ((plan_eq_fail_refused_iff hp).mpr h)
  · refine iff_of_false ?_ ?_
    · exact conclude_perform_ne_configurationError hfrank (fun e h => hfail ⟨e, h⟩) _
    · rintro ⟨-, h⟩
      exact hfail ⟨_, (plan_eq_fail_refused_iff hp).mpr h⟩

/-- An attempt at fault draws nothing, sends nothing and leaves the store as it is. -/
theorem untouched_of_atFault (hp : p.isAnonymous = false) (h : g.AtFault p response cause) :
    ((verify deliver p response).after g).hush = g.hush ∧ parcels deliver p response g = [] := by
  have hplan := (plan_eq_fail_refused_iff hp).mpr h
  constructor
  · obtain ⟨es, -, hafter⟩ := ensures_verify deliver p response g
    rw [hplan] at hafter
    exact hafter
  · obtain ⟨es, -, hafter⟩ := ensures_verify (noting deliver) p response (g.watched [])
    have hsame : (g.watched []).plan p response = g.plan p response := rfl
    rw [hsame, hplan] at hafter
    exact congrArg Prod.fst (outside_eq_of_hush hafter)

/-! ## Who is let through -/

theorem plan_eq_pass_iff_admits (hp : p.isAnonymous = false) {b : Bypass} :
    g.plan p response = .pass b ↔ g.Admits p response (some b) := by
  rw [plan_eq_pass_iff, enforces_iff_switched]
  constructor
  · rintro (⟨h, -⟩ | ⟨-, rfl, v, hv, hoff⟩ |
      ⟨-, rfl, ⟨v, hv, hon⟩, hresponse, hallow, policy, c, hpolicy, hchannel, hnobody⟩)
    · rw [hp] at h
      cases h
    · exact .disabled (Policy.switch_eq_ok_iff.mp hv) hoff
    · exact .missing hv hon hresponse (Policy.settled_eq_ok_iff.mp hpolicy) hchannel hnobody hallow
  · intro h
    cases h with
    | disabled hv hoff => exact .inr (.inl ⟨hp, rfl, _, Policy.switch_eq_ok_iff.mpr hv, hoff⟩)
    | missing hv hon hresponse hpolicy hchannel hnobody hallow =>
        exact .inr (.inr ⟨hp, rfl, ⟨_, hv, hon⟩, hresponse, hallow, _, _,
          Policy.settled_eq_ok_iff.mpr hpolicy, hchannel, hnobody⟩)

theorem perform_eq_verified_some_iff {plan : Plan} {b : Bypass} :
    ((plan.perform deliver p).run g).1 = .ok (.verified (some b)) ↔ plan = .pass b := by
  cases plan with
  | fail e => simp [Plan.perform]
  | pass b' => simp [Plan.perform]
  | turnAway c => simp [Plan.perform, Outcome.refuse]
  | issue terms => exact iff_of_false issue_ne_verified (by simp)
  | check code => simp [Plan.perform, respond_eq_verified_iff]

theorem verified_iff_admits (hp : p.isAnonymous = false) (b : Option Bypass) :
    ((verify deliver p response).run g).1 = .ok (.verified b) ↔ g.Admits p response b := by
  cases b with
  | none =>
      rw [verified_none_iff, enforces_iff_switched]
      constructor
      · rintro ⟨-, ⟨v, hv, hon⟩, code, now, r, hresponse, hnow, hfind, hlt, hcode⟩
        exact .code hv hon hresponse hnow hfind hlt hcode
      · intro h
        cases h with
        | code hv hon hresponse hnow hfind hlt hcode =>
            exact ⟨hp, ⟨_, hv, hon⟩, _, _, _, hresponse, hnow, hfind, hlt, hcode⟩
  | some b =>
      obtain ⟨es, hanswer, -⟩ := ensures_verify deliver p response g
      rw [hanswer, conclude_eq_verified_iff, perform_eq_verified_some_iff, plan_eq_pass_iff_admits hp]

/-- A malformed policy fails closed. With couriers that deliver or fail as deliveries do, an
attempt of a named user is refused for the settings if and only if a text that matters for it
is malformed, and the refusal names the first such text, its attribute and its supplier. Then
the gate is left as it was but for what was measured and reported, and nothing is sent. And
the user is let through only where the step is switched off by a well-formed value or the
default, where the code is the outstanding one, or where a well-formed policy finds nobody to
send a code to and the settings allow that. -/
theorem fails_closed (hfrank : Frank deliver) (hp : p.isAnonymous = false)
    (response : Option Glyphs) (g : Gate κ ω) :
    (∀ m cause, ((verify deliver p response).run g).1 =
        .ok (.rejected .configurationError m cause) ↔
          m = cause.userMessage ∧ g.AtFault p response cause) ∧
      (∀ cause, g.AtFault p response cause →
        ((verify deliver p response).after g).hush = g.hush ∧
          parcels deliver p response g = []) ∧
      ∀ b, ((verify deliver p response).run g).1 = .ok (.verified b) ↔ g.Admits p response b :=
  ⟨fun m _ => configurationError_iff hfrank hp m, fun _ h => untouched_of_atFault hp h,
    verified_iff_admits hp⟩

theorem frank_handOver : Frank handOver := fun _ _ _ _ _ h => nomatch h

/-- A user without an address, whose group has a malformed timeout: the user is refused though
missing attributes are allowed and the gate has been shut. -/
theorem fails_closed_of_unreachable_member :
    ∃ g : Gate Unit Unit,
      g = shutdown.after (fresh { Settings.usual with missingAction := .own .allow }
        (Keyed.empty.put "staff" (some (Keyed.empty.put "otp-timeout" (some "soon")))) () ()) ∧
      g.AtFault { identifier := "ada", groups := ["staff"] } none
        (.configuration "otp-timeout" "soon" "group:staff" "not an integer") ∧
      ((verify handOver { identifier := "ada", groups := ["staff"] } none).after g).hush
        = g.hush := by
  obtain ⟨hrefused, huntouched, -⟩ := fails_closed frank_handOver
    (p := { identifier := "ada", groups := ["staff"] }) (by decide) none
    (shutdown.after (fresh { Settings.usual with missingAction := .own .allow }
      (Keyed.empty.put "staff" (some (Keyed.empty.put "otp-timeout" (some "soon")))) () ()))
  have hfault := ((hrefused "One-time password settings are invalid. Contact your administrator."
    (.configuration "otp-timeout" "soon" "group:staff" "not an integer")).mp
      (by decide +kernel)).2
  exact ⟨_, rfl, hfault, (huntouched _ hfault).1⟩

end Passcode.Gate
