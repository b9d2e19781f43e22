import Passcode.Proofs.Couriers
import Passcode.Proofs.Issuing
import Passcode.Proofs.Turns

/-!
# What a challenge leaves behind

A code is stored before it is sent, and it is taken back if the delivery fails as deliveries
do. Couriers may fail in other ways too, and no answer but that of a failed delivery takes a
code back (`left_after_challenge_iff`). With couriers that only fail as deliveries do, a code
that is not asked for is gone. A mail that cannot be composed is a failure of another kind: its
code stays (`code_left_without_mail`).
-/

namespace Passcode.Gate

open Passcode.Action

variable {κ ω : Type} {deliver : Deliver κ ω} {p : Principal} {g : Gate κ ω}

/-! ## Sending and taking back -/

theorem Sparing.store_after_dispatch (hspare : Sparing deliver) (c : Channel) (p : Principal)
    (r : Issued) (g : Gate κ ω) :
    ((dispatch deliver c p r).after g).keeper.store = g.keeper.store := by
  unfold after
  rw [run_dispatch]
  cases g.routes.courier c with
  | error e => rfl
  | ok courier => exact hspare courier _ r _

/-- Sending a record out takes it back if the answer is that the delivery failed, and
otherwise leaves the store alone. -/
theorem Sparing.store_after_sendOut (hspare : Sparing deliver) (c : Channel) (p : Principal)
    (r : Issued) (g : Gate κ ω) : (sendOut deliver c p r).Ensures g fun a g' =>
      (∃ cause, conclude a = .ok (.refuse .deliveryFailed cause)) ∧
          g'.keeper.store = (g.keeper.store.discard p.identifier r).2 ∨
        (∀ cause, conclude a ≠ .ok (.refuse .deliveryFailed cause)) ∧
          g'.keeper.store = g.keeper.store := by
  refine (ensures_sendOut deliver c p r g).imp fun a g' h => ?_
  obtain ⟨d, h, hdispatch, hcases⟩ := h
  have hstore : h.keeper.store = g.keeper.store := by
    rw [← hspare.store_after_dispatch c p r g, after, hdispatch]
  obtain ⟨_, prompt, -, rfl, -, hhush⟩ | ⟨cause, -, rfl, hdiscard, -⟩ | ⟨e, -, rfl, rfl, -⟩ :=
    hcases
  · exact .inr ⟨by simp [conclude, Outcome.refuse], (store_eq_of_hush hhush).trans hstore⟩
  · exact .inl ⟨⟨cause, rfl⟩, by rw [hdiscard, hstore]⟩
  · -- any other failure of a courier ends in another answer, or in none
    refine .inr ⟨fun cause => ?_, hstore⟩
    obtain ⟨reason, _, hend, -, ⟨rfl, -⟩ | ⟨rfl, -⟩⟩ | ⟨hend, -⟩ := conclude_error_cases e <;>
      simp [hend, Outcome.refuse]

/-- What a challenge leaves in the store, from what issuing its record does. -/
theorem Sparing.find?_after_issue_iff (hspare : Sparing deliver) (p : Principal) (terms : Terms)
    (g : Gate κ ω) {x : Issued} (hx : ((Keeper.generate p.identifier terms.length terms.timeout
      terms.alphabet).run g.keeper).1 = .ok x) :
    ((Plan.issue terms).perform deliver p).Ensures g fun a g' => ∀ id y,
      g'.keeper.store.find? id = some y ↔
        (id = p.identifier ∧ y = x ∧
          ∀ cause, conclude a ≠ .ok (.refuse .deliveryFailed cause)) ∨
        (g.keeper.store.find? id = some y ∧ id ≠ p.identifier) := by
  have hgenerate := Keeper.ensures_generate g.keeper p.identifier terms.length terms.timeout
    terms.alphabet
  rw [Plan.perform]
  -- the record is in the store before it is sent out, so sending it decides what becomes of it
  refine Ensures.bind (P := fun a h => a = .ok x ∧
    ∃ b, g.keeper.store.put p.identifier x = .ok (b, h.keeper.store)) ?_ ?_ ?_
  · obtain ⟨x', b, hx', hput⟩ | ⟨e, he, -⟩ := hgenerate
    · obtain rfl : x' = x := Except.ok.inj (hx'.symm.trans hx)
      exact ⟨hx, b, hput⟩
    · cases he.symm.trans hx
  · rintro x' h ⟨hx', b, hput⟩
    obtain rfl : x' = x := Except.ok.inj hx'
    refine (hspare.store_after_sendOut terms.channel p x' h).imp fun a g' hstore id y => ?_
    obtain ⟨⟨cause, hfailed⟩, hdiscard⟩ | ⟨hdelivered, hkept⟩ := hstore
    · rw [hdiscard, Store.find?_discard_eq_some_iff, Store.find?_eq_some_iff_of_put hput]
      grind
    · rw [hkept, Store.find?_eq_some_iff_of_put hput]
      grind
  · rintro e h ⟨he, -⟩
    cases he

/-- A plan that issues no record, and checks none, leaves the store alone. -/
theorem store_after_perform_of_not_issued {plan : Plan} (hcheck : ∀ code, plan ≠ .check code)
    (hno : ∀ terms, plan = .issue terms → ∀ x, ((Keeper.generate p.identifier terms.length
      terms.timeout terms.alphabet).run g.keeper).1 ≠ .ok x) :
    ((plan.perform deliver p).after g).keeper.store = g.keeper.store := by
  cases plan with
  | fail e => rfl
  | pass b => rfl
  | turnAway c => rfl
  | check code => exact absurd rfl (hcheck code)
  | issue terms =>
      obtain ⟨x, b, hx, -⟩ | ⟨e, he, hstore⟩ := Keeper.ensures_generate g.keeper p.identifier
        terms.length terms.timeout terms.alphabet
      · exact absurd hx (hno terms rfl x)
      · have hfail : (inKeeper (Keeper.generate p.identifier terms.length terms.timeout
            terms.alphabet)).run g = (.error e, { g with keeper := (Keeper.generate p.identifier
              terms.length terms.timeout terms.alphabet).after g.keeper }) :=
          congrArg (Prod.mk · _) he
        unfold after
        rw [Plan.perform, run_bind_of_error hfail]
        exact hstore

/-! ## The record of a challenge -/

/-- A challenge of a user brings a record into the store. -/
def Issues (g : Gate κ ω) (p : Principal) (x : Issued) : Prop :=
  ∃ terms, g.plan p none = .issue terms ∧
    ((Keeper.generate p.identifier terms.length terms.timeout terms.alphabet).run g.keeper).1
      = .ok x

/-- Hearing of events does not change what a keeper issues. -/
theorem answer_generate_told (g : Gate κ ω) (es : List Event) (id : String) (length timeout : Int)
    (alphabet : Alphabet) : ((Keeper.generate id length timeout alphabet).run
      (g.told es).keeper).1 = ((Keeper.generate id length timeout alphabet).run g.keeper).1 :=
  Keeper.answer_generate_told g.keeper es id length timeout alphabet

theorem Issues.unique {x y : Issued} (hx : g.Issues p x) (hy : g.Issues p y) : y = x := by
  obtain ⟨terms, hplan, hx⟩ := hx
  obtain ⟨terms', hplan', hy⟩ := hy
  obtain rfl : terms' = terms := Plan.issue.inj (hplan'.symm.trans hplan)
  exact Except.ok.inj (hy.symm.trans hx)

/-- The record of a challenge takes the place of what was there for the user, and is taken back
if the answer is that the delivery failed. -/
theorem Issues.find?_after_iff (hspare : Sparing deliver) {x : Issued} (hissues : g.Issues p x)
    (id : String) (y : Issued) :
    ((verify deliver p none).after g).keeper.store.find? id = some y ↔
      (id = p.identifier ∧ y = x ∧
        ∀ cause, ((verify deliver p none).run g).1 ≠ .ok (.refuse .deliveryFailed cause)) ∨
      (g.keeper.store.find? id = some y ∧ id ≠ p.identifier) := by
  obtain ⟨terms, hplan, hx⟩ := hissues
  obtain ⟨es, hanswer, hafter⟩ := ensures_verify deliver p none g
  have hissue := hspare.find?_after_issue_iff p terms (g.told es)
    ((answer_generate_told g es _ _ _ _).trans hx) id y
  rw [hanswer, after, store_eq_of_hush hafter, hplan]
  exact hissue

/-- A challenge without a record leaves the store alone. -/
theorem store_after_challenge_of_not_issues (deliver : Deliver κ ω)
    (hno : ∀ x, ¬ g.Issues p x) :
    ((verify deliver p none).after g).keeper.store = g.keeper.store := by
  obtain ⟨es, -, hafter⟩ := ensures_verify deliver p none g
  have hkept : (((g.plan p none).perform deliver p).after (g.told es)).keeper.store =
      (g.told es).keeper.store := by
    refine store_after_perform_of_not_issued (fun code hcode => ?_) fun terms hplan x hx => ?_
    · cases (plan_eq_check_iff.mp hcode).2.2
    · exact hno x ⟨terms, hplan, (answer_generate_told g es _ _ _ _).symm.trans hx⟩
  exact (store_eq_of_hush hafter).trans hkept

/-- With couriers that deliver or fail as deliveries do, the code of an issued record is asked
for, or its delivery failed. -/
theorem Frank.answer_of_issues (hfrank : Frank deliver) {x : Issued} (hissues : g.Issues p x) :
    (∃ prompt, ((verify deliver p none).run g).1 = .ok (.needsInput prompt)) ∨
      ∃ cause, ((verify deliver p none).run g).1 = .ok (.refuse .deliveryFailed cause) := by
  obtain ⟨terms, hplan, hx⟩ := hissues
  obtain ⟨es, hanswer, -⟩ := ensures_verify deliver p none g
  rw [hanswer, hplan]
  obtain ⟨e, he, -⟩ | ⟨-, -, ⟨prompt, ha⟩ | ⟨cause, ha⟩⟩ :=
    hfrank.answer_issue p terms (g.told es)
  · rw [answer_generate_told] at he
    cases he.symm.trans hx
  · exact .inl ⟨prompt, by rw [ha]; rfl⟩
  · exact .inr ⟨cause, by rw [ha]; rfl⟩

/-- With couriers that leave the store alone, a challenge leaves in the store what was there,
and in place of what was there for the user the record it issues, unless the answer is that
the delivery failed. If the couriers only fail as deliveries do, an issued record that is not
asked for is answered in that way. -/
theorem left_after_challenge_iff (hspare : Sparing deliver) (p : Principal) (g : Gate κ ω) :
    (∀ id x, ((verify deliver p none).after g).keeper.store.find? id = some x ↔
        (id = p.identifier ∧ g.Issues p x ∧
          ∀ cause, ((verify deliver p none).run g).1 ≠ .ok (.refuse .deliveryFailed cause)) ∨
        (g.keeper.store.find? id = some x ∧ (id = p.identifier → ∀ y, ¬ g.Issues p y))) ∧
      (Frank deliver → ∀ x, g.Issues p x →
        (∃ prompt, ((verify deliver p none).run g).1 = .ok (.needsInput prompt)) ∨
          ∃ cause, ((verify deliver p none).run g).1 = .ok (.refuse .deliveryFailed cause)) := by
  refine ⟨fun id y => ?_, fun hfrank x hissues => hfrank.answer_of_issues hissues⟩
  by_cases hissues : ∃ x, g.Issues p x
  · obtain ⟨x, hx⟩ := hissues
    have hissued : ∀ y, g.Issues p y ↔ y = x := fun y => ⟨hx.unique, fun hy => hy ▸ hx⟩
    rw [hx.find?_after_iff hspare]
    simp [hissued]
  · have hnone : ∀ x, ¬ g.Issues p x := not_exists.mp hissues
    rw [store_after_challenge_of_not_issues deliver hnone]
    simp [hnone]

/-! ## Mail that cannot be composed -/

/-- Settings with a sender that takes more than one line. They can be built. -/
def misaddressed : Settings :=
  { Settings.usual with mailSender := .text "otp@example.com\nBcc: eve@example.com" }

def misaddressedMailer : Mailer :=
  { sender := .text "otp@example.com\nBcc: eve@example.com", timeout := .int 10 }

/-- A gate that sends mail under settings with a sender that takes more than one line. -/
def misaddressing : Gate (Carrier Empty) Wire :=
  fresh misaddressed .empty (.mail misaddressedMailer) {}

/-- The record of a challenge that could not be mailed is the one that is left. -/
theorem issued_without_mail :
    misaddressing.Issues (.withMail "alice" "alice@example.com")
        ⟨0, "000000", ⟨301000000, by decide⟩⟩ ∧
      ∀ cause, ((verify overWire (.withMail "alice" "alice@example.com") none).run
        misaddressing).1 ≠ .ok (.refuse .deliveryFailed cause) := by
  have hleft := (left_after_challenge_iff sparing_overWire
    (.withMail "alice" "alice@example.com") misaddressing).1 "alice"
      ⟨0, "000000", ⟨301000000, by decide⟩⟩
  obtain ⟨-, hissues, hanswer⟩ | ⟨hbefore, -⟩ := hleft.mp (by decide +kernel)
  · exact ⟨hissues, hanswer⟩
  · have hnone : misaddressing.keeper.store.find? "alice" = none := rfl
    exact absurd (hnone.symm.trans hbefore) (by simp)

/-- The settings are accepted, no mail can be composed under them, and the code of a challenge
is in the store all the same afterwards, good for what any code is good for. -/
theorem code_left_without_mail :
    Settings.build
        { mailSender := .text "otp@example.com\nBcc: eve@example.com"
          mailTimeout := .int 10
          sweepInterval := .int 60 } = .ok misaddressed ∧
      Mailer.ofSettings misaddressed = .ok misaddressedMailer ∧
      ((verify overWire (.withMail "alice" "alice@example.com") none).run misaddressing).1 =
        .error (.misuse .severalHeaderLines) ∧
      misaddressing.keeper.store.find? "alice" = none ∧
      ((verify overWire (.withMail "alice" "alice@example.com") none).after
        misaddressing).keeper.store.find? "alice" = some ⟨0, "000000", ⟨301000000, by decide⟩⟩ :=
  ⟨rfl, rfl, by decide +kernel, rfl, by decide +kernel⟩

end Passcode.Gate
