import Passcode.Proofs.Couriers
import Passcode.Proofs.Issuing
import Passcode.Proofs.Turns

/-!
# Every answer is counted and announced once

An attempt that returns is counted under the label of its outcome, and its last event announces
that outcome; a challenge that was sent and a delivery that failed are counted for their channel
as well. An attempt that fails is counted nowhere.

What an attempt does before it is finished leaves the counters alone and announces nothing
(`World.Silent`), but for the two things that sending a record out counts (`Gate.Billed`). So
each step adds to the counters what its answer says (`Turn.tallied_step`), and a run adds up
(`Turn.answers_accounted`).
-/

namespace Passcode

open Passcode.Action Run

/-- The counters alone, without the number of outstanding codes and the durations. -/
def Metrics.counters (m : Metrics) : Metrics := { m with active := .int 0, sweeps := {} }

theorem Metrics.counters_eq_iff {m m' : Metrics} : m'.counters = m.counters ↔
    m'.challenges = m.challenges ∧ m'.outcomes = m.outcomes ∧
      m'.deliveryFailures = m.deliveryFailures := by
  simp [counters]

/-- What is counted for one channel is not counted for another. -/
theorem Counter.count_increment_word (n : Counter) (c d : Channel) :
    (n.increment (Vocabulary.word c)).count (Vocabulary.word d) =
      n.count (Vocabulary.word d) + if c = d then 1 else 0 := by
  rw [count_increment]
  cases c <;> cases d <;> rfl

def Event.announcements : List String :=
  ["otp_verification_passed", "otp_challenge_issued", "otp_verification_rejected"]

def Event.announces : Event → Bool
  | verificationPassed .. | challengeIssued .. | verificationRejected .. => true
  | _ => false

theorem Event.name_mem_announcements_iff {e : Event} :
    e.name ∈ announcements ↔ e.announces = true := by
  cases e <;> simp [announcements, announces, name]

/-- Whether an outcome is counted under its label and nowhere else. -/
def Outcome.isPlain : Outcome → Bool
  | needsInput _ | rejected .deliveryFailed .. => false
  | _ => true

namespace World

/-- The counters have changed in a certain way, and nothing was announced. -/
structure Charged (f : Metrics → Metrics) (w w' : World) : Prop where
  counters : w'.metrics.counters = f w.metrics.counters
  log : ∃ es, w'.log = w.log ++ es ∧ ∀ e ∈ es, e.announces = false

/-- Nothing was counted, and nothing was announced. -/
abbrev Silent : World → World → Prop := Charged id

variable {f : Metrics → Metrics} {w w₁ w₂ : World}

theorem silent_refl (w : World) : w.Silent w :=
  ⟨rfl, [], (List.append_nil _).symm, fun _ he => absurd he List.not_mem_nil⟩

theorem Charged.after_silent (h' : w₁.Charged f w₂) (h : w.Silent w₁) : w.Charged f w₂ := by
  obtain ⟨es, hes, hquiet⟩ := h.log
  obtain ⟨fs, hfs, hquiet'⟩ := h'.log
  refine ⟨h'.counters.trans (congrArg f h.counters), es ++ fs, ?_, fun e he => ?_⟩
  · rw [hfs, hes, List.append_assoc]
  · exact (List.mem_append.mp he).elim (hquiet e) (hquiet' e)

theorem Charged.told (h : w.Charged f w₁) {es : List Event}
    (hes : ∀ e ∈ es, e.announces = false) : w.Charged f (w₁.told es) := by
  obtain ⟨fs, hfs, hquiet⟩ := h.log
  refine ⟨h.counters, fs ++ es, ?_, fun e he => ?_⟩
  · rw [World.told, hfs, List.append_assoc]
  · exact (List.mem_append.mp he).elim (hquiet e) (hes e)

theorem Charged.told_one (h : w.Charged f w₁) {e : Event} (he : e.announces = false) :
    w.Charged f (w₁.told [e]) :=
  h.told fun _ hx => List.mem_singleton.mp hx ▸ he

end World

def World.concluded (w : World) (id : String) (o : Outcome) : World :=
  { w.told [Gate.outcomeEvent id o] with metrics := w.metrics.countOutcome o.label }

/-! ## What policies and the keeper do -/

theorem Tier.keeps_silent_resolve {α : Type} (w : World) (p : Principal) (groups : List Group)
    (a : Attribute) (r : Reader α) (fallback : α) :
    Keeps w.Silent (resolve p groups a r fallback) := by
  refine (keeps_lift _).bind fun x => Keeps.bind (fun w' h => ?_) fun _ => keeps_pure _
  exact h.told_one rfl

namespace Policy

variable (w : World) (s : Settings) (p : Principal) (groups : List Group)

theorem keeps_silent_disabledFor : Keeps w.Silent (disabledFor s p groups) := by
  refine (Tier.keeps_silent_resolve w p groups _ _ _).bind fun x => ?_
  dsimp only
  split
  · exact Keeps.bind (fun w' h => h.told_one rfl) fun _ => keeps_pure _
  · exact keeps_pure _

theorem keeps_silent_resolve (known : Value) :
    Keeps w.Silent (resolve s p groups (some known)) := by
  have hone : ∀ {α : Type} (a : Attribute) (r : Reader α) (fallback : α), Keeps w.Silent
      (do return (← Tier.resolve p (Group.sort groups) a r fallback).1) :=
    fun a r fallback => (Tier.keeps_silent_resolve w p _ a r fallback).bind fun _ => keeps_pure _
  exact (hone .method _ _).bind fun _ => (hone .timeout _ _).bind fun _ =>
    (hone .length _ _).bind fun _ => (hone .alphabet _ _).bind fun _ => keeps_pure _

end Policy

namespace Keeper

variable (w : World)

theorem keeps_silent_generate (id : String) (length timeout : Int) (alphabet : Alphabet) :
    Keeps (fun k => w.Silent k.world) (generate id length timeout alphabet) :=
  keeps_generate (fun _ _ h => ⟨h.counters, h.log⟩) (fun _ h => ⟨h.counters, h.log⟩)
    (fun _ h => ⟨h.counters, h.log⟩) fun k _ _ s h _ => by
      have hkept : w.Silent (k.keeping s).world := ⟨h.counters, h.log⟩
      exact hkept.told_one rfl

theorem keeps_silent_generateFrom (id : String) (length timeout : Int) (alphabet : Held Alphabet) :
    Keeps (fun k => w.Silent k.world) (generateFrom id length timeout alphabet) := by
  cases halphabet : alphabet.demand with
  | ok a =>
      rw [generateFrom_of_demand halphabet]
      exact keeps_silent_generate w id length timeout a
  | error e =>
      intro k h
      rw [after, run_generateFrom_of_error halphabet]
      exact h

theorem keeps_silent_check (id : String) (c : Option Glyphs) :
    Keeps (fun k => w.Silent k.world) (check id c) := by
  intro k h
  unfold after
  cases ht : k.world.reading? with
  | none =>
      rw [run_check_of_silence ht]
      exact ⟨h.counters, h.log⟩
  | some now =>
      rw [run_check_of_reading ht]
      cases k.store.verdict now id c with
      | error e => exact h
      | ok a =>
          have hkept : w.Silent (k.keeping (k.store.settled id a)).world := ⟨h.counters, h.log⟩
          exact hkept.told_one rfl

end Keeper

/-! ## One attempt -/

namespace Gate

variable {κ ω : Type}

/-- Couriers that count nothing and announce nothing. -/
def Discreet (deliver : Deliver κ ω) : Prop :=
  ∀ courier recipients r (g : Gate κ ω),
    g.keeper.world.Silent ((deliver courier recipients r).after g).keeper.world

/-- Mail is reported by events of its own, text messages and others report nothing. -/
theorem discreet_carrier (transport : Action Wire Unit → Action ω Unit)
    (others : κ → List String → Issued → Action ω Receipt) :
    Discreet (Carrier.deliver transport others) := by
  intro courier recipients r g
  cases courier with
  | mail m =>
      have hkeeps : Keeps (fun h : Gate (Carrier κ) ω => g.keeper.world.Silent h.keeper.world)
          (m.send (fun a => inOutside (transport a)) report recipients r.record) :=
        m.keeps_send recipients (fun _ _ h => h) (fun _ _ h => h.told_one rfl)
          (fun _ h => h.told_one rfl) r.record
      exact hkeeps g (World.silent_refl _)
  | texts t => exact World.silent_refl _
  | other courier => exact World.silent_refl _

/-- The channel that codes for a user are to be sent by. -/
def channel? (g : Gate κ ω) (p : Principal) : Option Channel :=
  ((Policy.channelFor g.settings p (g.directory.groupsOf p)).run
    g.keeper.world).1.toOption.bind (·.demand.toOption)

/-- What was counted and announced when an attempt has come to an answer that is still to be
counted and announced itself. -/
inductive Billed (c? : Option Channel) (w w' : World) : Except Failure Outcome → Prop
  | challenge {prompt}
      (h : w.Charged (·.countChallenge (Vocabulary.word prompt.channel)) w') :
      Billed c? w w' (.ok (.needsInput prompt))
  | undelivered {c message cause} (hc : c? = some c)
      (h : w.Charged (·.countDeliveryFailure (Vocabulary.word c)) w') :
      Billed c? w w' (.ok (.rejected .deliveryFailed message cause))
  | plain {o} (ho : o.isPlain = true) (h : w.Silent w') : Billed c? w w' (.ok o)
  | failed {e} (h : w.Silent w') : Billed c? w w' (.error e)

theorem Billed.after_silent {c? : Option Channel} {w w₁ w₂ : World} {a : Except Failure Outcome}
    (h' : Billed c? w₁ w₂ a) (h : w.Silent w₁) : Billed c? w w₂ a := by
  cases h' with
  | challenge h' => exact .challenge (h'.after_silent h)
  | undelivered hc h' => exact .undelivered hc (h'.after_silent h)
  | plain ho h' => exact .plain ho (h'.after_silent h)
  | failed h' => exact .failed (h'.after_silent h)

theorem Billed.log {c? : Option Channel} {w w' : World} {a : Except Failure Outcome}
    (h : Billed c? w w' a) : ∃ es, w'.log = w.log ++ es ∧ ∀ e ∈ es, e.announces = false := by
  cases h with
  | challenge h | undelivered _ h | plain _ h | failed h => exact h.log

theorem silent_of_tells {α : Type} {a : Action World α} {r : Except Failure α}
    (hsilent : ∀ w, Keeps (World.Silent w) a) (htells : World.Tells r a) :
    ∃ es, (∀ g : Gate κ ω, (inWorld a).run g = (r, g.told es)) ∧
      ∀ w, World.Silent w (w.told es) := by
  obtain ⟨es, hes⟩ := htells
  refine ⟨es, fun g => ?_, fun w => ?_⟩
  · rw [run_inWorld, hes]
    rfl
  · have h := hsilent w w (World.silent_refl w)
    rwa [after, hes] at h

theorem channel?_eq (g : Gate κ ω) (p : Principal) : g.channel? p =
    (Tier.value p (g.directory.groupsOf p) .method .held
      g.settings.defaultMethod).toOption.bind (·.demand.toOption) := by
  obtain ⟨es, hes⟩ := Tier.tells_value p (g.directory.groupsOf p) .method .held
    g.settings.defaultMethod
  rw [channel?, Policy.channelFor, hes]

theorem channel?_told (g : Gate κ ω) (es : List Event) (p : Principal) :
    (g.told es).channel? p = g.channel? p := by
  rw [channel?_eq, channel?_eq]
  rfl

theorem channel?_of_settled {g : Gate κ ω} {p : Principal} {policy : Policy}
    (h : Policy.settled g.settings p (g.directory.groupsOf p) = .ok policy) :
    g.channel? p = policy.channel.demand.toOption := by
  rw [channel?_eq]
  unfold Policy.settled at h
  obtain ⟨channel, hchannel, h⟩ := ok_of_bind h
  obtain ⟨timeout, -, h⟩ := ok_of_bind h
  obtain ⟨length, -, h⟩ := ok_of_bind h
  obtain ⟨alphabet, -, h⟩ := ok_of_bind h
  obtain rfl := Except.ok.inj h
  rw [hchannel]
  rfl

theorem billed_respond (c? : Option Channel) (p : Principal) (code : Glyphs) (g : Gate κ ω) :
    (respond p code).Ensures g fun a g' => Billed c? g.keeper.world g'.keeper.world a := by
  have hcheck : (inKeeper (Keeper.check p.identifier (some code))).Ensures g fun _ g₁ =>
      g.keeper.world.Silent g₁.keeper.world :=
    Keeper.keeps_silent_check _ _ _ g.keeper (World.silent_refl _)
  refine hcheck.bind ?_ ?_
  · intro result g₁ h
    cases result <;> exact .plain rfl h
  · intro e g₁ h
    exact .failed h

theorem billed_recover (c? : Option Channel) (p : Principal) (e : Failure) (g : Gate κ ω) :
    (recover p e).Ensures g fun a g' => Billed c? g.keeper.world g'.keeper.world a := by
  have hsilent := World.silent_refl g.keeper.world
  unfold recover
  split
  · exact .plain rfl (hsilent.told_one rfl)
  · exact .plain rfl (hsilent.told_one rfl)
  · exact .failed hsilent

/-- What comes to an answer before the end has at most sent a record out; the end announces the
answer and counts it. -/
theorem ensures_finish {c? : Option Channel} {p : Principal} {g : Gate κ ω}
    {a : Action (Gate κ ω) Outcome}
    (ha : a.Ensures g fun r g' => Billed c? g.keeper.world g'.keeper.world r) :
    (a >>= finish p).Ensures g fun r g' =>
      (∃ f, r = .error f ∧ g.keeper.world.Silent g'.keeper.world) ∨
        ∃ o w, r = .ok o ∧ Billed c? g.keeper.world w (.ok o) ∧
          g'.keeper.world = w.concluded p.identifier o := by
  refine ha.bind ?_ ?_
  · intro o g₁ h
    exact .inr ⟨o, g₁.keeper.world, rfl, h, rfl⟩
  · intro e g₁ h
    cases h with
    | failed h => exact .inl ⟨e, rfl, h⟩

section Attempt

variable {deliver : Deliver κ ω} (hdiscreet : Discreet deliver)
include hdiscreet

theorem Discreet.silent_dispatch (c : Channel) (p : Principal) (r : Issued) (g : Gate κ ω) :
    g.keeper.world.Silent ((dispatch deliver c p r).after g).keeper.world := by
  unfold after
  rw [run_dispatch]
  cases g.routes.courier c with
  | error e => exact World.silent_refl _
  | ok courier =>
      have htold := (World.silent_refl g.keeper.world).told_one
        (e := .dispatching p.identifier c (p.recipients c).length) rfl
      exact (hdiscreet courier _ r _).after_silent htold

theorem Discreet.billed_sendOut (c : Channel) (p : Principal) (r : Issued) (g : Gate κ ω) :
    (sendOut deliver c p r).Ensures g fun a g' =>
      Billed (some c) g.keeper.world g'.keeper.world a := by
  have hdispatch := hdiscreet.silent_dispatch c p r g
  unfold after at hdispatch
  unfold Ensures sendOut
  rw [run_bind, run_attempt]
  rcases hd : (dispatch deliver c p r).run g with ⟨e | receipt, h⟩ <;> rw [hd] at hdispatch
  · dsimp only
    split
    · next heq => cases heq
    · next fault message channel heq =>
      have hcounted : g.keeper.world.Charged (·.countDeliveryFailure (Vocabulary.word c))
          ((h.keeper.keeping (h.keeper.store.discard p.identifier r).2).metered
            (·.countDeliveryFailure (Vocabulary.word c))).world :=
        ⟨congrArg (Metrics.countDeliveryFailure · (Vocabulary.word c)) hdispatch.counters,
          hdispatch.log⟩
      exact .undelivered rfl (hcounted.told_one rfl)
    · exact .failed hdispatch
  · exact .challenge ⟨congrArg (Metrics.countChallenge · (Vocabulary.word c)) hdispatch.counters,
      hdispatch.log⟩

theorem Discreet.billed_issue (c : Channel) (p : Principal) (policy : Policy) (g : Gate κ ω) :
    (do
      let r ← inKeeper
        (Keeper.generateFrom p.identifier policy.length policy.timeout policy.alphabet)
      sendOut deliver c p r).Ensures g fun a g' =>
        Billed (some c) g.keeper.world g'.keeper.world a := by
  have hgenerate : (inKeeper (Keeper.generateFrom p.identifier policy.length policy.timeout
      policy.alphabet)).Ensures g fun _ g₁ => g.keeper.world.Silent g₁.keeper.world :=
    Keeper.keeps_silent_generateFrom _ _ _ _ _ g.keeper (World.silent_refl _)
  refine hgenerate.bind ?_ ?_
  · intro r g₁ h
    exact (hdiscreet.billed_sendOut c p r g₁).after_silent h
  · intro e g₁ h
    exact .failed h

theorem Discreet.billed_challenge (p : Principal) (g : Gate κ ω) :
    (challenge deliver p (g.directory.groupsOf p)).Ensures g fun a g' =>
      Billed (g.channel? p) g.keeper.world g'.keeper.world a := by
  obtain ⟨es, hrun, hsilent⟩ := silent_of_tells (Policy.keeps_silent_resolve · g.settings p
    (g.directory.groupsOf p) _) (Policy.tells_resolve g.settings p (g.directory.groupsOf p))
  unfold Ensures
  rw [challenge, run_bind_of_ok (run_get g)]
  cases hpolicy : Policy.settled g.settings p (g.directory.groupsOf p) with
  | error e =>
      rw [run_bind_of_error (hpolicy ▸ hrun g)]
      exact .failed (hsilent _)
  | ok policy =>
      rw [run_bind_of_ok (hpolicy ▸ hrun g), channel?_of_settled hpolicy]
      cases policy.channel.demand with
      | error e =>
          rw [run_bind_of_error (run_lift _ _)]
          exact .failed (hsilent _)
      | ok c =>
          rw [run_bind_of_ok (run_lift _ _)]
          split
          · rw [missingAttributes, run_bind_of_ok (run_get _)]
            split <;> exact .plain rfl ((hsilent _).told_one rfl)
          · exact (hdiscreet.billed_issue c p policy (g.told es)).after_silent (hsilent _)

theorem Discreet.billed_decide (p : Principal) (response : Option Glyphs) (g : Gate κ ω) :
    (decide deliver p response).Ensures g fun a g' =>
      Billed (g.channel? p) g.keeper.world g'.keeper.world a := by
  obtain ⟨es, hrun, hsilent⟩ := silent_of_tells (Policy.keeps_silent_disabledFor · g.settings p
    (g.directory.groupsOf p)) (Policy.tells_disabledFor g.settings p (g.directory.groupsOf p))
  unfold Ensures
  rw [decide, run_bind_of_ok (run_get g)]
  cases hswitch : Policy.switch g.settings p (g.directory.groupsOf p) with
  | error e =>
      rw [run_bind_of_error (hswitch ▸ hrun g)]
      exact .failed (hsilent _)
  | ok v =>
      rw [run_bind_of_ok (hswitch ▸ hrun g)]
      split
      · exact .plain rfl (hsilent _)
      · cases response with
        | none =>
            rw [← channel?_told g es]
            exact (hdiscreet.billed_challenge p (g.told es)).after_silent (hsilent _)
        | some code =>
            exact (billed_respond _ p code (g.told es)).after_silent (hsilent _)

theorem Discreet.ensures_verify (p : Principal) (response : Option Glyphs) (g : Gate κ ω) :
    (verify deliver p response).Ensures g fun r g' =>
      (∃ f, r = .error f ∧ g.keeper.world.Silent g'.keeper.world) ∨
        ∃ o w, r = .ok o ∧ Billed (g.channel? p) g.keeper.world w (.ok o) ∧
          g'.keeper.world = w.concluded p.identifier o := by
  unfold verify
  split
  · exact ensures_finish (a := Pure.pure _) (.plain rfl (World.silent_refl _))
  · refine ensures_finish ?_
    have hdecide := hdiscreet.billed_decide p response g
    unfold Ensures at hdecide ⊢
    rw [run_tryCatch]
    rcases hd : (decide deliver p response).run g with ⟨e | o, g₁⟩ <;> rw [hd] at hdecide
    · -- a failure left no trace in the counters, and recovering from it leaves none either
      cases hdecide with
      | failed h => exact (billed_recover _ p e g₁).after_silent h
    · exact hdecide

end Attempt

end Gate

/-! ## One step -/

namespace Turn

variable {κ ω : Type}

/-- A step that was taken at a gate. -/
abbrev Taken (κ ω : Type) := Step Turn (Gate κ ω) (Option Outcome)

/-- The step is an attempt that returned an outcome with a label. -/
def answered (label : String) (e : Taken κ ω) : Bool :=
  match e.answer with
  | .ok (some o) => o.label = label
  | _ => false

/-- The step is an attempt that ended in a request for a code sent by a channel. -/
def asked (c : Channel) (e : Taken κ ω) : Bool :=
  match e.answer with
  | .ok (some (.needsInput prompt)) => prompt.channel = c
  | _ => false

/-- The step is an attempt that was refused because a delivery by a channel failed. -/
def undelivered (c : Channel) (e : Taken κ ω) : Bool :=
  match e.input, e.answer with
  | .verify p _, .ok (some (.rejected .deliveryFailed _ _)) => e.before.channel? p = some c
  | _, _ => false

/-- The counters have gone up by what the answers of a history say. -/
structure Tallied (m : Metrics) (h : List (Taken κ ω)) (m' : Metrics) : Prop where
  outcomes : ∀ label,
    m'.outcomes.count label = m.outcomes.count label + h.countP (answered label)
  challenges : ∀ c, m'.challenges.count (Vocabulary.word c) =
    m.challenges.count (Vocabulary.word c) + h.countP (asked c)
  deliveryFailures : ∀ c, m'.deliveryFailures.count (Vocabulary.word c) =
    m.deliveryFailures.count (Vocabulary.word c) + h.countP (undelivered c)

theorem Tallied.append {m m₁ m₂ : Metrics} {h h' : List (Taken κ ω)} (hm : Tallied m h m₁)
    (hm' : Tallied m₁ h' m₂) : Tallied m (h ++ h') m₂ where
  outcomes label := by rw [hm'.outcomes, hm.outcomes, List.countP_append, Nat.add_assoc]
  challenges c := by rw [hm'.challenges, hm.challenges, List.countP_append, Nat.add_assoc]
  deliveryFailures c := by
    rw [hm'.deliveryFailures, hm.deliveryFailures, List.countP_append, Nat.add_assoc]

/-- A step that returned no outcome adds nothing if the counters stayed. -/
theorem Tallied.of_counters {m m' : Metrics} {e : Taken κ ω} (hnone : ∀ o, e.answer ≠ .ok (some o))
    (h : m'.counters = m.counters) : Tallied m [e] m' := by
  obtain ⟨hchallenges, houtcomes, hfailures⟩ := Metrics.counters_eq_iff.mp h
  refine ⟨fun label => ?_, fun c => ?_, fun c => ?_⟩
  · rw [houtcomes, List.countP_singleton, answered]
    split
    · next o ho => exact absurd ho (hnone o)
    · rfl
  · rw [hchallenges, List.countP_singleton, asked]
    split
    · next prompt ho => exact absurd ho (hnone _)
    · rfl
  · rw [hfailures, List.countP_singleton, undelivered]
    split
    · next p response message cause _ ho => exact absurd ho (hnone _)
    · rfl

section Billed

variable {g g' : Gate κ ω} {w : World} {p : Principal} {response : Option Glyphs} {o : Outcome}

theorem count_outcomes_of_billed
    (h : Gate.Billed (g.channel? p) g.keeper.world w (.ok o)) (label : String) :
    (w.metrics.countOutcome o.label).outcomes.count label =
      g.keeper.world.metrics.outcomes.count label +
        [(⟨.verify p response, g, .ok (some o), g'⟩ : Taken κ ω)].countP (answered label) := by
  have houtcomes : w.metrics.outcomes = g.keeper.world.metrics.outcomes := by
    cases h with
    | challenge h | undelivered _ h | plain _ h =>
        have houtcomes := congrArg Metrics.outcomes h.counters
        exact houtcomes
  rw [Metrics.countOutcome, Counter.count_increment, houtcomes, List.countP_singleton]
  simp [answered, eq_comm]

theorem count_challenges_of_billed
    (h : Gate.Billed (g.channel? p) g.keeper.world w (.ok o)) (c : Channel) :
    w.metrics.challenges.count (Vocabulary.word c) =
      g.keeper.world.metrics.challenges.count (Vocabulary.word c) +
        [(⟨.verify p response, g, .ok (some o), g'⟩ : Taken κ ω)].countP (asked c) := by
  rw [List.countP_singleton]
  cases h with
  | @challenge prompt h =>
      have hchallenges := congrArg Metrics.challenges h.counters
      have hone := g.keeper.world.metrics.challenges.count_increment_word prompt.channel c
      refine (congrArg (Counter.count · (Vocabulary.word c)) hchallenges).trans (hone.trans ?_)
      simp [asked]
  | undelivered _ h =>
      have hchallenges := congrArg Metrics.challenges h.counters
      exact congrArg (Counter.count · (Vocabulary.word c)) hchallenges
  | plain ho h =>
      have hchallenges := congrArg Metrics.challenges h.counters
      have hno : asked c (⟨.verify p response, g, .ok (some o), g'⟩ : Taken κ ω) = false := by
        cases o with
        | needsInput prompt => cases ho
        | _ => rfl
      rw [hno]
      exact congrArg (Counter.count · (Vocabulary.word c)) hchallenges

theorem count_deliveryFailures_of_billed
    (h : Gate.Billed (g.channel? p) g.keeper.world w (.ok o)) (c : Channel) :
    w.metrics.deliveryFailures.count (Vocabulary.word c) =
      g.keeper.world.metrics.deliveryFailures.count (Vocabulary.word c) +
        [(⟨.verify p response, g, .ok (some o), g'⟩ : Taken κ ω)].countP (undelivered c) := by
  rw [List.countP_singleton]
  cases h with
  | challenge h =>
      have hfailures := congrArg Metrics.deliveryFailures h.counters
      exact congrArg (Counter.count · (Vocabulary.word c)) hfailures
  | @undelivered d message cause hd h =>
      have hfailures := congrArg Metrics.deliveryFailures h.counters
      have hone := g.keeper.world.metrics.deliveryFailures.count_increment_word d c
      refine (congrArg (Counter.count · (Vocabulary.word c)) hfailures).trans (hone.trans ?_)
      simp [undelivered, hd]
  | plain ho h =>
      have hfailures := congrArg Metrics.deliveryFailures h.counters
      have hno : undelivered c (⟨.verify p response, g, .ok (some o), g'⟩ : Taken κ ω) = false := by
        unfold undelivered
        split
        · next heq =>
          cases heq
          cases ho
        · rfl
      rw [hno]
      exact congrArg (Counter.count · (Vocabulary.word c)) hfailures

end Billed

variable {deliver : Gate.Deliver κ ω}

theorem step_verify (g : Gate κ ω) (p : Principal) (response : Option Glyphs) :
    step (perform deliver) g (.verify p response) =
      ⟨.verify p response, g, ((Gate.verify deliver p response).run g).1.map some,
        ((Gate.verify deliver p response).run g).2⟩ := by
  unfold step after
  rw [perform, run_map]

theorem tallied_verify (hdiscreet : Gate.Discreet deliver) (g : Gate κ ω) (p : Principal)
    (response : Option Glyphs) :
    Tallied g.keeper.world.metrics [step (perform deliver) g (.verify p response)]
      (step (perform deliver) g (.verify p response)).after.keeper.world.metrics := by
  rw [step_verify]
  obtain ⟨f, hanswer, hsilent⟩ | ⟨o, w, hanswer, hbilled, hworld⟩ :=
    hdiscreet.ensures_verify p response g
  · rw [hanswer]
    exact .of_counters (fun o ho => by cases ho) hsilent.counters
  · rw [hanswer]
    dsimp only [Except.map]
    rw [hworld]
    refine ⟨count_outcomes_of_billed hbilled, fun c => ?_, fun c => ?_⟩
    · exact count_challenges_of_billed (w := w) hbilled c
    · exact count_deliveryFailures_of_billed (w := w) hbilled c

/-- Nothing but an attempt returns an outcome. -/
theorem answer_of_other {t : Turn} (ht : ∀ p response, t ≠ .verify p response) (g : Gate κ ω)
    (o : Outcome) : ((t.perform deliver).run g).1 ≠ .ok (some o) := by
  have hnone : ∀ {α : Type} (a : Action (Gate κ ω) α),
      (((fun _ => none) <$> a).run g).1 ≠ .ok (some o) := by
    intro α a
    rw [run_map]
    cases (a.run g).1 <;> simp [Except.map]
  cases t with
  | verify p response => exact absurd rfl (ht p response)
  | _ => exact hnone _

/-- Nothing but an attempt touches the counters. -/
theorem counters_after_other {t : Turn} (ht : ∀ p response, t ≠ .verify p response)
    (g : Gate κ ω) : ((t.perform deliver).after g).keeper.world.metrics.counters =
      g.keeper.world.metrics.counters := by
  unfold after
  cases t with
  | verify p response => exact absurd rfl (ht p response)
  | loggedIn p =>
      rw [perform, run_map]
      cases hp : p.isAnonymous with
      | true => rw [Gate.run_loggedIn_of_anonymous hp]
      | false =>
          rw [Gate.run_loggedIn_of_named hp, after, Keeper.run_invalidate]
          rfl
  | sweep duration =>
      rw [perform, run_map, Gate.run_inKeeper]
      cases hnow : g.keeper.world.reading? with
      | none =>
          rw [Keeper.run_sweep_of_silence hnow]
          rfl
      | some now =>
          rw [Keeper.run_sweep_of_reading hnow]
          rfl
  | shutdown =>
      rw [perform, run_map, Gate.run_shutdown, after, Keeper.run_shutdown]
      rfl
  | _ => rfl

theorem tallied_step (hdiscreet : Gate.Discreet deliver) (g : Gate κ ω) (t : Turn) :
    Tallied g.keeper.world.metrics [step (perform deliver) g t]
      (step (perform deliver) g t).after.keeper.world.metrics := by
  by_cases ht : ∃ p response, t = .verify p response
  · obtain ⟨p, response, rfl⟩ := ht
    exact tallied_verify hdiscreet g p response
  · have hother : ∀ p response, t ≠ .verify p response := fun p response h =>
      ht ⟨p, response, h⟩
    exact .of_counters (answer_of_other hother g) (counters_after_other hother g)

/-! ## What is announced -/

/-- The event that announces an outcome of a user: its name and its fields. -/
def announcement (id : String) : Outcome → String × List (String × Value)
  | .verified bypass =>
    ("otp_verification_passed", [("identifier", .text id),
      ("bypass", match bypass with
        | some b => .text (Vocabulary.word b)
        | none => .none)])
  | .needsInput prompt =>
    ("otp_challenge_issued", [("identifier", .text id),
      ("channel", .text (Vocabulary.word prompt.channel))])
  | .rejected reason _ cause =>
    ("otp_verification_rejected", [("identifier", .text id),
      ("reason", .text (Vocabulary.word reason)), ("code", .text cause.code)])

theorem announcement_eq (id : String) (o : Outcome) :
    ((Gate.outcomeEvent id o).name, (Gate.outcomeEvent id o).fields) = announcement id o := by
  rcases o with (_ | b) | prompt | _ <;> rfl

/-- An attempt that returned has announced its outcome at the very end, and nothing before that.
An attempt that failed has announced nothing and counted nothing. -/
structure Announced (e : Taken κ ω) : Prop where
  returned : ∀ p response o, e.input = .verify p response → e.answer = .ok (some o) →
    ∃ es last, e.after.keeper.world.log = e.before.keeper.world.log ++ es ++ [last] ∧
      (∀ x ∈ es, x.name ∉ Event.announcements) ∧
      (last.name, last.fields) = announcement p.identifier o
  escaped : ∀ p response f, e.input = .verify p response → e.answer = .error f →
    e.after.keeper.world.metrics.counters = e.before.keeper.world.metrics.counters ∧
      ∃ es, e.after.keeper.world.log = e.before.keeper.world.log ++ es ∧
        ∀ x ∈ es, x.name ∉ Event.announcements

theorem announced_step (hdiscreet : Gate.Discreet deliver) (g : Gate κ ω) (t : Turn) :
    Announced (step (perform deliver) g t) := by
  refine ⟨?_, ?_⟩
  · rintro p response o rfl hreturned
    rw [step_verify] at hreturned ⊢
    obtain ⟨f, hanswer, -⟩ | ⟨o', w, hanswer, hbilled, hworld⟩ :=
      hdiscreet.ensures_verify p response g
    · rw [hanswer] at hreturned
      cases hreturned
    · rw [hanswer] at hreturned
      cases hreturned
      obtain ⟨es, hes, hquiet⟩ := hbilled.log
      refine ⟨es, Gate.outcomeEvent p.identifier o, ?_, fun x hx => ?_,
        announcement_eq p.identifier o⟩
      · dsimp only
        rw [hworld, ← hes]
        rfl
      · rw [Event.name_mem_announcements_iff, hquiet x hx]
        exact Bool.false_ne_true
  · rintro p response f rfl hfailed
    rw [step_verify] at hfailed ⊢
    obtain ⟨-, -, hsilent⟩ | ⟨o, w, hanswer, -⟩ := hdiscreet.ensures_verify p response g
    · obtain ⟨es, hes, hquiet⟩ := hsilent.log
      refine ⟨hsilent.counters, es, hes, fun x hx => ?_⟩
      rw [Event.name_mem_announcements_iff, hquiet x hx]
      exact Bool.false_ne_true
    · rw [hanswer] at hfailed
      cases hfailed

/-! ## Every run -/

theorem tallied_run (hdiscreet : Gate.Discreet deliver) (g : Gate κ ω) (turns : List Turn) :
    Tallied g.keeper.world.metrics (trace (perform deliver) g turns)
      (final (perform deliver) g turns).keeper.world.metrics := by
  induction turns using List.reverseRecOn with
  | nil => exact ⟨fun _ => rfl, fun _ => rfl, fun _ => rfl⟩
  | append_singleton turns t ih =>
      rw [trace_concat, final_concat]
      exact ih.append (tallied_step hdiscreet (final (perform deliver) g turns) t)

/-- Every answer is counted and announced once. Whatever happens at a gate one thing after
another, each counter goes up by the number of answers it counts: the outcomes with a label, the
requests for a code sent by a channel, the refusals because a delivery by a channel failed. And
each attempt that returns announces its outcome with its last event and not before, while one
that fails announces and counts nothing. The couriers may answer and fail as they like, as long
as they neither count nor announce anything themselves. -/
theorem answers_accounted (hdiscreet : Gate.Discreet deliver) (g : Gate κ ω)
    (turns : List Turn) :
    Tallied g.keeper.world.metrics (trace (perform deliver) g turns)
        (final (perform deliver) g turns).keeper.world.metrics ∧
      ∀ e ∈ trace (perform deliver) g turns, Announced e := by
  refine ⟨tallied_run hdiscreet g turns, fun e he => ?_⟩
  obtain ⟨before, t, rfl⟩ := exists_of_mem_trace he
  exact announced_step hdiscreet _ t

/-- Couriers outside the gate who deliver, fail as deliveries do, or break down, depending on
whom they are sent to. -/
def moody (_ : Unit) (recipients : List String) (_ : Issued) : Action Wire Receipt :=
  match recipients with
  | ["eve@example.org"] => throw (.refused (.delivery .failed "no answer" "email"))
  | ["kim@example.org"] => throw (.broken "courier")
  | _ => return ⟨.email, recipients⟩

/-- A code is sent, mistaken and accepted; a delivery fails, a courier breaks down, a user
cannot be reached, and nobody in particular is let through. -/
theorem answers_accounted_of_seven_attempts :
    ∃ g h, g = Gate.fresh .usual .empty (.other ()) {} ∧
      h = trace (perform (Carrier.deliver id moody)) g
        [.verify (.withMail "ada" "ada@example.org") none,
          .verify (.withMail "ada" "ada@example.org") (some (.ofString "123456")),
          .verify (.withMail "ada" "ada@example.org") (some (.ofString "000000")),
          .verify (.withMail "eve" "eve@example.org") none,
          .verify (.withMail "kim" "kim@example.org") none,
          .verify { identifier := "bob" } none, .verify { identifier := "" } none] ∧
      h.map (fun e => e.answer.isOk) = [true, true, true, true, false, true, true] ∧
      (∀ e ∈ h, Announced e) ∧
      ∃ m, Tallied g.keeper.world.metrics h m ∧ m.outcomes.count "challenge_issued" = 1 ∧
        m.outcomes.count "verification_failed" = 1 ∧ m.outcomes.count "verified" = 1 ∧
        m.outcomes.count "delivery_failed" = 1 ∧ m.outcomes.count "missing_attributes" = 1 ∧
        m.outcomes.count "bypass_anonymous" = 1 ∧ m.challenges.count "email" = 1 ∧
        m.deliveryFailures.count "email" = 1 := by
  obtain ⟨htallied, hannounced⟩ := answers_accounted (Gate.discreet_carrier id moody)
    (Gate.fresh .usual .empty (.other ()) {})
    [.verify (.withMail "ada" "ada@example.org") none,
      .verify (.withMail "ada" "ada@example.org") (some (.ofString "123456")),
      .verify (.withMail "ada" "ada@example.org") (some (.ofString "000000")),
      .verify (.withMail "eve" "eve@example.org") none,
      .verify (.withMail "kim" "kim@example.org") none,
      .verify { identifier := "bob" } none, .verify { identifier := "" } none]
  have houtcomes := htallied.outcomes
  have hchallenges := htallied.challenges .email
  have hfailures := htallied.deliveryFailures .email
  refine ⟨_, _, rfl, rfl, by decide +kernel, hannounced, _, htallied,
    (houtcomes _).trans ?_, (houtcomes _).trans ?_, (houtcomes _).trans ?_,
    (houtcomes _).trans ?_, (houtcomes _).trans ?_, (houtcomes _).trans ?_,
    hchallenges.trans ?_, hfailures.trans ?_⟩ <;> decide +kernel

end Turn

end Passcode
