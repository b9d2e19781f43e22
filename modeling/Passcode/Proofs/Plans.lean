import Passcode.Gate
import Passcode.Proofs.Policies

/-!
# What an attempt comes down to

`Gate.verify` first looks policies up, which neither reads nor changes anything but the log.
What it does afterwards is one of five things, a `Plan`. Which one depends on the settings,
the directory, the user and the request alone (`Plan.of`), so an attempt is its plan carried
out at the gate after some events were reported (`ensures_verify`).
-/

namespace Passcode.Gate

open Passcode.Action

variable {κ ω : Type}

/-! ## Reports and measurements -/

/-- A gate without its metrics and its log. -/
def hush (g : Gate κ ω) : Gate κ ω :=
  { g with keeper := { g.keeper with world := g.keeper.world.hush } }

def told (g : Gate κ ω) (es : List Event) : Gate κ ω :=
  { g with keeper := { g.keeper with world := g.keeper.world.told es } }

def metered (g : Gate κ ω) (f : Metrics → Metrics) : Gate κ ω :=
  { g with keeper := { g.keeper with world :=
    { g.keeper.world with metrics := f g.keeper.world.metrics } } }

@[simp] theorem told_nil (g : Gate κ ω) : g.told [] = g := by
  rw [told, World.told_nil]

@[simp] theorem told_told (g : Gate κ ω) (es fs : List Event) :
    (g.told es).told fs = g.told (es ++ fs) := by
  simp [told]

theorem hush_eq_iff {g h : Gate κ ω} : h.hush = g.hush ↔ h.settings = g.settings ∧
    h.directory = g.directory ∧ h.routes = g.routes ∧
    h.keeper.world.hush = g.keeper.world.hush ∧ h.keeper.store = g.keeper.store ∧
    h.outside = g.outside := by
  simp only [hush, Gate.mk.injEq, Keeper.mk.injEq, and_assoc]

theorem store_eq_of_hush {g h : Gate κ ω} (e : h.hush = g.hush) :
    h.keeper.store = g.keeper.store :=
  (hush_eq_iff.mp e).2.2.2.2.1

theorem outside_eq_of_hush {g h : Gate κ ω} (e : h.hush = g.hush) : h.outside = g.outside :=
  (hush_eq_iff.mp e).2.2.2.2.2

@[simp] theorem run_inKeeper {α : Type} (a : Action Keeper α) (g : Gate κ ω) :
    (inKeeper a).run g = ((a.run g.keeper).1, { g with keeper := (a.run g.keeper).2 }) := rfl

theorem run_inWorld {α : Type} (a : Action World α) (g : Gate κ ω) :
    (inWorld a).run g = ((a.run g.keeper.world).1,
      { g with keeper := { g.keeper with world := (a.run g.keeper.world).2 } }) := rfl

theorem run_inWorld_of_tells {α : Type} {r : Except Failure α} {a : Action World α}
    (ha : World.Tells r a) :
    ∃ es, ∀ (κ ω : Type) (g : Gate κ ω), (inWorld a).run g = (r, g.told es) := by
  obtain ⟨es, ha⟩ := ha
  exact ⟨es, fun κ ω g => by rw [run_inWorld, ha]; rfl⟩

theorem run_finish (p : Principal) (o : Outcome) (g : Gate κ ω) :
    (finish p o).run g =
      (.ok o, (g.told [outcomeEvent p.identifier o]).metered (·.countOutcome o.label)) := rfl

/-! ## How an attempt ends -/

/-- How an attempt ends, from what its plan came to: a failure is passed on, unless it is a
refusal of the settings or of a store that was shut down. -/
def conclude : Except Failure Outcome → Except Failure Outcome
  | .ok o => .ok o
  | .error (.refused (.configuration key value source reason)) =>
    .ok (.refuse .configurationError (.configuration key value source reason))
  | .error (.refused (.unavailable message wording)) =>
    .ok (.refuse .serviceUnavailable (.unavailable message wording))
  | .error e => .error e

theorem conclude_error_cases (e : Failure) :
    (∃ reason cause, conclude (.error e) = .ok (.refuse reason cause) ∧
      e = .refused cause ∧ (reason = .configurationError ∧ cause.cause = .configuration ∨
        reason = .serviceUnavailable ∧ cause.cause = .unavailable)) ∨
    (conclude (.error e) = .error e ∧ ∀ cause, e = .refused cause →
      cause.cause ≠ .configuration ∧ cause.cause ≠ .unavailable) := by
  cases e with
  | refused cause =>
      cases cause with
      | configuration => exact .inl ⟨_, _, rfl, rfl, .inl ⟨rfl, rfl⟩⟩
      | unavailable => exact .inl ⟨_, _, rfl, rfl, .inr ⟨rfl, rfl⟩⟩
      | _ => exact .inr ⟨rfl, fun cause h => by cases h; exact ⟨nofun, nofun⟩⟩
  | _ => exact .inr ⟨rfl, nofun⟩

theorem conclude_eq_verified_iff {a : Except Failure Outcome} {b : Option Bypass} :
    conclude a = .ok (.verified b) ↔ a = .ok (.verified b) := by
  rcases a with e | o
  · obtain ⟨reason, cause, h, -⟩ | ⟨h, -⟩ := conclude_error_cases e <;>
      simp [h, Outcome.refuse]
  · exact Iff.rfl

theorem run_recover (p : Principal) (e : Failure) :
    ∃ es, ∀ (κ ω : Type) (g : Gate κ ω), (recover p e).run g = (conclude (.error e), g.told es) := by
  cases e with
  | refused cause =>
      cases cause with
      | configuration => exact ⟨_, fun _ _ _ => rfl⟩
      | unavailable => exact ⟨_, fun _ _ _ => rfl⟩
      | _ => exact ⟨[], fun _ _ g => by rw [told_nil]; rfl⟩
  | _ => exact ⟨[], fun _ _ g => by rw [told_nil]; rfl⟩

/-! ## Plans -/

/-- What a code is issued under: what a policy holds, once its members have been demanded. -/
structure Terms where
  channel : Channel
  timeout : Int
  length : Int
  alphabet : Alphabet
deriving DecidableEq, Repr

def Terms.of (policy : Policy) : Except Failure Terms := do
  return {
    channel := ← policy.channel.demand
    timeout := policy.timeout
    length := policy.length
    alphabet := ← policy.alphabet.demand }

theorem Terms.of_eq_ok_iff {policy : Policy} {terms : Terms} : Terms.of policy = .ok terms ↔
    policy.channel.demand = .ok terms.channel ∧ policy.alphabet.demand = .ok terms.alphabet ∧
      terms.timeout = policy.timeout ∧ terms.length = policy.length := by
  obtain ⟨c, timeout, length, a⟩ := terms
  unfold Terms.of
  cases policy.channel.demand with
  | error e => simp [Bind.bind, Except.bind]
  | ok c' =>
      cases policy.alphabet.demand with
      | error e => simp [Bind.bind, Except.bind]
      | ok a' =>
          simp only [Bind.bind, Except.bind, Pure.pure, Except.pure, Except.ok.injEq,
            Terms.mk.injEq]
          constructor
          · rintro ⟨rfl, rfl, rfl, rfl⟩
            exact ⟨rfl, rfl, rfl, rfl⟩
          · rintro ⟨rfl, rfl, rfl, rfl⟩
            exact ⟨rfl, rfl, rfl, rfl⟩

/-- What an attempt comes down to once the policies have been looked up. -/
inductive Plan where
  | fail (e : Failure)
  | pass (b : Bypass)
  | turnAway (c : Channel)
  | issue (terms : Terms)
  | check (code : Glyphs)

namespace Plan

def perform (deliver : Deliver κ ω) (p : Principal) : Plan → Action (Gate κ ω) Outcome
  | fail e => throw e
  | pass b => return .verified (some b)
  | turnAway c =>
    return .refuse .missingAttributes (.missingAttributes p.identifier (Vocabulary.word c))
  | issue terms => do
    let r ← inKeeper (Keeper.generate p.identifier terms.length terms.timeout terms.alphabet)
    sendOut deliver terms.channel p r
  | check code => respond p code

/-- Carries a plan out and ends the attempt as attempts end. -/
def settle (deliver : Deliver κ ω) (p : Principal) (plan : Plan) :
    Action (Gate κ ω) Outcome := do
  finish p (← tryCatch (plan.perform deliver p) (recover p))

/-! ### Which plan it is -/

/-- The plan for a user without a destination for a code. -/
def unreachable (c : Channel) : Held MissingAction → Plan
  | .own .allow => pass .missingAttributes
  | _ => turnAway c

def reachable (policy : Policy) (c : Channel) : Plan :=
  match policy.alphabet.demand with
  | .ok alphabet => issue ⟨c, policy.timeout, policy.length, alphabet⟩
  | .error e => fail (if policy.timeout < 1 then .misuse .timeoutBelowOne
      else if policy.length < 1 then .misuse .lengthBelowOne else e)

def ofPolicy (s : Settings) (p : Principal) (policy : Policy) : Plan :=
  match policy.channel.demand with
  | .error e => fail e
  | .ok c =>
    if (p.recipients c).isEmpty then unreachable c s.missingAction else reachable policy c

def ofRequest (s : Settings) (p : Principal) (groups : List Group) : Option Glyphs → Plan
  | some code => check code
  | none =>
    match Policy.settled s p groups with
    | .ok policy => ofPolicy s p policy
    | .error e => fail e

def of (s : Settings) (d : Directory) (p : Principal) (response : Option Glyphs) : Plan :=
  if p.isAnonymous then pass .anonymous
  else
    match Policy.switch s p (d.groupsOf p) with
    | .error e => fail e
    | .ok v => if v.isTrue then pass .disabled else ofRequest s p (d.groupsOf p) response

theorem unreachable_cases (c : Channel) (action : Held MissingAction) :
    (action = .own .allow ∧ unreachable c action = pass .missingAttributes) ∨
      (action ≠ .own .allow ∧ unreachable c action = turnAway c) := by
  unfold unreachable
  split
  · exact .inl ⟨rfl, rfl⟩
  · next hne => exact .inr ⟨fun heq => hne heq, rfl⟩

/-- The plan of a challenge, by what is found of the channel, of the user's destinations and of
the alphabet. -/
theorem ofPolicy_cases (s : Settings) (p : Principal) (policy : Policy) :
    (∃ e, policy.channel.demand = .error e ∧ ofPolicy s p policy = fail e) ∨
    ∃ c, policy.channel.demand = .ok c ∧
      ((p.recipients c = [] ∧ ofPolicy s p policy = unreachable c s.missingAction) ∨
      (p.recipients c ≠ [] ∧ ofPolicy s p policy = reachable policy c)) := by
  unfold ofPolicy
  cases policy.channel.demand with
  | error e => exact .inl ⟨e, rfl, rfl⟩
  | ok c =>
      refine .inr ⟨c, rfl, ?_⟩
      by_cases hnone : p.recipients c = []
      · exact .inl ⟨hnone, if_pos (List.isEmpty_iff.mpr hnone)⟩
      · exact .inr ⟨hnone, if_neg fun h => hnone (List.isEmpty_iff.mp h)⟩

theorem reachable_cases (policy : Policy) (c : Channel) :
    (∃ alphabet, policy.alphabet.demand = .ok alphabet ∧
      reachable policy c = issue ⟨c, policy.timeout, policy.length, alphabet⟩) ∨
    ∃ e, policy.alphabet.demand = .error e ∧ reachable policy c =
      fail (if policy.timeout < 1 then .misuse .timeoutBelowOne
        else if policy.length < 1 then .misuse .lengthBelowOne else e) := by
  unfold reachable
  cases policy.alphabet.demand with
  | ok alphabet => exact .inl ⟨alphabet, rfl, rfl⟩
  | error e => exact .inr ⟨e, rfl, rfl⟩

theorem ofPolicy_eq_issue_iff {s : Settings} {p : Principal} {policy : Policy} {terms : Terms} :
    ofPolicy s p policy = issue terms ↔
      Terms.of policy = .ok terms ∧ p.recipients terms.channel ≠ [] := by
  rw [Terms.of_eq_ok_iff]
  obtain ⟨e, he, h⟩ | ⟨c, hc, ⟨hnone, h⟩ | ⟨hsome, h⟩⟩ := ofPolicy_cases s p policy
  · simp [h, he]
  · have hne : unreachable c s.missingAction ≠ issue terms := by
      obtain ⟨-, h⟩ | ⟨-, h⟩ := unreachable_cases c s.missingAction <;> simp [h]
    simp only [h, hne, hc, Except.ok.injEq, false_iff, not_and]
    rintro ⟨rfl, -⟩ hsome
    exact hsome hnone
  · obtain ⟨a, ha, h'⟩ | ⟨e, he, h'⟩ := reachable_cases policy c
    · obtain ⟨c', timeout, length, a'⟩ := terms
      simp only [h, h', hc, ha, Plan.issue.injEq, Terms.mk.injEq, Except.ok.injEq]
      constructor
      · rintro ⟨rfl, rfl, rfl, rfl⟩
        exact ⟨⟨rfl, rfl, rfl, rfl⟩, hsome⟩
      · rintro ⟨⟨rfl, rfl, rfl, rfl⟩, -⟩
        exact ⟨rfl, rfl, rfl, rfl⟩
    · simp [h, h', he]

theorem ofPolicy_eq_pass_iff {s : Settings} {p : Principal} {policy : Policy} {b : Bypass} :
    ofPolicy s p policy = pass b ↔ b = .missingAttributes ∧ s.missingAction = .own .allow ∧
      ∃ c, policy.channel.demand = .ok c ∧ p.recipients c = [] := by
  obtain ⟨e, he, h⟩ | ⟨c, hc, ⟨hnone, h⟩ | ⟨hsome, h⟩⟩ := ofPolicy_cases s p policy
  · simp [h, he]
  · obtain ⟨haction, h'⟩ | ⟨haction, h'⟩ := unreachable_cases c s.missingAction
    · rw [h, h', Plan.pass.injEq, eq_comm]
      simp [hc, hnone, haction]
    · simp [h, h', haction]
  · obtain ⟨a, -, h'⟩ | ⟨e, -, h'⟩ := reachable_cases policy c <;> simp [h, h', hc, hsome]

theorem ofPolicy_ne_check (s : Settings) (p : Principal) (policy : Policy) (code : Glyphs) :
    ofPolicy s p policy ≠ check code := by
  obtain ⟨e, -, h⟩ | ⟨c, -, ⟨-, h⟩ | ⟨-, h⟩⟩ := ofPolicy_cases s p policy <;> rw [h]
  · exact nofun
  · obtain ⟨-, h⟩ | ⟨-, h⟩ := unreachable_cases c s.missingAction <;> rw [h] <;> exact nofun
  · obtain ⟨a, -, h⟩ | ⟨e, -, h⟩ := reachable_cases policy c <;> rw [h] <;> exact nofun

/-- A policy whose numbers are in range is in the way of a challenge only by a member that is none
of ours. -/
theorem ofPolicy_eq_fail_iff {s : Settings} {p : Principal} {policy : Policy} {e : Failure}
    (htimeout : 1 ≤ policy.timeout) (hlength : 1 ≤ policy.length) :
    ofPolicy s p policy = fail e ↔ policy.channel.demand = .error e ∨
      ∃ c, policy.channel.demand = .ok c ∧ p.recipients c ≠ [] ∧
        policy.alphabet.demand = .error e := by
  obtain ⟨e', he, h⟩ | ⟨c, hc, ⟨hnone, h⟩ | ⟨hsome, h⟩⟩ := ofPolicy_cases s p policy
  · simp [h, he]
  · obtain ⟨-, h'⟩ | ⟨-, h'⟩ := unreachable_cases c s.missingAction <;> simp [h, h', hc, hnone]
  · obtain ⟨a, ha, h'⟩ | ⟨e', he, h'⟩ := reachable_cases policy c
    · simp [h, h', hc, ha]
    · simp [h, h', hc, he, hsome, Int.not_lt.mpr htimeout, Int.not_lt.mpr hlength]

/-- Whatever a policy is, it is in the way of a challenge by a misuse only. -/
theorem misuse_of_ofPolicy {s : Settings} {p : Principal} {policy : Policy} {e : Failure}
    (h : ofPolicy s p policy = fail e) : ∃ m, e = .misuse m := by
  obtain ⟨e', he, h'⟩ | ⟨c, -, ⟨-, h'⟩ | ⟨-, h'⟩⟩ := ofPolicy_cases s p policy <;> rw [h'] at h
  · obtain rfl := Plan.fail.inj h
    obtain ⟨shown, rfl⟩ := Held.unknownWord_of_demand he
    exact ⟨_, rfl⟩
  · obtain ⟨-, h'⟩ | ⟨-, h'⟩ := unreachable_cases c s.missingAction <;> rw [h'] at h <;> cases h
  · obtain ⟨a, -, h'⟩ | ⟨e', he, h'⟩ := reachable_cases policy c <;> rw [h'] at h
    · cases h
    · obtain rfl := Plan.fail.inj h
      obtain ⟨shown, rfl⟩ := Held.unknownWord_of_demand he
      split_ifs <;> exact ⟨_, rfl⟩

end Plan

/-! ## Which plan an attempt follows -/

/-- The login step is not switched off for the user, and nothing is wrong with the value
that says so. -/
def Enforces (g : Gate κ ω) (p : Principal) : Prop :=
  ∃ v, ((Policy.disabledFor g.settings p (g.directory.groupsOf p)).run g.keeper.world).1 = .ok v
    ∧ v.isTrue = false

theorem enforces_iff {g : Gate κ ω} {p : Principal} : g.Enforces p ↔
    ∃ v, Policy.switch g.settings p (g.directory.groupsOf p) = .ok v ∧ v.isTrue = false := by
  obtain ⟨es, hes⟩ := Policy.tells_disabledFor g.settings p (g.directory.groupsOf p)
  rw [Enforces, hes]

def plan (g : Gate κ ω) (p : Principal) (response : Option Glyphs) : Plan :=
  .of g.settings g.directory p response

section Plans

variable {g : Gate κ ω} {p : Principal} {response : Option Glyphs}

theorem plan_of_anonymous (hp : p.isAnonymous = true) : g.plan p response = .pass .anonymous := by
  rw [plan, Plan.of, if_pos hp]

/-- What the plan of an attempt of a named user is, by what is found of the switch. -/
theorem plan_cases (g : Gate κ ω) (response : Option Glyphs) (hp : p.isAnonymous = false) :
    (∃ e, Policy.switch g.settings p (g.directory.groupsOf p) = .error e ∧
      g.plan p response = .fail e ∧ ¬ g.Enforces p) ∨
    (∃ v, Policy.switch g.settings p (g.directory.groupsOf p) = .ok v ∧ v.isTrue = true ∧
      g.plan p response = .pass .disabled ∧ ¬ g.Enforces p) ∨
    (∃ v, Policy.switch g.settings p (g.directory.groupsOf p) = .ok v ∧ v.isTrue = false ∧
      g.plan p response = .ofRequest g.settings p (g.directory.groupsOf p) response ∧
      g.Enforces p) := by
  rw [plan, Plan.of, if_neg (by simp [hp]), enforces_iff]
  cases hs : Policy.switch g.settings p (g.directory.groupsOf p) with
  | error e => exact .inl ⟨e, rfl, rfl, by simp⟩
  | ok v =>
      cases hv : v.isTrue with
      | true => exact .inr (.inl ⟨v, rfl, hv, by simp [hv], by simp [hv]⟩)
      | false => exact .inr (.inr ⟨v, rfl, hv, by simp [hv], v, rfl, hv⟩)

theorem plan_eq_check_iff {code : Glyphs} : g.plan p response = .check code ↔
    p.isAnonymous = false ∧ g.Enforces p ∧ response = some code := by
  cases hp : p.isAnonymous with
  | true => simp [plan_of_anonymous hp]
  | false =>
      obtain ⟨e, -, hplan, hno⟩ | ⟨v, -, -, hplan, hno⟩ | ⟨v, -, -, hplan, hyes⟩ :=
        plan_cases g response hp
      · simp [hplan, hno]
      · simp [hplan, hno]
      · rw [hplan]
        cases response with
        | some c => simp [Plan.ofRequest, hyes]
        | none =>
            cases hpolicy : Policy.settled g.settings p (g.directory.groupsOf p) <;>
              simp [Plan.ofRequest, hpolicy, Plan.ofPolicy_ne_check]

theorem plan_eq_issue_iff {terms : Terms} : g.plan p response = .issue terms ↔
    p.isAnonymous = false ∧ g.Enforces p ∧ response = none ∧ ∃ policy,
      Policy.settled g.settings p (g.directory.groupsOf p) = .ok policy ∧
      Terms.of policy = .ok terms ∧ p.recipients terms.channel ≠ [] := by
  cases hp : p.isAnonymous with
  | true => simp [plan_of_anonymous hp]
  | false =>
      obtain ⟨e, -, hplan, hno⟩ | ⟨v, -, -, hplan, hno⟩ | ⟨v, -, -, hplan, hyes⟩ :=
        plan_cases g response hp
      · simp [hplan, hno]
      · simp [hplan, hno]
      · rw [hplan]
        cases response with
        | some c => simp [Plan.ofRequest]
        | none =>
            cases hpolicy : Policy.settled g.settings p (g.directory.groupsOf p) with
            | error e => simp [Plan.ofRequest, hpolicy]
            | ok policy => simp [Plan.ofRequest, hpolicy, Plan.ofPolicy_eq_issue_iff, hyes]

theorem plan_eq_fail_iff {e : Failure} : g.plan p response = .fail e ↔
    p.isAnonymous = false ∧
      (Policy.switch g.settings p (g.directory.groupsOf p) = .error e ∨
        g.Enforces p ∧ response = none ∧
          (Policy.settled g.settings p (g.directory.groupsOf p) = .error e ∨ ∃ policy,
            Policy.settled g.settings p (g.directory.groupsOf p) = .ok policy ∧
            Plan.ofPolicy g.settings p policy = .fail e)) := by
  cases hp : p.isAnonymous with
  | true => simp [plan_of_anonymous hp]
  | false =>
      obtain ⟨e', hs, hplan, hno⟩ | ⟨v, hs, -, hplan, hno⟩ | ⟨v, hs, -, hplan, hyes⟩ :=
        plan_cases g response hp
      · simp [hplan, hs, hno]
      · simp [hplan, hs, hno]
      · rw [hplan, hs]
        cases response with
        | some c => simp [Plan.ofRequest]
        | none =>
            cases hpolicy : Policy.settled g.settings p (g.directory.groupsOf p) <;>
              simp [Plan.ofRequest, hpolicy, hyes]

theorem plan_eq_pass_iff {b : Bypass} : g.plan p response = .pass b ↔
    (p.isAnonymous = true ∧ b = .anonymous) ∨
    (p.isAnonymous = false ∧ b = .disabled ∧
      ∃ v, Policy.switch g.settings p (g.directory.groupsOf p) = .ok v ∧ v.isTrue = true) ∨
    (p.isAnonymous = false ∧ b = .missingAttributes ∧ g.Enforces p ∧ response = none ∧
      g.settings.missingAction = .own .allow ∧ ∃ policy c,
        Policy.settled g.settings p (g.directory.groupsOf p) = .ok policy ∧
        policy.channel.demand = .ok c ∧ p.recipients c = []) := by
  cases hp : p.isAnonymous with
  | true => simp [plan_of_anonymous hp, @eq_comm _ b]
  | false =>
      obtain ⟨e', hs, hplan, hno⟩ | ⟨v, hs, hv, hplan, hno⟩ | ⟨v, hs, hv, hplan, hyes⟩ :=
        plan_cases g response hp
      · simp [hplan, hs, hno]
      · simp [hplan, hs, hv, hno, @eq_comm _ b]
      · rw [hplan, hs]
        cases response with
        | some c => simp [Plan.ofRequest, hv]
        | none =>
            cases hpolicy : Policy.settled g.settings p (g.directory.groupsOf p) <;>
              simp [Plan.ofRequest, hpolicy, Plan.ofPolicy_eq_pass_iff, hyes, hv]

/-- Whether an attempt with a code comes to a check does not depend on the code. -/
theorem plan_of_code (g : Gate κ ω) (p : Principal) :
    (∃ plan, (∀ code, plan ≠ .check code) ∧ ∀ code, g.plan p (some code) = plan) ∨
      (p.isAnonymous = false ∧ g.Enforces p ∧ ∀ code, g.plan p (some code) = .check code) := by
  cases hp : p.isAnonymous with
  | true => exact .inl ⟨.pass .anonymous, nofun, fun code => plan_of_anonymous hp⟩
  | false =>
      by_cases hyes : g.Enforces p
      · exact .inr ⟨rfl, hyes, fun code => plan_eq_check_iff.mpr ⟨hp, hyes, rfl⟩⟩
      · obtain ⟨e, hs, -⟩ | ⟨v, hs, hv, -⟩ | ⟨-, -, -, -, h⟩ :=
          plan_cases g none hp
        · exact .inl ⟨.fail e, nofun, fun code => plan_eq_fail_iff.mpr ⟨hp, .inl hs⟩⟩
        · exact .inl ⟨.pass .disabled, nofun,
            fun code => plan_eq_pass_iff.mpr (.inr (.inl ⟨hp, rfl, v, hs, hv⟩))⟩
        · exact absurd h hyes

end Plans

/-! ## An attempt follows its plan -/

theorem run_missingAttributes (s : Settings) (p : Principal) (c : Channel) :
    ∃ es, ∀ (κ ω : Type) (deliver : Deliver κ ω) (g : Gate κ ω), g.settings = s →
      (missingAttributes p c).run g =
        ((Plan.unreachable c s.missingAction).perform deliver p).run (g.told es) := by
  unfold missingAttributes Plan.unreachable
  split
  · next hs =>
      refine ⟨[.missingAttributesAllowed p.identifier c], fun κ ω deliver g hg => ?_⟩
      rw [run_bind_of_ok (run_get g), hg, hs]
      rfl
  · next hs =>
      refine ⟨[.missingAttributesBlocked p.identifier c], fun κ ω deliver g hg => ?_⟩
      rw [run_bind_of_ok (run_get g), hg]
      split
      · next hallow => exact absurd hallow hs
      · rfl

/-- A policy that was looked up is carried out as the plan that it makes. -/
theorem run_challenge_of_policy (s : Settings) (p : Principal) (policy : Policy) :
    ∃ es, ∀ (κ ω : Type) (deliver : Deliver κ ω) (g : Gate κ ω), g.settings = s →
      (do
        let channel ← policy.channel.demand
        if (p.recipients channel).isEmpty then missingAttributes p channel
        else
          let r ← inKeeper
            (Keeper.generateFrom p.identifier policy.length policy.timeout policy.alphabet)
          sendOut deliver channel p r : Action (Gate κ ω) Outcome).run g =
        ((Plan.ofPolicy s p policy).perform deliver p).run (g.told es) := by
  obtain ⟨e, hchannel, hplan⟩ | ⟨c, hchannel, ⟨hnone, hplan⟩ | ⟨hsome, hplan⟩⟩ :=
    Plan.ofPolicy_cases s p policy
  · exact ⟨[], fun κ ω deliver g hg => by rw [hchannel, hplan, told_nil]; rfl⟩
  · obtain ⟨es, hes⟩ := run_missingAttributes s p c
    refine ⟨es, fun κ ω deliver g hg => ?_⟩
    rw [hchannel, hplan, ← hes κ ω deliver g hg, run_bind_of_ok (run_lift _ g),
      if_pos (List.isEmpty_iff.mpr hnone)]
  · refine ⟨[], fun κ ω deliver g hg => ?_⟩
    rw [hchannel, hplan, told_nil, run_bind_of_ok (run_lift _ g),
      if_neg fun h => hsome (List.isEmpty_iff.mp h)]
    obtain ⟨a, ha, hreach⟩ | ⟨e, he, hreach⟩ := Plan.reachable_cases policy c
    · rw [hreach, Keeper.generateFrom_of_demand ha]
      rfl
    · rw [hreach, run_bind_of_error (t := g)]
      · rfl
      · rw [run_inKeeper, Keeper.run_generateFrom_of_error he]

theorem run_challenge (s : Settings) (p : Principal) (groups : List Group) :
    ∃ es, ∀ (κ ω : Type) (deliver : Deliver κ ω) (g : Gate κ ω), g.settings = s →
      (challenge deliver p groups).run g =
        ((Plan.ofRequest s p groups none).perform deliver p).run (g.told es) := by
  obtain ⟨es, hes⟩ := run_inWorld_of_tells (Policy.tells_resolve s p groups)
  unfold Plan.ofRequest
  cases hpolicy : Policy.settled s p groups with
  | error e =>
      refine ⟨es, fun κ ω deliver g hg => ?_⟩
      rw [challenge, run_bind_of_ok (run_get g), hg, run_bind_of_error (hpolicy ▸ hes κ ω g)]
      rfl
  | ok policy =>
      obtain ⟨fs, hfs⟩ := run_challenge_of_policy s p policy
      refine ⟨es ++ fs, fun κ ω deliver g hg => ?_⟩
      rw [challenge, run_bind_of_ok (run_get g), hg, run_bind_of_ok (hpolicy ▸ hes κ ω g),
        ← told_told, ← hfs κ ω deliver (g.told es) hg]

/-- The settings, the directory and the user settle what is reported of an attempt before
its plan is carried out, but for whether the request has a code. -/
theorem run_verify_of (s : Settings) (d : Directory) (p : Principal) :
    ∃ es : Bool → List Event, ∀ (response : Option Glyphs) (κ ω : Type) (deliver : Deliver κ ω)
      (g : Gate κ ω), g.settings = s → g.directory = d →
        (verify deliver p response).run g =
          ((Plan.of s d p response).settle deliver p).run (g.told (es response.isSome)) := by
  cases hp : p.isAnonymous with
  | true =>
      refine ⟨fun _ => [], fun response κ ω deliver g _ _ => ?_⟩
      rw [verify, Plan.of, if_pos hp, if_pos hp]
      simp [Plan.settle, Plan.perform, run_bind, run_tryCatch]
  | false =>
      -- an attempt of a named user decides, recovers and finishes, as a settled plan does
      have hsettle : ∀ (response : Option Glyphs) (κ ω : Type) (deliver : Deliver κ ω)
          (g : Gate κ ω) (plan : Plan) (es : List Event),
          (decide deliver p response).run g = (plan.perform deliver p).run (g.told es) →
          (verify deliver p response).run g = (plan.settle deliver p).run (g.told es) := by
        intro response κ ω deliver g plan es h
        unfold verify Plan.settle
        rw [if_neg (by simp [hp]), run_bind, run_bind, run_tryCatch, run_tryCatch, h]
      obtain ⟨es, hes⟩ := run_inWorld_of_tells (Policy.tells_disabledFor s p (d.groupsOf p))
      obtain ⟨fs, hfs⟩ := run_challenge s p (d.groupsOf p)
      simp only [Plan.of, hp, Bool.false_eq_true, ↓reduceIte]
      cases hswitch : Policy.switch s p (d.groupsOf p) with
      | error e =>
          refine ⟨fun _ => es, fun response κ ω deliver g hs hd => hsettle _ _ _ _ _ _ _ ?_⟩
          rw [decide, run_bind_of_ok (run_get g), hs, hd,
            run_bind_of_error (hswitch ▸ hes κ ω g)]
          rfl
      | ok v =>
          refine ⟨fun given => if v.isTrue || given then es else es ++ fs,
            fun response κ ω deliver g hs hd => hsettle _ _ _ _ _ _ _ ?_⟩
          rw [decide, run_bind_of_ok (run_get g), hs, hd, run_bind_of_ok (hswitch ▸ hes κ ω g)]
          cases hv : v.isTrue with
          | true => simp [hv, Plan.perform]
          | false =>
              cases response with
              | some code => simp [hv, Plan.ofRequest, Plan.perform]
              | none =>
                  have hchallenge := hfs κ ω deliver (g.told es) hs
                  rw [told_told] at hchallenge
                  simpa [hv] using hchallenge

/-- Settling a plan reports how it ended, and counts its outcome if there is one. -/
theorem run_settle (deliver : Deliver κ ω) (p : Principal) (plan : Plan) (g : Gate κ ω) :
    ∃ es, (plan.settle deliver p).run g =
      match conclude ((plan.perform deliver p).run g).1 with
      | .ok o => (.ok o, (((plan.perform deliver p).after g).told
          (es ++ [outcomeEvent p.identifier o])).metered (·.countOutcome o.label))
      | .error e => (.error e, ((plan.perform deliver p).after g).told es) := by
  unfold Plan.settle Action.after
  rcases hrun : (plan.perform deliver p).run g with ⟨e | o, g'⟩
  · obtain ⟨es, hrecover⟩ := run_recover p e
    have htry : (tryCatch (plan.perform deliver p) (recover p)).run g =
        (conclude (.error e), g'.told es) := by
      rw [run_tryCatch, hrun, ← hrecover]
    refine ⟨es, ?_⟩
    rcases hend : conclude (.error e) with e' | o <;> rw [hend] at htry
    · rw [run_bind_of_error htry]
    · rw [run_bind_of_ok htry, run_finish, told_told]
  · have htry : (tryCatch (plan.perform deliver p) (recover p)).run g = (.ok o, g') := by
      rw [run_tryCatch, hrun]
    refine ⟨[], ?_⟩
    rw [run_bind_of_ok htry, run_finish]
    rfl

theorem ensures_settle (deliver : Deliver κ ω) (p : Principal) (plan : Plan) (g : Gate κ ω) :
    (plan.settle deliver p).Ensures g fun a g' =>
      a = conclude ((plan.perform deliver p).run g).1 ∧
        g'.hush = ((plan.perform deliver p).after g).hush := by
  obtain ⟨es, hsettle⟩ := run_settle deliver p plan g
  rw [Ensures, hsettle]
  cases conclude ((plan.perform deliver p).run g).1 with
  | error e => exact ⟨rfl, rfl⟩
  | ok o => exact ⟨rfl, rfl⟩

/-- An attempt ends as its plan does once some events were reported. -/
theorem ensures_verify (deliver : Deliver κ ω) (p : Principal) (response : Option Glyphs)
    (g : Gate κ ω) : ∃ es, (verify deliver p response).Ensures g fun a g' =>
      a = conclude (((g.plan p response).perform deliver p).run (g.told es)).1 ∧
        g'.hush = (((g.plan p response).perform deliver p).after (g.told es)).hush := by
  obtain ⟨es, hes⟩ := run_verify_of g.settings g.directory p
  refine ⟨es response.isSome, ?_⟩
  rw [Ensures, hes response κ ω deliver g rfl rfl]
  exact ensures_settle deliver p (g.plan p response) (g.told (es response.isSome))

end Passcode.Gate
