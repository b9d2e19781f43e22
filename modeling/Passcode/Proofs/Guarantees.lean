import Passcode.Proofs.Answers
import Passcode.Proofs.Frames
import Passcode.Proofs.Lookups

/-!
# What checked settings guarantee

The store, the timer and the draws each check what they are given again. A gate can be opened
under settings that were checked, and every value of a policy comes from a reader that holds it
to the same bounds, or from the settings (`Tier.mem_or_eq_of_run`). So the keeper never refuses
what it is asked to issue, and what is issued is in time and has the code that was asked for
(`Settings.guarantees_of_build`).

One check is missing. Settings may hold a member that is none of ours, and it stays unread until
a challenge needs it. Then the attempt ends in a misuse of the program's own; without such a
member it never does (`Gate.misuse_cases`, `Gate.not_estranged`).
-/

namespace Passcode

open Passcode.Action

/-! ## Values of a policy -/

namespace Vocabulary

variable {α : Type} [Vocabulary α]

/-- One of the members, and the one that is found by its exact word. -/
def Genuine (m : α) : Prop := m ∈ (members : List α) ∧ demand (.text (word m)) = .ok m

theorem genuine_channel (c : Channel) : Genuine c := by
  cases c <;> exact ⟨by decide, rfl⟩

theorem genuine_alphabet (a : Alphabet) : Genuine a := by
  cases a <;> exact ⟨by decide, rfl⟩

end Vocabulary

/-- A member of the set itself is held. -/
def Held.IsGenuine {α : Type} [Vocabulary α] (h : Held α) : Prop :=
  ∃ m, h = .own m ∧ Vocabulary.Genuine m

theorem Held.IsGenuine.demand {α : Type} [Vocabulary α] {h : Held α} (hgenuine : h.IsGenuine) :
    ∃ m, h.demand = .ok m := by
  obtain ⟨m, rfl, -⟩ := hgenuine
  exact ⟨m, rfl⟩

theorem Reader.genuine_of_held {α : Type} [Vocabulary α] (hall : ∀ m : α, Vocabulary.Genuine m)
    {raw : String} {h : Held α} (hread : held raw = .ok h) : h.IsGenuine := by
  unfold held at hread
  obtain ⟨m, -, rfl⟩ := map_eq_ok_iff.mp hread
  exact ⟨m, rfl, hall m⟩

namespace Tier

variable {α : Type} {p : Principal} {gs : List Group} {a : Attribute} {r : Reader α}
  {fallback x : α} {w : World}

/-- A value that is looked up was read from a text, or it is the default. -/
theorem mem_or_eq_of_run (h : ((Prod.fst <$> resolve p gs a r fallback).run w).1 = .ok x) :
    (∃ raw, r raw = .ok x) ∨ x = fallback := by
  rw [run_map, run_resolve, lookup] at h
  cases hwins : winner? p gs a with
  | none =>
      rw [hwins] at h
      exact .inr (Except.ok.inj h).symm
  | some found =>
      obtain ⟨tier, raw⟩ := found
      rw [hwins] at h
      dsimp only at h
      cases hread : r.read a.key tier.text raw with
      | error e =>
          rw [hread] at h
          cases h
      | ok y =>
          rw [hread] at h
          obtain rfl := Except.ok.inj h
          exact .inl ⟨raw, Reader.read_eq_ok_iff.mp hread⟩

theorem one_le_of_run {n fallback : Int} (hfallback : 1 ≤ fallback)
    (h : ((Prod.fst <$> resolve p gs a .positiveInt fallback).run w).1 = .ok n) : 1 ≤ n := by
  obtain ⟨raw, hread⟩ | rfl := mem_or_eq_of_run h
  · exact Reader.one_le_of_positiveInt hread
  · exact hfallback

section Members

variable [Vocabulary α] {d : Directory} {fallback h : Held α}
  (hall : ∀ m : α, Vocabulary.Genuine m)
include hall

theorem genuine_or_eq_of_run
    (hrun : ((Prod.fst <$> resolve p gs a .held fallback).run w).1 = .ok h) :
    h.IsGenuine ∨ h = fallback := by
  obtain ⟨raw, hread⟩ | heq := mem_or_eq_of_run hrun
  · exact .inl (Reader.genuine_of_held hall hread)
  · exact .inr heq

theorem Yields.genuine (hyields : Yields d p a .held fallback h)
    (hfallback : fallback.IsGenuine) : h.IsGenuine := by
  cases hyields with
  | read _ hread => exact Reader.genuine_of_held hall hread
  | fallback => exact hfallback

end Members

end Tier

/-- What a policy holds can be used if the settings hold members of the sets themselves. -/
structure Policy.Sound (s : Settings) (policy : Policy) : Prop where
  timeout : 1 ≤ policy.timeout
  length : 1 ≤ policy.length
  channel : policy.channel.IsGenuine ∨ policy.channel = s.defaultMethod
  alphabet : policy.alphabet.IsGenuine ∨ policy.alphabet = s.alphabet

theorem Policy.sound_of_resolve {s : Settings} (htimeout : 1 ≤ s.defaultTimeout)
    (hlength : 1 ≤ s.length) {p : Principal} {gs : List Group} {disabled : Option Value} {w : World}
    {policy : Policy} (h : ((resolve s p gs disabled).run w).1 = .ok policy) :
    policy.Sound s := by
  obtain ⟨-, hchannel, htimeoutFor, hlengthFor, halphabet⟩ := (resolve_eq_ok_iff s p gs).mp h
  exact {
    timeout := Tier.one_le_of_run htimeout htimeoutFor
    length := Tier.one_le_of_run hlength hlengthFor
    channel := Tier.genuine_or_eq_of_run Vocabulary.genuine_channel hchannel
    alphabet := Tier.genuine_or_eq_of_run Vocabulary.genuine_alphabet halphabet }

/-! ## Codes that are issued -/

namespace Keeper

variable {k : Keeper} {id : String} {length timeout : Int} {alphabet : Alphabet} {x : Issued}

theorem generate_ne_misuse (hlength : 1 ≤ length) (htimeout : 1 ≤ timeout) (m : Misuse) :
    ((generate id length timeout alphabet).run k).1 ≠ .error (.misuse m) := by
  rw [answer_generate, if_neg (by omega), if_neg (by omega)]
  cases k.world.reading? with
  | none => exact nofun
  | some now =>
      dsimp only
      cases now.addMicros? (timeout * 1000000) with
      | none => exact nofun
      | some t => cases k.store.closed <;> exact nofun

/-- A record that is issued can be used when it is issued. -/
theorem isValid_of_issued (htimeout : 1 ≤ timeout)
    (h : ((generate id length timeout alphabet).run k).1 = .ok x) :
    ∃ now, k.world.reading? = some now ∧ x.record.isValid now = true := by
  rw [answer_generate, if_neg (by omega)] at h
  split at h
  · cases h
  cases hnow : k.world.reading? with
  | none => simp [hnow] at h
  | some now =>
      refine ⟨now, rfl, ?_⟩
      rw [hnow] at h
      dsimp only at h
      cases ht : now.addMicros? (timeout * 1000000) with
      | none => simp [ht] at h
      | some t =>
          rw [ht] at h
          dsimp only at h
          split at h
          · cases h
          · obtain rfl := Except.ok.inj h
            have hlater := Instant.micros_of_addMicros? ht
            have hlt : now.micros < t.micros := by omega
            exact decide_eq_true hlt

/-- The code of a record that is issued is as long as was asked for, and made of the alphabet. -/
theorem toList_code_of_issued (hlength : 1 ≤ length)
    (h : ((generate id length timeout alphabet).run k).1 = .ok x) :
    (x.record.code.toList.length : Int) = length ∧
      ∀ c ∈ x.record.code.toList, c ∈ alphabet.chars := by
  rw [code_of_issued h, Draws.code, String.toList_ofList, Draws.length_codeChars]
  exact ⟨Int.toNat_of_nonneg (by omega), fun c hc => Draws.mem_of_mem_codeChars hc⟩

end Keeper

/-! ## Attempts -/

namespace Gate

variable {κ ω : Type} {deliver : Deliver κ ω} {p : Principal} {g : Gate κ ω}

theorem conclude_eq_misuse {a : Except Failure Outcome} {m : Misuse}
    (h : conclude a = .error (.misuse m)) : a = .error (.misuse m) := by
  rcases a with e | o
  · obtain ⟨reason, cause, hend, -⟩ | ⟨hend, -⟩ := conclude_error_cases e
    · cases hend.symm.trans h
    · exact hend ▸ h
  · cases h

theorem respond_ne_misuse (p : Principal) (code : Glyphs) (g : Gate κ ω) (m : Misuse) :
    ((respond p code).run g).1 ≠ .error (.misuse m) := by
  rw [Ne, respond_eq_error_iff]
  rintro (⟨-, h⟩ | ⟨t, r, -, -, -, htext, h⟩)
  · cases h
  · obtain ⟨unit, position, count, h'⟩ := Glyphs.encoded_of_not_isText htext
    cases h'.symm.trans h

theorem sendOut_eq_misuse {c : Channel} {x : Issued} {m : Misuse}
    (h : ((sendOut deliver c p x).run g).1 = .error (.misuse m)) :
    ((dispatch deliver c p x).run g).1 = .error (.misuse m) := by
  obtain ⟨d, g', hdispatch, ⟨_, prompt, -, ha, -⟩ | ⟨cause, -, ha, -⟩ | ⟨e, rfl, ha, -⟩⟩ :=
    ensures_sendOut deliver c p x g
  · cases ha.symm.trans h
  · cases ha.symm.trans h
  · obtain rfl := Except.error.inj (ha.symm.trans h)
    exact congrArg Prod.fst hdispatch

theorem perform_eq_misuse_cases (hone : Bounded g p) {response : Option Glyphs} {m : Misuse}
    (es : List Event)
    (h : (((g.plan p response).perform deliver p).run (g.told es)).1 = .error (.misuse m)) :
    g.plan p response = .fail (.misuse m) ∨ ∃ terms x g', g.plan p response = .issue terms ∧
      g.Issues p x ∧ ((dispatch deliver terms.channel p x).run g').1 = .error (.misuse m) := by
  cases hplan : g.plan p response with
  | fail e =>
      rw [hplan] at h
      exact .inl (congrArg Plan.fail (Except.error.inj h))
  | pass b =>
      rw [hplan] at h
      cases h
  | turnAway c =>
      rw [hplan] at h
      cases h
  | check code =>
      rw [hplan] at h
      exact absurd h (respond_ne_misuse p code _ m)
  | issue terms =>
      obtain ⟨-, -, rfl, policy, hpolicy, hterms, -⟩ := plan_eq_issue_iff.mp hplan
      obtain ⟨htimeout, hlength⟩ := hone.terms (Policy.settled_eq_ok_iff.mp hpolicy) hterms
      rw [hplan, Plan.perform, run_bind, run_inKeeper] at h
      cases hgenerate : ((Keeper.generate p.identifier terms.length terms.timeout
          terms.alphabet).run (g.told es).keeper).1 with
      | error e =>
          rw [hgenerate] at h
          obtain rfl := Except.error.inj h
          exact absurd hgenerate (Keeper.generate_ne_misuse hlength htimeout m)
      | ok x =>
          rw [hgenerate] at h
          exact .inr ⟨terms, x, _, rfl,
            ⟨terms, hplan, (answer_generate_told g es _ _ _ _).symm.trans hgenerate⟩,
            sendOut_eq_misuse h⟩

/-- Where every policy asks for a code that can be drawn and a time that can be waited for, an
attempt that ends in a misuse is a challenge that came upon a member that is none of ours, or
one whose courier failed in this way. -/
theorem misuse_cases (hone : Bounded g p) {response : Option Glyphs} {m : Misuse}
    (h : ((verify deliver p response).run g).1 = .error (.misuse m)) : response = none ∧
      ((p.isAnonymous = false ∧ g.Enforces p ∧ g.Estranged p (.misuse m)) ∨
        ∃ terms x g', g.plan p none = .issue terms ∧ g.Issues p x ∧
          ((dispatch deliver terms.channel p x).run g').1 = .error (.misuse m)) := by
  obtain ⟨es, hanswer, -⟩ := ensures_verify deliver p response g
  obtain hplan | ⟨terms, x, g', hplan, hissues, hdispatch⟩ :=
    perform_eq_misuse_cases hone es (conclude_eq_misuse (hanswer.symm.trans h))
  · obtain ⟨hp, hyes, hnone, hstrange⟩ := (plan_eq_fail_misuse_iff_estranged hone).mp hplan
    exact ⟨hnone, .inl ⟨hp, hyes, hstrange⟩⟩
  · obtain ⟨-, -, rfl, -⟩ := plan_eq_issue_iff.mp hplan
    exact ⟨rfl, .inr ⟨terms, x, g', hplan, hissues, hdispatch⟩⟩

theorem misuse_of_estranged (deliver : Deliver κ ω) (hone : Bounded g p)
    (hp : p.isAnonymous = false) (hyes : g.Enforces p) {e : Failure} (h : g.Estranged p e) :
    ((verify deliver p none).run g).1 = .error e ∧
      ∃ shown title, e = .misuse (.unknownWord shown title) := by
  obtain ⟨shown, title, rfl⟩ := h.unknownWord
  obtain ⟨es, hanswer, -⟩ := ensures_verify deliver p none g
  rw [hanswer, (plan_eq_fail_misuse_iff_estranged hone).mpr ⟨hp, hyes, rfl, h⟩]
  exact ⟨rfl, shown, title, rfl⟩

/-- No challenge comes upon a member that is none of ours if the settings hold none. -/
theorem not_estranged (hmethod : g.settings.defaultMethod.IsGenuine)
    (halphabet : g.settings.alphabet.IsGenuine) (e : Failure) : ¬ g.Estranged p e := by
  intro h
  cases h with
  | channel hpolicy hfail =>
      obtain ⟨c, hc⟩ := (Tier.Yields.genuine Vocabulary.genuine_channel hpolicy.channel hmethod).demand
      cases hc.symm.trans hfail
  | alphabet hpolicy _ _ hfail =>
      obtain ⟨a, ha⟩ := (Tier.Yields.genuine Vocabulary.genuine_alphabet hpolicy.alphabet halphabet).demand
      cases ha.symm.trans hfail

/-! ### Records -/

/-- A record keeps to the policy of a user: it can be used when it is issued, and its code has
the length of the policy and is made of the alphabet of the policy. -/
def WellIssued (g : Gate κ ω) (p : Principal) (x : Issued) : Prop :=
  ∃ policy alphabet now, Policy.Governs g.settings g.directory p policy ∧
    policy.alphabet.demand = .ok alphabet ∧ g.keeper.world.reading? = some now ∧
    x.record.isValid now = true ∧ (x.record.code.toList.length : Int) = policy.length ∧
    ∀ c ∈ x.record.code.toList, c ∈ alphabet.chars

theorem wellIssued_of_issues (hone : Bounded g p) {x : Issued} (h : g.Issues p x) :
    g.WellIssued p x := by
  obtain ⟨terms, hplan, hx⟩ := h
  obtain ⟨-, -, -, policy, hpolicy, hterms, -⟩ := plan_eq_issue_iff.mp hplan
  have hgoverns := Policy.settled_eq_ok_iff.mp hpolicy
  obtain ⟨htimeout, hlength⟩ := hone.terms hgoverns hterms
  obtain ⟨-, halphabet, -, hlengthEq⟩ := Terms.of_eq_ok_iff.mp hterms
  obtain ⟨now, hnow, hvalid⟩ := Keeper.isValid_of_issued htimeout hx
  obtain ⟨hcode, hchars⟩ := Keeper.toList_code_of_issued hlength hx
  exact ⟨policy, terms.alphabet, now, hgoverns, halphabet, hnow, hvalid,
    hcode.trans hlengthEq, hchars⟩

theorem find?_of_find?_after_respond {code : Glyphs} {id : String} {x : Issued}
    (h : ((respond p code).after g).keeper.store.find? id = some x) :
    g.keeper.store.find? id = some x := by
  cases hnow : g.keeper.world.reading? with
  | none =>
      rw [after, (ensures_respond_of_silence hnow p code).2.1] at h
      exact h
  | some now =>
      rw [after, (ensures_respond_of_reading hnow p code).2.1] at h
      exact Store.find?_of_find?_checked h

/-- An attempt with a code brings no record into the store. -/
theorem find?_of_find?_after_response {code : Glyphs} {id : String} {x : Issued}
    (h : ((verify deliver p (some code)).after g).keeper.store.find? id = some x) :
    g.keeper.store.find? id = some x := by
  obtain ⟨es, -, hafter⟩ := ensures_verify deliver p (some code) g
  rw [after, store_eq_of_hush hafter] at h
  obtain ⟨plan, hcheck, hplan⟩ | ⟨-, -, hplan⟩ := plan_of_code g p
  · have hissue : ∀ terms, plan ≠ .issue terms := fun terms hterms => by
      cases (plan_eq_issue_iff.mp ((hplan code).trans hterms)).2.2.1
    rw [hplan, store_after_perform_of_not_issued hcheck fun terms hterms =>
      absurd hterms (hissue terms)] at h
    exact h
  · rw [hplan] at h
    exact find?_of_find?_after_respond (g := g.told es) h

/-- With couriers that leave the store alone, whatever an attempt brings into it is the record
of a challenge. -/
theorem issues_of_stored (hspare : Sparing deliver) {response : Option Glyphs} {id : String}
    {x : Issued} (h : ((verify deliver p response).after g).keeper.store.find? id = some x)
    (hnew : g.keeper.store.find? id ≠ some x) :
    id = p.identifier ∧ response = none ∧ g.Issues p x := by
  cases response with
  | some code => exact absurd (find?_of_find?_after_response h) hnew
  | none =>
      by_cases hissues : ∃ y, g.Issues p y
      · obtain ⟨y, hy⟩ := hissues
        obtain ⟨rfl, rfl, -⟩ | ⟨hold, -⟩ := (hy.find?_after_iff hspare id x).mp h
        · exact ⟨rfl, rfl, hy⟩
        · exact absurd hold hnew
      · rw [store_after_challenge_of_not_issues deliver (not_exists.mp hissues)] at h
        exact absurd h hnew

theorem issues_of_mem_parcels {response : Option Glyphs} {parcel : Parcel κ}
    (h : parcel ∈ parcels deliver p response g) : g.Issues p parcel.record := by
  obtain ⟨_, _, _, _, _, -, -, -, -, hnotes⟩ | ⟨hnone, -⟩ :=
    notes_cases (fun courier recipients r _ => (⟨courier, recipients, r⟩ : Parcel κ)) deliver p
      response g
  · have hparcels : parcels deliver p response g = [_] := hnotes
    rw [hparcels, List.mem_singleton] at h
    exact issues_of_parcels (h ▸ hparcels)
  · have hparcels : parcels deliver p response g = [] := hnone
    rw [hparcels] at h
    cases h

/-! ### Opening -/

/-- The worker of a task that was just started runs on after its first wait, unless it is one that
cannot be asked for. -/
theorem isRunning_tick_start (name : String) (interval : Value) :
    (({ name, interval } : Periodic).start.1.tick 0).isRunning =
      !({ name, interval } : Periodic).isOverlong := by
  have htick : ({ name, interval } : Periodic).start.1.tick 0 =
      ({ name, interval } : Periodic).start.1.place 0
        (if ({ name, interval } : Periodic).isOverlong then .ended else .busy) := rfl
  rw [htick]
  cases ({ name, interval } : Periodic).isOverlong <;> rfl

/-- A gate can be opened if the interval is not at most zero, and its store is swept from then
on, unless the interval is too long to be waited for. -/
theorem exists_new {s : Settings} (hinterval : s.sweepInterval.atMostZero = false)
    (directory : Directory) (routes : Routes κ) (outside : ω) (w : World) :
    ∃ g, Gate.new s directory routes outside w = .ok g ∧ g.settings = s ∧
      g.keeper.store.sweeper.interval = .ofNumber s.sweepInterval ∧
      g.keeper.store.sweeper.held = some 0 ∧
      (g.keeper.store.sweeper.tick 0).isRunning = !g.keeper.store.sweeper.isOverlong := by
  have htask : Periodic.new "otp-session-sweep" (.ofNumber s.sweepInterval) =
      .ok { name := "otp-session-sweep", interval := .ofNumber s.sweepInterval } := by
    have hnumber : (Value.ofNumber s.sweepInterval).number = .ok s.sweepInterval := by
      cases s.sweepInterval <;> rfl
    unfold Periodic.new
    rw [hnumber]
    simp only [Bind.bind, Except.bind, hinterval]
    rfl
  unfold Gate.new
  rw [World.run_openStore, htask]
  exact ⟨_, rfl, rfl, rfl, rfl, isRunning_tick_start _ _⟩

end Gate

/-! ## Settings that were checked -/

/-- What everything that works with settings may rely on. -/
structure Settings.Guarantees (s : Settings) : Prop where
  /-- The interval between two sweeps is one that a timer takes, so a gate can be opened. -/
  opens : ∀ {κ ω : Type} (directory : Directory) (routes : Routes κ) (outside : ω) (w : World),
    ∃ g, Gate.new s directory routes outside w = .ok g ∧ g.settings = s ∧
      g.keeper.store.sweeper.interval = .ofNumber s.sweepInterval ∧
      g.keeper.store.sweeper.held = some 0 ∧
      (g.keeper.store.sweeper.tick 0).isRunning = !g.keeper.store.sweeper.isOverlong
  /-- Whoever supplied the values of a policy, a code can be drawn and waited for under it, and
  its members are members of their sets unless they are the defaults. -/
  policies : ∀ p gs disabled w policy, ((Policy.resolve s p gs disabled).run w).1 = .ok policy →
    policy.Sound s
  /-- All members of all policies are members of their sets just if the defaults are. -/
  genuine : (∀ p gs disabled w policy,
      ((Policy.resolve s p gs disabled).run w).1 = .ok policy →
        policy.channel.IsGenuine ∧ policy.alphabet.IsGenuine) ↔
    s.defaultMethod.IsGenuine ∧ s.alphabet.IsGenuine
  /-- No keeper refuses what it is asked to issue, whatever has become of the gate meanwhile. -/
  generates : ∀ {κ ω : Type} (g : Gate κ ω), g.settings = s → ∀ p response terms,
    g.plan p response = .issue terms → ∀ k m,
      ((Keeper.generate p.identifier terms.length terms.timeout terms.alphabet).run k).1 ≠
        .error (.misuse m)
  /-- A challenge of a named user who is held to the step ends in a misuse if it comes upon a
  member that is none of ours: the member is no word of the set where it stands. -/
  estranged : ∀ {κ ω : Type} (deliver : Gate.Deliver κ ω) (g : Gate κ ω), g.settings = s →
    ∀ p e, p.isAnonymous = false → g.Enforces p → g.Estranged p e →
      ((Gate.verify deliver p none).run g).1 = .error e ∧
        ∃ shown title, e = .misuse (.unknownWord shown title)
  /-- If an attempt ends in a misuse, then it came upon such a member, or a courier has failed in
  this way, over a record that was issued. -/
  verifies : ∀ {κ ω : Type} (deliver : Gate.Deliver κ ω) (g : Gate κ ω), g.settings = s →
    ∀ p response m, ((Gate.verify deliver p response).run g).1 = .error (.misuse m) →
      response = none ∧
        ((p.isAnonymous = false ∧ g.Enforces p ∧ g.Estranged p (.misuse m)) ∨
          ∃ terms x g', g.plan p none = .issue terms ∧ g.Issues p x ∧
            ((Gate.dispatch deliver terms.channel p x).run g').1 = .error (.misuse m))
  /-- No attempt comes upon one if the defaults are members of their sets. -/
  safe : s.defaultMethod.IsGenuine → s.alphabet.IsGenuine →
    ∀ {κ ω : Type} (g : Gate κ ω), g.settings = s → ∀ p e, ¬ g.Estranged p e
  /-- What a challenge issues keeps to the policy that governs the user. -/
  issues : ∀ {κ ω : Type} (g : Gate κ ω), g.settings = s → ∀ p x, g.Issues p x →
    g.WellIssued p x
  /-- A record that is in the store after an attempt and was not there before is the user's, was
  issued in a challenge, and keeps to the policy. -/
  stores : ∀ {κ ω : Type} {deliver : Gate.Deliver κ ω}, Gate.Sparing deliver →
    ∀ g : Gate κ ω, g.settings = s → ∀ p response id x,
      ((Gate.verify deliver p response).after g).keeper.store.find? id = some x →
      g.keeper.store.find? id ≠ some x →
        id = p.identifier ∧ response = none ∧ g.WellIssued p x
  /-- Couriers are handed nothing else. -/
  hands : ∀ {κ ω : Type} (deliver : Gate.Deliver κ ω) (g : Gate κ ω), g.settings = s →
    ∀ p response, ∀ parcel ∈ Gate.parcels deliver p response g, g.WellIssued p parcel.record

/-- The defaults make up the policy of a user of whom nobody says anything. -/
theorem Policy.resolve_default (s : Settings) (w : World) :
    ((resolve s { identifier := "" } [] (some (.bool false))).run w).1 =
      .ok ⟨s.defaultMethod, s.defaultTimeout, s.length, s.alphabet, .bool false⟩ := rfl

theorem Settings.genuine_iff {s : Settings} (hsound : ∀ p gs disabled w policy,
      ((Policy.resolve s p gs disabled).run w).1 = .ok policy → policy.Sound s) :
    (∀ p gs disabled w policy, ((Policy.resolve s p gs disabled).run w).1 = .ok policy →
        policy.channel.IsGenuine ∧ policy.alphabet.IsGenuine) ↔
      s.defaultMethod.IsGenuine ∧ s.alphabet.IsGenuine := by
  constructor
  · intro hall
    exact hall _ _ _ _ _ (Policy.resolve_default s { now := ⟨0, by decide⟩ })
  · rintro ⟨hmethod, halphabet⟩ p gs disabled w policy hresolve
    obtain ⟨-, -, hchannel, hchars⟩ := hsound p gs disabled w policy hresolve
    exact ⟨hchannel.elim id (· ▸ hmethod), hchars.elim id (· ▸ halphabet)⟩

/-- Settings that can be built give all of this. The one check that can still fail is that of a
default that is a member of another set. -/
theorem Settings.guarantees_of_build {draft : Draft} {s : Settings} (hbuild : build draft = .ok s) :
    s.Guarantees := by
  obtain ⟨hgives, -⟩ := build_eq_ok_iff.mp hbuild
  obtain ⟨htimeout, hlength⟩ := one_le_of_build hbuild
  have hone : ∀ {κ ω : Type} {g : Gate κ ω}, g.settings = s → ∀ p, g.Bounded p :=
    fun hg p => Gate.bounded_of_build (hg ▸ hbuild) p
  have hsound : ∀ p gs disabled w policy,
      ((Policy.resolve s p gs disabled).run w).1 = .ok policy → policy.Sound s :=
    fun _ _ _ _ _ => Policy.sound_of_resolve htimeout hlength
  exact {
    opens := Gate.exists_new hgives.sweepInterval.2
    policies := hsound
    genuine := genuine_iff hsound
    generates := fun g hg p response terms hplan k m => by
      obtain ⟨-, -, -, policy, hpolicy, hterms, -⟩ := Gate.plan_eq_issue_iff.mp hplan
      obtain ⟨htimeoutOf, hlengthOf⟩ :=
        (hone hg p).terms (Policy.settled_eq_ok_iff.mp hpolicy) hterms
      exact Keeper.generate_ne_misuse hlengthOf htimeoutOf m
    estranged := fun deliver g hg p e hp hyes h =>
      Gate.misuse_of_estranged deliver (hone hg p) hp hyes h
    verifies := fun deliver g hg p response m h => Gate.misuse_cases (hone hg p) h
    safe := fun hmethod halphabet κ ω g hg p e => by
      subst hg
      exact Gate.not_estranged hmethod halphabet e
    issues := fun g hg p x h => Gate.wellIssued_of_issues (hone hg p) h
    stores := fun hspare g hg p response id x h hnew => by
      obtain ⟨hid, hresponse, hissues⟩ := Gate.issues_of_stored hspare h hnew
      exact ⟨hid, hresponse, Gate.wellIssued_of_issues (hone hg p) hissues⟩
    hands := fun deliver g hg p response parcel h =>
      Gate.wellIssued_of_issues (hone hg p) (Gate.issues_of_mem_parcels h) }

def Settings.least : Settings := { usual with defaultTimeout := 1, length := 1 }

/-- A code of one character that is valid for one second is in the store after a challenge under
the least settings. -/
theorem least_code_issued :
    Settings.build
        { defaultTimeout := .int 1, length := .int 1
          mailTimeout := .int 10
          sweepInterval := .int 60 } = .ok .least ∧
      ∃ x, ((Gate.verify Gate.handOver (.withMail "ada" "ada@example.org") none).after
          (Gate.fresh .least .empty () ())).keeper.store.find? "ada" = some x ∧
        (Gate.fresh .least .empty () ()).WellIssued (.withMail "ada" "ada@example.org") x := by
  have hbuild : Settings.build
      { defaultTimeout := .int 1, length := .int 1
        mailTimeout := .int 10
        sweepInterval := .int 60 } = .ok .least := rfl
  have hstored : ((Gate.verify Gate.handOver (.withMail "ada" "ada@example.org") none).after
      (Gate.fresh .least .empty () ())).keeper.store.find? "ada" =
        some ⟨0, "0", ⟨2000000, by decide⟩⟩ := by decide +kernel
  obtain ⟨-, -, hwell⟩ := (Settings.guarantees_of_build hbuild).stores (fun _ _ _ _ => rfl)
    (Gate.fresh .least .empty () ()) rfl _ _ _ _ hstored nofun
  exact ⟨hbuild, _, hstored, hwell⟩

/-- Settings with a channel in the place of the alphabet. -/
def Settings.misfitted : Settings :=
  { usual with alphabet := .stranger ⟨"DeliveryChannel", "EMAIL", .text "email", true⟩ }

/-- Settings with a channel in the place of the alphabet can be built. Their policies hold it, and
the first challenge ends in a misuse. -/
theorem estranged_alphabet_accepted :
    Settings.build
        { alphabet := .stranger ⟨"DeliveryChannel", "EMAIL", .text "email", true⟩
          mailTimeout := .int 10
          sweepInterval := .int 60 } = .ok .misfitted ∧
      ¬ Settings.misfitted.alphabet.IsGenuine ∧
      ((Gate.verify Gate.handOver (.withMail "ada" "ada@example.org") none).run
        (Gate.fresh .misfitted .empty () ())).1 =
          .error (.misuse (.unknownWord "<DeliveryChannel.EMAIL: 'email'>" "CharacterClass")) := by
  refine ⟨rfl, ?_, by decide +kernel⟩
  rintro ⟨m, h, -⟩
  cases h

end Passcode
