import Passcode.Proofs.Drafts
import Passcode.Proofs.Refusals

/-!
# Attempts without an answer

Settings that were checked hold whole numbers of at least one, and so does every value that a
positive number is read from. With such settings, a clock that works, and couriers that
deliver or fail as deliveries do, an attempt has an outcome but for a few cases
(`Gate.Unanswered`): the time for which a code would be valid ends after the calendar does, the
settings hold a member that is none of ours as the channel or as the alphabet
(`Gate.Estranged`), or what is submitted is no text and would have to be compared with a code.
`error_iff_unanswered` says that there are no others.
-/

namespace Passcode

open Passcode.Action

/-! ## Numbers of at least one -/

namespace Settings

theorem one_le_of_build {draft : Draft} {s : Settings} (h : build draft = .ok s) :
    1 ≤ s.defaultTimeout ∧ 1 ≤ s.length := by
  obtain ⟨hgives, -⟩ := build_eq_ok_iff.mp h
  exact ⟨hgives.defaultTimeout.2, hgives.length.2⟩

end Settings

theorem Tier.Yields.one_le {d : Directory} {p : Principal} {a : Attribute} {fallback n : Int}
    (h : Yields d p a .positiveInt fallback n) (hfallback : 1 ≤ fallback) : 1 ≤ n := by
  cases h with
  | read hwins hread => exact Reader.one_le_of_positiveInt hread
  | fallback => exact hfallback

/-! ## Attempts -/

namespace Gate

variable {κ ω : Type} {deliver : Deliver κ ω} {p : Principal} {response : Option Glyphs}
  {g : Gate κ ω} {now : Instant}

/-- With numbers of at least one and a working clock, the calendar and a store that was shut
down are all that can stand in the way of a code. -/
theorem generate_eq_error_iff {k : Keeper} (hnow : k.world.reading? = some now) (id : String)
    {length timeout : Int} (hlength : 1 ≤ length) (htimeout : 1 ≤ timeout) (alphabet : Alphabet)
    (e : Failure) : ((Keeper.generate id length timeout alphabet).run k).1 = .error e ↔
      (now.addMicros? (timeout * 1000000) = none ∧ e = .outOfCalendar) ∨
        (now.addMicros? (timeout * 1000000) ≠ none ∧ k.store.closed = true ∧
          e = .refused .storeClosed) := by
  have htimeout' : ¬ timeout < 1 := by omega
  have hlength' : ¬ length < 1 := by omega
  rw [Keeper.answer_generate, if_neg htimeout', if_neg hlength', hnow, @eq_comm _ e,
    @eq_comm _ e]
  dsimp only
  cases now.addMicros? (timeout * 1000000) with
  | none => simp
  | some t => cases k.store.closed <;> simp

/-- The numbers of every policy that the attributes of a user come to are at least one. -/
def Bounded (g : Gate κ ω) (p : Principal) : Prop :=
  ∀ policy, Policy.Governs g.settings g.directory p policy →
    1 ≤ policy.timeout ∧ 1 ≤ policy.length

theorem bounded_of_build {draft : Draft} (h : Settings.build draft = .ok g.settings)
    (p : Principal) : Bounded g p := by
  obtain ⟨htimeout, hlength⟩ := Settings.one_le_of_build h
  exact fun _ hpolicy => ⟨hpolicy.timeout.one_le htimeout, hpolicy.length.one_le hlength⟩

theorem Bounded.terms (hone : Bounded g p) {policy : Policy} {terms : Terms}
    (hpolicy : Policy.Governs g.settings g.directory p policy)
    (hterms : Terms.of policy = .ok terms) : 1 ≤ terms.timeout ∧ 1 ≤ terms.length := by
  obtain ⟨-, -, htimeout, hlength⟩ := Terms.of_eq_ok_iff.mp hterms
  rw [htimeout, hlength]
  exact hone policy hpolicy

/-- A challenge of a user comes upon a member that is none of ours: the channel of the policy or,
if the user can be reached, the alphabet. -/
inductive Estranged (g : Gate κ ω) (p : Principal) : Failure → Prop
  | channel {policy e} (hpolicy : Policy.Governs g.settings g.directory p policy)
      (h : policy.channel.demand = .error e) : Estranged g p e
  | alphabet {policy c e} (hpolicy : Policy.Governs g.settings g.directory p policy)
      (hchannel : policy.channel.demand = .ok c) (hsome : p.recipients c ≠ [])
      (h : policy.alphabet.demand = .error e) : Estranged g p e

theorem Estranged.unknownWord {e : Failure} (h : g.Estranged p e) :
    ∃ shown title, e = .misuse (.unknownWord shown title) := by
  cases h with
  | channel _ h =>
      obtain ⟨shown, rfl⟩ := Held.unknownWord_of_demand h
      exact ⟨shown, _, rfl⟩
  | alphabet _ _ _ h =>
      obtain ⟨shown, rfl⟩ := Held.unknownWord_of_demand h
      exact ⟨shown, _, rfl⟩

theorem plan_eq_fail_misuse_iff_estranged (hone : Bounded g p) {m : Misuse} :
    g.plan p response = .fail (.misuse m) ↔
      p.isAnonymous = false ∧ g.Enforces p ∧ response = none ∧ g.Estranged p (.misuse m) := by
  rw [plan_eq_fail_misuse_iff]
  refine and_congr_right fun _ => and_congr_right fun _ => and_congr_right fun _ => ?_
  constructor
  · rintro ⟨policy, hpolicy, hfail⟩
    obtain ⟨htimeout, hlength⟩ := hone policy hpolicy
    obtain hchannel | ⟨c, hchannel, hsome, halphabet⟩ :=
      (Plan.ofPolicy_eq_fail_iff htimeout hlength).mp hfail
    · exact .channel hpolicy hchannel
    · exact .alphabet hpolicy hchannel hsome halphabet
  · intro h
    cases h with
    | @channel policy _ hpolicy hchannel =>
        obtain ⟨htimeout, hlength⟩ := hone policy hpolicy
        exact ⟨policy, hpolicy, (Plan.ofPolicy_eq_fail_iff htimeout hlength).mpr (.inl hchannel)⟩
    | @alphabet policy c _ hpolicy hchannel hsome halphabet =>
        obtain ⟨htimeout, hlength⟩ := hone policy hpolicy
        exact ⟨policy, hpolicy, (Plan.ofPolicy_eq_fail_iff htimeout hlength).mpr
          (.inr ⟨c, hchannel, hsome, halphabet⟩)⟩

end Gate

end Passcode
