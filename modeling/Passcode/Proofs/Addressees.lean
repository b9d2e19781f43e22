import Passcode.Proofs.Tiers
import Passcode.Proofs.Trims
import Passcode.Proofs.Turns

/-!
# Whom a code goes to

A code goes to the user it was issued for and to nobody else. Its recipients are the texts that
the user's own attributes give for the channel, trimmed, without blanks and repetitions
(`Attributes.destinations`); the courier is the one who was registered last for the channel
(`Registered`); and the record is the one that the store has for the user at that moment
(`Send`). `codes_reach_their_owner` says so of every courier that is reached in a run of
attempts, of whatever else may happen at a gate, and of registrations, and says when one is.
-/

namespace Passcode

open Passcode.Action Run

/-! ## Destinations -/

/-- The keys of the attributes that hold the destinations of a channel. -/
def Channel.destinationKeys : Channel → List String
  | email => ["email-address", "otp-email"]
  | sms => ["otp-phone"]

/-- The texts that a map of attributes gives for a channel, trimmed, each of them once, and
without blanks. -/
def Attributes.destinations (attributes : Option Attributes) (c : Channel) : List String :=
  ((c.destinationKeys.map fun key =>
    Text.trim (((attributes.bind fun m => m.find? key).join).getD "")).filter (· ≠ "")).eraseDups

theorem foldl_addRecipient (texts : List String) :
    texts.foldl addRecipient [] = (texts.filter (· ≠ "")).eraseDups := by
  induction texts using List.reverseRecOn with
  | nil => rfl
  | append_singleton texts s ih =>
      rw [List.foldl_append, ih, List.filter_append, List.foldl_cons, List.foldl_nil, addRecipient]
      by_cases hs : s = ""
      · simp [hs]
      · rw [List.filter_singleton]
        simp only [hs, ne_eq, not_false_eq_true, decide_true, cond_true, false_or,
          List.mem_eraseDups, eraseDups_concat]

/-- The recipients of a user on a channel are what the user's own attributes give for it. -/
theorem Principal.recipients_eq (p : Principal) (c : Channel) :
    p.recipients c = Attributes.destinations p.attributes c := by
  have hkeys : c.destinationKeys = c.attributes.map Attribute.key := by cases c <;> rfl
  rw [Attributes.destinations, ← foldl_addRecipient, hkeys, List.map_map, List.foldl_map]
  rfl

theorem Attributes.mem_destinations {attributes : Option Attributes} {c : Channel} {s : String}
    (h : s ∈ destinations attributes c) : Text.trim s = s ∧ Text.isBlank (some s) = false := by
  obtain ⟨hmem, hsome⟩ := List.mem_filter.mp (List.mem_eraseDups.mp h)
  obtain ⟨key, -, rfl⟩ := List.mem_map.mp hmem
  have htrim := Text.trim_trim (((attributes.bind fun m => m.find? key).join).getD "")
  refine ⟨htrim, Bool.eq_false_iff.mpr fun hblank => ?_⟩
  exact of_decide_eq_true hsome (htrim.symm.trans (Text.trim_of_isBlank hblank))

/-! ## Registrations -/

/-- The courier was registered for the channel, and none was after it. -/
def Registered {κ : Type} (registrations : List (Channel × κ)) (c : Channel) (courier : κ) : Prop :=
  Since (· = (c, courier)) (·.1 = c) registrations

theorem ofList_concat {κ : Type} (registrations : List (Channel × κ)) (c : Channel) (courier : κ) :
    Keyed.ofList (registrations ++ [(c, courier)]) = (Keyed.ofList registrations).put c courier :=
  List.foldl_concat ..

theorem find?_ofList_eq_some_iff {κ : Type} {registrations : List (Channel × κ)} {c : Channel}
    {courier : κ} : (Keyed.ofList registrations).find? c = some courier ↔
      Registered registrations c courier := by
  induction registrations using List.reverseRecOn with
  | nil => exact iff_of_false nofun not_since_nil
  | append_singleton registrations e ih =>
      obtain ⟨c', courier'⟩ := e
      rw [Registered, since_concat, ← Registered, ← ih, ofList_concat]
      by_cases hc : c = c'
      · subst hc
        simp [eq_comm]
      · rw [Keyed.find?_put_of_ne _ _ hc]
        simp [Ne.symm hc]

/-! ## Sends -/

/-- What a courier is handed, and the store at that moment. -/
structure Send (κ : Type) where
  courier : κ
  recipients : List String
  record : Issued
  store : Store

namespace Gate

variable {κ ω : Type}

def sending (courier : κ) (recipients : List String) (r : Issued) (g : Gate κ ω) : Send κ :=
  ⟨courier, recipients, r, g.keeper.store⟩

def sends (deliver : Deliver κ ω) (p : Principal) (response : Option Glyphs) (g : Gate κ ω) :
    List (Send κ) :=
  notes sending deliver p response g

/-- A code is sent as it should be: it is all that is sent in a challenge for which the step is
enforced, it is handed to the courier who was registered last for the channel of the policy,
it is the one that the store has for the user, and it is sent to the user's own destinations. -/
structure Addressed (registrations : List (Channel × κ)) (deliver : Deliver κ ω) (p : Principal)
    (response : Option Glyphs) (g : Gate κ ω) (s : Send κ) : Prop where
  only : sends deliver p response g = [s]
  named : p.isAnonymous = false
  enforced : g.Enforces p
  unanswered : response = none
  routed : ∃ policy terms, Policy.Governs g.settings g.directory p policy ∧
    Terms.of policy = .ok terms ∧ Registered registrations terms.channel s.courier ∧
    s.recipients = Attributes.destinations p.attributes terms.channel ∧
    ((Keeper.generate p.identifier terms.length terms.timeout terms.alphabet).run
      g.keeper).1 = .ok s.record
  stored : s.store.find? p.identifier = some s.record
  someone : s.recipients ≠ []
  distinct : s.recipients.Nodup
  trimmed : ∀ r ∈ s.recipients, Text.trim r = r
  present : ∀ r ∈ s.recipients, Text.isBlank (some r) = false

/-- A challenge comes to issue a code, and somebody delivers on its channel. -/
def Reaches (registrations : List (Channel × κ)) (p : Principal) (response : Option Glyphs)
    (g : Gate κ ω) : Prop :=
  p.isAnonymous = false ∧ g.Enforces p ∧ response = none ∧ ∃ policy terms x courier,
    Policy.Governs g.settings g.directory p policy ∧ Terms.of policy = .ok terms ∧
    Attributes.destinations p.attributes terms.channel ≠ [] ∧
    ((Keeper.generate p.identifier terms.length terms.timeout terms.alphabet).run
      g.keeper).1 = .ok x ∧
    Registered registrations terms.channel courier

variable {registrations : List (Channel × κ)} {deliver : Deliver κ ω} {p : Principal}
  {response : Option Glyphs} {g : Gate κ ω}

theorem reaches_iff (hroutes : g.routes = .ofList registrations) :
    Reaches registrations p response g ↔ ∃ terms x courier, g.plan p response = .issue terms ∧
      ((Keeper.generate p.identifier terms.length terms.timeout terms.alphabet).run
        g.keeper).1 = .ok x ∧ g.routes.find? terms.channel = some courier := by
  simp only [Reaches, plan_eq_issue_iff, Policy.settled_eq_ok_iff, hroutes,
    find?_ofList_eq_some_iff, Principal.recipients_eq]
  constructor
  · rintro ⟨hp, hyes, hresponse, policy, terms, x, courier, hpolicy, hterms, hsome, hx, hcourier⟩
    exact ⟨terms, x, courier, ⟨hp, hyes, hresponse, policy, hpolicy, hterms, hsome⟩, hx, hcourier⟩
  · rintro ⟨terms, x, courier, ⟨hp, hyes, hresponse, policy, hpolicy, hterms, hsome⟩, hx, hcourier⟩
    exact ⟨hp, hyes, hresponse, policy, terms, x, courier, hpolicy, hterms, hsome, hx, hcourier⟩

/-- An attempt sends what it should, or nothing if it does not come to sending. -/
theorem sends_cases (hroutes : g.routes = .ofList registrations) (deliver : Deliver κ ω)
    (p : Principal) (response : Option Glyphs) :
    (∃ s, Addressed registrations deliver p response g s ∧ Reaches registrations p response g) ∨
      (sends deliver p response g = [] ∧ ¬ Reaches registrations p response g) := by
  rw [reaches_iff hroutes]
  refine (notes_cases sending deliver p response g).imp (fun hsent => ?_) fun hnothing => ?_
  · obtain ⟨terms, x, courier, b, h, hplan, hx, hcourier, hput, hsends⟩ := hsent
    have hstored : h.keeper.store.find? p.identifier = some x := by
      rw [Store.find?_of_put hput, if_pos rfl]
    obtain ⟨hp, hyes, hresponse, policy, hpolicy, hterms, hsome⟩ := plan_eq_issue_iff.mp hplan
    rw [Principal.recipients_eq] at hsends hsome
    have hregistered : Registered registrations terms.channel courier := by
      rw [← find?_ofList_eq_some_iff, ← hroutes]
      exact hcourier
    refine ⟨sending courier (Attributes.destinations p.attributes terms.channel) x h, ?_,
      terms, x, courier, hplan, hx, hcourier⟩
    exact
      { only := hsends
        named := hp
        enforced := hyes
        unanswered := hresponse
        routed := ⟨policy, terms, Policy.settled_eq_ok_iff.mp hpolicy, hterms, hregistered, rfl, hx⟩
        stored := hstored
        someone := hsome
        distinct := nodup_eraseDups _
        trimmed := fun r hr => (Attributes.mem_destinations hr).1
        present := fun r hr => (Attributes.mem_destinations hr).2 }
  · obtain ⟨hnone, hnobody⟩ := hnothing
    refine ⟨hnone, ?_⟩
    rintro ⟨terms, x, courier, hplan, hx, hcourier⟩
    cases (hnobody terms x hplan hx).symm.trans hcourier

def Act.sends (deliver : Deliver κ ω) : Act κ → Gate κ ω → List (Send κ)
  | turn (.verify p response), g => g.sends deliver p response
  | _, _ => []

/-- Only an attempt sends anything, and it sends what it should. -/
theorem Act.addressed_sends (hroutes : g.routes = .ofList registrations) (deliver : Deliver κ ω)
    (act : Act κ) :
    (∀ s ∈ act.sends deliver g, ∃ p response, act = .turn (.verify p response) ∧
        g.Addressed registrations deliver p response s) ∧
      ∀ p response, act = .turn (.verify p response) →
        (act.sends deliver g ≠ [] ↔ g.Reaches registrations p response) := by
  refine ⟨fun s hs => ?_, ?_⟩
  · obtain ⟨p, response, rfl⟩ : ∃ p response, act = .turn (.verify p response) := by
      cases act with
      | turn t =>
          cases t with
          | verify p response => exact ⟨p, response, rfl⟩
          | _ => cases hs
      | _ => cases hs
    obtain ⟨s', haddressed, -⟩ | ⟨hnone, -⟩ := sends_cases hroutes deliver p response
    · obtain rfl : s = s' := List.mem_singleton.mp (haddressed.only ▸ hs)
      exact ⟨p, response, rfl, haddressed⟩
    · rw [sends, hnone] at hs
      cases hs
  · rintro p response rfl
    rw [Act.sends]
    obtain ⟨s, haddressed, hreaches⟩ | ⟨hnone, hno⟩ := sends_cases hroutes deliver p response
    · simp [haddressed.only, hreaches]
    · simp [hnone, hno]

/-! ### Registrations in a run -/

/-- Couriers who register nobody. -/
def Modest (deliver : Deliver κ ω) : Prop :=
  ∀ courier recipients r g, ((deliver courier recipients r).after g).routes = g.routes

def Act.registration? : Act κ → Option (Channel × κ)
  | register c courier => some (c, courier)
  | _ => none

def registered (h : List (Step (Act κ) (Gate κ ω) Unit)) : List (Channel × κ) :=
  h.filterMap fun e => e.input.registration?

theorem Modest.routes_after_turn (hmodest : Modest deliver) (t : Turn) (g : Gate κ ω) :
    ((t.perform deliver).after g).routes = g.routes := by
  unfold after
  cases t with
  | verify p response =>
      rw [Turn.perform, run_map]
      refine keeps_verify (I := fun h => h.routes = g.routes) (fun h h' hhush hh => ?_)
        (fun courier recipients r h hh => ?_) (fun _ _ _ _ hh => hh) (fun _ _ hh => hh)
        (fun _ _ hh => hh) response g rfl
      · exact (hush_eq_iff.mp hhush).2.2.1.trans hh
      · exact (hmodest courier recipients r h).trans hh
  | loggedIn p =>
      rw [Turn.perform, run_map]
      cases hp : p.isAnonymous with
      | true => rw [run_loggedIn_of_anonymous hp]
      | false => rw [run_loggedIn_of_named hp]
  | sweep duration => rw [Turn.perform, run_map, run_inKeeper]
  | shutdown =>
      rw [Turn.perform, run_map, run_shutdown]
      rfl
  | _ => rfl

theorem Modest.routes_final (hmodest : Modest deliver) (hroutes : g.routes = .ofList registrations)
    (acts : List (Act κ)) : (final (Act.perform deliver) g acts).routes =
      .ofList (registrations ++ registered (trace (Act.perform deliver) g acts)) := by
  induction acts using List.reverseRecOn with
  | nil => exact hroutes.trans (congrArg _ (List.append_nil _).symm)
  | append_singleton acts act ih =>
      rw [final_concat, trace_concat, registered, List.filterMap_append, ← registered,
        ← List.append_assoc, after]
      cases act with
      | turn t =>
          have hturn := hmodest.routes_after_turn t (final (Act.perform deliver) g acts)
          rw [Act.perform, run_map]
          exact (hturn.trans ih).trans (congrArg _ (List.append_nil _).symm)
      | call c =>
          rw [Act.perform, run_map, run_inKeeper]
          exact ih.trans (congrArg _ (List.append_nil _).symm)
      | register c courier =>
          have hput : ((register c courier).run (final (Act.perform deliver) g acts)).2.routes =
            (final (Act.perform deliver) g acts).routes.put c courier := rfl
          rw [Act.perform, hput, ih, ← ofList_concat, List.append_assoc]
          simp [registered, Act.registration?, step]

end Gate

/-- In every run, whatever the couriers do: each courier that is reached is handed a code of
the user whose attempt it is, as it should be, and an attempt reaches one if and only if it
comes to issue a code and somebody was registered for its channel. As long as the couriers
register nobody, who was registered is told by the acts. -/
theorem codes_reach_their_owner {κ ω : Type} (deliver : Gate.Deliver κ ω) (g : Gate κ ω)
    (acts : List (Gate.Act κ)) : ∀ earlier e later,
      trace (Gate.Act.perform deliver) g acts = earlier ++ e :: later →
        (Gate.Modest deliver → ∀ registrations, g.routes = .ofList registrations →
          e.before.routes = .ofList (registrations ++ Gate.registered earlier)) ∧
        ∀ registrations, e.before.routes = .ofList registrations →
          (∀ s ∈ e.input.sends deliver e.before, ∃ p response,
            e.input = .turn (.verify p response) ∧
              e.before.Addressed registrations deliver p response s) ∧
          ∀ p response, e.input = .turn (.verify p response) →
            (e.input.sends deliver e.before ≠ [] ↔
              e.before.Reaches registrations p response) := by
  intro earlier e later htrace
  obtain ⟨before, act, _, rfl, rfl, -⟩ := exists_of_trace_eq_append_cons htrace
  exact ⟨fun hmodest registrations hroutes => hmodest.routes_final hroutes before,
    fun registrations hroutes => Gate.Act.addressed_sends hroutes deliver act⟩

/-- A user who has one address in two spellings, and a group with another address. -/
def Principal.repetitive : Principal :=
  { identifier := "ada"
    attributes := some ((Keyed.empty.put "email-address" (some " ada@example.org ")).put
      "otp-email" (some "ada@example.org\n"))
    groups := ["staff"] }

/-- A directory in which the group of a repetitive user has an address of its own. -/
def Directory.withMail : Directory :=
  Keyed.empty.put "staff" (some (Keyed.empty.put "email-address" (some "eve@example.org")))

/-- Numbered couriers who deliver everything and keep nothing. -/
def Gate.carryOut : Gate.Deliver Nat Unit := fun _ recipients _ => return ⟨.email, recipients⟩

/-- Three couriers are registered, the third in the place of the first. -/
def Gate.registrations : List (Gate.Act Nat) :=
  [.register .email 1, .register .sms 3, .register .email 2]

/-- The code of a repetitive user goes to the user's one address, and the courier who was
registered last takes it there. -/
theorem code_reaches_repetitive_user :
    ∃ g, g = final (Gate.Act.perform Gate.carryOut) (Gate.fresh .usual .withMail 0 ())
        Gate.registrations ∧
      g.routes = .ofList [(.email, 0), (.email, 1), (.sms, 3), (.email, 2)] ∧
      ∃ s, g.sends Gate.carryOut .repetitive none = [s] ∧ s.courier = 2 ∧
        s.recipients = ["ada@example.org"] ∧ s.store.find? "ada" = some s.record := by
  obtain ⟨hregistered, hreach⟩ := codes_reach_their_owner Gate.carryOut
    (Gate.fresh .usual .withMail 0 ())
    (Gate.registrations ++ [.turn (.verify .repetitive none)]) _ _ [] (trace_concat ..)
  have hroutes := hregistered (fun _ _ _ _ => rfl) [(.email, 0)] rfl
  refine ⟨_, rfl, hroutes, ?_⟩
  have hhanded : ((final (Gate.Act.perform Gate.carryOut) (Gate.fresh .usual .withMail 0 ())
      Gate.registrations).sends Gate.carryOut .repetitive none).map
        (fun s => (s.courier, s.recipients)) = [(2, ["ada@example.org"])] := by
    decide +kernel
  obtain ⟨s, hs, hsame⟩ := List.mem_map.mp (hhanded ▸ List.mem_singleton_self _)
  obtain ⟨p, response, hinput, haddressed⟩ := (hreach _ hroutes).1 s hs
  obtain ⟨rfl, rfl⟩ := Turn.verify.inj (Gate.Act.turn.inj hinput)
  obtain ⟨hcourier, hrecipients⟩ := Prod.mk.inj hsame
  exact ⟨s, haddressed.only, hcourier, hrecipients, haddressed.stored⟩

end Passcode
