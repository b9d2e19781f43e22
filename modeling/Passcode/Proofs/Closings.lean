import Passcode.Proofs.Answers
import Passcode.Proofs.Turns

/-!
# Shut for good

A store that was shut down is empty, takes nothing in and is not swept, and no operation
changes that (`Store.Shut`). A keeper of such a store counts no codes, and whatever it is
called for leaves it so (`Keeper.Shut`). At a gate of such a keeper a courier is never reached,
so nothing depends on what couriers would do.

`shut_for_good` says what every gate does, however long ago it was shut: it sends nothing, it
lets nobody through by a code, and it decides everything else as it would have before.
-/

namespace Passcode

open Passcode.Action

/-! ## Stores -/

namespace Store

/-- A store that was shut down: it has no records, takes none in, and is not swept. -/
structure Shut (s : Store) : Prop where
  empty : s.records = .empty
  closed : s.closed = true
  idle : s.sweeper.held = none

variable {s : Store} {id : String}

theorem shut_close (s : Store) : s.close.1.Shut := by
  refine ⟨rfl, rfl, ?_⟩
  unfold close Periodic.cancel
  cases h : s.sweeper.held with
  | none => exact h
  | some i => rfl

namespace Shut

variable (hs : s.Shut)
include hs

theorem find?_eq_none (id : String) : s.find? id = none := by
  rw [find?, hs.empty]
  rfl

theorem size_eq_zero : s.size = 0 := by
  rw [size, hs.empty]
  rfl

theorem contains_eq_false (id : String) : s.records.contains id = false := by
  rw [hs.empty]
  rfl

theorem remove_eq (id : String) : s.remove id = s := by
  have herase : s.records.erase id = s.records := by
    rw [hs.empty]
    rfl
  rw [remove, herase]

theorem discard_eq (id : String) (r : Issued) : s.discard id r = (false, s) := by
  rw [discard, hs.find?_eq_none]
  rfl

theorem verdict_eq (now : Instant) (id : String) (c : Option Glyphs) :
    s.verdict now id c = .ok .noChallenge :=
  verdict_eq_noChallenge_iff.mpr (hs.find?_eq_none id)

theorem sweep_eq (now : Instant) : s.sweep now = ([], s) := by
  have hfilter : ∀ f, s.records.filter f = s.records := by
    rw [hs.empty]
    exact fun _ => rfl
  have hkeys : s.records.keys = [] := by
    rw [hs.empty]
    rfl
  rw [sweep, hfilter, hfilter, hkeys]

theorem close_eq : s.close = (s, []) := by
  have hcancel : s.sweeper.cancel = (s.sweeper, []) := by
    rw [Periodic.cancel, hs.idle]
  rw [close, hcancel, ← hs.empty, ← hs.closed]

end Shut

end Store

/-! ## Keepers -/

namespace Keeper

/-- A keeper whose store was shut down, and that counts no codes. -/
structure Shut (k : Keeper) : Prop where
  store : k.store.Shut
  gauge : k.world.metrics.active = .int 0

variable {k : Keeper}

theorem shut_shutdown (k : Keeper) : (shutdown.after k).Shut := by
  have hclose := k.store.shut_close
  unfold Action.after
  rw [run_shutdown]
  refine ⟨hclose, ?_⟩
  have hgauge : (Number.int (k.store.close.1.size)) = .int 0 := by
    rw [hclose.size_eq_zero]
    rfl
  exact hgauge

namespace Shut

variable (hk : k.Shut)
include hk

theorem told (es : List Event) : (k.told es).Shut := ⟨hk.store, hk.gauge⟩

theorem misread : k.misread.Shut := ⟨hk.store, hk.gauge⟩

theorem keeping_eq : k.keeping k.store = k := by
  obtain ⟨⟨now, failures, draws, made, metrics, log⟩, store⟩ := k
  have hgauge : metrics.active = .int store.size := by
    rw [hk.store.size_eq_zero]
    exact hk.gauge
  unfold keeping metered
  dsimp only
  rw [← hgauge]

theorem run_put (id : String) (r : Issued) :
    (put id r).run k = (.error (.refused .storeClosed), k) := by
  rw [Keeper.run_put, Store.put_of_closed hk.store.closed]

theorem run_start : start.run k = (.error (.refused .storeClosed), k) := by
  rw [start, run_bind_of_ok (run_get k), if_pos hk.store.closed]
  rfl

theorem run_discard (id : String) (r : Issued) : (discard id r).run k = (.ok false, k) := by
  rw [Keeper.run_discard, hk.store.discard_eq, hk.keeping_eq]

theorem run_invalidate (id : String) : (invalidate id).run k = (.ok false, k) := by
  rw [Keeper.run_invalidate, hk.store.contains_eq_false, hk.store.remove_eq, hk.keeping_eq]
  simp [Keeper.told, World.told]

theorem run_shutdown : shutdown.run k = (.ok ⟨⟩, k.told [.storeShutdown]) := by
  rw [Keeper.run_shutdown, hk.store.close_eq, hk.keeping_eq]
  rfl

theorem generate (id : String) (length timeout : Int) (alphabet : Alphabet) :
    ∃ e, ((generate id length timeout alphabet).run k).1 = .error e := by
  obtain ⟨x, b, -, hput⟩ | ⟨e, he, -⟩ := ensures_generate k id length timeout alphabet
  · cases (Store.put_of_closed hk.store.closed id x).symm.trans hput
  · exact ⟨e, he⟩

theorem after_generate (id : String) (length timeout : Int) (alphabet : Alphabet) :
    ((Keeper.generate id length timeout alphabet).after k).Shut := by
  refine keeps_generate (fun _ _ h => ⟨h.store, h.gauge⟩) (fun _ h => h.misread)
    (fun _ h => ⟨h.store, h.gauge⟩) (fun k x b s h hput => ?_) k hk
  cases (Store.put_of_closed h.store.closed id x).symm.trans hput

theorem after_check (id : String) (c : Option Glyphs) : ((check id c).after k).Shut := by
  unfold Action.after
  cases h : k.world.reading? with
  | none =>
      rw [run_check_of_silence h]
      exact hk.misread
  | some now =>
      rw [run_check_of_reading h, hk.store.verdict_eq]
      have hkept : k.store.settled id .noChallenge = k.store := rfl
      dsimp only
      rw [hkept, hk.keeping_eq]
      exact hk.told _

theorem after_sweep (duration : Float) : ((sweep duration).after k).Shut := by
  unfold Action.after
  cases h : k.world.reading? with
  | none =>
      rw [run_sweep_of_silence h]
      exact hk.misread
  | some now =>
      rw [run_sweep_of_reading h, hk.store.sweep_eq, hk.keeping_eq]
      exact ⟨hk.store, hk.gauge⟩

theorem after_call (c : Call) : (c.perform.after k).Shut := by
  refine c.after_cases hk.after_generate (fun id r => ?put) hk.after_check (fun id => ?invalidate)
    (fun id r => ?discard) hk.after_sweep (shut_shutdown k) (fun _ _ => ⟨hk.store, hk.gauge⟩) ?start
    fun duration => ?cycle
  case put =>
    rw [after, hk.run_put]
    exact hk
  case invalidate =>
    rw [after, hk.run_invalidate]
    exact hk
  case discard =>
    rw [after, hk.run_discard]
    exact hk
  case start =>
    rw [after, hk.run_start]
    exact hk
  case cycle =>
    have hsweep := hk.after_sweep duration
    rw [after, run_cycle]
    cases ((sweep duration).run k).1 with
    | ok n => exact hsweep
    | error e => exact hsweep.told _

end Shut

end Keeper

/-! ## Gates -/

/-- The outcomes that come before any code is issued or checked: the user is let through
without one, or refused for the settings or for missing attributes. -/
def Outcome.isForegone : Outcome → Bool
  | verified (some _) | rejected .configurationError .. | rejected .missingAttributes .. => true
  | _ => false

namespace Gate

variable {κ ω ω' : Type} {deliver : Deliver κ ω} {p : Principal} {response : Option Glyphs}
  {g : Gate κ ω}

/-- What a plan comes to that neither issues a code nor checks one. -/
def Plan.foregone (p : Principal) : Plan → Option (Except Failure Outcome)
  | fail e => some (conclude (.error e))
  | pass b => some (.ok (.verified (some b)))
  | turnAway c => some (.ok (.refuse .missingAttributes
      (.missingAttributes p.identifier (Vocabulary.word c))))
  | _ => none

theorem conclude_of_foregone {plan : Plan} {a : Except Failure Outcome}
    (h : plan.foregone p = some a) : conclude ((plan.perform deliver p).run g).1 = a := by
  cases plan with
  | fail e => exact Option.some.inj h
  | pass b => exact Option.some.inj h
  | turnAway c => exact Option.some.inj h
  | issue terms => cases h
  | check code => cases h

/-- Where no code is issued, that is not for the settings or for missing attributes. -/
theorem not_isForegone_of_generate {k : Keeper} {id : String} {length timeout : Int}
    {alphabet : Alphabet} {e : Failure} {o : Outcome}
    (h : ((Keeper.generate id length timeout alphabet).run k).1 = .error e)
    (ho : conclude (.error e) = .ok o) : o.isForegone = false := by
  obtain ⟨reason, cause, hend, rfl, ⟨-, hcause⟩ | ⟨rfl, -⟩⟩ | ⟨hend, -⟩ := conclude_error_cases e
  · exact absurd hcause (not_configuration_of_generate h cause rfl)
  · rw [hend] at ho
    cases ho
    rfl
  · rw [hend] at ho
    cases ho

theorem not_isForegone_outcomeOf (id : String) (result : CheckResult) :
    (outcomeOf id result).isForegone = false := by
  cases result <;> rfl

/-- A check never ends in a foregone outcome, and a challenge does not if no courier ends it in
one. -/
theorem conclude_eq_foregone_iff {plan : Plan} {o : Outcome} (ho : o.isForegone = true)
    (hissue : ∀ terms o, plan = .issue terms →
      conclude ((plan.perform deliver p).run g).1 = .ok o → o.isForegone = false) :
    conclude ((plan.perform deliver p).run g).1 = .ok o ↔ plan.foregone p = some (.ok o) := by
  cases plan with
  | fail e => exact (Option.some.injEq ..).symm.to_iff
  | pass b => exact (Option.some.injEq ..).symm.to_iff
  | turnAway c => exact (Option.some.injEq ..).symm.to_iff
  | issue terms =>
      refine iff_of_false (fun h => ?_) nofun
      exact absurd ho (by simp [hissue terms o rfl h])
  | check code =>
      refine iff_of_false (fun h => ?_) nofun
      rw [Plan.perform] at h
      cases hnow : g.keeper.world.reading? with
      | none =>
          rw [(ensures_respond_of_silence hnow p code).1] at h
          cases h
      | some now =>
          rw [(ensures_respond_of_reading hnow p code).1] at h
          cases hv : g.keeper.store.verdict now p.identifier (some code) with
          | error e =>
              obtain ⟨unit, position, count, rfl⟩ := Store.halves_of_verdict hv
              rw [hv] at h
              cases h
          | ok result =>
              rw [hv] at h
              obtain rfl := Except.ok.inj h
              exact absurd ho (by simp [not_isForegone_outcomeOf])

theorem Frank.not_isForegone (hfrank : Frank deliver) {terms : Terms} {o : Outcome}
    (h : conclude (((Plan.issue terms).perform deliver p).run g).1 = .ok o) :
    o.isForegone = false := by
  obtain ⟨e, hgenerate, ha⟩ | ⟨x, -, ⟨prompt, ha⟩ | ⟨cause, ha⟩⟩ :=
    hfrank.answer_issue p terms g
  · rw [ha] at h
    exact not_isForegone_of_generate hgenerate h
  · rw [ha] at h
    obtain rfl := Except.ok.inj h
    rfl
  · rw [ha] at h
    obtain rfl := Except.ok.inj h
    rfl

/-! ### One attempt at a shut gate -/

section Shut

variable (hg : g.keeper.Shut)
include hg

/-- No code is issued at a shut gate, so none is sent. -/
theorem run_issue_of_shut (deliver : Deliver κ ω) (p : Principal) (terms : Terms) : ∃ e k,
    (Keeper.generate p.identifier terms.length terms.timeout terms.alphabet).run g.keeper =
        (.error e, k) ∧ k.Shut ∧
      ((Plan.issue terms).perform deliver p).run g = (.error e, { g with keeper := k }) := by
  obtain ⟨e, he⟩ := hg.generate p.identifier terms.length terms.timeout terms.alphabet
  have hshut := hg.after_generate p.identifier terms.length terms.timeout terms.alphabet
  refine ⟨e, _, Prod.ext he rfl, hshut, ?_⟩
  rw [Plan.perform, run_bind, run_inKeeper, he]

theorem ensures_perform_of_shut (deliver : Deliver κ ω) (p : Principal) (plan : Plan) :
    (plan.perform deliver p).Ensures g fun _ g' =>
      g'.keeper.Shut ∧ g'.settings = g.settings ∧ g'.outside = g.outside := by
  cases plan with
  | fail e => exact ⟨hg, rfl, rfl⟩
  | pass b => exact ⟨hg, rfl, rfl⟩
  | turnAway c => exact ⟨hg, rfl, rfl⟩
  | issue terms =>
      obtain ⟨e, k, -, hk, hrun⟩ := run_issue_of_shut hg deliver p terms
      rw [Ensures, hrun]
      exact ⟨hk, rfl, rfl⟩
  | check code =>
      have hcheck := hg.after_check p.identifier (some code)
      unfold Ensures Plan.perform respond
      rw [run_bind, run_inKeeper]
      unfold Action.after at hcheck
      generalize (Keeper.check p.identifier (some code)).run g.keeper = checked at hcheck ⊢
      obtain ⟨_ | _, _⟩ := checked <;> exact ⟨hcheck, rfl, rfl⟩

/-- An attempt leaves a gate shut, and no courier is reached. -/
theorem ensures_verify_of_shut (deliver : Deliver κ ω) (p : Principal) (response : Option Glyphs) :
    (verify deliver p response).Ensures g fun _ g' =>
      g'.keeper.Shut ∧ g'.settings = g.settings ∧ g'.outside = g.outside := by
  obtain ⟨es, hes⟩ := run_verify_of g.settings g.directory p
  have hperform := ensures_perform_of_shut (g := g.told (es response.isSome)) (hg.told _) deliver p
    (g.plan p response)
  obtain ⟨fs, hsettle⟩ := run_settle deliver p (g.plan p response) (g.told (es response.isSome))
  have hrun := (hes response κ ω deliver g rfl rfl).trans hsettle
  rw [Ensures, hrun]
  -- What is counted for an outcome is not the gauge, so a keeper that is metered stays shut.
  cases conclude (((g.plan p response).perform deliver p).run (g.told (es response.isSome))).1 with
  | error e => exact ⟨hperform.1.told _, hperform.2⟩
  | ok o => exact ⟨⟨hperform.1.store, hperform.1.gauge⟩, hperform.2⟩

theorem parcels_of_shut (deliver : Deliver κ ω) (p : Principal) (response : Option Glyphs) :
    parcels deliver p response g = [] := by
  have hwatched : (g.watched []).keeper.Shut := hg
  exact congrArg Prod.fst (ensures_verify_of_shut hwatched (noting deliver) p response).2.2

/-- At a shut gate a foregone outcome is that of the plan, whatever couriers would do. -/
theorem verify_eq_foregone_iff_of_shut {o : Outcome} (ho : o.isForegone = true) :
    ((verify deliver p response).run g).1 = .ok o ↔
      (g.plan p response).foregone p = some (.ok o) := by
  obtain ⟨es, hanswer, -⟩ := ensures_verify deliver p response g
  rw [hanswer]
  refine conclude_eq_foregone_iff ho fun terms o hplan h => ?_
  have htold : (g.told es).keeper.Shut := hg.told es
  obtain ⟨e, k, hgenerate, -, hrun⟩ := run_issue_of_shut htold deliver p terms
  rw [hplan, hrun] at h
  exact not_isForegone_of_generate (congrArg Prod.fst hgenerate) h

end Shut

theorem Frank.verify_eq_foregone_iff (hfrank : Frank deliver) {o : Outcome}
    (ho : o.isForegone = true) : ((verify deliver p response).run g).1 = .ok o ↔
      (g.plan p response).foregone p = some (.ok o) := by
  obtain ⟨es, hanswer, -⟩ := ensures_verify deliver p response g
  rw [hanswer]
  exact conclude_eq_foregone_iff ho fun _ o hplan h => hfrank.not_isForegone (hplan ▸ h)

/-- An outcome that a shut gate may still come to: the user is let through without a code, or
refused, but not for a code that expired or could not be delivered. -/
def Mild (o : Outcome) : Prop :=
  (∃ b, o = .verified (some b)) ∨ ∃ reason m cause, o = .rejected reason m cause ∧
    reason ≠ .challengeExpired ∧ reason ≠ .deliveryFailed

theorem mild_of_conclude_error {e : Failure} {o : Outcome} (h : conclude (.error e) = .ok o) :
    Mild o := by
  obtain ⟨reason, cause, hend, -, hreason⟩ | ⟨hend, -⟩ := conclude_error_cases e
  · rw [hend] at h
    obtain rfl := Except.ok.inj h
    refine .inr ⟨reason, _, cause, rfl, ?_⟩
    obtain ⟨rfl, -⟩ | ⟨rfl, -⟩ := hreason <;> decide
  · rw [hend] at h
    cases h

theorem respond_of_shut (hg : g.keeper.Shut) (p : Principal) (code : Glyphs) :
    ((respond p code).run g).1 = match g.keeper.world.reading? with
      | none => .error (.broken "clock")
      | some _ => .ok (outcomeOf p.identifier .noChallenge) := by
  cases hnow : g.keeper.world.reading? with
  | none => exact (ensures_respond_of_silence hnow p code).1
  | some now =>
      rw [(ensures_respond_of_reading hnow p code).1, hg.store.verdict_eq]
      rfl

theorem mild_of_shut (hg : g.keeper.Shut) {o : Outcome}
    (h : ((verify deliver p response).run g).1 = .ok o) : Mild o := by
  obtain ⟨es, hanswer, -⟩ := ensures_verify deliver p response g
  have htold : (g.told es).keeper.Shut := hg.told es
  rw [hanswer] at h
  cases hplan : g.plan p response with
  | fail e => rw [hplan] at h; exact mild_of_conclude_error h
  | pass b => rw [hplan] at h; exact .inl ⟨b, (Except.ok.inj h).symm⟩
  | turnAway c =>
      rw [hplan] at h
      exact .inr ⟨_, _, _, (Except.ok.inj h).symm, by decide, by decide⟩
  | issue terms =>
      obtain ⟨e, k, -, -, hrun⟩ := run_issue_of_shut htold deliver p terms
      rw [hplan, hrun] at h
      exact mild_of_conclude_error h
  | check code =>
      rw [hplan, Plan.perform, respond_of_shut htold] at h
      cases hnow : (g.told es).keeper.world.reading? with
      | none => rw [hnow] at h; cases h
      | some now =>
          rw [hnow] at h
          exact .inr ⟨_, _, _, (Except.ok.inj h).symm, by decide, by decide⟩

/-! ### Every run after a shutdown -/

theorem shut_after_act (hg : g.keeper.Shut) (deliver : Deliver κ ω) (act : Act κ) :
    ((act.perform deliver).after g).keeper.Shut ∧
      ((act.perform deliver).after g).settings = g.settings := by
  unfold Action.after
  cases act with
  | call c =>
      rw [Act.perform, run_map, run_inKeeper]
      exact ⟨hg.after_call c, rfl⟩
  | register c courier => exact ⟨hg, rfl⟩
  | turn t =>
      rw [Act.perform, run_map]
      cases t with
      | verify p response =>
          rw [Turn.perform, run_map]
          obtain ⟨hshut, hsettings, -⟩ := ensures_verify_of_shut hg deliver p response
          exact ⟨hshut, hsettings⟩
      | loggedIn p =>
          rw [Turn.perform, run_map]
          cases hp : p.isAnonymous with
          | true => rw [run_loggedIn_of_anonymous hp]; exact ⟨hg, rfl⟩
          | false =>
              rw [run_loggedIn_of_named hp, Action.after, hg.run_invalidate]
              exact ⟨hg, rfl⟩
      | sweep duration =>
          rw [Turn.perform, run_map, run_inKeeper]
          exact ⟨hg.after_sweep duration, rfl⟩
      | shutdown =>
          rw [Turn.perform, run_map, run_shutdown]
          exact ⟨(Keeper.shut_shutdown g.keeper).told _, rfl⟩
      | clock now =>
          rw [Turn.perform, run_map]
          exact ⟨⟨hg.store, hg.gauge⟩, rfl⟩
      | directory d =>
          rw [Turn.perform, run_map]
          exact ⟨hg, rfl⟩
      | draws d =>
          rw [Turn.perform, run_map]
          exact ⟨⟨hg.store, hg.gauge⟩, rfl⟩

/-- A gate is shut for good. Its store has no records and takes none in, and no courier is
handed anything. A user is not asked for a code, and not let through by one: a submitted code
is refused (or the clock fails, as it may at any gate), and so is a request for one that could
be sent. What needs no code is decided as it is at any gate with the same settings and
directory. -/
structure ShutForGood (g : Gate κ ω) : Prop where
  empty : g.keeper.store.records = .empty
  gauge : g.keeper.world.metrics.active = .int 0
  generate : ∀ id length timeout alphabet r,
    ((Keeper.generate id length timeout alphabet).run g.keeper).1 ≠ .ok r
  put : ∀ id r, ((Keeper.put id r).run g.keeper).1 = .error (.refused .storeClosed)
  start : (Keeper.start.run g.keeper).1 = .error (.refused .storeClosed)
  shutdown : (shutdown : Action (Gate κ ω) Unit).run g =
    (.ok ⟨⟩, g.told [.storeShutdown, .providerShutdown])
  unsent : ∀ deliver p response, parcels deliver p response g = []
  mild : ∀ deliver p response o, ((verify deliver p response).run g).1 = .ok o → Mild o
  respond : ∀ deliver p code, p.isAnonymous = false → g.Enforces p →
    (∃ cause, ((verify deliver p (some code)).run g).1 = .ok (.refuse .verificationFailed cause)) ∨
      (g.keeper.world.reading? = none ∧
        ((verify deliver p (some code)).run g).1 = .error (.broken "clock"))
  challenge : ∀ deliver p policy terms now, p.isAnonymous = false → g.Enforces p →
    Policy.Governs g.settings g.directory p policy → Terms.of policy = .ok terms →
    p.recipients terms.channel ≠ [] → g.keeper.world.reading? = some now →
    now.addMicros? (terms.timeout * 1000000) ≠ none →
      ((verify deliver p none).run g).1 = .ok (.refuse .serviceUnavailable .storeClosed)
  foregone : ∀ (deliver deliver' : Deliver κ ω) p response (h : Gate κ ω),
    h.settings = g.settings → h.directory = g.directory → ∀ o, o.isForegone = true →
      (((verify deliver p response).run g).1 = .ok o →
        ((verify deliver' p response).run h).1 = .ok o) ∧
      (Frank deliver' → ((verify deliver' p response).run h).1 = .ok o →
        ((verify deliver p response).run g).1 = .ok o)

/-- A submitted code is refused at a shut gate as one that was never issued, if the clock can be
read. -/
theorem answer_code_of_shut (hg : g.keeper.Shut) (hp : p.isAnonymous = false) (hyes : g.Enforces p)
    (deliver : Deliver κ ω) (code : Glyphs) : ((verify deliver p (some code)).run g).1 =
      match g.keeper.world.reading? with
      | none => .error (.broken "clock")
      | some _ => .ok (outcomeOf p.identifier .noChallenge) := by
  obtain ⟨es, hanswer, -⟩ := ensures_verify deliver p (some code) g
  have hplan : g.plan p (some code) = .check code := plan_eq_check_iff.mpr ⟨hp, hyes, rfl⟩
  have hclock : (g.told es).keeper.world.reading? = g.keeper.world.reading? := rfl
  have htold : (g.told es).keeper.Shut := hg.told es
  rw [hanswer, hplan, Plan.perform, respond_of_shut htold, hclock]
  cases g.keeper.world.reading? <;> rfl

/-- A code that could be sent is refused at a shut gate because the store is closed. -/
theorem answer_challenge_of_shut {draft : Draft} (hbuild : Settings.build draft = .ok g.settings)
    (hg : g.keeper.Shut) (hp : p.isAnonymous = false) (hyes : g.Enforces p) {policy : Policy}
    {terms : Terms} (hpolicy : Policy.Governs g.settings g.directory p policy)
    (hterms : Terms.of policy = .ok terms) (hsome : p.recipients terms.channel ≠ [])
    {now : Instant} (hnow : g.keeper.world.reading? = some now)
    (htime : now.addMicros? (terms.timeout * 1000000) ≠ none) (deliver : Deliver κ ω) :
    ((verify deliver p none).run g).1 = .ok (.refuse .serviceUnavailable .storeClosed) := by
  obtain ⟨es, hanswer, -⟩ := ensures_verify deliver p none g
  have hplan : g.plan p none = .issue terms := plan_eq_issue_iff.mpr
    ⟨hp, hyes, rfl, policy, Policy.settled_eq_ok_iff.mpr hpolicy, hterms, hsome⟩
  have htold : (g.told es).keeper.Shut := hg.told es
  have hnow' : (g.told es).keeper.world.reading? = some now := hnow
  obtain ⟨e, k, hgenerate, -, hrun⟩ := run_issue_of_shut htold deliver p terms
  obtain ⟨htimeout, hlength⟩ := (bounded_of_build hbuild p).terms hpolicy hterms
  have hcauses := (generate_eq_error_iff hnow' p.identifier hlength htimeout terms.alphabet e).mp
    (congrArg Prod.fst hgenerate)
  obtain ⟨hnone, -⟩ | ⟨-, -, rfl⟩ := hcauses
  · exact absurd hnone htime
  · rw [hanswer, hplan, hrun]
    rfl

/-- Whatever happens at a gate after it was shut down, it stays shut for good. -/
theorem shut_for_good {draft : Draft} (hbuild : Settings.build draft = .ok g.settings)
    (deliver : Deliver κ ω) (acts : List (Act κ)) :
    ShutForGood (Run.final (Act.perform deliver) (shutdown.after g) acts) := by
  have hstart : (shutdown.after g).keeper.Shut ∧ (shutdown.after g).settings = g.settings := by
    unfold Action.after
    rw [run_shutdown]
    exact ⟨(Keeper.shut_shutdown g.keeper).told _, rfl⟩
  have hkept : (Run.final (Act.perform deliver) (shutdown.after g) acts).keeper.Shut ∧
      (Run.final (Act.perform deliver) (shutdown.after g) acts).settings = g.settings :=
    Run.invariant_final (I := fun t : Gate κ ω => t.keeper.Shut ∧ t.settings = g.settings) hstart
      (fun _ act ht => (shut_after_act ht.1 deliver act).imp_right fun h => Eq.trans h ht.2) acts
  obtain ⟨hshut, hsettings⟩ := hkept
  generalize Run.final (Act.perform deliver) (shutdown.after g) acts = t at hshut hsettings
  rw [← hsettings] at hbuild
  exact
    { empty := hshut.store.empty
      gauge := hshut.gauge
      generate := fun id length timeout alphabet r h => by
        obtain ⟨e, he⟩ := hshut.generate id length timeout alphabet
        cases he.symm.trans h
      put := fun id r => congrArg Prod.fst (hshut.run_put id r)
      start := congrArg Prod.fst hshut.run_start
      shutdown := by
        have htwice : (t.told [.storeShutdown]).told [.providerShutdown] =
          t.told [.storeShutdown, .providerShutdown] := told_told ..
        rw [run_shutdown, Action.after, hshut.run_shutdown, ← htwice]
        rfl
      unsent := fun deliver p response => parcels_of_shut hshut deliver p response
      mild := fun _ _ _ _ => mild_of_shut hshut
      respond := fun deliver p code hp hyes => by
        rw [answer_code_of_shut hshut hp hyes deliver code]
        cases t.keeper.world.reading? with
        | none => exact .inr ⟨rfl, rfl⟩
        | some now => exact .inl ⟨_, rfl⟩
      challenge := fun deliver p policy terms now hp hyes hpolicy hterms hsome hnow htime =>
        answer_challenge_of_shut hbuild hshut hp hyes hpolicy hterms hsome hnow htime deliver
      foregone := fun deliver deliver' p response h hs hd o ho => by
        have hplan : h.plan p response = t.plan p response := by
          rw [plan, plan, hs, hd]
        -- Both gates follow one plan, and what is foregone is read off the plan. A courier who is
        -- not frank could end a challenge in any outcome, so the way back needs frank ones.
        rw [verify_eq_foregone_iff_of_shut hshut ho, ← hplan]
        refine ⟨fun hforegone => ?_, fun hfrank => (hfrank.verify_eq_foregone_iff ho).mp⟩
        obtain ⟨es, hanswer, -⟩ := ensures_verify deliver' p response h
        rw [hanswer]
        exact conclude_of_foregone hforegone }

/-- A user who had a code when the gate was shut: the code is refused, though it was put into
the store again, and so is a new one. -/
theorem refused_after_shutdown :
    Settings.build { mailTimeout := .int 10, sweepInterval := .int 60 } = .ok .usual ∧
      ∃ g t : Gate Unit Unit,
        g = (inKeeper (Keeper.put "ada" ⟨0, "000000", ⟨301000000, by decide⟩⟩)).after
          (fresh .usual .empty () ()) ∧
        g.keeper.store.find? "ada" = some ⟨0, "000000", ⟨301000000, by decide⟩⟩ ∧
        t = Run.final (Act.perform handOver) (shutdown.after g)
          [.call (.order (.put "ada" ⟨0, "000000", ⟨301000000, by decide⟩⟩))] ∧
        (∃ cause, ((verify handOver (.withMail "ada" "ada@example.org")
          (some (.ofString "000000"))).run t).1 = .ok (.refuse .verificationFailed cause)) ∧
        ((verify handOver (.withMail "ada" "ada@example.org") none).run t).1 =
          .ok (.refuse .serviceUnavailable .storeClosed) := by
  have hbuild : Settings.build { mailTimeout := .int 10, sweepInterval := .int 60 } = .ok .usual :=
    rfl
  have hshut := shut_for_good
    (g := (inKeeper (Keeper.put "ada" ⟨0, "000000", ⟨301000000, by decide⟩⟩)).after
      (fresh .usual .empty () ())) hbuild handOver
    [.call (.order (.put "ada" ⟨0, "000000", ⟨301000000, by decide⟩⟩))]
  refine ⟨hbuild, _, _, rfl, by decide +kernel, rfl, ?_, ?_⟩
  · refine (hshut.respond handOver _ _ (by decide) ?_).resolve_right fun h => nomatch h.1
    exact enforces_iff.mpr ⟨.bool false, rfl, rfl⟩
  · refine hshut.challenge handOver _ ⟨.own .email, 300, 6, .own .numeric, .bool false⟩
      ⟨.email, 300, 6, .numeric⟩ ⟨1000000, by decide⟩ (by decide) ?_ ?_ rfl ?_ rfl ?_
    · exact enforces_iff.mpr ⟨.bool false, rfl, rfl⟩
    · exact Policy.settled_eq_ok_iff.mp rfl
    · decide +kernel
    · decide +kernel

end Gate

end Passcode
