import Passcode.Proofs.Couriers
import Passcode.Proofs.Turns

/-!
# What the codes have no part in

Two gates are alike if they differ in their draws and in the codes of their records alone
(`Gate.Alike`). Whatever happens at both keeps them alike, and has the same outcome, the same
measurements and the same reports, as long as the codes that are submitted come to the same
finding at both (`Turn.coupled_perform`). So the codes of a run cannot be told from what it
publishes (`Turn.published_alike`).

Where carriers act outside the gate, they have to act alike for messages and records that are
alike but for the code: that is what `Gate.Heedless` asks of them. What carriers report inside
the gate is part of what is published.
-/

namespace Passcode

open Passcode.Action

namespace Gate

variable {κ ω : Type} {W : ω → ω → Prop}

/-- Two gates that differ in their draws, in the codes of their records and, as far as `W`
allows, in what is outside of them. -/
structure Alike (W : ω → ω → Prop) (g h : Gate κ ω) : Prop where
  settings : g.settings = h.settings
  directory : g.directory = h.directory
  routes : g.routes = h.routes
  keeper : Keeper.Alike g.keeper h.keeper
  outside : W g.outside h.outside

theorem deaf_alike : Deaf (@Alike κ ω W) where
  told es h := { h with keeper := congrArg (Keeper.told · es) h.keeper }
  metered f h := { h with keeper := congrArg (Keeper.metered · f) h.keeper }

/-- Keepers that do alike in related gates leave the gates alike. -/
theorem coupled_alike_inKeeper {α β : Type} {R : Gate κ ω → Gate κ ω → Prop}
    {P : Keeper → Keeper → Prop} {S : α → β → Prop} {a : Action Keeper α} {b : Action Keeper β}
    (hab : Coupled P a b (fun x y k l => S x y ∧ Keeper.Alike k l) Keeper.Alike)
    (hR : ∀ g h, R g h → Alike W g h ∧ P g.keeper h.keeper) :
    Coupled R (inKeeper a) (inKeeper b) (fun x y g h => S x y ∧ Alike W g h) (Alike W) :=
  hab.on (fun g h hgh => (hR g h hgh).2)
    (fun g h _ _ _ _ hgh hxy => ⟨hxy.1, { (hR g h hgh).1 with keeper := hxy.2 }⟩)
    fun g h _ _ hgh hkl => { (hR g h hgh).1 with keeper := hkl }

theorem coupled_alike_shadowed {α : Type} {a : Action Keeper α}
    (ha : Shadows Keeper.veil a a) : Coupled (@Alike κ ω W) (inKeeper a) (inKeeper a)
      (fun x y g h => x = y ∧ Alike W g h) (Alike W) :=
  coupled_alike_inKeeper (Keeper.coupled_alike ha) fun _ _ h => ⟨h, h.keeper⟩

theorem coupled_alike_report (e : Event) : Coupled (@Alike κ ω W) (report e) (report e)
    (fun _ _ => Alike W) (Alike W) :=
  fun _ _ h => .ok (deaf_alike.told [e] h)

theorem coupled_alike_inOutside {α : Type} {a b : Action ω α}
    (hab : Coupled W a b (fun _ _ => W) W) : Coupled (@Alike κ ω W) (inOutside a) (inOutside b)
      (fun _ _ => Alike W) (Alike W) :=
  hab.on (fun _ _ h => h.outside) (fun _ _ _ _ _ _ h hw => { h with outside := hw })
    fun _ _ _ _ h hw => { h with outside := hw }

/-! ## Carriers -/

/-- What happens outside the gate when something is delivered does not depend on a code. -/
structure Heedless (W : ω → ω → Prop) (transport : Action Wire Unit → Action ω Unit)
    (others : κ → List String → Issued → Action ω Receipt) : Prop where
  transport : ∀ (m : Mailer) (message message' : Message), message.veil = message'.veil →
    Coupled W (transport (m.exchange message)) (transport (m.exchange message')) (fun _ _ => W) W
  others : ∀ (courier : κ) (recipients : List String) (x y : Issued), x.veil = y.veil →
    Coupled W (others courier recipients x) (others courier recipients y) (fun _ _ => W) W

variable {transport : Action Wire Unit → Action ω Unit}
  {others : κ → List String → Issued → Action ω Receipt}

theorem coupled_alike_deliver (hW : Heedless W transport others) (carrier : Carrier κ)
    (recipients : List String) {x y : Issued} (hxy : x.veil = y.veil) :
    Coupled (@Alike (Carrier κ) ω W) (Carrier.deliver transport others carrier recipients x)
      (Carrier.deliver transport others carrier recipients y) (fun _ _ => Alike W) (Alike W) := by
  cases carrier with
  | mail m =>
      have hwire : ∀ message message', message.veil = message'.veil →
          Coupled (@Alike (Carrier κ) ω W) (inOutside (transport (m.exchange message)))
            (inOutside (transport (m.exchange message'))) (fun _ _ => Alike W) (Alike W) :=
        fun message message' h => coupled_alike_inOutside (hW.transport m message message' h)
      change Coupled _ (m.send (fun a => inOutside (transport a)) report recipients x.record)
        (m.send (fun a => inOutside (transport a)) report recipients y.record) _ _
      exact m.coupled_send recipients x.record y.record hwire coupled_alike_report
  | texts t => exact coupled_throw fun _ _ h => h
  | other courier => exact coupled_alike_inOutside (hW.others courier recipients x y hxy)

/-! ## Attempts -/

variable {p : Principal}

theorem coupled_alike_sendOut (hW : Heedless W transport others) (c : Channel) {x y : Issued}
    (hxy : x.veil = y.veil) : Coupled (@Alike (Carrier κ) ω W)
      (sendOut (Carrier.deliver transport others) c p x)
      (sendOut (Carrier.deliver transport others) c p y)
      (fun o o' g h => o = o' ∧ Alike W g h) (Alike W) := by
  refine coupled_sendOut (Q := Alike W) (Issued.expiresAt_eq_of_veil hxy) deaf_alike
    (fun _ _ h => h) ?_ ?_
  · exact coupled_dispatch (fun _ _ h => h.routes) deaf_alike (fun _ _ h => h)
      fun courier => coupled_alike_deliver hW courier _ hxy
  · exact (coupled_alike_inKeeper (Keeper.coupled_alike_discard hxy p.identifier)
      fun _ _ h => ⟨h, h.keeper⟩).imp (fun _ _ h => h) (fun _ _ _ _ h => h.2) fun _ _ h => h

/-- A plan that checks no code is carried out alike. -/
theorem coupled_alike_perform (hW : Heedless W transport others) {plan : Plan}
    (hplan : ∀ code, plan ≠ .check code) : Coupled (@Alike (Carrier κ) ω W)
      (plan.perform (Carrier.deliver transport others) p)
      (plan.perform (Carrier.deliver transport others) p)
      (fun o o' g h => o = o' ∧ Alike W g h) (Alike W) := by
  cases plan with
  | fail e => exact coupled_throw fun _ _ h => h
  | pass b => exact coupled_pure fun _ _ h => ⟨rfl, h⟩
  | turnAway c => exact coupled_pure fun _ _ h => ⟨rfl, h⟩
  | check code => exact absurd rfl (hplan code)
  | issue terms =>
      have hgenerate := coupled_alike_inKeeper
        (Keeper.coupled_alike_generate p.identifier terms.length terms.timeout terms.alphabet)
        fun (g h : Gate (Carrier κ) ω) (hgh : Alike W g h) => ⟨hgh, hgh.keeper⟩
      exact hgenerate.bind fun x y g h hxy =>
        coupled_alike_sendOut hW terms.channel hxy.1 hxy.2

/-- The codes that an attempt checks at two gates come to one finding. -/
def OneFinding (p : Principal) (c c' : Glyphs) (g h : Gate κ ω) : Prop :=
  p.isAnonymous = false → g.Enforces p →
    ((Keeper.check p.identifier (some c)).run g.keeper).1 =
      ((Keeper.check p.identifier (some c')).run h.keeper).1

/-- Hearing of events does not change what a keeper finds. -/
theorem answer_check_told (g : Gate κ ω) (es : List Event) (id : String) (c : Option Glyphs) :
    ((Keeper.check id c).run (g.told es).keeper).1 = ((Keeper.check id c).run g.keeper).1 := by
  rw [Keeper.answer_check, Keeper.answer_check]
  rfl

theorem coupled_alike_respond (p : Principal) (c c' : Glyphs) :
    Coupled (fun g h : Gate κ ω => Alike W g h ∧
        ((Keeper.check p.identifier (some c)).run g.keeper).1 =
          ((Keeper.check p.identifier (some c')).run h.keeper).1)
      (respond p c) (respond p c') (fun o o' g h => o = o' ∧ Alike W g h) (Alike W) := by
  have hcheck := coupled_alike_inKeeper (W := W) (R := fun g h : Gate κ ω => Alike W g h ∧
      ((Keeper.check p.identifier (some c)).run g.keeper).1 =
        ((Keeper.check p.identifier (some c')).run h.keeper).1)
    (Keeper.coupled_alike_check p.identifier (some c) (some c'))
    fun g h hgh => ⟨hgh.1, hgh.1.keeper, hgh.2⟩
  refine hcheck.bind fun result result' => ?_
  exact coupled_pure fun _ _ h => ⟨congrArg _ h.1, h.2⟩

/-- Two plans that are carried out alike are settled alike. -/
theorem coupled_alike_settle {deliver : Deliver κ ω} {R : Gate κ ω → Gate κ ω → Prop}
    {plan plan' : Plan} (hperform : Coupled R (plan.perform deliver p) (plan'.perform deliver p)
      (fun o o' g h => o = o' ∧ Alike W g h) (Alike W)) :
    Coupled R (plan.settle deliver p) (plan'.settle deliver p)
      (fun o o' g h => o = o' ∧ Alike W g h) (Alike W) := by
  refine coupled_settle deaf_alike (fun _ => rfl) hperform fun o o' hoo' g h hgh => ?_
  subst hoo'
  rw [run_finish, run_finish]
  exact .ok ⟨rfl, deaf_alike.metered (·.countOutcome o.label)
    (deaf_alike.told [outcomeEvent p.identifier o] hgh)⟩

/-- At gates that are alike, an attempt without a code ends alike. -/
theorem coupled_alike_challenge (hW : Heedless W transport others) (p : Principal) :
    Coupled (@Alike (Carrier κ) ω W) (verify (Carrier.deliver transport others) p none)
      (verify (Carrier.deliver transport others) p none)
      (fun o o' g h => o = o' ∧ Alike W g h) (Alike W) := by
  intro g h hgh
  obtain ⟨es, hes⟩ := run_verify_of g.settings g.directory p
  rw [hes none _ _ _ g rfl rfl, hes none _ _ _ h hgh.settings.symm hgh.directory.symm]
  have hplan : ∀ code, g.plan p none ≠ .check code := fun code hcode =>
    nomatch (plan_eq_check_iff.mp hcode).2.2
  exact coupled_alike_settle (coupled_alike_perform hW hplan) (deaf_alike.told _ hgh)

/-- At gates that are alike, attempts with codes that come to one finding end alike. -/
theorem coupled_alike_verify (hW : Heedless W transport others) (p : Principal) (c c' : Glyphs) :
    Coupled (fun g h : Gate (Carrier κ) ω => Alike W g h ∧ OneFinding p c c' g h)
      (verify (Carrier.deliver transport others) p (some c))
      (verify (Carrier.deliver transport others) p (some c'))
      (fun o o' g h => o = o' ∧ Alike W g h) (Alike W) := by
  rintro g h ⟨hgh, hfinding⟩
  obtain ⟨es, hes⟩ := run_verify_of g.settings g.directory p
  rw [hes (some c) _ _ _ g rfl rfl, hes (some c') _ _ _ h hgh.settings.symm hgh.directory.symm]
  have hof : ∀ c, Plan.of g.settings g.directory p (some c) = g.plan p (some c) := fun _ => rfl
  -- either neither code is looked at, or both are checked
  obtain ⟨same, hno, hsame⟩ | ⟨hp, hyes, hchecks⟩ := plan_of_code g p
  · rw [hof, hof, hsame, hsame]
    exact coupled_alike_settle (coupled_alike_perform hW hno) (deaf_alike.told _ hgh)
  · rw [hof, hof, hchecks, hchecks]
    refine coupled_alike_settle (coupled_alike_respond p c c') ⟨deaf_alike.told _ hgh, ?_⟩
    rw [answer_check_told, answer_check_told]
    exact hfinding hp hyes

/-! ## Logins and the end -/

theorem coupled_alike_loggedIn (p : Principal) : Coupled (@Alike κ ω W) (loggedIn p) (loggedIn p)
    (fun _ _ => Alike W) (Alike W) := by
  unfold loggedIn
  cases p.isAnonymous with
  | true => exact coupled_pure fun _ _ h => h
  | false =>
      exact (coupled_alike_shadowed (Keeper.shadows_invalidate p.identifier)).bind fun _ _ =>
        coupled_pure fun _ _ h => h.2

theorem coupled_alike_shutdown : Coupled (@Alike κ ω W) shutdown shutdown
    (fun _ _ => Alike W) (Alike W) :=
  (coupled_alike_shadowed Keeper.shadows_shutdown).bind fun _ _ _ _ h =>
    coupled_alike_report .providerShutdown h.2

end Gate

/-! ## Turns -/

namespace Turn

open Passcode.Run

variable {κ ω : Type} {W : ω → ω → Prop} {transport : Action Wire Unit → Action ω Unit}
  {others : κ → List String → Issued → Action ω Receipt}

/-- Two turns, at two gates, that differ in what is drawn or in the code that is submitted, if
they differ at all, and where a code is submitted it comes to one finding. -/
inductive Counterparts (g h : Gate κ ω) : Turn → Turn → Prop
  | same {turn} (hno : ∀ p c, turn ≠ verify p (some c)) : Counterparts g h turn turn
  | draws (d d') : Counterparts g h (draws d) (draws d')
  | verify (p c c') (hfinding : Gate.OneFinding p c c' g h) :
      Counterparts g h (verify p (some c)) (verify p (some c'))

/-- What a step publishes: the outcome or failure, the log and the metrics after it. -/
def published (e : Step Turn (Gate κ ω) (Option Outcome)) :
    Except Failure (Option Outcome) × List Event × Metrics :=
  (e.answer, e.after.keeper.world.log, e.after.keeper.world.metrics)

/-- At gates that are alike, counterparts come to one outcome and leave the gates alike. -/
theorem coupled_perform (hW : Gate.Heedless W transport others) {turn turn' : Turn} :
    Coupled (fun g h : Gate (Carrier κ) ω => Gate.Alike W g h ∧ Counterparts g h turn turn')
      (perform (Carrier.deliver transport others) turn)
      (perform (Carrier.deliver transport others) turn')
      (fun o o' g h => o = o' ∧ Gate.Alike W g h) (Gate.Alike W) := by
  rintro g h ⟨hgh, hturns⟩
  cases hturns with
  | draws d d' => exact .ok ⟨rfl, { hgh with keeper := hgh.keeper }⟩
  | verify p c c' hfinding =>
      exact (Gate.coupled_alike_verify hW p c c').map
        (fun _ _ _ _ h => ⟨congrArg some h.1, h.2⟩) ⟨hgh, hfinding⟩
  | same hno =>
      cases turn with
      | verify p response =>
          obtain rfl : response = none :=
            Option.eq_none_iff_forall_ne_some.mpr fun c hc => hno p c (hc ▸ rfl)
          exact (Gate.coupled_alike_challenge hW p).map
            (fun _ _ _ _ h => ⟨congrArg some h.1, h.2⟩) hgh
      | loggedIn p =>
          exact (Gate.coupled_alike_loggedIn p).map (fun _ _ _ _ h => ⟨rfl, h⟩) hgh
      | sweep duration =>
          exact (Gate.coupled_alike_shadowed (Keeper.shadows_sweep duration)).map
            (fun _ _ _ _ h => ⟨rfl, h.2⟩) hgh
      | shutdown => exact Gate.coupled_alike_shutdown.map (fun _ _ _ _ h => ⟨rfl, h⟩) hgh
      | clock now =>
          have hkeeper := congrArg (fun k : Keeper =>
            ({ k with world := { k.world with now } } : Keeper)) hgh.keeper
          exact .ok ⟨rfl, { hgh with keeper := hkeeper }⟩
      | directory d => exact .ok ⟨rfl, { hgh with directory := rfl }⟩
      | draws d => exact .ok ⟨rfl, { hgh with keeper := hgh.keeper }⟩

/-- The codes of a run cannot be told from what it publishes. Two runs from gates that are
alike, of turns that are counterparts one by one, have the same outcomes and failures, and the
same log and metrics after every step, whatever is drawn in them. -/
theorem published_alike (hW : Gate.Heedless W transport others) {g h : Gate (Carrier κ) ω}
    (hgh : Gate.Alike W g h) {turns turns' : List Turn}
    (hturns : List.Forall₂ (fun e e' => Counterparts e.before e'.before e.input e'.input)
      (trace (perform (Carrier.deliver transport others)) g turns)
      (trace (perform (Carrier.deliver transport others)) h turns')) :
    (trace (perform (Carrier.deliver transport others)) g turns).map published =
      (trace (perform (Carrier.deliver transport others)) h turns').map published := by
  -- that the gates are alike carries the induction; counterparts are asked for step by step
  induction turns generalizing g h turns' with
  | nil =>
      cases turns' with
      | nil => rfl
      | cons turn' turns' => cases hturns
  | cons turn turns ih =>
      cases turns' with
      | nil => cases hturns
      | cons turn' turns' =>
          obtain ⟨hturn, hrest⟩ := List.forall₂_cons.mp hturns
          obtain ⟨hanswer, hafter⟩ := (coupled_perform hW ⟨hgh, hturn⟩).both
          have hstep : published (step (perform (Carrier.deliver transport others)) g turn) =
              published (step (perform (Carrier.deliver transport others)) h turn') :=
            Prod.ext hanswer (Prod.ext hafter.keeper.log hafter.keeper.metrics)
          exact congrArg₂ List.cons hstep (ih hafter hrest)

/-- Over a wire nothing depends on a code. -/
theorem heedless_overWire : Gate.Heedless Wire.FailsAs (fun a => a)
    (nofun : Empty → List String → Issued → Action Wire Receipt) where
  transport m message message' _ := m.coupled_exchange message message'
  others := nofun

/-- Someone logs in by a code that is drawn from these draws. -/
def mailLogin (d : Draws) (code : String) : List Turn :=
  [.draws d, .verify (.withMail "alice" "alice@example.com") none,
    .verify (.withMail "alice" "alice@example.com") (some (.ofString code))]

/-- Logins by two codes, each of them accepted, publish the same. -/
theorem published_alike_of_two_codes :
    ∃ (g : Gate (Carrier Empty) Wire) (m : Mailer), Mailer.ofSettings .usual = .ok m ∧
      g = .fresh .usual .empty (.mail m) {} ∧
      (trace (perform Gate.overWire) g (mailLogin default "000000")).map published =
        (trace (perform Gate.overWire) g (mailLogin (.cycle [7]) "777777")).map published ∧
      ((trace (perform Gate.overWire) g (mailLogin (.cycle [7]) "777777")).map (·.answer)).getLast?
        = some (.ok (some (.verified none))) := by
  refine ⟨_, _, rfl, rfl, ?_, by decide +kernel⟩
  refine published_alike heedless_overWire ⟨rfl, rfl, rfl, rfl, rfl⟩ ?_
  refine .cons (.draws _ _) (.cons (.same fun _ _ h => nomatch (verify.inj h).2) ?_)
  exact .cons (.verify _ _ _ fun _ _ => by decide +kernel) .nil

end Turn

end Passcode
