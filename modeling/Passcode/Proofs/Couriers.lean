import Passcode.Proofs.Attempts
import Passcode.Proofs.Veils

/-!
# Couriers

The couriers that a gate can have: mail, text messages, and those of others, who act outside
the gate (`Carrier`). None of them touches the store (`sparing_carrier`).

A mail carries the code in its body. Whether it can be composed does not depend on the code,
and neither do its headers (`Mailer.compose_alike`), so two mails for two codes are sent alike
if the transport answers them alike (`Mailer.coupled_send`).
-/

namespace Passcode

open Passcode.Action

/-! ## Composing -/

/-- Two results with the same failure, or with related answers. -/
inductive SameResult {α : Type} (S : α → α → Prop) : Except Failure α → Except Failure α → Prop
  | ok {x y} (h : S x y) : SameResult S (.ok x) (.ok y)
  | error (e) : SameResult S (.error e) (.error e)

namespace SameResult

variable {α β : Type} {S : α → α → Prop} {T : β → β → Prop} {r r' : Except Failure α}

theorem map {f f' : α → β} (h : SameResult S r r') (hf : ∀ x y, S x y → T (f x) (f' y)) :
    SameResult T (r.map f) (r'.map f') := by
  cases h with
  | ok h => exact .ok (hf _ _ h)
  | error e => exact .error e

theorem bind {f f' : α → Except Failure β} (h : SameResult S r r')
    (hf : ∀ x y, S x y → SameResult T (f x) (f' y)) : SameResult T (r >>= f) (r' >>= f') := by
  cases h with
  | ok h => exact hf _ _ h
  | error e => exact .error e

theorem bind_refl (r : Except Failure α) {f f' : α → Except Failure β}
    (hf : ∀ x, SameResult T (f x) (f' x)) : SameResult T (r >>= f) (r >>= f') := by
  cases r with
  | ok x => exact hf x
  | error e => exact .error e

end SameResult

namespace Mail

/-- What is put in for the placeholders decides nothing about what can be wrong with a
template, as long as the same placeholders are known. -/
theorem expandChars_alike {value? value'? : String → Option String}
    (h : ∀ name, (value? name).isSome = (value'? name).isSome) (read : List Char) (skip : Nat)
    (cs : List Char) : SameResult (fun _ _ => True) (expandChars value? read skip cs)
      (expandChars value'? read skip cs) := by
  induction cs generalizing read skip with
  | nil =>
      unfold expandChars
      exact .ok trivial
  | cons c cs ih =>
      cases skip with
      | succ skip => exact ih _ _
      | zero =>
          unfold expandChars
          split
          · split
            · exact (ih _ _).map fun _ _ _ => trivial
            · next name n _ =>
              have hname := h name
              cases hv : value? name with
              | none =>
                  have hv' : value'? name = none := by simpa [hv] using hname.symm
                  rw [hv']
                  exact .error _
              | some v =>
                  rw [hv] at hname
                  obtain ⟨v', hv'⟩ := Option.isSome_iff_exists.mp hname.symm
                  rw [hv']
                  exact (ih _ _).map fun _ _ _ => trivial
            · exact .error _
          · exact (ih _ _).map fun _ _ _ => trivial

theorem expand_alike (r r' : Record) (template : String) :
    SameResult (fun _ _ => True) (expand (recordValue? r) template)
      (expand (recordValue? r') template) := by
  have hknown : ∀ name, (recordValue? r name).isSome = (recordValue? r' name).isSome := by
    intro name
    unfold recordValue?
    split_ifs <;> simp
  exact (expandChars_alike hknown [] 0 template.toList).map fun _ _ _ => trivial

end Mail

/-- A message without its body. -/
def Message.veil (m : Message) : Message := { m with body := "" }

namespace Mailer

/-- The code of a record decides nothing about its message but the body. -/
theorem compose_alike (m : Mailer) (recipients : List String) (r r' : Record) :
    SameResult (fun message message' => message.veil = message'.veil)
      (m.compose recipients r) (m.compose recipients r') := by
  unfold compose
  refine .bind_refl _ fun _ => .bind_refl _ fun subject => .bind_refl _ fun sender =>
    .bind_refl _ fun addressees => ?_
  cases m.template with
  | text t => exact (Mail.expand_alike r r' t).bind fun _ _ _ => .ok rfl
  | _ => exact .error _

variable {σ : Type}

section Send

variable {onWire : Action Wire Unit → Action σ Unit} {report : Event → Action σ Unit}
  (m : Mailer) (recipients : List String)

theorem keeps_send {I : σ → Prop} (hwire : ∀ message, Keeps I (onWire (m.exchange message)))
    (hfailed : ∀ text, Keeps I (report (.emailSendFailed m.host m.port text)))
    (hsent : Keeps I (report (.emailSent m.host recipients.length m.encryption))) (r : Record) :
    Keeps I (m.send onWire report recipients r) := by
  unfold send
  dsimp only
  split
  · exact keeps_throw _
  refine (keeps_lift _).bind fun message => (hwire message).attempt.bind fun result => ?_
  split
  · exact (hfailed _).bind fun _ => keeps_throw _
  · exact keeps_throw _
  · exact hsent.bind fun _ => keeps_pure _

theorem coupled_send {R : σ → σ → Prop} (r r' : Record)
    (hwire : ∀ message message', message.veil = message'.veil →
      Coupled R (onWire (m.exchange message)) (onWire (m.exchange message')) (fun _ _ => R) R)
    (hreport : ∀ e, Coupled R (report e) (report e) (fun _ _ => R) R) :
    Coupled R (m.send onWire report recipients r) (m.send onWire report recipients r')
      (fun _ _ => R) R := by
  have hcompose : Coupled R (liftM (m.compose recipients r)) (liftM (m.compose recipients r'))
      (fun message message' s t => message.veil = message'.veil ∧ R s t) R := by
    intro s t hst
    rw [run_lift, run_lift]
    generalize m.compose recipients r = a, m.compose recipients r' = b,
      m.compose_alike recipients r r' = hab
    cases hab with
    | ok h => exact .ok ⟨h, hst⟩
    | error e => exact .error hst
  unfold send
  dsimp only
  split
  · exact coupled_throw fun _ _ h => h
  refine hcompose.bind fun message message' s t hmessage => ?_
  have hattempt : Coupled R (onWire (m.exchange message)).attempt
      (onWire (m.exchange message')).attempt
      (fun a b s t => Paired (fun _ _ => R) R (a, s) (b, t)) R :=
    (hwire message message' hmessage.1).attempt
  refine (hattempt.bind fun a b s t hab => ?_) hmessage.2
  cases hab with
  | ok hst =>
      exact ((hreport _).bind fun _ _ => coupled_pure fun _ _ h => h) hst
  | error hst =>
      split
      · exact ((hreport _).bind fun _ _ => coupled_throw fun _ _ h => h) hst
      · exact .error hst
      · next heq => cases heq

end Send

end Mailer

/-! ## The wire -/

/-- Two wires that fail alike. -/
def Wire.FailsAs (w w' : Wire) : Prop := w.failure? = w'.failure?

/-- Calls of one kind end alike. -/
theorem Wire.coupled_make {e e' : Exchange} (h : e.call = e'.call) :
    Coupled FailsAs (make e) (make e') (fun _ _ => FailsAs) FailsAs := by
  intro w w' hww
  have hfailure : w.failure? e.call = w'.failure? e'.call := by rw [h, hww]
  unfold make
  simp only [run_bind, run_get, run_set, hfailure]
  cases w'.failure? e'.call with
  | none => exact .ok hww
  | some f => exact .error hww

/-- Which message is sent makes no difference to how its calls end. -/
theorem Mailer.coupled_exchange (m : Mailer) (message message' : Message) :
    Coupled Wire.FailsAs (m.exchange message) (m.exchange message') (fun _ _ => Wire.FailsAs)
      Wire.FailsAs := by
  have hsend : Coupled Wire.FailsAs (Wire.make (.send message)) (Wire.make (.send message'))
      (fun _ _ => Wire.FailsAs) Wire.FailsAs := Wire.coupled_make rfl
  have hsession : Coupled Wire.FailsAs (m.session message) (m.session message')
      (fun _ _ => Wire.FailsAs) Wire.FailsAs := by
    unfold session
    dsimp only
    by_cases hlogin : m.authenticate.isTrue = true <;> by_cases htls : m.encryption = .starttls <;>
      simp only [hlogin, htls, ↓reduceIte]
    · exact (Wire.coupled_make rfl).bind fun _ _ => (Wire.coupled_make rfl).bind fun _ _ => hsend
    · exact (Wire.coupled_make rfl).bind fun _ _ => hsend
    · exact (Wire.coupled_make rfl).bind fun _ _ => hsend
    · exact hsend
  have hattempt : Coupled Wire.FailsAs (m.session message).attempt (m.session message').attempt
      (fun a b w w' => Paired (fun _ _ => Wire.FailsAs) Wire.FailsAs (a, w) (b, w'))
      Wire.FailsAs := hsession.attempt
  unfold exchange
  refine (Wire.coupled_make rfl).bind fun _ _ => hattempt.bind fun a b w w' hab => ?_
  -- the connection is closed alike, and then the session ends as it did
  cases hab with
  | ok hww => exact ((Wire.coupled_make rfl).bind fun _ _ => coupled_pure fun _ _ h => h) hww
  | error hww => exact ((Wire.coupled_make rfl).bind fun _ _ => coupled_throw fun _ _ h => h) hww

/-! ## Carriers -/

/-- Who delivers codes: mail, text messages, and others. -/
inductive Carrier (κ : Type) where
  | mail (m : Mailer)
  | texts (t : TextGateway)
  | other (courier : κ)

/-- How carriers deliver: mail over a transport, which acts outside the gate and whose use is
reported, text messages not at all, and others as they do outside the gate. -/
def Carrier.deliver {κ ω : Type} (transport : Action Wire Unit → Action ω Unit)
    (others : κ → List String → Issued → Action ω Receipt) : Gate.Deliver (Carrier κ) ω
  | .mail m, recipients, r =>
    m.send (fun a => Gate.inOutside (transport a)) Gate.report recipients r.record
  | .texts t, recipients, r => t.send recipients r.record
  | .other courier, recipients, r => Gate.inOutside (others courier recipients r)

namespace Gate

variable {κ ω : Type}

/-- Couriers that leave the store alone. -/
def Sparing (deliver : Deliver κ ω) : Prop :=
  ∀ courier recipients r g,
    ((deliver courier recipients r).after g).keeper.store = g.keeper.store

theorem sparing_carrier (transport : Action Wire Unit → Action ω Unit)
    (others : κ → List String → Issued → Action ω Receipt) :
    Sparing (Carrier.deliver transport others) := by
  intro courier recipients r g
  cases courier with
  | mail m =>
      have hkeeps : Keeps (fun h : Gate (Carrier κ) ω => h.keeper.store = g.keeper.store)
          (m.send (fun a => inOutside (transport a)) report recipients r.record) :=
        m.keeps_send recipients (fun _ _ h => h) (fun _ _ h => h) (fun _ h => h) r.record
      exact hkeeps g rfl
  | texts t => rfl
  | other courier => rfl

/-- Delivery by mail and text message alone, the mail over a wire. -/
def overWire : Deliver (Carrier Empty) Wire := Carrier.deliver (fun a => a) nofun

theorem sparing_overWire : Sparing overWire := sparing_carrier _ _

end Gate

end Passcode
