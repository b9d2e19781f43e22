import Mathlib.Logic.Function.Basic
import Passcode.Settings.Environment

/-!
# What a draft comes to

A draft is the row of what it holds for each setting (`Draft.held`, `Draft.ofHeld`). It gives
settings if each of its fields is in order by itself (`Draft.Gives`); it is then built unless one
of the two checks over several fields fails (`build_of_gives`), and what is built was given in
this way (`build_eq_ok_iff`). Settings that were built can be handed over again as a draft, and
come out as they were (`build_toDraft`).
-/

namespace Passcode

/-! ## The fields of a draft -/

/-- What a draft holds for a setting: a choice for four of them, and a value for the others. -/
abbrev Setting.Held : Setting → Type
  | defaultMethod => Given Channel
  | alphabet => Given Alphabet
  | missingAction => Given MissingAction
  | mailEncryption => Given Encryption
  | _ => Value

namespace Draft

def held (d : Draft) : (s : Setting) → s.Held
  | .defaultMethod => d.defaultMethod
  | .defaultTimeout => d.defaultTimeout
  | .length => d.length
  | .alphabet => d.alphabet
  | .disabled => d.disabled
  | .missingAction => d.missingAction
  | .mailSender => d.mailSender
  | .mailServer => d.mailServer
  | .mailPort => d.mailPort
  | .mailAuth => d.mailAuth
  | .mailUsername => d.mailUsername
  | .mailPassword => d.mailPassword
  | .mailEncryption => d.mailEncryption
  | .mailTimeout => d.mailTimeout
  | .smsServer => d.smsServer
  | .smsSender => d.smsSender
  | .sweepInterval => d.sweepInterval

def ofHeld (f : (s : Setting) → s.Held) : Draft where
  defaultMethod := f .defaultMethod
  defaultTimeout := f .defaultTimeout
  length := f .length
  alphabet := f .alphabet
  disabled := f .disabled
  missingAction := f .missingAction
  mailSender := f .mailSender
  mailServer := f .mailServer
  mailPort := f .mailPort
  mailAuth := f .mailAuth
  mailUsername := f .mailUsername
  mailPassword := f .mailPassword
  mailEncryption := f .mailEncryption
  mailTimeout := f .mailTimeout
  smsServer := f .smsServer
  smsSender := f .smsSender
  sweepInterval := f .sweepInterval

@[simp] theorem held_ofHeld (f : (s : Setting) → s.Held) (s : Setting) :
    (ofHeld f).held s = f s := by
  cases s <;> rfl

theorem ofHeld_held (d : Draft) : ofHeld d.held = d := rfl

theorem held_injective {d d' : Draft} (h : ∀ s, d.held s = d'.held s) : d = d' := by
  rw [← ofHeld_held d, ← ofHeld_held d', funext h]

def put (d : Draft) (s : Setting) (x : s.Held) : Draft := ofHeld (Function.update d.held s x)

@[simp] theorem held_put (d : Draft) (s : Setting) (x : s.Held) :
    (d.put s x).held = Function.update d.held s x :=
  funext (held_ofHeld _)

/-- The draft with the fields that are given, and the usual ones elsewhere. -/
def ofGiven (given : (s : Setting) → Option s.Held) : Draft :=
  ofHeld fun s => (given s).getD (({} : Draft).held s)

end Draft

/-! ## Checked fields -/

/-- A value that says nothing: it is missing or blank. -/
def Value.saysNothing : Value → Bool
  | .none => true
  | .text s => Text.isBlank (some s)
  | _ => false

/-- A value that is a text, or missing. -/
def Value.Textual (v : Value) : Prop := ∃ o : Option String, v = .ofOption o

namespace Settings

theorem wholeNumber_eq_ok_iff {s : Setting} {v : Value} {n : Int} :
    wholeNumber s v = .ok n ↔ v = .int n ∧ 1 ≤ n := by
  cases v with
  | int m =>
      rw [wholeNumber, Value.int.injEq]
      split
      · next hlow =>
        refine ⟨fun h => absurd h refuseWritten_ne_ok, ?_⟩
        rintro ⟨rfl, h⟩
        omega
      · rw [Except.ok.injEq]
        constructor
        · rintro rfl
          exact ⟨rfl, by omega⟩
        · exact And.left
  | _ => exact ⟨fun h => absurd h refuseWritten_ne_ok, fun h => nomatch h.1⟩

theorem number_eq_ok_iff {s : Setting} {v : Value} {x : Number} :
    number s v = .ok x ↔ v = .ofNumber x ∧ x.atMostZero = false := by
  have hcase : ∀ y : Number, (if y.atMostZero then refuseWritten s (.ofNumber y) .notPositive
      else .ok y) = .ok x ↔ y = x ∧ x.atMostZero = false := by
    intro y
    split
    · next hlow =>
      refine ⟨fun h => absurd h refuseWritten_ne_ok, ?_⟩
      rintro ⟨rfl, h⟩
      exact absurd hlow (by simp [h])
    · next hhigh =>
      rw [Except.ok.injEq]
      constructor
      · rintro rfl
        exact ⟨rfl, by simpa using hhigh⟩
      · exact And.left
  have hsame : ∀ y : Number, Value.ofNumber y = Value.ofNumber x ↔ y = x := by
    intro y
    cases x <;> cases y <;> simp [Value.ofNumber]
  cases v with
  | int n => exact (hcase (.int n)).trans (and_congr_left' (hsame (.int n)).symm)
  | float f => exact (hcase (.float f)).trans (and_congr_left' (hsame (.float f)).symm)
  | _ =>
      refine ⟨fun h => absurd h refuseWritten_ne_ok, fun h => ?_⟩
      cases x <;> exact nomatch h.1

end Settings

/-! ## Building -/

/-- The numbers of the settings are positive. -/
structure Settings.InRange (S : Settings) : Prop where
  defaultTimeout : 1 ≤ S.defaultTimeout
  length : 1 ≤ S.length
  mailPort : 1 ≤ S.mailPort
  mailTimeout : S.mailTimeout.atMostZero = false
  sweepInterval : S.sweepInterval.atMostZero = false

/-- Each field of the draft is in order by itself, and the settings have what it gives. -/
structure Draft.Gives (d : Draft) (S : Settings) : Prop where
  defaultMethod : d.defaultMethod.settle .defaultMethod = .ok S.defaultMethod
  alphabet : d.alphabet.settle .alphabet = .ok S.alphabet
  missingAction : d.missingAction.settle .missingAction = .ok S.missingAction
  mailEncryption : d.mailEncryption.settle .mailEncryption = .ok S.mailEncryption
  defaultTimeout : d.defaultTimeout = .int S.defaultTimeout ∧ 1 ≤ S.defaultTimeout
  length : d.length = .int S.length ∧ 1 ≤ S.length
  mailPort : d.mailPort = .int S.mailPort ∧ 1 ≤ S.mailPort
  mailTimeout : d.mailTimeout = .ofNumber S.mailTimeout ∧ S.mailTimeout.atMostZero = false
  sweepInterval : d.sweepInterval = .ofNumber S.sweepInterval ∧ S.sweepInterval.atMostZero = false
  disabled : d.disabled = S.disabled
  mailSender : d.mailSender = S.mailSender
  mailServer : d.mailServer = S.mailServer
  mailAuth : d.mailAuth = S.mailAuth
  mailUsername : d.mailUsername = S.mailUsername
  mailPassword : d.mailPassword = S.mailPassword
  smsServer : d.smsServer = S.smsServer
  smsSender : d.smsSender = S.smsSender

theorem Draft.Gives.inRange {d : Draft} {S : Settings} (h : d.Gives S) : S.InRange :=
  ⟨h.defaultTimeout.2, h.length.2, h.mailPort.2, h.mailTimeout.2, h.sweepInterval.2⟩

namespace Settings

/-- The checks over several fields, which come last. -/
def crossCheck (S : Settings) : Except Failure Unit := do
  checkCredentials S.mailAuth S.mailUsername S.mailPassword
  checkGateway S.defaultMethod S.smsServer

/-- Mail authentication is wanted, and there is no user name or no password for it. -/
def LacksCredentials (S : Settings) : Prop :=
  S.mailAuth.isTrue = true ∧ (S.mailUsername.saysNothing = true ∨ S.mailPassword = .none)

/-- Text messages are the default, and there is no gateway for them. -/
def LacksGateway (S : Settings) : Prop :=
  S.defaultMethod = .own .sms ∧ S.smsServer.saysNothing = true

section CrossCheck

variable {S : Settings}

theorem blank_of_textual {v : Value} (h : v.Textual) : blank v = .ok v.saysNothing := by
  obtain ⟨o, rfl⟩ := h
  cases o <;> rfl

theorem crossCheck_of_lacksCredentials (hname : S.mailUsername.Textual) (h : S.LacksCredentials) :
    S.crossCheck = refuse .mailAuth "true" .needsCredentials := by
  obtain ⟨hauth, hlacks⟩ := h
  unfold crossCheck checkCredentials
  rw [if_pos hauth, blank_of_textual hname]
  rcases hlacks with hblank | hnone
  · rw [hblank]
    rfl
  · rw [hnone]
    cases S.mailUsername.saysNothing <;> rfl

theorem crossCheck_of_credentials (hname : S.mailUsername.Textual) (h : ¬ S.LacksCredentials) :
    S.crossCheck = checkGateway S.defaultMethod S.smsServer := by
  unfold crossCheck checkCredentials
  by_cases hauth : S.mailAuth.isTrue = true
  · have htells : S.mailUsername.saysNothing = false :=
      Bool.eq_false_iff.mpr fun hblank => h ⟨hauth, .inl hblank⟩
    have hpassword : S.mailPassword ≠ .none := fun hnone => h ⟨hauth, .inr hnone⟩
    rw [if_pos hauth, blank_of_textual hname, htells]
    cases hp : S.mailPassword with
    | none => exact absurd hp hpassword
    | _ => rfl
  · rw [if_neg hauth]
    rfl

theorem checkGateway_of_lacksGateway (hserver : S.smsServer.Textual) (h : S.LacksGateway) :
    checkGateway S.defaultMethod S.smsServer =
      refuse .smsServer S.smsServer.text? .needsGateway := by
  obtain ⟨hmethod, hlacks⟩ := h
  unfold checkGateway
  simp only [hmethod]
  rw [blank_of_textual hserver, hlacks]
  cases S.smsServer <;> rfl

theorem checkGateway_of_gateway (hserver : S.smsServer.Textual) (h : ¬ S.LacksGateway) :
    checkGateway S.defaultMethod S.smsServer = .ok () := by
  unfold checkGateway
  split
  · next hmethod =>
    have htells : S.smsServer.saysNothing = false :=
      Bool.eq_false_iff.mpr fun hlacks => h ⟨hmethod, hlacks⟩
    rw [blank_of_textual hserver, htells]
    rfl
  · rfl

end CrossCheck

theorem build_of_gives {d : Draft} {S : Settings} (h : d.Gives S) :
    build d = S.crossCheck.map fun _ => S := by
  have htimeout := wholeNumber_eq_ok_iff (s := .defaultTimeout).mpr h.defaultTimeout
  have hlength := wholeNumber_eq_ok_iff (s := .length).mpr h.length
  have hport := wholeNumber_eq_ok_iff (s := .mailPort).mpr h.mailPort
  have hmail := number_eq_ok_iff (s := .mailTimeout).mpr h.mailTimeout
  have hsweep := number_eq_ok_iff (s := .sweepInterval).mpr h.sweepInterval
  unfold build
  simp only [h.defaultMethod, h.alphabet, h.missingAction, h.mailEncryption, htimeout, hlength,
    hport, hmail, hsweep, h.disabled, h.mailSender, h.mailServer, h.mailAuth, h.mailUsername,
    h.mailPassword, h.smsServer, h.smsSender, crossCheck]
  -- what is left is the two checks, whichever of them fails
  cases checkCredentials S.mailAuth S.mailUsername S.mailPassword with
  | error e => rfl
  | ok _ =>
      show (checkGateway S.defaultMethod S.smsServer >>= fun _ => Except.ok S) = _
      cases checkGateway S.defaultMethod S.smsServer <;> rfl

theorem build_eq_ok_iff {d : Draft} {S : Settings} :
    build d = .ok S ↔ d.Gives S ∧ S.crossCheck = .ok () := by
  constructor
  · intro h
    unfold build at h
    obtain ⟨method, hmethod, h⟩ := ok_of_bind h
    obtain ⟨alphabet, halphabet, h⟩ := ok_of_bind h
    obtain ⟨action, haction, h⟩ := ok_of_bind h
    obtain ⟨encryption, hencryption, h⟩ := ok_of_bind h
    obtain ⟨timeout, htimeout, h⟩ := ok_of_bind h
    obtain ⟨length, hlength, h⟩ := ok_of_bind h
    obtain ⟨port, hport, h⟩ := ok_of_bind h
    obtain ⟨mailTimeout, hmail, h⟩ := ok_of_bind h
    obtain ⟨interval, hsweep, h⟩ := ok_of_bind h
    obtain ⟨⟨⟩, hcredentials, h⟩ := ok_of_bind h
    obtain ⟨⟨⟩, hgateway, h⟩ := ok_of_bind h
    obtain rfl := Except.ok.inj h
    refine ⟨⟨hmethod, halphabet, haction, hencryption, wholeNumber_eq_ok_iff.mp htimeout,
      wholeNumber_eq_ok_iff.mp hlength, wholeNumber_eq_ok_iff.mp hport, number_eq_ok_iff.mp hmail,
      number_eq_ok_iff.mp hsweep, rfl, rfl, rfl, rfl, rfl, rfl, rfl, rfl⟩, ?_⟩
    unfold crossCheck
    rw [hcredentials]
    exact hgateway
  · rintro ⟨hgives, hcheck⟩
    rw [build_of_gives hgives, hcheck]
    rfl

end Settings

def Held.given {α : Type} : Held α → Given α
  | own a => .member a
  | stranger m => .stranger m

@[simp] theorem Held.settle_given {α : Type} [Vocabulary α] (h : Held α) (s : Setting) :
    h.given.settle s = .ok h := by
  cases h <;> rfl

namespace Settings

def toDraft (S : Settings) : Draft where
  defaultMethod := S.defaultMethod.given
  defaultTimeout := .int S.defaultTimeout
  length := .int S.length
  alphabet := S.alphabet.given
  disabled := S.disabled
  missingAction := S.missingAction.given
  mailSender := S.mailSender
  mailServer := S.mailServer
  mailPort := .int S.mailPort
  mailAuth := S.mailAuth
  mailUsername := S.mailUsername
  mailPassword := S.mailPassword
  mailEncryption := S.mailEncryption.given
  mailTimeout := .ofNumber S.mailTimeout
  smsServer := S.smsServer
  smsSender := S.smsSender
  sweepInterval := .ofNumber S.sweepInterval

theorem InRange.toDraft_gives {S : Settings} (h : S.InRange) : S.toDraft.Gives S :=
  ⟨S.defaultMethod.settle_given _, S.alphabet.settle_given _, S.missingAction.settle_given _,
    S.mailEncryption.settle_given _, ⟨rfl, h.defaultTimeout⟩, ⟨rfl, h.length⟩, ⟨rfl, h.mailPort⟩,
    ⟨rfl, h.mailTimeout⟩, ⟨rfl, h.sweepInterval⟩, rfl, rfl, rfl, rfl, rfl, rfl, rfl, rfl⟩

/-- Settings that were built come out as they were when they are handed over again. -/
theorem build_toDraft {d : Draft} {S : Settings} (h : build d = .ok S) :
    build S.toDraft = .ok S := by
  obtain ⟨hgives, hcheck⟩ := build_eq_ok_iff.mp h
  exact build_eq_ok_iff.mpr ⟨hgives.inRange.toDraft_gives, hcheck⟩

end Settings

end Passcode
