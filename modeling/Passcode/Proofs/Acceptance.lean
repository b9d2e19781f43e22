import Mathlib.Algebra.Group.Nat.Defs
import Passcode.Proofs.Variables

/-!
# Which settings are accepted

A draft that is otherwise in order is accepted exactly if its three whole numbers are at least one,
neither of its other two numbers is at most zero, and mail authentication has what it needs. That
is less than it seems: not-a-number is not at most zero (`le_zero_iff`), so it is accepted where a
number above zero is meant, and the two switches are kept as whatever values they were given
(`Draft.Gives.wellFormed_iff`). The first number that does not pass is written out in the refusal
(`Draft.OthersValid.build_of_refused`), which one of too many digits cannot be. Settings that were
read from variables have truth values for switches, and are refused as a matter of configuration
only, so that not-a-number is all that can go wrong with them (`accepted_settings`).
-/

namespace Passcode

/-! ## Numbers above zero -/

/-- Zero is below a number as the unpacked number says. -/
theorem zero_lt_iff (x : Float) :
    0 < x ↔ Float.Model.UnpackedFloat.lt (.zero .positive) x.toModel.unpack = true := by
  show decide ((0 : Float).toModel < x.toModel) = true ↔ _
  rw [decide_eq_true_eq]
  rfl

/-- Whatever is not at most zero is above it or not a number. -/
theorem le_zero_iff (x : Float) : x ≤ 0 ↔ ¬ (0 < x ∨ x.isNaN = true) := by
  have hle : x ≤ 0 ↔ x.toModel.unpack.le (.zero .positive) = true := by
    show decide (x.toModel ≤ (0 : Float).toModel) = true ↔ _
    rw [decide_eq_true_eq]
    rfl
  have hnan : x.isNaN = x.toModel.unpack.isNaN := rfl
  rw [hle, zero_lt_iff, hnan]
  cases x.toModel.unpack with
  | notANumber => decide
  | infinity s => cases s <;> decide
  | zero s => cases s <;> decide
  | finite s m e hm =>
      cases s with
      | negative =>
          refine ⟨fun _ hor => ?_, fun _ => rfl⟩
          rcases hor with h | h <;> cases h
      | positive => exact ⟨nofun, fun h => absurd (.inl rfl) h⟩

theorem isNaN_of_zero_lt {x : Float} (h : 0 < x) : x.isNaN = false := by
  have hnan : x.isNaN = x.toModel.unpack.isNaN := rfl
  rw [zero_lt_iff] at h
  rw [hnan]
  cases hx : x.toModel.unpack with
  | notANumber =>
      rw [hx] at h
      cases h
  | _ => rfl

/-- A number above zero. -/
def Number.IsPositive : Number → Prop
  | .int n => 0 < n
  | .float x => 0 < x

namespace Value

/-- A whole number of at least one. -/
def isCount : Value → Bool
  | .int n => 1 ≤ n
  | _ => false

/-- The floating-point number that is none. -/
def isNaN : Value → Bool
  | .float x => x.isNaN
  | _ => false

/-- A number above zero, or the floating-point number that is none. -/
def isPositiveOrNaN : Value → Bool
  | .int n => 0 < n
  | .float x => 0 < x || x.isNaN
  | _ => false

end Value

theorem Number.atMostZero_eq (x : Number) :
    x.atMostZero = !(Value.ofNumber x).isPositiveOrNaN := by
  cases x with
  | int n =>
      rw [atMostZero, Value.ofNumber, Value.isPositiveOrNaN, ← decide_not]
      exact decide_eq_decide.mpr (by omega)
  | float f =>
      rw [atMostZero, Value.ofNumber, Value.isPositiveOrNaN]
      simp [le_zero_iff]

theorem Number.isPositive_iff {x : Number} (h : x.atMostZero = false) :
    x.IsPositive ↔ (Value.ofNumber x).isNaN = false := by
  rw [atMostZero_eq, Bool.not_eq_false'] at h
  cases x with
  | int n =>
      have hn : 0 < n := of_decide_eq_true h
      exact ⟨fun _ => rfl, fun _ => hn⟩
  | float f =>
      have hf : 0 < f ∨ f.isNaN = true := by simpa [Value.ofNumber, Value.isPositiveOrNaN] using h
      refine ⟨isNaN_of_zero_lt, fun hnan => hf.resolve_right ?_⟩
      exact Bool.eq_false_iff.mp hnan

/-! ## Numbers that pass, and refusals of the others -/

/-- A refusal for the configuration. -/
def Failure.IsConfiguration (e : Failure) : Prop :=
  ∃ key value source reason, e = .refused (.configuration key value source reason)

/-- The whole numbers of the settings are at least one, the other numbers above zero, and the
switches are truth values. -/
structure Settings.WellFormed (S : Settings) : Prop where
  defaultTimeout : 1 ≤ S.defaultTimeout
  length : 1 ≤ S.length
  mailPort : 1 ≤ S.mailPort
  mailTimeout : S.mailTimeout.IsPositive
  sweepInterval : S.sweepInterval.IsPositive
  disabled : ∃ b, S.disabled = .bool b
  mailAuth : ∃ b, S.mailAuth = .bool b

namespace Settings

/-- What is promised of reading settings: they are well-formed, or refused for the
configuration. -/
def Promised : Except Failure Settings → Prop
  | .ok S => S.WellFormed
  | .error e => e.IsConfiguration

variable {s : Setting} {v : Value} {c : Complaint}

theorem refuseWritten_bind {α β : Type} (f : α → Except Failure β) :
    refuseWritten s v c >>= f = refuseWritten s v c := by
  unfold refuseWritten
  cases v.written <;> rfl

theorem wholeNumber_of_isCount (h : v.isCount = true) :
    ∃ n, wholeNumber s v = .ok n ∧ v = .int n ∧ 1 ≤ n := by
  cases v with
  | int n =>
      have hn : 1 ≤ n := of_decide_eq_true h
      exact ⟨n, wholeNumber_eq_ok_iff.mpr ⟨rfl, hn⟩, rfl, hn⟩
  | _ => cases h

theorem wholeNumber_bind {α : Type} (h : v.isCount = false) (f : Int → Except Failure α) :
    wholeNumber s v >>= f = refuseWritten s v .notAPositiveInteger := by
  have hrefuse : wholeNumber s v = refuseWritten s v .notAPositiveInteger := by
    cases v with
    | int n =>
        have hn : ¬ 1 ≤ n := of_decide_eq_false h
        exact if_pos (by omega)
    | _ => rfl
  rw [hrefuse, refuseWritten_bind]

theorem number_of_isPositiveOrNaN (h : v.isPositiveOrNaN = true) :
    ∃ x, number s v = .ok x ∧ v = .ofNumber x ∧ x.atMostZero = false := by
  have hnumber : ∀ x, v = .ofNumber x →
      ∃ x, number s v = .ok x ∧ v = .ofNumber x ∧ x.atMostZero = false := by
    rintro x rfl
    have hx : x.atMostZero = false := by rw [x.atMostZero_eq, h]; rfl
    exact ⟨x, number_eq_ok_iff.mpr ⟨rfl, hx⟩, rfl, hx⟩
  cases v with
  | int n => exact hnumber (.int n) rfl
  | float f => exact hnumber (.float f) rfl
  | _ => cases h

theorem number_bind {α : Type} (h : v.isPositiveOrNaN = false) (f : Number → Except Failure α) :
    number s v >>= f = refuseWritten s v .notPositive := by
  have hrefuse : number s v = refuseWritten s v .notPositive := by
    cases v with
    | int n => exact if_pos ((Number.int n).atMostZero_eq.trans (congrArg not h))
    | float x => exact if_pos ((Number.float x).atMostZero_eq.trans (congrArg not h))
    | _ => rfl
  rw [hrefuse, refuseWritten_bind]

theorem promised_refuse {value : Option String} : Promised (refuse s value c) :=
  ⟨_, _, _, _, rfl⟩

/-- A refusal that tells the value is one for the configuration if the value can be written out,
and a failure to write it out else. -/
theorem promised_refuseWritten : Promised (refuseWritten s v c) ↔ v.isWritable = true := by
  unfold refuseWritten Value.written
  cases v.isWritable with
  | true => exact ⟨fun _ => rfl, fun _ => promised_refuse⟩
  | false => exact ⟨nofun, nofun⟩

end Settings

theorem ok_bind {α β : Type} (a : α) (f : α → Except Failure β) :
    (Except.ok a : Except Failure α) >>= f = f a := rfl

/-! ## Drafts with numbers and switches of any kind -/

namespace Draft

/-- The number that is refused, which is the first that does not pass in the order in which they
are checked. -/
def refused (d : Draft) : Option Value :=
  ([d.defaultTimeout, d.length, d.mailPort].find? (!·.isCount)).or
    ([d.mailTimeout, d.sweepInterval].find? (!·.isPositiveOrNaN))

/-- Mail authentication is wanted, and there is no user name or no password for it. -/
def LacksCredentials (d : Draft) : Prop :=
  d.mailAuth.isTrue = true ∧ (d.mailUsername.saysNothing = true ∨ d.mailPassword = .none)

/-- One of the numbers that need not be whole is none. -/
def HasNaN (d : Draft) : Prop := d.mailTimeout.isNaN = true ∨ d.sweepInterval.isNaN = true

/-- The switches are truth values. -/
def HasSwitches (d : Draft) : Prop := (∃ b, d.disabled = .bool b) ∧ ∃ b, d.mailAuth = .bool b

/-- The fields other than the numbers and the switches are in order. -/
structure OthersValid (d : Draft) : Prop where
  defaultMethod : ∃ m, d.defaultMethod.settle .defaultMethod = .ok m ∧
    ¬ (m = .own .sms ∧ d.smsServer.saysNothing = true)
  alphabet : ∃ a, d.alphabet.settle .alphabet = .ok a
  missingAction : ∃ a, d.missingAction.settle .missingAction = .ok a
  mailEncryption : ∃ c, d.mailEncryption.settle .mailEncryption = .ok c
  mailUsername : d.mailUsername.Textual
  smsServer : d.smsServer.Textual

variable {d : Draft} {S : Settings} {v : Value}

theorem Gives.lacksCredentials_iff (h : d.Gives S) : S.LacksCredentials ↔ d.LacksCredentials := by
  rw [Settings.LacksCredentials, LacksCredentials, h.mailAuth, h.mailUsername, h.mailPassword]

/-- Not-a-number and switches that are no truth values get through to the settings. -/
theorem Gives.wellFormed_iff (h : d.Gives S) : S.WellFormed ↔ ¬ d.HasNaN ∧ d.HasSwitches := by
  have hmail := Number.isPositive_iff h.mailTimeout.2
  have hsweep := Number.isPositive_iff h.sweepInterval.2
  rw [HasNaN, HasSwitches, h.mailTimeout.1, h.sweepInterval.1, h.disabled, h.mailAuth, not_or,
    Bool.not_eq_true, Bool.not_eq_true, ← hmail, ← hsweep]
  constructor
  · exact fun hS => ⟨⟨hS.mailTimeout, hS.sweepInterval⟩, hS.disabled, hS.mailAuth⟩
  · rintro ⟨⟨hmail, hsweep⟩, hdisabled, hauth⟩
    exact ⟨h.defaultTimeout.2, h.length.2, h.mailPort.2, hmail, hsweep, hdisabled, hauth⟩

namespace OthersValid

/-- The first number that does not pass is refused. -/
theorem build_of_refused (h : d.OthersValid) (hr : d.refused = some v) :
    ∃ s c, Settings.build d = Settings.refuseWritten s v c := by
  obtain ⟨method, hmethod, -⟩ := h.defaultMethod
  obtain ⟨alphabet, halphabet⟩ := h.alphabet
  obtain ⟨action, haction⟩ := h.missingAction
  obtain ⟨encryption, hencryption⟩ := h.mailEncryption
  unfold Settings.build
  simp only [hmethod, halphabet, haction, hencryption, ok_bind]
  -- the numbers one after another: the first that does not pass is the one that was found
  cases h1 : d.defaultTimeout.isCount
  case false =>
    obtain rfl : d.defaultTimeout = v := by simpa [refused, h1] using hr
    exact ⟨_, _, Settings.wholeNumber_bind h1 _⟩
  obtain ⟨timeout, htimeout, -⟩ := Settings.wholeNumber_of_isCount h1
  rw [htimeout, ok_bind]
  cases h2 : d.length.isCount
  case false =>
    obtain rfl : d.length = v := by simpa [refused, h1, h2] using hr
    exact ⟨_, _, Settings.wholeNumber_bind h2 _⟩
  obtain ⟨length, hlength, -⟩ := Settings.wholeNumber_of_isCount h2
  rw [hlength, ok_bind]
  cases h3 : d.mailPort.isCount
  case false =>
    obtain rfl : d.mailPort = v := by simpa [refused, h1, h2, h3] using hr
    exact ⟨_, _, Settings.wholeNumber_bind h3 _⟩
  obtain ⟨port, hport, -⟩ := Settings.wholeNumber_of_isCount h3
  rw [hport, ok_bind]
  cases h4 : d.mailTimeout.isPositiveOrNaN
  case false =>
    obtain rfl : d.mailTimeout = v := by simpa [refused, h1, h2, h3, h4] using hr
    exact ⟨_, _, Settings.number_bind h4 _⟩
  obtain ⟨mail, hmail, -⟩ := Settings.number_of_isPositiveOrNaN h4
  rw [hmail, ok_bind]
  cases h5 : d.sweepInterval.isPositiveOrNaN
  case false =>
    obtain rfl : d.sweepInterval = v := by simpa [refused, h1, h2, h3, h4, h5] using hr
    exact ⟨_, _, Settings.number_bind h5 _⟩
  simp [refused, h1, h2, h3, h4, h5] at hr

/-- If all numbers pass, only mail authentication can still fail. -/
theorem build_of_passed (h : d.OthersValid) (hr : d.refused = none) :
    ∃ S, d.Gives S ∧
      (d.LacksCredentials →
        Settings.build d = Settings.refuse .mailAuth "true" .needsCredentials) ∧
      (¬ d.LacksCredentials → Settings.build d = .ok S) := by
  obtain ⟨method, hmethod, hgateway⟩ := h.defaultMethod
  obtain ⟨alphabet, halphabet⟩ := h.alphabet
  obtain ⟨action, haction⟩ := h.missingAction
  obtain ⟨encryption, hencryption⟩ := h.mailEncryption
  obtain ⟨⟨h1, h2, h3⟩, h4, h5⟩ : (d.defaultTimeout.isCount = true ∧ d.length.isCount = true ∧
      d.mailPort.isCount = true) ∧ d.mailTimeout.isPositiveOrNaN = true ∧
      d.sweepInterval.isPositiveOrNaN = true := by
    simpa [refused] using hr
  obtain ⟨timeout, -, htimeout⟩ := Settings.wholeNumber_of_isCount (s := .defaultTimeout) h1
  obtain ⟨length, -, hlength⟩ := Settings.wholeNumber_of_isCount (s := .length) h2
  obtain ⟨port, -, hport⟩ := Settings.wholeNumber_of_isCount (s := .mailPort) h3
  obtain ⟨mail, -, hmail⟩ := Settings.number_of_isPositiveOrNaN (s := .mailTimeout) h4
  obtain ⟨sweep, -, hsweep⟩ := Settings.number_of_isPositiveOrNaN (s := .sweepInterval) h5
  obtain ⟨S, hgives, hgateway⟩ : ∃ S : Settings, d.Gives S ∧ ¬ S.LacksGateway :=
    ⟨{ defaultMethod := method, alphabet := alphabet, missingAction := action
       mailEncryption := encryption, defaultTimeout := timeout, length := length
       mailPort := port, mailTimeout := mail, sweepInterval := sweep
       disabled := d.disabled, mailSender := d.mailSender, mailServer := d.mailServer
       mailAuth := d.mailAuth, mailUsername := d.mailUsername, mailPassword := d.mailPassword
       smsServer := d.smsServer, smsSender := d.smsSender },
      ⟨hmethod, halphabet, haction, hencryption, htimeout, hlength, hport, hmail, hsweep,
        rfl, rfl, rfl, rfl, rfl, rfl, rfl, rfl⟩, hgateway⟩
  have hname : S.mailUsername.Textual := hgives.mailUsername ▸ h.mailUsername
  have hserver : S.smsServer.Textual := hgives.smsServer ▸ h.smsServer
  refine ⟨S, hgives, fun hlacks => ?_, fun hequipped => ?_⟩
  · rw [Settings.build_of_gives hgives, Settings.crossCheck_of_lacksCredentials hname
      (hgives.lacksCredentials_iff.mpr hlacks)]
    rfl
  · rw [Settings.build_of_gives hgives, Settings.crossCheck_of_credentials hname
      (mt hgives.lacksCredentials_iff.mp hequipped),
      Settings.checkGateway_of_gateway hserver hgateway]
    rfl

/-- A draft that is otherwise in order is accepted if its numbers pass and mail authentication has
what it needs, and in no other case. -/
theorem build_iff (h : d.OthersValid) :
    (∃ S, Settings.build d = .ok S) ↔ d.refused = none ∧ ¬ d.LacksCredentials := by
  cases hr : d.refused with
  | some v =>
      obtain ⟨s, c, hbuild⟩ := h.build_of_refused hr
      rw [hbuild]
      exact ⟨fun ⟨S, hS⟩ => absurd hS Settings.refuseWritten_ne_ok, fun hnone => nomatch hnone.1⟩
  | none =>
      obtain ⟨S, -, hlacks, hequipped⟩ := h.build_of_passed hr
      refine ⟨fun ⟨S', hS'⟩ => ⟨rfl, fun hl => ?_⟩, fun hl => ⟨S, hequipped hl.2⟩⟩
      exact nomatch hS'.symm.trans (hlacks hl)

/-- A draft that is otherwise in order comes to what is promised, unless a number is to be refused
that cannot be written out, or it is accepted with not-a-number or with other values than truth
values for the switches. -/
theorem promised_build_iff (h : d.OthersValid) :
    Settings.Promised (Settings.build d) ↔
      (∀ v, d.refused = some v → v.isWritable = true) ∧
      (d.refused = none → ¬ d.LacksCredentials → ¬ d.HasNaN ∧ d.HasSwitches) := by
  cases hr : d.refused with
  | some v =>
      obtain ⟨s, c, hbuild⟩ := h.build_of_refused hr
      rw [hbuild, Settings.promised_refuseWritten]
      simp
  | none =>
      obtain ⟨S, hgives, hlacks, hequipped⟩ := h.build_of_passed hr
      by_cases hl : d.LacksCredentials
      · rw [hlacks hl]
        exact ⟨fun _ => ⟨nofun, fun _ hnot => absurd hl hnot⟩, fun _ => Settings.promised_refuse⟩
      · rw [hequipped hl, ← hgives.wellFormed_iff]
        exact ⟨fun hS => ⟨nofun, fun _ _ => hS⟩, fun hS => hS.2 rfl hl⟩

end OthersValid

end Draft

/-! ## Settings from variables -/

namespace Environment

variable {env : Environment} {S : Settings}

theorem built_or_malformed (htext : env.Textual) :
    Settings.ofEnvironment env = Settings.build (.ofGiven env.given) ∨
      ∃ e : Failure, e.IsConfiguration ∧ Settings.ofEnvironment env = .error e := by
  cases hfind : Setting.all.find? env.isMalformed with
  | some s =>
      obtain ⟨raw, complaint, -, -, herror⟩ := ofEnvironment_of_malformed htext hfind
      exact .inr ⟨_, ⟨_, _, _, _, rfl⟩, herror⟩
  | none =>
      refine .inl (ofEnvironment_of_wellFormed htext fun s => ?_)
      simpa using List.find?_eq_none.mp hfind s s.mem_all

/-- What comes of variables is what is promised, unless they are accepted with not-a-number. -/
theorem promised_ofEnvironment_iff (htext : env.Textual) :
    Settings.Promised (Settings.ofEnvironment env) ↔
      ((∃ S, Settings.ofEnvironment env = .ok S) → ¬ (Draft.ofGiven env.given).HasNaN) := by
  rcases built_or_malformed htext with hbuilt | ⟨e, he, herror⟩
  · rw [hbuilt]
    rcases env.build_ofGiven with ⟨-, hb⟩ | ⟨-, -, hb⟩ | ⟨-, -, S, hb⟩
    · rw [hb]
      exact ⟨fun _ ⟨_, hS⟩ => (nomatch hS), fun _ => Settings.promised_refuse⟩
    · rw [hb]
      exact ⟨fun _ ⟨_, hS⟩ => (nomatch hS), fun _ => Settings.promised_refuse⟩
    · have hwell := (Settings.build_eq_ok_iff.mp hb).1.wellFormed_iff
      have hswitches : (Draft.ofGiven env.given).HasSwitches :=
        ⟨env.sound_ofGiven .disabled, env.sound_ofGiven .mailAuth⟩
      rw [hb]
      exact ⟨fun hS _ => (hwell.mp hS).1, fun hnan => hwell.mpr ⟨hnan ⟨S, rfl⟩, hswitches⟩⟩
  · rw [herror]
    exact ⟨fun _ ⟨_, hS⟩ => (nomatch hS), fun _ => he⟩

end Environment

/-- A draft that is otherwise in order is accepted exactly if its whole numbers are at least one,
its other numbers are above zero or not a number, and mail authentication has what it needs. It
comes to what is promised, which is well-formed settings or a refusal for the configuration, in
every case but these: the number that is refused has too many digits to be written out, or the
draft is accepted with not-a-number, or with a switch that is no truth value. For variables the one
such case is that they are accepted with not-a-number. -/
theorem accepted_settings {d : Draft} {env : Environment} (h : d.OthersValid)
    (htext : env.Textual) :
    ((∃ S, Settings.build d = .ok S) ↔ d.refused = none ∧ ¬ d.LacksCredentials) ∧
    (Settings.Promised (Settings.build d) ↔
      (∀ v, d.refused = some v → v.isWritable = true) ∧
      (d.refused = none → ¬ d.LacksCredentials → ¬ d.HasNaN ∧ d.HasSwitches)) ∧
    (Settings.Promised (Settings.ofEnvironment env) ↔
      ((∃ S, Settings.ofEnvironment env = .ok S) → ¬ (Draft.ofGiven env.given).HasNaN)) :=
  ⟨h.build_iff, h.promised_build_iff, env.promised_ofEnvironment_iff htext⟩

/-- A draft with not-a-number for a timeout, and with the text false for the switch. -/
def Draft.lax : Draft := { mailTimeout := .float (0 / 0), disabled := .text "false" }

def Environment.lax : Environment :=
  .ofEntries [("OTP_MAIL_TIMEOUT", .text "nan"), ("OTP_DISABLED", .text "False")]

theorem lax_accepted :
    Draft.lax.OthersValid ∧ Environment.lax.Textual ∧
      (∃ S, Settings.build Draft.lax = .ok S) ∧
      ¬ Settings.Promised (Settings.build Draft.lax) ∧
      ¬ Settings.Promised (Settings.ofEnvironment Environment.lax) := by
  have hothers : Draft.lax.OthersValid :=
    ⟨⟨.own .email, rfl, nofun⟩, ⟨_, rfl⟩, ⟨_, rfl⟩, ⟨_, rfl⟩, ⟨none, rfl⟩, ⟨none, rfl⟩⟩
  have htext : Environment.lax.Textual := Environment.textual_ofEntries fun entry hentry => by
    simp only [List.mem_cons, List.not_mem_nil, or_false] at hentry
    rcases hentry with rfl | rfl <;> exact ⟨some _, rfl⟩
  obtain ⟨haccepted, hdraft, henv⟩ := accepted_settings hothers htext
  have hrefused : Draft.lax.refused = none := by decide
  have hcredentials : ¬ Draft.lax.LacksCredentials := fun hlacks => nomatch hlacks.1
  refine ⟨hothers, htext, haccepted.mpr ⟨hrefused, hcredentials⟩, fun hpromised => ?_,
    fun hpromised => ?_⟩
  · exact ((hdraft.mp hpromised).2 hrefused hcredentials).1 (.inl (by decide))
  · exact henv.mp hpromised ⟨_, rfl⟩ (.inl (by decide))

/-- The smallest number of too many digits. -/
theorem digitCount_pow : Decimal.maxDigits < Decimal.digitCount (10 ^ Decimal.maxDigits) := by
  have hlength := Nat.length_toDigits_le_iff (b := 10) (n := 10 ^ Decimal.maxDigits)
    (k := Decimal.maxDigits) (by decide) (by decide)
  have hnot := mt hlength.mp (Nat.lt_irrefl _)
  rw [Decimal.digitCount]
  omega

theorem build_of_unwritable {n : Int} (hlow : n < 1)
    (h : Decimal.maxDigits < Decimal.digitCount n.natAbs) :
    Settings.build { defaultTimeout := .int n } = .error (.misuse .tooManyDigits) := by
  have hlow' : (Value.int n).isCount = false := decide_eq_false (by omega)
  show (Settings.wholeNumber .defaultTimeout (.int n) >>= _) = _
  rw [Settings.wholeNumber_bind hlow', Settings.refuseWritten, Value.written,
    if_neg (by simpa [Value.isWritable] using h)]
  rfl

/-- Not-a-number passes for positive, the text false counts as true where it is kept for the switch,
and a whole number of too many digits is not refused as others are. -/
theorem nan_and_text_accepted :
    (∃ S, Settings.build Draft.lax = .ok S ∧ S.mailTimeout = .float (0 / 0) ∧
      ¬ (0 : Float) < 0 / 0 ∧ S.disabled = .text "false" ∧ S.disabled.isTrue = true) ∧
    (∃ S, ∃ x : Float, Settings.ofEnvironment Environment.lax = .ok S ∧
      S.mailTimeout = .float x ∧ x.isNaN = true ∧ ¬ 0 < x) ∧
    Settings.build { defaultTimeout := .int (-(10 ^ Decimal.maxDigits : Nat)) } =
      .error (.misuse .tooManyDigits) := by
  refine ⟨⟨_, rfl, rfl, by decide, rfl, rfl⟩, ⟨_, _, rfl, rfl, by decide, by decide⟩, ?_⟩
  have hpos : 0 < 10 ^ Decimal.maxDigits := Nat.pow_pos (by decide)
  refine build_of_unwritable (by omega) ?_
  rw [Int.natAbs_neg, Int.natAbs_natCast]
  exact digitCount_pow

end Passcode
