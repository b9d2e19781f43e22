import Passcode.Proofs.Spellings
import Passcode.Proofs.Variables

/-!
# Settings written out and read back

Settings that were built, and whose fields an environment can hold (`Settings.Portable`), are the
settings of every environment that they can be written out as (`Settings.Exports`): each variable
holds one of the spellings of its field, or says nothing where the field is the usual one.
`ofEnvironment_of_exports` is assembled from one fact, that the reader of a setting gives the
field back for each of its spellings (`reader_of_spells`).
-/

namespace Passcode

namespace Settings

variable {S : Settings} {s : Setting} {raw : String}

/-- A text that is not blank and has no white space around it. -/
def IsTrimmedText (v : Value) : Prop :=
  ∃ t, v = .text t ∧ Text.isBlank (some t) = false ∧ Text.trim t = t

/-- The fields are of the kinds that variables hold: texts are trimmed, and missing only where
they usually are; whole numbers are below the limit of digits; the other two are floating-point
numbers; switches are truth values. -/
structure Portable (S : Settings) : Prop where
  mailSender : IsTrimmedText S.mailSender
  mailServer : IsTrimmedText S.mailServer
  mailUsername : S.mailUsername = .none ∨ IsTrimmedText S.mailUsername
  mailPassword : S.mailPassword = .none ∨ IsTrimmedText S.mailPassword
  smsServer : S.smsServer = .none ∨ IsTrimmedText S.smsServer
  smsSender : S.smsSender = .none ∨ IsTrimmedText S.smsSender
  defaultTimeout : S.defaultTimeout < 10 ^ Decimal.maxDigits
  length : S.length < 10 ^ Decimal.maxDigits
  mailPort : S.mailPort < 10 ^ Decimal.maxDigits
  mailTimeout : ∃ x : Float, S.mailTimeout = .float x ∧ x.isNaN = false
  sweepInterval : ∃ x : Float, S.sweepInterval = .float x ∧ x.isNaN = false
  disabled : ∃ b, S.disabled = .bool b
  mailAuth : ∃ b, S.mailAuth = .bool b

/-- A text, with white space around it. -/
def SpellsText (v : Value) (raw : String) : Prop := ∃ t, v = .text t ∧ Text.Padded t raw

/-- A truth value, written out. -/
def SpellsSwitch (v : Value) (raw : String) : Prop := ∃ b, v = .bool b ∧ Reader.SpellsTruth b raw

/-- A floating-point number, written in whatever way it can be read. -/
def SpellsNumber (n : Number) (raw : String) : Prop :=
  ∃ x, n = .float x ∧ Reader.positiveFloat raw = .ok x

/-- A member of ours, in one of its spellings. -/
def SpellsChoice {α : Type} [Vocabulary α] (h : Held α) (raw : String) : Prop :=
  ∃ m, h = .own m ∧ Vocabulary.Spells m raw

/-- The spellings of the field of a setting. -/
def Spells (S : Settings) : Setting → String → Prop
  | .defaultMethod => SpellsChoice S.defaultMethod
  | .defaultTimeout => Text.Padded (toString S.defaultTimeout)
  | .length => Text.Padded (toString S.length)
  | .alphabet => SpellsChoice S.alphabet
  | .disabled => SpellsSwitch S.disabled
  | .missingAction => SpellsChoice S.missingAction
  | .mailSender => SpellsText S.mailSender
  | .mailServer => SpellsText S.mailServer
  | .mailPort => Text.Padded (toString S.mailPort)
  | .mailAuth => SpellsSwitch S.mailAuth
  | .mailUsername => SpellsText S.mailUsername
  | .mailPassword => SpellsText S.mailPassword
  | .mailEncryption => SpellsChoice S.mailEncryption
  | .mailTimeout => SpellsNumber S.mailTimeout
  | .smsServer => SpellsText S.smsServer
  | .smsSender => SpellsText S.smsSender
  | .sweepInterval => SpellsNumber S.sweepInterval

/-- The environment holds the settings: each variable is a spelling of its field, or says nothing
while the field is the usual one. -/
def Exports (S : Settings) (env : Environment) : Prop := ∀ s : Setting,
  (∃ raw, env s.variableName = .text raw ∧ S.Spells s raw) ∨
    ((env s.variableName).saysNothing = true ∧ S.toDraft.held s = ({} : Draft).held s)

/-! ## One variable -/

section Kinds

variable {α : Type} [Vocabulary α] {c : Held α} {n : Int} {v : Value} {x : Number}

theorem choice_of_spells (hα : Vocabulary.Distinct α) (h : SpellsChoice c raw) :
    (Reader.choice raw).map Given.member = .ok c.given ∧ Text.isBlank (some raw) = false := by
  obtain ⟨m, rfl, h⟩ := h
  have hread : Reader.choice raw = .ok m := by rw [Reader.choice, hα.read?_of_spells h]
  exact ⟨by rw [hread]; rfl, (Reader.strict_choice hα).isBlank_eq_false hread⟩

theorem positiveInt_of_spells (hone : 1 ≤ n) (hmax : n < 10 ^ Decimal.maxDigits)
    (h : Text.Padded (toString n) raw) :
    (Reader.positiveInt raw).map Value.int = .ok (.int n) ∧ Text.isBlank (some raw) = false := by
  have hread := Reader.positiveInt_of_numeral hone hmax h
  exact ⟨by rw [hread]; rfl, Reader.strict_positiveInt.isBlank_eq_false hread⟩

theorem boolean_of_spells (h : SpellsSwitch v raw) :
    (Reader.boolean raw).map Value.bool = .ok v ∧ Text.isBlank (some raw) = false := by
  obtain ⟨b, rfl, h⟩ := h
  have hread := Reader.boolean_of_spells h
  exact ⟨by rw [hread]; rfl, Reader.strict_boolean.isBlank_eq_false hread⟩

theorem positiveFloat_of_spells (h : SpellsNumber x raw) :
    (Reader.positiveFloat raw).map Value.float = .ok (.ofNumber x) ∧
      Text.isBlank (some raw) = false := by
  obtain ⟨f, rfl, hread⟩ := h
  exact ⟨by rw [hread]; rfl, Reader.strict_positiveFloat.isBlank_eq_false hread⟩

theorem text_of_spells (hv : IsTrimmedText v) (h : SpellsText v raw) :
    (Except.ok (.text (Text.trim raw)) : Except Complaint Value) = .ok v ∧
      Text.isBlank (some raw) = false := by
  obtain ⟨t, rfl, hblank, htrim⟩ := hv
  obtain ⟨t', ht, hpad⟩ := h
  obtain rfl := Value.text.inj ht
  exact ⟨by rw [hpad.trim_eq, htrim], by rw [hpad.isBlank_eq, hblank]⟩

/-- A field that may be missing has a spelling only if it is a text. -/
theorem optional_of_spells (hv : v = .none ∨ IsTrimmedText v) (h : SpellsText v raw) :
    (Except.ok (.text (Text.trim raw)) : Except Complaint Value) = .ok v ∧
      Text.isBlank (some raw) = false := by
  rcases hv with rfl | hv
  · obtain ⟨t, ht, -⟩ := h
    cases ht
  · exact text_of_spells hv h

end Kinds

/-- The reader of a setting gives the field back for each of its spellings, and none of these is
blank. -/
theorem reader_of_spells (hS : S.Portable) (hrange : S.InRange) (h : S.Spells s raw) :
    s.reader raw = .ok (S.toDraft.held s) ∧ Text.isBlank (some raw) = false := by
  cases s <;> rw [Setting.reader]
  case defaultMethod => exact choice_of_spells Vocabulary.distinct_channel h
  case alphabet => exact choice_of_spells Vocabulary.distinct_alphabet h
  case missingAction => exact choice_of_spells Vocabulary.distinct_missingAction h
  case mailEncryption => exact choice_of_spells Vocabulary.distinct_encryption h
  case defaultTimeout => exact positiveInt_of_spells hrange.defaultTimeout hS.defaultTimeout h
  case length => exact positiveInt_of_spells hrange.length hS.length h
  case mailPort => exact positiveInt_of_spells hrange.mailPort hS.mailPort h
  case disabled => exact boolean_of_spells h
  case mailAuth => exact boolean_of_spells h
  case mailTimeout => exact positiveFloat_of_spells h
  case sweepInterval => exact positiveFloat_of_spells h
  case mailSender => exact text_of_spells hS.mailSender h
  case mailServer => exact text_of_spells hS.mailServer h
  case mailUsername => exact optional_of_spells hS.mailUsername h
  case mailPassword => exact optional_of_spells hS.mailPassword h
  case smsServer => exact optional_of_spells hS.smsServer h
  case smsSender => exact optional_of_spells hS.smsSender h

/-! ## All variables -/

/-- What is said of each setting is its field, or nothing where that is the usual one. -/
theorem said_of_exports {env : Environment} (hS : S.Portable) (hrange : S.InRange)
    (h : S.Exports env) (s : Setting) :
    ∃ o : Option s.Held, env.said s = .ok o ∧ o.getD (({} : Draft).held s) = S.toDraft.held s := by
  rcases h s with ⟨raw, hvar, hspells⟩ | ⟨hnothing, husual⟩
  · obtain ⟨hread, hblank⟩ := reader_of_spells hS hrange hspells
    have htold := Environment.told_eq_some_iff.mpr ⟨hvar, hblank⟩
    refine ⟨some (S.toDraft.held s), ?_, rfl⟩
    rw [Environment.said_of_told htold, Reader.read, hread]
    rfl
  · exact ⟨none, Environment.said_of_saysNothing hnothing, husual.symm⟩

/-- Settings that were built come back from every environment that they can be written out as. -/
theorem ofEnvironment_of_exports {draft : Draft} {env : Environment} (hbuild : build draft = .ok S)
    (hS : S.Portable) (h : S.Exports env) : ofEnvironment env = .ok S := by
  obtain ⟨hgives, -⟩ := build_eq_ok_iff.mp hbuild
  choose given hsaid hheld using said_of_exports hS hgives.inRange h
  have hdraft : Draft.ofGiven given = S.toDraft := Draft.held_injective fun s => by
    rw [Draft.ofGiven, Draft.held_ofHeld, hheld]
  rw [ofEnvironment, Environment.draft_of_said hsaid, hdraft]
  exact build_toDraft hbuild

/-- Settings with text messages as the default and mail authentication. -/
def ofTheShop : Settings where
  defaultMethod := .own .sms
  defaultTimeout := 86400
  length := 8
  alphabet := .own .all
  disabled := .bool false
  missingAction := .own .block
  mailSender := .text "otp@localhost.localdomain"
  mailServer := .text "localhost"
  mailPort := 25
  mailAuth := .bool true
  mailUsername := .text "shop"
  mailPassword := .text "open sesame"
  mailEncryption := .own .starttls
  mailTimeout := .float 2.5
  smsServer := .text "https://sms.example.com"
  smsSender := .none
  sweepInterval := .float 60

/-- Variables that hold these settings; some of the usual fields are written out, too. -/
def shopVariables : List (String × Value) :=
  [("OTP_DEFAULT_METHOD", .text " Sms"), ("OTP_DEFAULT_TIMEOUT", .text "86400\n"),
   ("OTP_LENGTH", .text "\t8 "), ("OTP_CHARACTER_CLASSES", .text "ALL"),
   ("OTP_DISABLED", .text "False"), ("OTP_MAIL_AUTH", .text " TRUE"),
   ("OTP_MAIL_USERNAME", .text " shop "), ("OTP_MAIL_PASSWORD", .text "open sesame"),
   ("OTP_MAIL_ENCRYPT", .text "StartTLS"), ("OTP_MAIL_TIMEOUT", .text " 25e-1"),
   ("OTP_SMS_SERVER", .text "https://sms.example.com"), ("OTP_SMS_SENDER", .text "  ")]

theorem shop_read_back :
    build ofTheShop.toDraft = .ok ofTheShop ∧ ofTheShop.Portable ∧
      ofTheShop.Exports (.ofEntries shopVariables) ∧
      ofEnvironment (.ofEntries shopVariables) = .ok ofTheShop := by
  have hbuild : build ofTheShop.toDraft = .ok ofTheShop := rfl
  have htimeout : Reader.positiveFloat " 25e-1" = .ok 2.5 := by
    have hread : Decimal.float? " 25e-1".toList = some 2.5 := by decide +kernel
    rw [Reader.positiveFloat, hread]
    exact if_neg (by decide)
  have hS : ofTheShop.Portable := by
    refine ⟨⟨_, rfl, ?_⟩, ⟨_, rfl, ?_⟩, .inr ⟨_, rfl, ?_⟩, .inr ⟨_, rfl, ?_⟩, .inr ⟨_, rfl, ?_⟩,
      .inl rfl, ?_, ?_, ?_, ⟨_, rfl, ?_⟩, ⟨_, rfl, ?_⟩, ⟨_, rfl⟩, ⟨_, rfl⟩⟩ <;> decide +kernel
  have h : ofTheShop.Exports (.ofEntries shopVariables) := by
    intro s
    cases s
    case defaultMethod =>
      exact .inl ⟨_, rfl, _, rfl, "Sms", .inl (by decide), [' '], [], by decide, by decide, rfl⟩
    case defaultTimeout => exact .inl ⟨_, rfl, [], ['\n'], by decide, by decide, rfl⟩
    case length => exact .inl ⟨_, rfl, ['\t'], [' '], by decide, by decide, rfl⟩
    case alphabet =>
      exact .inl ⟨_, rfl, _, rfl, "ALL", .inr (by decide), [], [], by decide, by decide, rfl⟩
    case disabled =>
      exact .inl ⟨_, rfl, false, rfl, "False", by decide, [], [], by decide, by decide, rfl⟩
    case mailAuth =>
      exact .inl ⟨_, rfl, true, rfl, "TRUE", by decide, [' '], [], by decide, by decide, rfl⟩
    case mailUsername => exact .inl ⟨_, rfl, _, rfl, [' '], [' '], by decide, by decide, rfl⟩
    case mailPassword => exact .inl ⟨_, rfl, _, rfl, [], [], by decide, by decide, rfl⟩
    case mailEncryption =>
      exact .inl ⟨_, rfl, _, rfl, "StartTLS", .inl (by decide), [], [], by decide, by decide, rfl⟩
    case mailTimeout => exact .inl ⟨_, rfl, _, rfl, htimeout⟩
    case smsServer => exact .inl ⟨_, rfl, _, rfl, [], [], by decide, by decide, rfl⟩
    case smsSender => exact .inr ⟨by decide, rfl⟩
    all_goals exact .inr ⟨rfl, rfl⟩
  exact ⟨hbuild, hS, h, ofEnvironment_of_exports hbuild hS h⟩

end Settings

end Passcode
