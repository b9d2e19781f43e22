import Passcode.Proofs.Drafts
import Passcode.Proofs.Trims

/-!
# What the variables say

The settings of an environment come from the seventeen variables and from nothing else. A
variable that is unset or blank says nothing; any other is read by the reader of its setting
(`Setting.reader`). The first variable that cannot be read is the one that is reported
(`ofEnvironment_of_malformed`). If all can be read, the draft of what was read is built
(`ofEnvironment_of_wellFormed`), and since a reader gives nothing that the checks of a single
field refuse (`Setting.sound_of_reader`), only the checks over several fields can still fail.
-/

namespace Passcode

/-! ## Reading one variable -/

namespace Setting

/-- The reader of the variable of a setting. A text is trimmed, and none is refused. -/
def reader : (s : Setting) → Reader s.Held
  | defaultMethod => fun raw => (Reader.choice raw).map .member
  | alphabet => fun raw => (Reader.choice raw).map .member
  | missingAction => fun raw => (Reader.choice raw).map .member
  | mailEncryption => fun raw => (Reader.choice raw).map .member
  | defaultTimeout | length | mailPort => fun raw => (Reader.positiveInt raw).map .int
  | disabled | mailAuth => fun raw => (Reader.boolean raw).map .bool
  | mailTimeout | sweepInterval => fun raw => (Reader.positiveFloat raw).map .float
  | mailSender | mailServer | mailUsername | mailPassword | smsServer | smsSender => fun raw =>
      .ok (.text (Text.trim raw))

end Setting

theorem Reader.read_map {α β : Type} (r : Reader α) (f : α → β) (key : String)
    (source raw : Option String) :
    Reader.read (fun s => (r s).map f) key source raw = (r.read key source raw).map f := by
  cases raw with
  | none => rfl
  | some s =>
      simp only [Reader.read]
      cases r s <;> rfl

namespace Environment

variable {env env' : Environment} {d : Draft} {s : Setting}

theorem assign_eq (d : Draft) (s : Setting) (raw : String) :
    assign d s raw = (s.reader.read s.variableName source raw).map (d.put s) := by
  cases s
  case mailSender | mailServer | mailUsername | mailPassword | smsServer | smsSender => rfl
  all_goals
    simp only [Setting.reader, Reader.read_map, assign]
    cases Reader.read _ _ _ _ <;> rfl

/-- What a variable says of its setting, if anything. -/
def said (env : Environment) (s : Setting) : Except Failure (Option s.Held) :=
  match env s.variableName with
  | .none => .ok none
  | .text raw =>
    if Text.isBlank (some raw) then .ok none
    else (s.reader.read s.variableName source raw).map some
  | _ => .error .notText

theorem step_eq (env : Environment) (d : Draft) (s : Setting) :
    env.step d s = (env.said s).map fun o => o.elim d (d.put s) := by
  unfold step said
  cases env s.variableName with
  | text raw =>
      dsimp only
      split
      · rfl
      · rw [assign_eq]
        cases s.reader.read s.variableName source raw <;> rfl
  | _ => rfl

/-! ## Reading them all -/

/-- Settings that can all be read are put one after another; the others keep what they held. -/
theorem foldlM_step_of_said {given : (s : Setting) → Option s.Held} {ss : List Setting}
    (h : ∀ s ∈ ss, env.said s = .ok (given s)) (d : Draft) :
    ∃ d', ss.foldlM env.step d = .ok d' ∧
      ∀ t, d'.held t = if t ∈ ss then (given t).getD (d.held t) else d.held t := by
  induction ss generalizing d with
  | nil => exact ⟨d, rfl, fun t => rfl⟩
  | cons s ss ih =>
      have hstep : env.step d s = .ok ((given s).elim d (d.put s)) := by
        rw [step_eq, h s List.mem_cons_self]
        rfl
      obtain ⟨d', hfold, hheld⟩ := ih (fun t ht => h t (List.mem_cons_of_mem s ht))
        ((given s).elim d (d.put s))
      refine ⟨d', by rw [List.foldlM_cons, hstep]; exact hfold, fun t => ?_⟩
      rw [hheld]
      by_cases hts : t = s
      · subst hts
        cases hgiven : given t <;> simp
      · have hkept : ((given s).elim d (d.put s)).held t = d.held t := by
          cases given s with
          | none => rfl
          | some x => simp [hts]
        simp [hkept, hts]

theorem draft_of_said {given : (s : Setting) → Option s.Held}
    (h : ∀ s, env.said s = .ok (given s)) : env.draft = .ok (.ofGiven given) := by
  have hall : ∀ s ∈ Setting.all, env.said s = .ok (given s) := fun s _ => h s
  obtain ⟨d, hfold, hheld⟩ := foldlM_step_of_said hall {}
  have hd : d = .ofGiven given := Draft.held_injective fun t => by
    rw [hheld, if_pos t.mem_all, Draft.ofGiven, Draft.held_ofHeld]
  rw [draft, hfold, hd]

/-- The first variable that cannot be read stops the reading. -/
theorem draft_of_first {before after : List Setting} {e : Failure}
    (hall : Setting.all = before ++ s :: after) (hbefore : ∀ t ∈ before, ∃ o, env.said t = .ok o)
    (hs : env.said s = .error e) : env.draft = .error e := by
  have hgiven : ∀ t ∈ before, env.said t = .ok ((env.said t).toOption.getD none) := by
    intro t ht
    obtain ⟨o, ho⟩ := hbefore t ht
    rw [ho]
    rfl
  obtain ⟨d, hfold, -⟩ := foldlM_step_of_said hgiven {}
  have hstep : env.step d s = .error e := by
    rw [step_eq, hs]
    rfl
  rw [draft, hall, List.foldlM_append, hfold]
  show (s :: after).foldlM env.step d = _
  rw [List.foldlM_cons, hstep]
  rfl

theorem draft_congr (h : ∀ s, env.said s = env'.said s) : env.draft = env'.draft := by
  have hstep : env.step = env'.step := by
    funext d s
    rw [step_eq, step_eq, h]
  rw [draft, draft, hstep]

/-! ## Environments that say the same -/

/-- Two environments have the same values for the variables, but for those that say nothing in
either. -/
def Agrees (env env' : Environment) : Prop :=
  ∀ s : Setting, env s.variableName = env' s.variableName ∨
    (env s.variableName).saysNothing = true ∧ (env' s.variableName).saysNothing = true

theorem said_of_saysNothing (h : (env s.variableName).saysNothing = true) :
    env.said s = .ok none := by
  unfold said
  cases hv : env s.variableName with
  | none => rfl
  | text raw =>
      rw [hv] at h
      exact if_pos h
  | _ =>
      rw [hv] at h
      cases h

theorem Agrees.ofEnvironment_eq (h : env.Agrees env') :
    Settings.ofEnvironment env = Settings.ofEnvironment env' := by
  have hsaid : ∀ s, env.said s = env'.said s := by
    intro s
    rcases h s with heq | ⟨hnothing, hnothing'⟩
    · rw [said, said, heq]
    · rw [said_of_saysNothing hnothing, said_of_saysNothing hnothing']
  rw [Settings.ofEnvironment, Settings.ofEnvironment, draft_congr hsaid]

def ofEntries (entries : List (String × Value)) : Environment := fun name =>
  (entries.lookup name).getD .none

section Entries

variable {entries entries' : List (String × Value)} {name : String} {v : Value}

theorem ofEntries_eq_of_mem (hnames : (entries.map Prod.fst).Nodup) (h : (name, v) ∈ entries) :
    ofEntries entries name = v := by
  obtain ⟨front, back, rfl⟩ := List.append_of_mem h
  have hlookup : (front ++ (name, v) :: back).lookup name = some v := by
    refine List.lookup_eq_some_iff.mpr ⟨front, back, rfl, fun entry hentry => ?_⟩
    rw [List.map_append, List.map_cons, List.nodup_append] at hnames
    have hne := hnames.2.2 entry.1 (List.mem_map_of_mem hentry) name List.mem_cons_self
    simpa using hne.symm
  rw [ofEntries, hlookup]
  rfl

theorem mem_of_ofEntries (h : (ofEntries entries name).saysNothing = false) :
    (name, ofEntries entries name) ∈ entries := by
  cases hlookup : entries.lookup name with
  | none =>
      rw [ofEntries, hlookup] at h
      cases h
  | some v =>
      obtain ⟨front, back, rfl, -⟩ := List.lookup_eq_some_iff.mp hlookup
      rw [ofEntries, hlookup]
      simp

/-- Entries agree if they have the same ones that say something of a setting. Their order does
not matter, nor what other entries there are. -/
theorem agrees_ofEntries (hnames : (entries.map Prod.fst).Nodup)
    (hnames' : (entries'.map Prod.fst).Nodup)
    (h : ∀ (s : Setting) (v : Value), v.saysNothing = false →
      ((s.variableName, v) ∈ entries ↔ (s.variableName, v) ∈ entries')) :
    (ofEntries entries).Agrees (ofEntries entries') := by
  intro s
  cases htells : (ofEntries entries s.variableName).saysNothing with
  | false =>
      have hmem := (h s _ htells).mp (mem_of_ofEntries htells)
      exact .inl (ofEntries_eq_of_mem hnames' hmem).symm
  | true =>
      cases htells' : (ofEntries entries' s.variableName).saysNothing with
      | false =>
          have hmem := (h s _ htells').mpr (mem_of_ofEntries htells')
          exact .inl (ofEntries_eq_of_mem hnames hmem)
      | true => exact .inr ⟨rfl, rfl⟩

end Entries

/-! ## Texts that are read and texts that are not -/

/-- The text of the variable of a setting, unless it is unset or blank. -/
def told (env : Environment) (s : Setting) : Option String :=
  (env s.variableName).text?.filter fun raw => !Text.isBlank (some raw)

/-- What is read from the variable of a setting, if it says something that can be read. -/
def given (env : Environment) (s : Setting) : Option s.Held :=
  (env.told s).bind fun raw => (s.reader raw).toOption

/-- Whether the variable of a setting says something that cannot be read. -/
def isMalformed (env : Environment) (s : Setting) : Bool :=
  (env.told s).any fun raw => (s.reader raw).toOption.isNone

theorem told_eq_some_iff {raw : String} :
    env.told s = some raw ↔ env s.variableName = .text raw ∧ Text.isBlank (some raw) = false := by
  unfold told
  cases env s.variableName <;> simp [Value.text?, Option.filter_eq_some_iff]

theorem said_of_told {raw : String} (h : env.told s = some raw) :
    env.said s = (s.reader.read s.variableName source raw).map some := by
  obtain ⟨hv, hblank⟩ := told_eq_some_iff.mp h
  unfold said
  rw [hv]
  exact if_neg (by simp [hblank])

theorem said_of_wellFormed (htext : (env s.variableName).Textual) (h : env.isMalformed s = false) :
    env.said s = .ok (env.given s) := by
  cases htold : env.told s with
  | none =>
      have hnothing : (env s.variableName).saysNothing = true := by
        obtain ⟨o, ho⟩ := htext
        cases o with
        | none => rw [ho]; rfl
        | some raw =>
            by_contra htells
            have hblank : Text.isBlank (some raw) = false := by
              rw [ho] at htells
              exact Bool.eq_false_iff.mpr htells
            exact nomatch htold.symm.trans (told_eq_some_iff.mpr ⟨ho, hblank⟩)
      rw [said_of_saysNothing hnothing, given, htold]
      rfl
  | some raw =>
      rw [said_of_told htold, Reader.read]
      rw [isMalformed, htold] at h
      rw [given, htold]
      cases hread : s.reader raw with
      | ok x => simp [hread, Except.toOption, Except.map]
      | error c => simp [hread, Except.toOption] at h

theorem said_of_isMalformed (h : env.isMalformed s = true) :
    ∃ raw complaint, env.told s = some raw ∧ s.reader raw = .error complaint ∧
      env.said s =
        .error (.refused (.configuration s.variableName raw source complaint.text)) := by
  obtain ⟨raw, htold, hnone⟩ := (Option.any_eq_true _ _).mp h
  cases hread : s.reader raw with
  | ok x => simp [hread, Except.toOption] at hnone
  | error c =>
      refine ⟨raw, c, htold, hread, ?_⟩
      rw [said_of_told htold, Reader.read, hread]
      rfl

end Environment

/-! ## What is read is in order -/

theorem ok_of_map {α β : Type} {x : Except Complaint α} {f : α → β} {y : β}
    (h : x.map f = .ok y) : ∃ a, x = .ok a ∧ y = f a := by
  cases x with
  | error e => cases h
  | ok a => exact ⟨a, rfl, (Except.ok.inj h).symm⟩

/-- A text that is not blank. -/
def Value.IsWords (v : Value) : Prop := ∃ t, v = .text t ∧ Text.isBlank (some t) = false

/-- What the field of a setting can hold after the variables were read. -/
def Setting.Sound : (s : Setting) → s.Held → Prop
  | defaultMethod, g => ∃ m, g = .member m
  | alphabet, g => ∃ m, g = .member m
  | missingAction, g => ∃ m, g = .member m
  | mailEncryption, g => ∃ m, g = .member m
  | defaultTimeout, v | length, v | mailPort, v => ∃ n, v = Value.int n ∧ 1 ≤ n
  | disabled, v | mailAuth, v => ∃ b, v = Value.bool b
  | mailTimeout, v | sweepInterval, v => ∃ x, v = Value.float x ∧ ¬ x ≤ 0
  | mailSender, v | mailServer, v => Value.IsWords v
  | mailUsername, v | mailPassword, v | smsServer, v | smsSender, v =>
    v = Value.none ∨ Value.IsWords v

namespace Setting

theorem sound_usual (s : Setting) : s.Sound (({} : Draft).held s) := by
  cases s
  case defaultMethod | alphabet | missingAction | mailEncryption => exact ⟨_, rfl⟩
  case defaultTimeout | length | mailPort => exact ⟨_, rfl, by decide⟩
  case disabled | mailAuth => exact ⟨_, rfl⟩
  case mailTimeout | sweepInterval => exact ⟨_, rfl, by decide⟩
  case mailSender | mailServer => exact ⟨_, rfl, by decide⟩
  case mailUsername | mailPassword | smsServer | smsSender => exact .inl rfl

/-- A reader gives nothing that the checks of a single field refuse. -/
theorem sound_of_reader {s : Setting} {raw : String} {x : s.Held}
    (hraw : Text.isBlank (some raw) = false) (h : s.reader raw = .ok x) : s.Sound x := by
  have hwords : Value.IsWords (.text (Text.trim raw)) :=
    ⟨_, rfl, (Text.isBlank_trim raw).trans hraw⟩
  cases s <;> rw [reader] at h
  case mailSender | mailServer => exact Except.ok.inj h ▸ hwords
  case mailUsername | mailPassword | smsServer | smsSender => exact .inr (Except.ok.inj h ▸ hwords)
  case defaultTimeout | length | mailPort =>
    obtain ⟨n, hn, rfl⟩ := ok_of_map h
    exact ⟨n, rfl, Reader.one_le_of_positiveInt hn⟩
  case mailTimeout | sweepInterval =>
    obtain ⟨f, hf, rfl⟩ := ok_of_map h
    exact ⟨f, rfl, Reader.not_le_of_positiveFloat hf⟩
  all_goals
    obtain ⟨m, -, rfl⟩ := ok_of_map h
    exact ⟨m, rfl⟩

end Setting

/-- A draft whose fields are all in order gives settings. -/
theorem Draft.exists_gives {d : Draft} (h : ∀ s : Setting, s.Sound (d.held s)) :
    ∃ S, d.Gives S := by
  obtain ⟨method, hmethod⟩ := h .defaultMethod
  obtain ⟨alphabet, halphabet⟩ := h .alphabet
  obtain ⟨action, haction⟩ := h .missingAction
  obtain ⟨encryption, hencryption⟩ := h .mailEncryption
  obtain ⟨timeout, htimeout⟩ := h .defaultTimeout
  obtain ⟨length, hlength⟩ := h .length
  obtain ⟨port, hport⟩ := h .mailPort
  obtain ⟨mailTimeout, hmail, hmail'⟩ := h .mailTimeout
  obtain ⟨interval, hsweep, hsweep'⟩ := h .sweepInterval
  have settle_member : ∀ {α : Type} [Vocabulary α] {g : Given α} {m : α} (s : Setting),
      g = .member m → g.settle s = .ok (.own m) := by
    rintro α _ g m s rfl
    rfl
  exact ⟨{ defaultMethod := .own method, alphabet := .own alphabet, missingAction := .own action
           mailEncryption := .own encryption, defaultTimeout := timeout, length := length
           mailPort := port, mailTimeout := .float mailTimeout, sweepInterval := .float interval
           disabled := d.disabled, mailSender := d.mailSender, mailServer := d.mailServer
           mailAuth := d.mailAuth, mailUsername := d.mailUsername, mailPassword := d.mailPassword
           smsServer := d.smsServer, smsSender := d.smsSender },
    settle_member _ hmethod, settle_member _ halphabet, settle_member _ haction,
    settle_member _ hencryption, htimeout, hlength, hport,
    ⟨hmail, decide_eq_false hmail'⟩, ⟨hsweep, decide_eq_false hsweep'⟩,
    rfl, rfl, rfl, rfl, rfl, rfl, rfl, rfl⟩

namespace Environment

variable {env : Environment} {S : Settings}

/-- Every variable is a text, or unset. -/
def Textual (env : Environment) : Prop := ∀ s : Setting, (env s.variableName).Textual

/-- Mail authentication is switched on, and the variable of the user name or that of the password
says nothing. -/
def LacksCredentials (env : Environment) : Prop :=
  env.given .mailAuth = some (Value.bool true) ∧
    (env.told .mailUsername = none ∨ env.told .mailPassword = none)

/-- Text messages are made the default, and the variable of the gateway says nothing. -/
def LacksGateway (env : Environment) : Prop :=
  env.given .defaultMethod = some (Given.member .sms) ∧ env.told .smsServer = none

theorem sound_of_given {s : Setting} {x : s.Held} (h : env.given s = some x) : s.Sound x := by
  obtain ⟨raw, htold, hread⟩ := Option.bind_eq_some_iff.mp h
  cases hr : s.reader raw with
  | ok y =>
      rw [hr] at hread
      obtain rfl := Option.some.inj hread
      exact Setting.sound_of_reader (told_eq_some_iff.mp htold).2 hr
  | error c =>
      rw [hr] at hread
      cases hread

theorem sound_ofGiven (env : Environment) (s : Setting) :
    s.Sound ((Draft.ofGiven env.given).held s) := by
  rw [Draft.ofGiven, Draft.held_ofHeld]
  cases hgiven : env.given s with
  | none => exact s.sound_usual
  | some x => exact sound_of_given hgiven

theorem isBlank_trim_told (s : Setting) :
    Text.isBlank ((env.told s).map Text.trim) = true ↔ env.told s = none := by
  cases htold : env.told s with
  | none => simp [Text.isBlank]
  | some raw =>
      rw [Option.map_some, Text.isBlank_trim, (told_eq_some_iff.mp htold).2]
      simp

/-- A field that is usually nothing, and whose variable holds a text. -/
theorem getD_trimmed (told : Option String) :
    (told.bind fun raw =>
      (Except.ok (Value.text (Text.trim raw)) : Except Complaint Value).toOption).getD .none =
      .ofOption (told.map Text.trim) := by
  cases told <;> rfl

theorem username_eq (h : (Draft.ofGiven env.given).Gives S) :
    S.mailUsername = .ofOption ((env.told .mailUsername).map Text.trim) :=
  h.mailUsername.symm.trans (getD_trimmed _)

theorem password_eq (h : (Draft.ofGiven env.given).Gives S) :
    S.mailPassword = .ofOption ((env.told .mailPassword).map Text.trim) :=
  h.mailPassword.symm.trans (getD_trimmed _)

theorem server_eq (h : (Draft.ofGiven env.given).Gives S) :
    S.smsServer = .ofOption ((env.told .smsServer).map Text.trim) :=
  h.smsServer.symm.trans (getD_trimmed _)

theorem saysNothing_ofOption (o : Option String) :
    (Value.ofOption o).saysNothing = Text.isBlank o := by
  cases o <;> rfl

theorem lacksCredentials_iff (h : (Draft.ofGiven env.given).Gives S) :
    S.LacksCredentials ↔ env.LacksCredentials := by
  have hauth : S.mailAuth.isTrue = true ↔ env.given .mailAuth = some (Value.bool true) := by
    rw [← h.mailAuth]
    show ((env.given .mailAuth).getD (Value.bool false)).isTrue = true ↔ _
    cases hgiven : env.given .mailAuth with
    | none => simp [Value.isTrue]
    | some v =>
        obtain ⟨b, rfl⟩ := sound_of_given hgiven
        cases b <;> simp [Value.isTrue]
  have hpassword : S.mailPassword = .none ↔ env.told .mailPassword = none := by
    rw [password_eq h]
    cases env.told .mailPassword <;> simp [Value.ofOption]
  rw [Settings.LacksCredentials, hauth, hpassword, username_eq h, saysNothing_ofOption,
    isBlank_trim_told, LacksCredentials]

theorem lacksGateway_iff (h : (Draft.ofGiven env.given).Gives S) :
    S.LacksGateway ↔ env.LacksGateway := by
  have hmethod : S.defaultMethod = .own .sms ↔
      env.given .defaultMethod = some (Given.member .sms) := by
    have hsettle : ((env.given .defaultMethod).getD (Given.member .email)).settle .defaultMethod =
        .ok S.defaultMethod := h.defaultMethod
    cases hgiven : env.given .defaultMethod with
    | none =>
        rw [hgiven] at hsettle
        rw [← Except.ok.inj hsettle]
        simp
    | some g =>
        obtain ⟨m, rfl⟩ := sound_of_given hgiven
        rw [hgiven] at hsettle
        rw [← Except.ok.inj hsettle]
        simp
  rw [Settings.LacksGateway, hmethod, server_eq h, saysNothing_ofOption, isBlank_trim_told,
    LacksGateway]

/-! ## Settings from the variables -/

/-- The first variable that cannot be read is reported, with its text as it was given. -/
theorem ofEnvironment_of_malformed {s : Setting} (htext : env.Textual)
    (h : Setting.all.find? env.isMalformed = some s) :
    ∃ raw complaint, env.told s = some raw ∧ s.reader raw = .error complaint ∧
      Settings.ofEnvironment env =
        .error (.refused (.configuration s.variableName raw source complaint.text)) := by
  obtain ⟨hs, before, after, hall, hbefore⟩ := List.find?_eq_some_iff_append.mp h
  obtain ⟨raw, complaint, htold, hread, hsaid⟩ := said_of_isMalformed hs
  have hearlier : ∀ t ∈ before, ∃ o, env.said t = .ok o := fun t ht =>
    ⟨_, said_of_wellFormed (htext t) (by simpa using hbefore t ht)⟩
  refine ⟨raw, complaint, htold, hread, ?_⟩
  rw [Settings.ofEnvironment, draft_of_first hall hearlier hsaid]
  rfl

theorem ofEnvironment_of_wellFormed (htext : env.Textual) (h : ∀ s, env.isMalformed s = false) :
    Settings.ofEnvironment env = Settings.build (.ofGiven env.given) := by
  rw [Settings.ofEnvironment, draft_of_said fun s => said_of_wellFormed (htext s) (h s)]
  rfl

/-- What was read is built unless a check over several fields fails, the one of the credentials
before the one of the gateway. -/
theorem build_ofGiven (env : Environment) :
    (env.LacksCredentials ∧ Settings.build (.ofGiven env.given) =
      Settings.refuse .mailAuth "true" .needsCredentials) ∨
    (¬ env.LacksCredentials ∧ env.LacksGateway ∧ Settings.build (.ofGiven env.given) =
      Settings.refuse .smsServer none .needsGateway) ∨
    (¬ env.LacksCredentials ∧ ¬ env.LacksGateway ∧
      ∃ S, Settings.build (.ofGiven env.given) = .ok S) := by
  obtain ⟨S, hgives⟩ := Draft.exists_gives env.sound_ofGiven
  have hname : S.mailUsername.Textual := ⟨_, username_eq hgives⟩
  have hserver : S.smsServer.Textual := ⟨_, server_eq hgives⟩
  rw [← lacksCredentials_iff hgives, ← lacksGateway_iff hgives, Settings.build_of_gives hgives]
  by_cases hcredentials : S.LacksCredentials
  · rw [Settings.crossCheck_of_lacksCredentials hname hcredentials]
    exact .inl ⟨hcredentials, rfl⟩
  rw [Settings.crossCheck_of_credentials hname hcredentials]
  by_cases hgateway : S.LacksGateway
  · have hnone : S.smsServer.text? = none := by
      rw [server_eq hgives, ((lacksGateway_iff hgives).mp hgateway).2]
      rfl
    rw [Settings.checkGateway_of_lacksGateway hserver hgateway, hnone]
    exact .inr (.inl ⟨hcredentials, hgateway, rfl⟩)
  · rw [Settings.checkGateway_of_gateway hserver hgateway]
    exact .inr (.inr ⟨hcredentials, hgateway, S, rfl⟩)

/-- The settings of an environment depend on the variables alone, whichever of those that say
nothing are unset and which are blank, and whatever other entries there are in whatever order. The
first variable in order that says something that cannot be read is reported with its text as it
was given. If there is none, what was read and trimmed is built; an error is then that of the
credentials, or, with these in order, that of the gateway. -/
theorem settings_of_variables :
    (∀ env env' : Environment, env.Agrees env' →
      Settings.ofEnvironment env = Settings.ofEnvironment env') ∧
    (∀ entries entries' : List (String × Value),
      (entries.map Prod.fst).Nodup → (entries'.map Prod.fst).Nodup →
      (∀ (s : Setting) (v : Value), v.saysNothing = false →
        ((s.variableName, v) ∈ entries ↔ (s.variableName, v) ∈ entries')) →
      Settings.ofEnvironment (ofEntries entries) = Settings.ofEnvironment (ofEntries entries')) ∧
    ∀ env : Environment, env.Textual →
      (∀ s, Setting.all.find? env.isMalformed = some s →
        ∃ raw complaint, env.told s = some raw ∧ s.reader raw = .error complaint ∧
          Settings.ofEnvironment env =
            .error (.refused (.configuration s.variableName raw source complaint.text))) ∧
      (Setting.all.find? env.isMalformed = none →
        Settings.ofEnvironment env = Settings.build (.ofGiven env.given) ∧
        ((env.LacksCredentials ∧ Settings.ofEnvironment env =
            Settings.refuse .mailAuth "true" .needsCredentials) ∨
          (¬ env.LacksCredentials ∧ env.LacksGateway ∧ Settings.ofEnvironment env =
            Settings.refuse .smsServer none .needsGateway) ∨
          (¬ env.LacksCredentials ∧ ¬ env.LacksGateway ∧
            ∃ S, Settings.ofEnvironment env = .ok S))) := by
  refine ⟨fun env env' h => h.ofEnvironment_eq, fun entries entries' hnames hnames' h =>
    (agrees_ofEntries hnames hnames' h).ofEnvironment_eq, fun env htext =>
    ⟨fun s h => ofEnvironment_of_malformed htext h, fun h => ?_⟩⟩
  have hwell : ∀ s, env.isMalformed s = false := fun s => by
    simpa using List.find?_eq_none.mp h s s.mem_all
  rw [ofEnvironment_of_wellFormed htext hwell]
  exact ⟨rfl, build_ofGiven env⟩

/-- Entries of which two cannot be read, and which ask for mail authentication and for text
messages without saying how. -/
def misread : List (String × Value) :=
  [("OTP_MAIL_PORT", .text "smtp"), ("OTP_LENGTH", .text " six"), ("OTP_MAIL_AUTH", .text "TRUE"),
   ("OTP_DEFAULT_METHOD", .text "sms"), ("LANG", .text "C")]

/-- Entries that can be read, and which ask for the same. -/
def unequipped : List (String × Value) :=
  [("OTP_DEFAULT_METHOD", .text "sms"), ("OTP_MAIL_AUTH", .text "TRUE")]

/-- The same entries, with a variable that is blank. -/
def unequippedBlank : List (String × Value) := ("OTP_SMS_SERVER", .text "\t") :: unequipped

theorem textual_ofEntries {entries : List (String × Value)}
    (h : ∀ entry ∈ entries, entry.2.Textual) : (ofEntries entries).Textual := by
  intro s
  cases hlookup : entries.lookup s.variableName with
  | none => exact ⟨none, by rw [ofEntries, hlookup]; rfl⟩
  | some v =>
      obtain ⟨front, back, rfl, -⟩ := List.lookup_eq_some_iff.mp hlookup
      have htext := h (s.variableName, v) (by simp)
      rwa [ofEntries, hlookup]

theorem length_blamed_before_port :
    (ofEntries unequippedBlank).Agrees (ofEntries unequipped) ∧
      (misread.map Prod.fst).Nodup ∧ (misread.reverse.map Prod.fst).Nodup ∧
      (ofEntries misread).Textual ∧ (ofEntries unequipped).Textual ∧
      Setting.all.find? (ofEntries misread).isMalformed = some .length ∧
      Setting.all.find? (ofEntries unequipped).isMalformed = none ∧
      Settings.ofEnvironment (ofEntries misread.reverse) = .error (.refused
        (.configuration "OTP_LENGTH" (some " six") (some "environment") (some "not an integer"))) ∧
      Settings.ofEnvironment (ofEntries unequippedBlank) = .error (.refused
        (.configuration "mail_auth" (some "true") none
          (some "SMTP authentication requires a username and password"))) := by
  obtain ⟨hagree, hentries, hread⟩ := settings_of_variables
  have hblank : (ofEntries unequippedBlank).Agrees (ofEntries unequipped) := by
    intro s
    cases s
    case smsServer => exact .inr ⟨by decide, rfl⟩
    all_goals exact .inl rfl
  have hnames : (misread.map Prod.fst).Nodup := by decide
  have hnames' : (misread.reverse.map Prod.fst).Nodup := by decide
  have htext : (ofEntries misread).Textual := textual_ofEntries fun entry hentry => by
    simp only [misread, List.mem_cons, List.not_mem_nil, or_false] at hentry
    rcases hentry with rfl | rfl | rfl | rfl | rfl <;> exact ⟨some _, rfl⟩
  have htext' : (ofEntries unequipped).Textual := textual_ofEntries fun entry hentry => by
    simp only [unequipped, List.mem_cons, List.not_mem_nil, or_false] at hentry
    rcases hentry with rfl | rfl <;> exact ⟨some _, rfl⟩
  have hfirst : Setting.all.find? (ofEntries misread).isMalformed = some .length := by
    decide +kernel
  have hnone : Setting.all.find? (ofEntries unequipped).isMalformed = none := by decide +kernel
  have hreverse := hentries misread misread.reverse hnames hnames' fun s v _ => by simp
  obtain ⟨raw, complaint, htold, hcomplaint, herror⟩ := (hread _ htext).1 _ hfirst
  obtain rfl : " six" = raw := Option.some.inj htold
  obtain rfl : Complaint.notAnInteger = complaint := Except.error.inj hcomplaint
  have hlacks : (ofEntries unequipped).LacksCredentials := ⟨rfl, .inl rfl⟩
  have hcredentials : Settings.ofEnvironment (ofEntries unequipped) =
      Settings.refuse .mailAuth "true" .needsCredentials := by
    rcases ((hread _ htext').2 hnone).2 with ⟨-, h⟩ | ⟨hnot, -⟩ | ⟨hnot, -⟩
    · exact h
    · exact absurd hlacks hnot
    · exact absurd hlacks hnot
  exact ⟨hblank, hnames, hnames', htext, htext', hfirst, hnone, hreverse.symm.trans herror,
    (hagree _ _ hblank).trans hcredentials⟩

end Environment

end Passcode
