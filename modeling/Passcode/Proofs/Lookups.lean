import Passcode.Proofs.Precedence
import Passcode.Proofs.Turns

/-!
# A policy and its lookups

A policy is looked up as a whole, on groups that are sorted once for all of its attributes, or
attribute by attribute, each on the groups as they are listed. Both come to the same: sorting is
idempotent (`Tier.resolve_sort`), and a lookup looks at nothing that another one leaves behind
(`World.Telling`). So the answers and the events of the whole are those of its parts, up to the
first part that fails (`Policy.lookups_make_policy`).
-/

namespace Passcode

open Passcode.Action

/-! ## Asking in turn -/

namespace World

variable {α β : Type}

/-- An action that answers alike in every world and leaves nothing behind but the same events. -/
def Telling (a : Action World α) : Prop := ∃ r, Tells r a

def heard (a : Action World α) (w : World) : List Event := (a.after w).log.drop w.log.length

theorem Tells.telling {r : Except Failure α} {a : Action World α} (h : Tells r a) : Telling a :=
  ⟨r, h⟩

/-- What was reported before changes neither what such an action answers nor what it reports. -/
theorem Telling.run_told {a : Action World α} (h : Telling a) (w : World) (es : List Event) :
    a.run (w.told es) = ((a.run w).1, w.told (es ++ heard a w)) := by
  obtain ⟨r, fs, ha⟩ := h
  have hheard : heard a w = fs := by
    rw [heard, after, ha]
    exact List.drop_left
  rw [hheard, ha, ha, told_told]

theorem Telling.run_eq {a : Action World α} (h : Telling a) (w : World) :
    a.run w = ((a.run w).1, w.told (heard a w)) := by
  have hrun := h.run_told w []
  rwa [told_nil, List.nil_append] at hrun

theorem Telling.map {a : Action World α} (h : Telling a) (f : α → β) : Telling (f <$> a) := by
  obtain ⟨r, es, ha⟩ := h
  exact ⟨r.map f, es, fun w => by rw [run_map, ha]⟩

theorem Telling.bind {a : Action World α} {f : α → Action World β} (ha : Telling a)
    (hf : ∀ x, Telling (f x)) : Telling (a >>= f) := by
  obtain ⟨r, ha⟩ := ha
  choose q hq using hf
  exact ⟨r >>= q, ha.bind hq⟩

theorem telling_pure (x : α) : Telling (Pure.pure x) := (tells_pure x).telling

theorem Telling.bind_eq_ok_iff {a : Action World α} {f : α → Action World β} (ha : Telling a)
    (hf : ∀ x, Telling (f x)) {w : World} {y : β} : ((a >>= f).run w).1 = .ok y ↔
      ∃ x, (a.run w).1 = .ok x ∧ ((f x).run w).1 = .ok y := by
  have hrun := ha.run_eq w
  cases hx : (a.run w).1 with
  | error e =>
      rw [hx] at hrun
      rw [run_bind_of_error hrun]
      simp
  | ok x =>
      rw [hx] at hrun
      rw [run_bind_of_ok hrun, (hf x).run_told]
      simp

/-- Parts that all answer, one after another. -/
theorem run_forM_of_ok {parts : List (Action World Unit)} {w : World}
    (htell : ∀ a ∈ parts, Telling a) (hok : ∀ a ∈ parts, (a.run w).1 = .ok ()) (es : List Event) :
    (parts.forM id).run (w.told es) =
      (.ok (), w.told (es ++ parts.flatMap fun a => heard a w)) := by
  induction parts generalizing es with
  | nil => simp [List.forM, List.append_nil]
  | cons a rest ih =>
      have hcons : (a :: rest).forM id = a >>= fun _ => rest.forM id := rfl
      have hrun := (htell a List.mem_cons_self).run_told w es
      rw [hok a List.mem_cons_self] at hrun
      have hrest := ih (fun b hb => htell b (List.mem_cons_of_mem a hb))
        (fun b hb => hok b (List.mem_cons_of_mem a hb)) (es ++ heard a w)
      rw [hcons, run_bind_of_ok hrun, hrest, List.flatMap_cons, List.append_assoc]

/-- Parts of which one fails: those before it are heard, it is heard itself, and its failure is
that of the whole. -/
theorem run_forM_of_error {earlier later : List (Action World Unit)} {a : Action World Unit}
    {w : World} {e : Failure} (htell : ∀ b ∈ earlier ++ a :: later, Telling b)
    (hok : ∀ b ∈ earlier, (b.run w).1 = .ok ()) (he : (a.run w).1 = .error e) :
    ((earlier ++ a :: later).forM id).run w =
      (.error e, w.told ((earlier ++ [a]).flatMap fun b => heard b w)) := by
  have hsplit : (earlier ++ a :: later).forM id =
      earlier.forM id >>= fun _ => a >>= fun _ => later.forM id := List.forM_append
  have hearlier := run_forM_of_ok (fun b hb => htell b (List.mem_append_left _ hb)) hok []
  rw [told_nil] at hearlier
  have hrun := (htell a (by simp)).run_told w ([] ++ earlier.flatMap fun b => heard b w)
  rw [he] at hrun
  rw [hsplit, run_bind_of_ok hearlier, run_bind_of_error hrun]
  simp

/-- All parts answer, or there is a first one that fails. -/
theorem all_ok_or_first_error (parts : List (Action World Unit)) (w : World) :
    (∀ a ∈ parts, (a.run w).1 = .ok ()) ∨ ∃ earlier a later e, parts = earlier ++ a :: later ∧
      (∀ b ∈ earlier, (b.run w).1 = .ok ()) ∧ (a.run w).1 = .error e := by
  induction parts with
  | nil => exact .inl nofun
  | cons a rest ih =>
      cases ha : (a.run w).1 with
      | error e => exact .inr ⟨[], a, rest, e, rfl, nofun, ha⟩
      | ok u =>
          rcases ih with hall | ⟨earlier, b, later, e, rfl, hok, he⟩
          · exact .inl (List.forall_mem_cons.mpr ⟨ha, hall⟩)
          · exact .inr ⟨a :: earlier, b, later, e, rfl, List.forall_mem_cons.mpr ⟨ha, hok⟩, he⟩

/-- An action answers if its parts all do, and it fails as the first part that fails. It reports
what its parts report, each by itself, one after another and up to the one that fails. -/
structure InTurn (parts : List (Action World Unit)) (a : Action World α) (w : World) : Prop where
  answers : (∃ x, (a.run w).1 = .ok x) ↔ ∀ b ∈ parts, (b.run w).1 = .ok ()
  reports : (∃ x, (a.run w).1 = .ok x) → a.after w = w.told (parts.flatMap fun b => heard b w)
  fails : ∀ e, (a.run w).1 = .error e ↔ ∃ earlier b later, parts = earlier ++ b :: later ∧
    (∀ c ∈ earlier, (c.run w).1 = .ok ()) ∧ (b.run w).1 = .error e ∧
    a.after w = w.told ((earlier ++ [b]).flatMap fun c => heard c w)

theorem run_discard_eq_ok_iff {a : Action World α} {w w' : World} :
    ((fun _ => ()) <$> a).run w = (.ok (), w') ↔ ∃ x, a.run w = (.ok x, w') := by
  rw [run_map]
  rcases a.run w with ⟨_ | x, w''⟩ <;> simp [Except.map]

theorem run_discard_eq_error_iff {a : Action World α} {w w' : World} {e : Failure} :
    ((fun _ => ()) <$> a).run w = (.error e, w') ↔ a.run w = (.error e, w') := by
  rw [run_map]
  rcases a.run w with ⟨_ | x, w''⟩ <;> simp [Except.map]

theorem inTurn_of_discard {parts : List (Action World Unit)} {a : Action World α}
    (htell : ∀ b ∈ parts, Telling b) (h : (fun _ => ()) <$> a = parts.forM id) (w : World) :
    InTurn parts a w := by
  have hok : (∀ b ∈ parts, (b.run w).1 = .ok ()) →
      ∃ x, a.run w = (.ok x, w.told (parts.flatMap fun b => heard b w)) := by
    intro hall
    have hrun := run_forM_of_ok htell hall []
    rw [told_nil, List.nil_append, ← h] at hrun
    exact run_discard_eq_ok_iff.mp hrun
  have herror : ∀ earlier b later e, parts = earlier ++ b :: later →
      (∀ c ∈ earlier, (c.run w).1 = .ok ()) → (b.run w).1 = .error e →
      a.run w = (.error e, w.told ((earlier ++ [b]).flatMap fun c => heard c w)) := by
    rintro earlier b later e rfl hbefore he
    have hrun := run_forM_of_error htell hbefore he
    rw [← h] at hrun
    exact run_discard_eq_error_iff.mp hrun
  -- the parts decide which of the two it is
  rcases all_ok_or_first_error parts w with hall | ⟨earlier, b, later, e, hparts, hbefore, he⟩
  · obtain ⟨x, hx⟩ := hok hall
    refine ⟨iff_of_true ⟨x, by rw [hx]⟩ hall, fun _ => by rw [after, hx], fun e => ?_⟩
    refine iff_of_false (by simp [hx]) ?_
    rintro ⟨earlier, b, later, rfl, -, he, -⟩
    cases he.symm.trans (hall b (by simp))
  · have hx := herror earlier b later e hparts hbefore he
    have hno : ¬ ∃ x, (a.run w).1 = .ok x := by simp [hx]
    refine ⟨iff_of_false hno fun hall => ?_, fun hsome => absurd hsome hno, fun e' => ?_⟩
    · cases he.symm.trans (hall b (by simp [hparts]))
    · constructor
      · intro he'
        obtain rfl : e = e' := Except.error.inj (by rw [hx] at he'; exact he')
        exact ⟨earlier, b, later, hparts, hbefore, he, by rw [after, hx]⟩
      · rintro ⟨earlier', b', later', hparts', hbefore', he', -⟩
        rw [herror earlier' b' later' e' hparts' hbefore' he']

end World

open World

theorem Tier.resolve_sort {α : Type} (p : Principal) (gs : List Group) (a : Attribute)
    (r : Reader α) (fallback : α) :
    Tier.resolve p (Group.sort gs) a r fallback = Tier.resolve p gs a r fallback := by
  unfold Tier.resolve
  rw [Tier.lookup_sort]

/-! ## The lookups of a policy -/

namespace Policy

variable (s : Settings) (p : Principal) (gs : List Group)

/-- The lookups of a policy for a user of whom it is known whether the step is switched off, in
their order, each by itself and for what it reports and whether it fails. -/
def furtherLookups : List (Action World Unit) :=
  [(fun _ => ()) <$> channelFor s p gs, (fun _ => ()) <$> timeoutFor s p gs,
    (fun _ => ()) <$> lengthFor s p gs, (fun _ => ()) <$> alphabetFor s p gs]

def lookups : List (Action World Unit) :=
  ((fun _ => ()) <$> disabledFor s p gs) :: furtherLookups s p gs

/-- Whether the step is switched off, looked up where it is not known. -/
def switchFor : Option Value → Action World Value
  | some known => Pure.pure known
  | none => disabledFor s p gs

/-- Sorting the groups for all lookups makes no difference to any of them. -/
theorem resolve_eq (disabled : Option Value) : resolve s p gs disabled = do
    let disabled ← switchFor s p gs disabled
    let channel ← channelFor s p gs
    let timeout ← timeoutFor s p gs
    let length ← lengthFor s p gs
    let alphabet ← alphabetFor s p gs
    return { channel, timeout, length, alphabet, disabled } := by
  cases disabled <;>
    simp only [resolve, switchFor, disabledFor, channelFor, timeoutFor, lengthFor, alphabetFor,
      Tier.resolve_sort]

theorem discard_resolve_none :
    (fun _ => ()) <$> resolve s p gs none = (lookups s p gs).forM id := by
  rw [resolve_eq]
  simp [lookups, furtherLookups, switchFor]

theorem discard_resolve_some (known : Value) :
    (fun _ => ()) <$> resolve s p gs (some known) = (furtherLookups s p gs).forM id := by
  rw [resolve_eq]
  simp [furtherLookups, switchFor]

theorem telling_disabledFor : Telling (disabledFor s p gs) := (tells_disabledFor s p gs).telling

theorem telling_channelFor : Telling (channelFor s p gs) :=
  (Tier.tells_value p gs .method .held s.defaultMethod).telling

theorem telling_timeoutFor : Telling (timeoutFor s p gs) :=
  (Tier.tells_value p gs .timeout .positiveInt s.defaultTimeout).telling

theorem telling_lengthFor : Telling (lengthFor s p gs) :=
  (Tier.tells_value p gs .length .positiveInt s.length).telling

theorem telling_alphabetFor : Telling (alphabetFor s p gs) :=
  (Tier.tells_value p gs .alphabet .held s.alphabet).telling

theorem telling_switchFor : (disabled : Option Value) → Telling (switchFor s p gs disabled)
  | some known => telling_pure known
  | none => telling_disabledFor s p gs

theorem telling_furtherLookups : ∀ a ∈ furtherLookups s p gs, Telling a := by
  intro a ha
  simp only [furtherLookups, List.mem_cons, List.not_mem_nil, or_false] at ha
  rcases ha with rfl | rfl | rfl | rfl
  · exact (telling_channelFor s p gs).map _
  · exact (telling_timeoutFor s p gs).map _
  · exact (telling_lengthFor s p gs).map _
  · exact (telling_alphabetFor s p gs).map _

theorem telling_lookups : ∀ a ∈ lookups s p gs, Telling a :=
  List.forall_mem_cons.mpr ⟨(telling_disabledFor s p gs).map _, telling_furtherLookups s p gs⟩

/-- A policy is what its lookups answer. -/
theorem resolve_eq_ok_iff {disabled : Option Value} {w : World} {policy : Policy} :
    ((resolve s p gs disabled).run w).1 = .ok policy ↔
      ((switchFor s p gs disabled).run w).1 = .ok policy.disabled ∧
      ((channelFor s p gs).run w).1 = .ok policy.channel ∧
      ((timeoutFor s p gs).run w).1 = .ok policy.timeout ∧
      ((lengthFor s p gs).run w).1 = .ok policy.length ∧
      ((alphabetFor s p gs).run w).1 = .ok policy.alphabet := by
  have hfour := fun v c t l => (telling_alphabetFor s p gs).bind fun a =>
    telling_pure ({ channel := c, timeout := t, length := l, alphabet := a, disabled := v } : Policy)
  have hthree := fun v c t => (telling_lengthFor s p gs).bind fun l => hfour v c t l
  have htwo := fun v c => (telling_timeoutFor s p gs).bind fun t => hthree v c t
  have hone := fun v => (telling_channelFor s p gs).bind fun c => htwo v c
  rw [resolve_eq, (telling_switchFor s p gs disabled).bind_eq_ok_iff hone]
  simp only [(telling_channelFor s p gs).bind_eq_ok_iff (htwo _),
    (telling_timeoutFor s p gs).bind_eq_ok_iff (hthree _ _),
    (telling_lengthFor s p gs).bind_eq_ok_iff (hfour _ _ _),
    (telling_alphabetFor s p gs).bind_eq_ok_iff fun _ => telling_pure _, run_pure,
    Except.ok.injEq]
  constructor
  · rintro ⟨v, hv, c, hc, t, ht, l, hl, a, ha, rfl⟩
    exact ⟨hv, hc, ht, hl, ha⟩
  · rintro ⟨hv, hc, ht, hl, ha⟩
    exact ⟨_, hv, _, hc, _, ht, _, hl, _, ha, rfl⟩

/-- With the step known to be switched off or on, what anybody says about that is not read. -/
theorem resolve_eq_of_texts {s : Settings} {p q : Principal} {gs hs : List Group}
    (hid : q.identifier = p.identifier)
    (htext : ∀ a, a ≠ .disabled → Attributes.text? q.attributes a = Attributes.text? p.attributes a)
    (htexts : ∀ a, a ≠ .disabled → Group.texts a hs = Group.texts a gs) (v known : Value) :
    resolve { s with disabled := v } q hs (some known) = resolve s p gs (some known) := by
  have hsame : ∀ a, a ≠ .disabled → ∀ {α : Type} (r : Reader α) (fallback : α),
      Tier.resolve q hs a r fallback = Tier.resolve p gs a r fallback :=
    fun a ha _ r fallback => Tier.resolve_eq_of_texts hid (htext a ha) (htexts a ha) r fallback
  rw [resolve_eq, resolve_eq]
  simp only [switchFor, channelFor, timeoutFor, lengthFor, alphabetFor,
    hsame .method (by decide), hsame .timeout (by decide), hsame .length (by decide),
    hsame .alphabet (by decide)]

/-- A policy looked up as a whole is what the five lookups answer on the groups as they are
listed, and it is reported as they are; where one of them fails, so does the whole, with the
first failure. With the step known to be switched off or on, the other four make up the policy in
the same way, what is known is passed on, and what anybody says about that is not read. -/
theorem lookups_make_policy (s : Settings) (p : Principal) (gs : List Group) (w : World) :
    InTurn (lookups s p gs) (resolve s p gs none) w ∧
    (∀ policy, ((resolve s p gs none).run w).1 = .ok policy ↔
      ((disabledFor s p gs).run w).1 = .ok policy.disabled ∧
      ((channelFor s p gs).run w).1 = .ok policy.channel ∧
      ((timeoutFor s p gs).run w).1 = .ok policy.timeout ∧
      ((lengthFor s p gs).run w).1 = .ok policy.length ∧
      ((alphabetFor s p gs).run w).1 = .ok policy.alphabet) ∧
    (∀ b, InTurn (furtherLookups s p gs) (resolve s p gs (some (.bool b))) w) ∧
    (∀ b policy, ((resolve s p gs (some (.bool b))).run w).1 = .ok policy ↔
      policy.disabled = .bool b ∧
      ((channelFor s p gs).run w).1 = .ok policy.channel ∧
      ((timeoutFor s p gs).run w).1 = .ok policy.timeout ∧
      ((lengthFor s p gs).run w).1 = .ok policy.length ∧
      ((alphabetFor s p gs).run w).1 = .ok policy.alphabet) ∧
    ∀ b v q hs, q.identifier = p.identifier →
      (∀ a, a ≠ .disabled → Attributes.text? q.attributes a = Attributes.text? p.attributes a) →
      (∀ a, a ≠ .disabled → Group.texts a hs = Group.texts a gs) →
      resolve { s with disabled := v } q hs (some (.bool b)) = resolve s p gs (some (.bool b)) := by
  refine ⟨?_, fun policy => ?_, fun b => ?_, fun b policy => ?_, ?_⟩
  · exact inTurn_of_discard (telling_lookups s p gs) (discard_resolve_none s p gs) w
  · exact resolve_eq_ok_iff s p gs
  · exact inTurn_of_discard (telling_furtherLookups s p gs) (discard_resolve_some s p gs _) w
  · rw [resolve_eq_ok_iff, switchFor, run_pure, Except.ok.injEq, eq_comm]
  · intro b v q hs hid htext htexts
    exact resolve_eq_of_texts hid htext htexts v (.bool b)

/-- The first of two groups of one identifier has a malformed value for the switch, which the
whole lookup fails for. Where the switch is known, the policy is made up without it, in the same
way as if nobody said anything about it. -/
theorem malformed_switch_unread :
    ∃ (s : Settings) (p : Principal) (gs hs : List Group) (w : World), s = .usual ∧
      p = { identifier := "ada" } ∧ w = { now := ⟨0, by decide⟩ } ∧
      gs = [⟨"ops", some (.ofList [("otp-method", some "sms"), ("otp-disabled", some "true")])⟩,
        ⟨"admins", some (.ofList [("otp-disabled", some "maybe"), ("otp-length", some "8")])⟩,
        ⟨"admins", some (.ofList [("otp-length", some "none"), ("otp-timeout", some "60")])⟩] ∧
      hs = [⟨"ops", some (.ofList [("otp-method", some "sms")])⟩,
        ⟨"admins", some (.ofList [("otp-length", some "8")])⟩,
        ⟨"admins", some (.ofList [("otp-length", some "none"), ("otp-timeout", some "60")])⟩] ∧
      ((disabledFor s p gs).run w).1 = .error (.refused (.configuration "otp-disabled" "maybe"
        "group:admins" "expected 'true' or 'false'")) ∧
      ((resolve s p gs none).run w).1 = .error (.refused (.configuration "otp-disabled" "maybe"
        "group:admins" "expected 'true' or 'false'")) ∧
      ((resolve s p gs (some (.bool true))).run w).1 =
        .ok ⟨.own .sms, 60, 8, .own .numeric, .bool true⟩ ∧
      (∀ a, a ≠ .disabled → Group.texts a hs = Group.texts a gs) ∧
      resolve s p hs (some (.bool true)) = resolve s p gs (some (.bool true)) := by
  refine ⟨_, _, _, _, { now := ⟨0, by decide⟩ }, rfl, rfl, rfl, rfl, rfl, rfl, ?hfault, ?hpolicy,
    ?htexts, (lookups_make_policy .usual _ _ { now := ⟨0, by decide⟩ }).2.2.2.2 true (.bool false)
      _ _ rfl (fun _ _ => rfl) ?htexts⟩
  case hfault =>
    exact ((lookups_make_policy _ _ _ _).1.fails _).mpr ⟨[], _, _, rfl, nofun, rfl, rfl⟩
  case hpolicy =>
    exact ((lookups_make_policy _ _ _ _).2.2.2.1 true _).mpr ⟨rfl, rfl, rfl, rfl, rfl⟩
  case htexts =>
    intro a ha
    cases a with
    | disabled => exact absurd rfl ha
    | _ => decide +kernel

end Policy

end Passcode
