import Passcode.Proofs.Plans
import Passcode.Proofs.Precedence

/-!
# Whose value holds

What the lookup of an attribute comes to, said of the directory and the user alone. A text
wins if it is the user's own and not blank; else it is that of the group with the least
identifier among the user's groups that have one (`Tier.Wins`). It is then read, and only
where no text wins does the default hold (`Tier.Yields`).

A winning text that cannot be read is a fault of its attribute (`Faulty`). A policy is settled
unless one of its attributes is at fault, and the first of those in order is the one that is
named (`FirstFault`, `Policy.settled_eq_error_iff`).
-/

namespace Passcode

theorem Attributes.Gives.exists_eq_some {m : Option Attributes} {a : Attribute} {raw : String}
    (h : Gives m a raw) : ∃ m', m = some m' := by
  cases m with
  | none => cases h.1
  | some m' => exact ⟨m', rfl⟩

/-! ## The groups that are asked -/

theorem eraseDups_concat (texts : List String) (s : String) : (texts ++ [s]).eraseDups =
    if s ∈ texts then texts.eraseDups else texts.eraseDups ++ [s] := by
  have hone : [s].eraseDups = [s] := by simp [List.eraseDups_cons]
  rw [List.eraseDups_append]
  by_cases hs : s ∈ texts <;> simp [List.removeAll, hs, hone]

theorem nodup_eraseDups (texts : List String) : texts.eraseDups.Nodup := by
  induction texts using List.reverseRecOn with
  | nil => exact List.nodup_nil
  | append_singleton texts s ih =>
      rw [eraseDups_concat]
      split
      · exact ih
      · next hs =>
        refine ih.append (List.nodup_singleton s) fun t ht hts => hs ?_
        exact List.mem_singleton.mp hts ▸ List.mem_eraseDups.mp ht

namespace Directory

variable {d : Directory} {p : Principal}

theorem mem_groupsOf_iff {g : Group} : g ∈ d.groupsOf p ↔
    ∃ i m, i ∈ p.groups ∧ d.attributes? i = some m ∧ g = ⟨i, some m⟩ := by
  rw [groupsOf, (Group.sort_perm _).mem_iff, List.mem_filterMap]
  constructor
  · rintro ⟨i, hi, hg⟩
    obtain ⟨m, hm, rfl⟩ := Option.map_eq_some_iff.mp hg
    exact ⟨i, m, List.mem_eraseDups.mp hi, hm, rfl⟩
  · rintro ⟨i, m, hi, hm, rfl⟩
    exact ⟨i, List.mem_eraseDups.mpr hi, by rw [hm, Option.map_some]⟩

theorem pairwise_groupsOf (d : Directory) (p : Principal) :
    (d.groupsOf p).Pairwise (·.identifier ≤ ·.identifier) :=
  Group.pairwise_sort _

end Directory

/-! ## The text that wins -/

namespace Tier

/-- A text wins for an attribute of a user. -/
inductive Wins (d : Directory) (p : Principal) (a : Attribute) : Tier → String → Prop
  | user {raw} (h : Attributes.Gives p.attributes a raw) : Wins d p a (.user p.identifier) raw
  | group {i raw} (huser : ∀ raw', ¬ Attributes.Gives p.attributes a raw') (hi : i ∈ p.groups)
      (h : Attributes.Gives (d.attributes? i) a raw)
      (hleast : ∀ j ∈ p.groups, ∀ raw', Attributes.Gives (d.attributes? j) a raw' → i ≤ j) :
      Wins d p a (.group i) raw

variable {d : Directory} {p : Principal} {a : Attribute} {tier : Tier} {raw : String}

/-- What prevails among the groups that a directory makes of a user wins. -/
theorem wins_of_prevails (h : Prevails p (d.groupsOf p) a tier (some raw)) :
    Wins d p a tier raw := by
  cases h with
  | user h => exact .user h
  | group huser hforemost h =>
      obtain ⟨i, m, hi, hm, rfl⟩ := Directory.mem_groupsOf_iff.mp hforemost.mem
      refine .group huser hi (hm ▸ h) fun j hj raw' hgives => ?_
      obtain ⟨m', hm'⟩ := hgives.exists_eq_some
      have hmem := Directory.mem_groupsOf_iff.mpr ⟨j, m', hj, hm', rfl⟩
      exact hforemost.le hmem ⟨raw', hm' ▸ hgives⟩

theorem Wins.unique {tier' : Tier} {raw' : String} (h : Wins d p a tier raw)
    (h' : Wins d p a tier' raw') : tier = tier' ∧ raw = raw' := by
  cases h with
  | user h =>
      cases h' with
      | user h' => exact ⟨rfl, h.unique h'⟩
      | group huser => exact absurd h (huser _)
  | group huser hi h hleast =>
      cases h' with
      | user h' => exact absurd h' (huser _)
      | group _ hj h' hleast' =>
          obtain rfl := String.le_antisymm (hleast _ hj _ h') (hleast' _ hi _ h)
          exact ⟨rfl, h.unique h'⟩

theorem winner?_eq_some_iff : winner? p (d.groupsOf p) a = some (tier, raw) ↔
    Wins d p a tier raw := by
  rw [winner?_eq_some_iff_prevails]
  refine ⟨wins_of_prevails, fun h => ?_⟩
  -- something prevails, it wins, and only one text can
  obtain ⟨tier', taken, hprevails⟩ := exists_prevails p (d.groupsOf p) a
  cases taken with
  | some raw' =>
      obtain ⟨rfl, rfl⟩ := h.unique (wins_of_prevails hprevails)
      exact hprevails
  | none =>
      obtain _ | _ | ⟨huser, hgroups⟩ := hprevails
      cases h with
      | user h => exact absurd h (huser _)
      | group _ hi h _ =>
          obtain ⟨m, hm⟩ := h.exists_eq_some
          have hmem := Directory.mem_groupsOf_iff.mpr ⟨_, m, hi, hm, rfl⟩
          exact absurd ⟨_, hm ▸ h⟩ (hgroups _ hmem)

theorem winner?_eq_none_iff : winner? p (d.groupsOf p) a = none ↔
    ∀ tier raw, ¬ Wins d p a tier raw := by
  rw [Option.eq_none_iff_forall_ne_some]
  constructor
  · exact fun h tier raw hwins => h _ (winner?_eq_some_iff.mpr hwins)
  · exact fun h x hx => h _ _ (winner?_eq_some_iff.mp hx)

/-! ## What an attribute comes to -/

variable {α : Type} {r : Reader α} {fallback x : α}

/-- What an attribute comes to for a user: what the winning text says, or the default where
there is no such text. -/
inductive Yields (d : Directory) (p : Principal) (a : Attribute) (r : Reader α) (fallback : α) :
    α → Prop
  | read {tier raw y} (hwins : Wins d p a tier raw) (hread : r raw = .ok y) :
      Yields d p a r fallback y
  | fallback (hnone : ∀ tier raw, ¬ Wins d p a tier raw) : Yields d p a r fallback fallback

theorem value_of_wins (h : Wins d p a tier raw) : value p (d.groupsOf p) a r fallback =
    r.read a.key tier.text raw := by
  rw [value, lookup, winner?_eq_some_iff.mpr h]
  dsimp only
  cases r.read a.key tier.text raw <;> rfl

theorem value_of_nobody (h : ∀ tier raw, ¬ Wins d p a tier raw) :
    value p (d.groupsOf p) a r fallback = .ok fallback := by
  rw [value, lookup, winner?_eq_none_iff.mpr h]
  rfl

theorem value_eq_ok_iff :
    value p (d.groupsOf p) a r fallback = .ok x ↔ Yields d p a r fallback x := by
  by_cases hwinner : ∃ tier raw, Wins d p a tier raw
  · obtain ⟨tier, raw, hwins⟩ := hwinner
    rw [value_of_wins hwins, Reader.read_eq_ok_iff]
    constructor
    · exact .read hwins
    · intro h
      cases h with
      | read hwins' hread =>
          obtain ⟨rfl, rfl⟩ := hwins.unique hwins'
          exact hread
      | fallback hnone => exact absurd hwins (hnone _ _)
  · have hnobody : ∀ tier raw, ¬ Wins d p a tier raw := fun tier raw h => hwinner ⟨tier, raw, h⟩
    rw [value_of_nobody hnobody, Except.ok.injEq]
    constructor
    · rintro rfl
      exact .fallback hnobody
    · intro h
      cases h with
      | read hwins => exact absurd hwins (hnobody _ _)
      | fallback => rfl

theorem value_eq_error_iff {e : Failure} : value p (d.groupsOf p) a r fallback = .error e ↔
    ∃ tier raw c, Wins d p a tier raw ∧ r raw = .error c ∧
      e = .refused (.configuration a.key raw tier.text c.text) := by
  by_cases hwinner : ∃ tier raw, Wins d p a tier raw
  · obtain ⟨tier, raw, hwins⟩ := hwinner
    rw [value_of_wins hwins, Reader.read_eq_error_iff]
    constructor
    · rintro ⟨c, hread, rfl⟩
      exact ⟨tier, raw, c, hwins, hread, rfl⟩
    · rintro ⟨tier', raw', c, hwins', hread, rfl⟩
      obtain ⟨rfl, rfl⟩ := hwins.unique hwins'
      exact ⟨c, hread, rfl⟩
  · have hnobody : ∀ tier raw, ¬ Wins d p a tier raw := fun tier raw h => hwinner ⟨tier, raw, h⟩
    rw [value_of_nobody hnobody]
    refine iff_of_false nofun ?_
    rintro ⟨tier, raw, c, hwins, -⟩
    exact hnobody tier raw hwins

end Tier

/-! ## Faults -/

def Reader.complaint? {α : Type} (r : Reader α) (raw : String) : Option Complaint :=
  match r raw with
  | .ok _ => none
  | .error c => some c

/-- What is wrong with a text as the value of an attribute of policies. -/
def Attribute.complaint? : Attribute → String → Option Complaint
  | disabled => Reader.boolean.complaint?
  | method => (Reader.choice : Reader Channel).complaint?
  | timeout | length => Reader.positiveInt.complaint?
  | alphabet => (Reader.choice : Reader Alphabet).complaint?
  | email | alternateEmail | phone => fun _ => none

/-- The text that wins for an attribute is malformed, and the cause says so: it names the
attribute, the text as it was given, and who supplied it. -/
def Faulty (d : Directory) (p : Principal) (a : Attribute) (cause : Refusal) : Prop :=
  ∃ tier raw c, Tier.Wins d p a tier raw ∧ a.complaint? raw = some c ∧
    cause = .configuration a.key raw tier.text c.text

/-- The cause names the first of some attributes whose winning text is malformed. -/
inductive FirstFault (d : Directory) (p : Principal) : List Attribute → Refusal → Prop
  | here {a rest cause} (h : Faulty d p a cause) : FirstFault d p (a :: rest) cause
  | later {a rest cause} (hsound : ∀ c, ¬ Faulty d p a c) (h : FirstFault d p rest cause) :
      FirstFault d p (a :: rest) cause

theorem Reader.complaint?_eq_some_iff {α : Type} {r : Reader α} {raw : String} {c : Complaint} :
    r.complaint? raw = some c ↔ r raw = .error c := by
  unfold complaint?
  cases r raw <;> simp

theorem Reader.complaint?_map {α β : Type} (r : Reader α) (f : α → β) :
    Reader.complaint? (fun raw => (r raw).map f) = r.complaint? := by
  funext raw
  unfold complaint?
  dsimp only
  cases r raw <;> rfl

theorem Reader.complaint?_held {α : Type} [Vocabulary α] :
    (held : Reader (Held α)).complaint? = (choice : Reader α).complaint? :=
  complaint?_map _ _

namespace Tier

variable {d : Directory} {p : Principal} {a : Attribute} {α : Type} {r : Reader α} {fallback : α}

theorem value_eq_error_iff_faulty (hr : a.complaint? = r.complaint?) (e : Failure) :
    value p (d.groupsOf p) a r fallback = .error e ↔
      ∃ cause, e = .refused cause ∧ Faulty d p a cause := by
  rw [value_eq_error_iff]
  constructor
  · rintro ⟨tier, raw, c, hwins, hread, rfl⟩
    refine ⟨_, rfl, tier, raw, c, hwins, ?_, rfl⟩
    rw [hr]
    exact Reader.complaint?_eq_some_iff.mpr hread
  · rintro ⟨cause, rfl, tier, raw, c, hwins, hcomplaint, rfl⟩
    rw [hr] at hcomplaint
    exact ⟨tier, raw, c, hwins, Reader.complaint?_eq_some_iff.mp hcomplaint, rfl⟩

end Tier

namespace Policy

variable {s : Settings} {d : Directory} {p : Principal}

/-- The value that says whether the step is off is this one. -/
def Switched (s : Settings) (d : Directory) (p : Principal) (v : Value) : Prop :=
  Tier.Yields d p .disabled (fun raw => (Reader.boolean raw).map .bool) s.disabled v

/-- The attributes that settle a policy, in the order in which they are read. -/
def settling : List Attribute := [.method, .timeout, .length, .alphabet]

/-- The policy is the one that the attributes of a user come to. -/
structure Governs (s : Settings) (d : Directory) (p : Principal) (policy : Policy) : Prop where
  channel : Tier.Yields d p .method .held s.defaultMethod policy.channel
  timeout : Tier.Yields d p .timeout .positiveInt s.defaultTimeout policy.timeout
  length : Tier.Yields d p .length .positiveInt s.length policy.length
  alphabet : Tier.Yields d p .alphabet .held s.alphabet policy.alphabet
  disabled : policy.disabled = .bool false

theorem switch_eq_ok_iff {v : Value} : switch s p (d.groupsOf p) = .ok v ↔ Switched s d p v :=
  Tier.value_eq_ok_iff

theorem switch_eq_error_iff {e : Failure} : switch s p (d.groupsOf p) = .error e ↔
    ∃ cause, e = .refused cause ∧ Faulty d p .disabled cause := by
  refine Tier.value_eq_error_iff_faulty ?_ e
  rw [Reader.complaint?_map]
  rfl

/-- One value looked up before others is the first fault or leaves it to the others. -/
theorem bind_eq_error_iff_firstFault {α β : Type} {x : Except Failure α}
    {f : α → Except Failure β} {a : Attribute} {rest : List Attribute} {e : Failure}
    (hx : ∀ e, x = .error e ↔ ∃ cause, e = .refused cause ∧ Faulty d p a cause)
    (hf : ∀ y, f y = .error e ↔ ∃ cause, e = .refused cause ∧ FirstFault d p rest cause) :
    (x >>= f) = .error e ↔ ∃ cause, e = .refused cause ∧ FirstFault d p (a :: rest) cause := by
  cases x with
  | error e' =>
      obtain ⟨found, rfl, hfound⟩ := (hx e').mp rfl
      constructor
      · intro h
        obtain rfl := Except.error.inj h
        exact ⟨found, rfl, .here hfound⟩
      · rintro ⟨cause, rfl, h⟩
        cases h with
        | here h => exact congrArg (· >>= f) ((hx _).mpr ⟨cause, rfl, h⟩)
        | later hsound => exact absurd hfound (hsound found)
  | ok y =>
      have hsound : ∀ cause, ¬ Faulty d p a cause := fun cause h =>
        nomatch (hx (.refused cause)).mpr ⟨cause, rfl, h⟩
      refine (hf y).trans ⟨?_, ?_⟩
      · rintro ⟨cause, rfl, h⟩
        exact ⟨cause, rfl, .later hsound h⟩
      · rintro ⟨cause, rfl, h⟩
        cases h with
        | here h => exact absurd h (hsound cause)
        | later _ h => exact ⟨cause, rfl, h⟩

/-- A policy cannot be settled if and only if one of its attributes is at fault, and the
first one that is gives the cause. -/
theorem settled_eq_error_iff {e : Failure} : settled s p (d.groupsOf p) = .error e ↔
    ∃ cause, e = .refused cause ∧ FirstFault d p settling cause := by
  have hmethod : Attribute.method.complaint? =
      (Reader.held : Reader (Held Channel)).complaint? := by
    rw [Reader.complaint?_held, Attribute.complaint?]
  have halphabet : Attribute.alphabet.complaint? =
      (Reader.held : Reader (Held Alphabet)).complaint? := by
    rw [Reader.complaint?_held, Attribute.complaint?]
  unfold settled settling
  refine bind_eq_error_iff_firstFault (Tier.value_eq_error_iff_faulty hmethod) fun channel => ?_
  refine bind_eq_error_iff_firstFault (Tier.value_eq_error_iff_faulty rfl) fun timeout => ?_
  refine bind_eq_error_iff_firstFault (Tier.value_eq_error_iff_faulty rfl) fun length => ?_
  refine bind_eq_error_iff_firstFault (Tier.value_eq_error_iff_faulty halphabet) fun alphabet => ?_
  refine iff_of_false nofun ?_
  rintro ⟨cause, -, h⟩
  cases h

theorem settled_eq_ok_iff {policy : Policy} :
    settled s p (d.groupsOf p) = .ok policy ↔ Governs s d p policy := by
  unfold settled
  constructor
  · intro h
    obtain ⟨channel, hc, h⟩ := ok_of_bind h
    obtain ⟨timeout, ht, h⟩ := ok_of_bind h
    obtain ⟨length, hl, h⟩ := ok_of_bind h
    obtain ⟨alphabet, ha, h⟩ := ok_of_bind h
    obtain rfl := Except.ok.inj h
    exact ⟨Tier.value_eq_ok_iff.mp hc, Tier.value_eq_ok_iff.mp ht, Tier.value_eq_ok_iff.mp hl,
      Tier.value_eq_ok_iff.mp ha, rfl⟩
  · rintro ⟨hc, ht, hl, ha, hd⟩
    rw [Tier.value_eq_ok_iff.mpr hc, Tier.value_eq_ok_iff.mpr ht, Tier.value_eq_ok_iff.mpr hl,
      Tier.value_eq_ok_iff.mpr ha]
    cases policy
    obtain rfl := hd
    rfl

end Policy

theorem Gate.enforces_iff_switched {κ ω : Type} {g : Gate κ ω} {p : Principal} : g.Enforces p ↔
    ∃ v, Policy.Switched g.settings g.directory p v ∧ v.isTrue = false := by
  rw [enforces_iff]
  exact exists_congr fun v => and_congr_left fun _ => Policy.switch_eq_ok_iff

end Passcode
