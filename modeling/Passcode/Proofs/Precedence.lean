import Passcode.Proofs.Policies

/-!
# Whose text is taken

The lookup of an attribute sorts the groups and takes the first text that is not blank. What it
comes to is said here without sorting and without scanning, for groups in any order and with
identifiers that may repeat. A text is taken from the user, else from the foremost of the groups
that have one, which is the one with the least identifier and the earliest of those; else none is
taken and the default stands (`Tier.Prevails`). There is one such text (`Tier.Prevails.unique`,
`Tier.exists_prevails`), and it alone decides what the lookup answers and reports.

The sort is stable: the groups of one identifier keep their order (`Group.filter_sort`).
-/

namespace Passcode

open Passcode.Action World

/-- A map of attributes has a text for an attribute, and it is not blank. -/
def Attributes.Gives (m : Option Attributes) (a : Attribute) (raw : String) : Prop :=
  Attributes.text? m a = some raw ∧ Text.isBlank raw = false

theorem Attributes.Gives.unique {m : Option Attributes} {a : Attribute} {raw raw' : String}
    (h : Gives m a raw) (h' : Gives m a raw') : raw = raw' :=
  Option.some.inj (h.1.symm.trans h'.1)

theorem Attributes.Gives.of_text {m m' : Option Attributes} {a : Attribute} {raw : String}
    (htext : Attributes.text? m' a = Attributes.text? m a) (h : Gives m a raw) : Gives m' a raw :=
  ⟨htext.trans h.1, h.2⟩

/-! ## The foremost of some groups -/

namespace Group

theorem filter_insert (g : Group) (gs : List Group) (i : String) :
    (insert g gs).filter (·.identifier = i) = (g :: gs).filter (·.identifier = i) := by
  induction gs with
  | nil => rfl
  | cons h rest ih =>
      rw [insert]
      split
      · rfl
      · next hgt =>
        -- `g` goes behind `h`, which has another identifier, so at most one of them is kept
        have hne : g.identifier ≠ h.identifier := fun heq => hgt (heq ▸ String.le_refl _)
        rw [List.filter_cons, ih]
        by_cases hh : h.identifier = i
        · have hg : g.identifier ≠ i := fun hg => hne (hg.trans hh.symm)
          simp [hh, hg]
        · simp [List.filter_cons, hh]

/-- Groups of one identifier keep their order. -/
theorem filter_sort (gs : List Group) (i : String) :
    (sort gs).filter (·.identifier = i) = gs.filter (·.identifier = i) := by
  induction gs with
  | nil => rfl
  | cons g rest ih =>
      have hcons : sort (g :: rest) = insert g (sort rest) := rfl
      rw [hcons, filter_insert, List.filter_cons, List.filter_cons, ih]

/-- Among the groups of a list that have something to offer, the one that goes first: no other
has a lesser identifier, and none before it in the list has the same. -/
def Foremost (P : Group → Prop) (gs : List Group) (g : Group) : Prop :=
  ∃ earlier later, gs = earlier ++ g :: later ∧ P g ∧
    (∀ x ∈ earlier, P x → g.identifier < x.identifier) ∧
    ∀ x ∈ later, P x → g.identifier ≤ x.identifier

variable {P : Group → Prop} {gs : List Group} {g h : Group}

theorem Foremost.mem (hg : Foremost P gs g) : g ∈ gs := by
  obtain ⟨earlier, later, rfl, -⟩ := hg
  exact List.mem_append_right earlier List.mem_cons_self

theorem Foremost.holds (hg : Foremost P gs g) : P g := by
  obtain ⟨_, _, -, hP, -⟩ := hg
  exact hP

theorem Foremost.le (hg : Foremost P gs g) (hh : h ∈ gs) (hP : P h) :
    g.identifier ≤ h.identifier := by
  obtain ⟨earlier, later, rfl, -, hearlier, hlater⟩ := hg
  rcases List.mem_append.mp hh with hh | hh
  · exact Std.le_of_lt (hearlier h hh hP)
  · rcases List.mem_cons.mp hh with rfl | hh
    · exact String.le_refl _
    · exact hlater h hh hP

theorem Foremost.unique (hg : Foremost P gs g) (hh : Foremost P gs h) : g = h := by
  have hid : g.identifier = h.identifier :=
    String.le_antisymm (hg.le hh.mem hh.holds) (hh.le hg.mem hg.holds)
  obtain ⟨earlier, later, rfl, hP, hearlier, -⟩ := hg
  obtain ⟨earlier', later', hsplit, hP', hearlier', -⟩ := hh
  -- the one that stands later would have an earlier one of its identifier before it
  rcases List.append_eq_append_iff.mp hsplit with ⟨between, rfl, hrest⟩ | ⟨between, rfl, hrest⟩
  · cases between with
    | nil => exact (List.cons.inj hrest).1
    | cons x rest =>
        obtain ⟨rfl, -⟩ := List.cons.inj hrest
        have hlt := hearlier' g (by simp) hP
        exact absurd (hid ▸ hlt) (String.lt_irrefl _)
  · cases between with
    | nil => exact (List.cons.inj hrest).1.symm
    | cons x rest =>
        obtain ⟨rfl, -⟩ := List.cons.inj hrest
        have hlt := hearlier h (by simp) hP'
        exact absurd (hid ▸ hlt) (String.lt_irrefl _)

/-- A group that stands at a place in the sorted list stands in the list itself behind groups
that have other identifiers or precede it in the sorted list too. -/
theorem exists_of_sort_eq {before after : List Group} (hsort : sort gs = before ++ g :: after) :
    ∃ earlier later, gs = earlier ++ g :: later ∧
      (∀ x ∈ earlier, g.identifier = x.identifier → x ∈ before) ∧
      ∀ x ∈ gs, x ∈ before ∨ g.identifier ≤ x.identifier := by
  have hle : ∀ x ∈ gs, x ∈ before ∨ g.identifier ≤ x.identifier := by
    intro x hx
    have hx := (sort_perm gs).mem_iff.mpr hx
    have hordered := pairwise_sort gs
    rw [hsort] at hx hordered
    rcases List.mem_append.mp hx with hx | hx
    · exact .inl hx
    · rcases List.mem_cons.mp hx with rfl | hx
      · exact .inr (String.le_refl _)
      · have hafter := (List.pairwise_append.mp hordered).2.1
        exact .inr ((List.pairwise_cons.mp hafter).1 x hx)
  -- the groups of its identifier stand in the list as they do when sorted
  have hsame := filter_sort gs g.identifier
  rw [hsort, List.filter_append, List.filter_cons_of_pos (by simp)] at hsame
  obtain ⟨earlier, rest, rfl, hearlier, hrest⟩ := List.filter_eq_append_iff.mp hsame.symm
  obtain ⟨skipped, later, rfl, hskipped, -, -⟩ := List.filter_eq_cons_iff.mp hrest
  refine ⟨earlier ++ skipped, later, by simp, fun x hx heq => ?_, hle⟩
  rcases List.mem_append.mp hx with hx | hx
  · have hbefore : x ∈ before.filter (·.identifier = g.identifier) :=
      hearlier ▸ List.mem_filter.mpr ⟨hx, by simp [heq]⟩
    exact (List.mem_filter.mp hbefore).1
  · exact absurd (by simp [heq]) (hskipped x hx)

/-- What is found first in the sorted groups is found at the foremost of those that have
something to find. -/
theorem foremost_of_findSome?_sort {β : Type} {f : Group → Option β} {b : β}
    (h : (sort gs).findSome? f = some b) :
    ∃ g, Foremost (fun x => ∃ c, f x = some c) gs g ∧ f g = some b := by
  obtain ⟨before, g, after, hsort, hg, hbefore⟩ := List.findSome?_eq_some_iff.mp h
  have hnone : ∀ x c, f x = some c → x ∉ before := fun x c hx hmem =>
    nomatch hx.symm.trans (hbefore x hmem)
  obtain ⟨earlier, later, rfl, hearlier, hle⟩ := exists_of_sort_eq hsort
  refine ⟨g, ⟨earlier, later, rfl, ⟨b, hg⟩, ?_, ?_⟩, hg⟩
  · rintro x hx ⟨c, hc⟩
    have hx' : x ∈ earlier ++ g :: later := List.mem_append_left _ hx
    refine Std.lt_of_le_of_ne ((hle x hx').resolve_left (hnone x c hc)) fun heq => ?_
    exact hnone x c hc (hearlier x hx heq)
  · rintro x hx ⟨c, hc⟩
    have hx' : x ∈ earlier ++ g :: later :=
      List.mem_append_right _ (List.mem_cons_of_mem g hx)
    exact (hle x hx').resolve_left (hnone x c hc)

/-- A group has a text for an attribute. -/
def Offers (a : Attribute) (g : Group) : Prop := ∃ raw, Attributes.Gives g.attributes a raw

/-- What groups say of an attribute, in the order in which they are listed. -/
def texts (a : Attribute) (gs : List Group) : List (String × Option String) :=
  gs.map fun g => (g.identifier, Attributes.text? g.attributes a)

theorem exists_mem_of_texts {a : Attribute} {hs : List Group} (htexts : texts a hs = texts a gs)
    (hh : h ∈ hs) : ∃ g ∈ gs, g.identifier = h.identifier ∧
      Attributes.text? g.attributes a = Attributes.text? h.attributes a := by
  have hmem : (h.identifier, Attributes.text? h.attributes a) ∈ texts a gs :=
    htexts ▸ List.mem_map_of_mem hh
  obtain ⟨g, hg, hpair⟩ := List.mem_map.mp hmem
  obtain ⟨hid, htext⟩ := Prod.mk.inj hpair
  exact ⟨g, hg, hid, htext⟩

theorem Foremost.of_texts {a : Attribute} {hs : List Group} (htexts : texts a hs = texts a gs)
    (hg : Foremost (Offers a) gs g) : ∃ g', Foremost (Offers a) hs g' ∧
      g'.identifier = g.identifier ∧
      Attributes.text? g'.attributes a = Attributes.text? g.attributes a := by
  obtain ⟨earlier, later, rfl, ⟨raw, hraw⟩, hearlier, hlater⟩ := hg
  rw [texts, texts, List.map_append, List.map_cons] at htexts
  obtain ⟨earlier', rest, rfl, hbefore, hrest⟩ := List.map_eq_append_iff.mp htexts
  obtain ⟨g', later', rfl, hpair, hafter⟩ := List.map_eq_cons_iff.mp hrest
  obtain ⟨hid, htext⟩ := Prod.mk.inj hpair
  refine ⟨g', ⟨earlier', later', rfl, ⟨raw, hraw.of_text htext⟩, ?_, ?_⟩, hid, htext⟩
  · rintro x hx ⟨raw', hraw'⟩
    obtain ⟨y, hy, hyid, hytext⟩ := exists_mem_of_texts hbefore hx
    rw [hid, ← hyid]
    exact hearlier y hy ⟨raw', hraw'.of_text hytext⟩
  · rintro x hx ⟨raw', hraw'⟩
    obtain ⟨y, hy, hyid, hytext⟩ := exists_mem_of_texts hafter hx
    rw [hid, ← hyid]
    exact hlater y hy ⟨raw', hraw'.of_text hytext⟩

end Group

/-! ## The text that is taken -/

namespace Tier

/-- What is taken for an attribute of a user, and from whom: the text of the user, else that of
the foremost group that has one, else nothing, so that the default stands. -/
inductive Prevails (p : Principal) (gs : List Group) (a : Attribute) : Tier → Option String → Prop
  | user {raw} (h : Attributes.Gives p.attributes a raw) :
      Prevails p gs a (.user p.identifier) (some raw)
  | group {g : Group} {raw} (huser : ∀ raw', ¬ Attributes.Gives p.attributes a raw')
      (hforemost : Group.Foremost (Group.Offers a) gs g)
      (h : Attributes.Gives g.attributes a raw) : Prevails p gs a (.group g.identifier) (some raw)
  | default (huser : ∀ raw', ¬ Attributes.Gives p.attributes a raw')
      (hgroups : ∀ g ∈ gs, ¬ g.Offers a) :
      Prevails p gs a .default none

variable {p q : Principal} {gs hs : List Group} {a : Attribute} {tier tier' : Tier}
  {raw : String} {taken taken' : Option String}

theorem defined_eq_some_iff {m : Option Attributes} :
    defined (Attributes.text? m a) = some raw ↔ Attributes.Gives m a raw := by
  rw [defined, Option.filter_eq_some_iff, Attributes.Gives, Bool.not_eq_true']

theorem defined_eq_none_iff {m : Option Attributes} :
    defined (Attributes.text? m a) = none ↔ ∀ raw, ¬ Attributes.Gives m a raw := by
  simp only [Option.eq_none_iff_forall_ne_some, ne_eq, defined_eq_some_iff]

/-- What a group offers for an attribute, as the lookup sees it. -/
def offer? (a : Attribute) (g : Group) : Option (Tier × String) :=
  (defined (Attributes.text? g.attributes a)).map fun raw => (.group g.identifier, raw)

theorem offer?_eq_some_iff {g : Group} : offer? a g = some (tier, raw) ↔
    Attributes.Gives g.attributes a raw ∧ tier = .group g.identifier := by
  rw [offer?, Option.map_eq_some_iff]
  constructor
  · rintro ⟨raw', h, heq⟩
    cases heq
    exact ⟨defined_eq_some_iff.mp h, rfl⟩
  · rintro ⟨h, rfl⟩
    exact ⟨raw, defined_eq_some_iff.mpr h, rfl⟩

theorem exists_offer?_iff {g : Group} : (∃ b, offer? a g = some b) ↔ g.Offers a := by
  constructor
  · rintro ⟨⟨tier, raw⟩, h⟩
    exact ⟨raw, (offer?_eq_some_iff.mp h).1⟩
  · rintro ⟨raw, h⟩
    exact ⟨_, offer?_eq_some_iff.mpr ⟨h, rfl⟩⟩

theorem Prevails.unique (h : Prevails p gs a tier taken) (h' : Prevails p gs a tier' taken') :
    tier' = tier ∧ taken' = taken := by
  cases h with
  | user h =>
      cases h' with
      | user h' => exact ⟨rfl, congrArg some (h'.unique h)⟩
      | group huser => exact absurd h (huser _)
      | default huser => exact absurd h (huser _)
  | group huser hg h =>
      cases h' with
      | user h' => exact absurd h' (huser _)
      | group _ hg' h' =>
          obtain rfl := hg.unique hg'
          exact ⟨rfl, congrArg some (h'.unique h)⟩
      | default _ hgroups => exact absurd hg.holds (hgroups _ hg.mem)
  | default huser hgroups =>
      cases h' with
      | user h' => exact absurd h' (huser _)
      | group _ hg' => exact absurd hg'.holds (hgroups _ hg'.mem)
      | default => exact ⟨rfl, rfl⟩

/-- The lookup takes what prevails. -/
theorem prevails_winner? (p : Principal) (gs : List Group) (a : Attribute) :
    match winner? p gs a with
      | some (tier, raw) => Prevails p gs a tier (some raw)
      | none => Prevails p gs a .default none := by
  rw [winner?]
  cases huser : defined (Attributes.text? p.attributes a) with
  | some raw => exact .user (defined_eq_some_iff.mp huser)
  | none =>
      have huser := defined_eq_none_iff.mp huser
      change match (Group.sort gs).findSome? (offer? a) with
        | some (tier, raw) => Prevails p gs a tier (some raw)
        | none => Prevails p gs a .default none
      cases hfound : (Group.sort gs).findSome? (offer? a) with
      | some found =>
          obtain ⟨tier, raw⟩ := found
          obtain ⟨g, hg, hoffer⟩ := Group.foremost_of_findSome?_sort hfound
          obtain ⟨h, rfl⟩ := offer?_eq_some_iff.mp hoffer
          simp only [exists_offer?_iff] at hg
          exact .group huser hg h
      | none =>
          refine .default huser fun g hg hoffers => ?_
          obtain ⟨b, hb⟩ := exists_offer?_iff.mpr hoffers
          have hnone := List.findSome?_eq_none_iff.mp hfound g ((Group.sort_perm gs).mem_iff.mpr hg)
          cases hb.symm.trans hnone

theorem exists_prevails (p : Principal) (gs : List Group) (a : Attribute) :
    ∃ tier taken, Prevails p gs a tier taken := by
  have h := prevails_winner? p gs a
  cases hwinner : winner? p gs a with
  | none => exact ⟨_, _, by rwa [hwinner] at h⟩
  | some found => exact ⟨_, _, by rwa [hwinner] at h⟩

theorem Prevails.winner?_eq (h : Prevails p gs a tier taken) :
    winner? p gs a = taken.map (tier, ·) := by
  have hwins := prevails_winner? p gs a
  cases hwinner : winner? p gs a with
  | none =>
      rw [hwinner] at hwins
      obtain ⟨rfl, rfl⟩ := hwins.unique h
      rfl
  | some found =>
      rw [hwinner] at hwins
      obtain ⟨rfl, rfl⟩ := hwins.unique h
      rfl

theorem winner?_eq_some_iff_prevails :
    winner? p gs a = some (tier, raw) ↔ Prevails p gs a tier (some raw) := by
  constructor
  · intro h
    have hwins := prevails_winner? p gs a
    rwa [h] at hwins
  · exact fun h => h.winner?_eq

/-- What prevails looks at nothing but who the user is and what user and groups say of the
attribute. -/
theorem Prevails.of_texts (hid : q.identifier = p.identifier)
    (htext : Attributes.text? q.attributes a = Attributes.text? p.attributes a)
    (htexts : Group.texts a hs = Group.texts a gs) (h : Prevails p gs a tier taken) :
    Prevails q hs a tier taken := by
  have huser' : (∀ raw, ¬ Attributes.Gives p.attributes a raw) →
      ∀ raw, ¬ Attributes.Gives q.attributes a raw :=
    fun huser raw hraw => huser raw (hraw.of_text htext.symm)
  cases h with
  | user h =>
      rw [← hid]
      exact .user (h.of_text htext)
  | group huser hg h =>
      obtain ⟨g', hg', hid', htext'⟩ := hg.of_texts htexts
      rw [← hid']
      exact .group (huser' huser) hg' (h.of_text htext')
  | default huser hgroups =>
      refine .default (huser' huser) ?_
      rintro g hg ⟨raw, hraw⟩
      obtain ⟨x, hx, -, hxtext⟩ := Group.exists_mem_of_texts htexts hg
      exact hgroups x hx ⟨raw, hraw.of_text hxtext⟩

/-! ## The lookup -/

variable {α : Type} {r : Reader α} {fallback x : α} {c : Complaint}

theorem run_resolve (p : Principal) (gs : List Group) (a : Attribute) (r : Reader α) (fallback : α)
    (w : World) : (resolve p gs a r fallback).run w = match lookup p gs a r fallback with
      | .ok (x, tier) => (.ok (x, tier), w.told [.attributeResolved a.key tier.text])
      | .error e => (.error e, w) := by
  unfold resolve
  cases h : lookup p gs a r fallback with
  | error e => exact run_bind_of_error (run_lift (.error e) w)
  | ok found =>
      obtain ⟨x, tier⟩ := found
      rw [run_bind_of_ok (run_lift (.ok (x, tier)) w), run_bind_of_ok (run_report _ w)]
      rfl

theorem lookup_of_ok (h : Prevails p gs a tier (some raw)) (hread : r raw = .ok x) :
    lookup p gs a r fallback = .ok (x, tier) := by
  rw [lookup, h.winner?_eq, Option.map_some]
  simp only [Reader.read_eq_ok_iff.mpr hread, Except.map]

theorem lookup_of_complaint (h : Prevails p gs a tier (some raw)) (hread : r raw = .error c) :
    lookup p gs a r fallback = .error (.refused (.configuration a.key raw tier.text c.text)) := by
  rw [lookup, h.winner?_eq, Option.map_some]
  simp only [Reader.read_eq_error_iff.mpr ⟨c, hread, rfl⟩, Except.map]

theorem lookup_of_default (h : Prevails p gs a tier none) :
    lookup p gs a r fallback = .ok (fallback, .default) := by
  rw [lookup, h.winner?_eq]
  rfl

theorem resolve_eq_of_prevails (h : Prevails p gs a tier taken) (h' : Prevails q hs a tier taken)
    (r : Reader α) (fallback : α) : resolve q hs a r fallback = resolve p gs a r fallback := by
  unfold resolve lookup
  rw [h.winner?_eq, h'.winner?_eq]

theorem resolve_eq_of_texts (hid : q.identifier = p.identifier)
    (htext : Attributes.text? q.attributes a = Attributes.text? p.attributes a)
    (htexts : Group.texts a hs = Group.texts a gs) (r : Reader α) (fallback : α) :
    resolve q hs a r fallback = resolve p gs a r fallback := by
  obtain ⟨tier, taken, h⟩ := exists_prevails p gs a
  exact resolve_eq_of_prevails h (h.of_texts hid htext htexts) r fallback

/-- What prevails for an attribute of a user is one text from one tier, or nothing, and it alone
decides what the lookup comes to. A text that can be read gives its value, and that is reported
with the tier. A text that cannot be read is refused, as it was given and under its tier. Where
there is no text the default stands as it is. Whoever else has the same prevail gets the same,
whatever the texts that do not prevail; and what is said of other attributes makes no
difference. -/
theorem foremost_text_decides (p : Principal) (gs : List Group) (a : Attribute) (r : Reader α)
    (fallback : α) :
    (∃ tier taken, Prevails p gs a tier taken ∧
      ∀ tier' taken', Prevails p gs a tier' taken' → tier' = tier ∧ taken' = taken) ∧
    (∀ tier raw x w, Prevails p gs a tier (some raw) → r raw = .ok x →
      (resolve p gs a r fallback).run w =
        (.ok (x, tier), w.told [.attributeResolved a.key tier.text])) ∧
    (∀ tier raw c w, Prevails p gs a tier (some raw) → r raw = .error c →
      (resolve p gs a r fallback).run w =
        (.error (.refused (.configuration a.key raw tier.text c.text)), w)) ∧
    (∀ tier w, Prevails p gs a tier none → (resolve p gs a r fallback).run w =
      (.ok (fallback, .default), w.told [.attributeResolved a.key Tier.default.text])) ∧
    (∀ q hs tier taken, Prevails p gs a tier taken → Prevails q hs a tier taken →
      resolve q hs a r fallback = resolve p gs a r fallback) ∧
    ∀ q hs, q.identifier = p.identifier →
      Attributes.text? q.attributes a = Attributes.text? p.attributes a →
      Group.texts a hs = Group.texts a gs →
      resolve q hs a r fallback = resolve p gs a r fallback := by
  refine ⟨?_, ?_, ?_, ?_, ?_, ?_⟩
  · obtain ⟨tier, taken, h⟩ := exists_prevails p gs a
    exact ⟨tier, taken, h, fun _ _ h' => h.unique h'⟩
  · intro tier raw x w h hread
    rw [run_resolve, lookup_of_ok h hread]
  · intro tier raw c w h hread
    rw [run_resolve, lookup_of_complaint h hread]
  · intro tier w h
    rw [run_resolve, lookup_of_default h]
  · intro q hs tier taken h h'
    exact resolve_eq_of_prevails h h' r fallback
  · intro q hs hid htext htexts
    exact resolve_eq_of_texts hid htext htexts r fallback

/-- Two groups of one identifier, a lesser one with a blank text only, a greater one that comes
first, and a user whose text is blank: the earlier of the two is refused, with the blanks around
its text. A text of the user's own is read in its place. -/
theorem earlier_of_two_groups_refused :
    ∃ (p q : Principal) (gs : List Group),
      p = { identifier := "ada", attributes := some (.ofList
        [("otp-timeout", some " 	"), ("otp-length", some "none")]) } ∧
      q = { identifier := "ada", attributes := some (.ofList [("otp-timeout", some " 90 ")]) } ∧
      gs = [⟨"ops", some (.ofList [("otp-timeout", some "60")])⟩,
        ⟨"admins", some (.ofList [("otp-timeout", some " soon ")])⟩,
        ⟨"admins", some (.ofList [("otp-timeout", some "30")])⟩,
        ⟨"Zoo", some (.ofList [("otp-timeout", some " "), ("otp-method", some "sms")])⟩,
        ⟨"abbots", some (.ofList [("otp-timeout", none)])⟩, ⟨"abbots", none⟩] ∧
      Prevails p gs .timeout (.group "admins") (some " soon ") ∧
      (∀ w, (resolve p gs .timeout .positiveInt 300).run w = (.error (.refused (.configuration
        "otp-timeout" " soon " "group:admins" "not an integer")), w)) ∧
      Prevails q gs .timeout (.user "ada") (some " 90 ") ∧
      ∀ w, (resolve q gs .timeout .positiveInt 300).run w =
        (.ok (90, .user "ada"), w.told [.attributeResolved "otp-timeout" "user:ada"]) := by
  refine ⟨_, _, _, rfl, rfl, rfl, ?hgroup,
    fun w => (foremost_text_decides _ _ _ _ _).2.2.1 _ _ .notAnInteger w ?hgroup ?hword, ?hown,
    fun w => (foremost_text_decides _ _ _ _ _).2.1 _ _ 90 w ?hown ?hnumber⟩
  case hgroup => exact winner?_eq_some_iff_prevails.mp (by decide +kernel)
  case hown => exact winner?_eq_some_iff_prevails.mp (by decide +kernel)
  case hword => decide +kernel
  case hnumber => decide +kernel

end Tier

end Passcode
