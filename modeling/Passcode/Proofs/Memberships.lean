import Passcode.Proofs.Tiers
import Passcode.Proofs.Turns

/-!
# In whatever order the groups of a user are listed

The groups of a user are a set, and a set may be listed in any order and with repetitions.
What a directory makes of them is determined by the set alone: it is the one list that has each
membership the directory knows once, in the order of the identifiers (`Roster`,
`Roster.unique`). Nothing else of an attempt looks at the groups of the user
(`Principal.SameUser.decide_eq`), so that two listings of one user are told apart by nothing
(`Gate.group_order_immaterial`).
-/

namespace Passcode

open Passcode.Action

/-- One user, whose groups may be listed in different ways. -/
structure Principal.SameUser (p q : Principal) : Prop where
  identifier : p.identifier = q.identifier
  attributes : p.attributes = q.attributes
  groups : ∀ i, i ∈ p.groups ↔ i ∈ q.groups

/-- The groups a directory knows among those that a user is in: each of them once, with the
attributes it has in the directory, the least identifier first. -/
structure Roster (d : Directory) (p : Principal) (groups : List Group) : Prop where
  ascending : groups.Pairwise (·.identifier < ·.identifier)
  known : ∀ g, g ∈ groups ↔ ∃ i m, i ∈ p.groups ∧ d.attributes? i = some m ∧ g = ⟨i, some m⟩

/-! ## The list of groups -/

variable {d : Directory} {p q : Principal}

theorem Directory.pairwise_ne_groupsOf (d : Directory) (p : Principal) :
    (d.groupsOf p).Pairwise (·.identifier ≠ ·.identifier) := by
  have hdistinct : (p.groups.eraseDups.filterMap fun i => (d.attributes? i).map fun attributes =>
      (⟨i, some attributes⟩ : Group)).Pairwise (·.identifier ≠ ·.identifier) := by
    refine List.Pairwise.filterMap _ (fun i j hij g hg h hh => ?_) (nodup_eraseDups p.groups)
    obtain ⟨m, -, rfl⟩ := Option.map_eq_some_iff.mp hg
    obtain ⟨m', -, rfl⟩ := Option.map_eq_some_iff.mp hh
    exact hij
  exact (Group.sort_perm _).symm.pairwise hdistinct Ne.symm

theorem Directory.roster_groupsOf (d : Directory) (p : Principal) : Roster d p (d.groupsOf p) where
  ascending := (d.pairwise_groupsOf p).imp₂ (fun _ _ => Std.lt_of_le_of_ne)
    (d.pairwise_ne_groupsOf p)
  known _ := mem_groupsOf_iff

/-- There is one such list for a user, however the groups of the user are listed. -/
theorem Roster.unique {gs hs : List Group} (hgs : Roster d p gs) (hhs : Roster d q hs)
    (hgroups : ∀ i, i ∈ p.groups ↔ i ∈ q.groups) : gs = hs := by
  have : Std.Irrefl fun g h : Group => g.identifier < h.identifier :=
    ⟨fun g => String.lt_irrefl g.identifier⟩
  have : Std.Antisymm fun g h : Group => g.identifier < h.identifier :=
    ⟨fun g h hgh hhg => absurd hhg (String.lt_asymm hgh)⟩
  refine hgs.ascending.eq_of_mem_iff hhs.ascending fun g => ?_
  rw [hgs.known, hhs.known]
  simp only [hgroups]

/-! ## An attempt -/

namespace Principal.SameUser

variable {κ ω : Type} (h : p.SameUser q)
include h

theorem groupsOf_eq (d : Directory) : d.groupsOf p = d.groupsOf q :=
  (d.roster_groupsOf p).unique (d.roster_groupsOf q) h.groups

/-- What an attempt comes to depends on the groups by way of the directory only: looking the
policy up, finding the recipients, issuing and checking read who the user is and what
attributes the user has. -/
theorem decide_eq (deliver : Gate.Deliver κ ω) (response : Option Glyphs) :
    Gate.decide deliver p response = Gate.decide deliver q response := by
  have hgroups := h.groupsOf_eq
  obtain ⟨id, attributes, groups⟩ := p
  obtain ⟨id', attributes', groups'⟩ := q
  obtain rfl : id = id' := h.identifier
  obtain rfl : attributes = attributes' := h.attributes
  unfold Gate.decide
  simp only [hgroups]
  rfl

theorem verify_eq (deliver : Gate.Deliver κ ω) (response : Option Glyphs) :
    Gate.verify deliver p response = Gate.verify deliver q response := by
  have hdecide := h.decide_eq deliver response
  unfold Gate.verify
  rw [hdecide]
  obtain ⟨id, attributes, groups⟩ := p
  obtain ⟨id', attributes', groups'⟩ := q
  obtain rfl : id = id' := h.identifier
  rfl

end Principal.SameUser

namespace Gate

variable {κ ω : Type}

/-- The order in which the groups of a user are listed makes no difference. Every directory
makes the same of them, and that is the roster of the user. And an attempt has the same answer
and leaves the same gate behind, with the same store, the same events in the same order and the
same traces of what couriers did outside; and couriers are handed the same parcels. -/
theorem group_order_immaterial (h : p.SameUser q) :
    (∀ d : Directory, Roster d p (d.groupsOf p) ∧ d.groupsOf q = d.groupsOf p) ∧
      ∀ (deliver : Deliver κ ω) (response : Option Glyphs) (g : Gate κ ω),
        (verify deliver q response).run g = (verify deliver p response).run g ∧
          parcels deliver q response g = parcels deliver p response g := by
  refine ⟨fun d => ⟨d.roster_groupsOf p, (h.groupsOf_eq d).symm⟩, fun deliver response g => ?_⟩
  constructor
  · rw [h.verify_eq deliver response]
  · rw [parcels, parcels, h.verify_eq (noting deliver) response]

/-- A user in two groups with a malformed timeout each, and in one that nobody knows: however
the groups are listed, it is the lesser identifier that the refusal names. -/
theorem first_of_two_malformed_groups :
    ∃ (p q : Principal) (g : Gate Unit Unit),
      p = { identifier := "ada", groups := ["ops", "ghosts", "admins"] } ∧
      q = { identifier := "ada", groups := ["admins", "ops", "ghosts"] } ∧
      g = fresh Settings.usual (Keyed.ofList
        [("ops", some (Keyed.empty.put "otp-timeout" (some "soon"))),
          ("admins", some (Keyed.empty.put "otp-timeout" (some "0")))]) () () ∧
      p.SameUser q ∧
      (g.directory.groupsOf q).map Group.identifier = ["admins", "ops"] ∧
      (verify handOver q none).run g = (verify handOver p none).run g ∧
      ((verify handOver q none).run g).1 = .ok (.refuse .configurationError
        (.configuration "otp-timeout" "0" "group:admins" "must be at least 1")) := by
  have hsame : Principal.SameUser { identifier := "ada", groups := ["ops", "ghosts", "admins"] }
      { identifier := "ada", groups := ["admins", "ops", "ghosts"] } :=
    ⟨rfl, rfl, fun _ => List.Perm.mem_iff (by decide)⟩
  obtain ⟨-, hattempt⟩ := group_order_immaterial (κ := Unit) (ω := Unit) hsame
  refine ⟨_, _, _, rfl, rfl, rfl, hsame, ?_, (hattempt handOver none _).1, ?_⟩ <;>
    decide +kernel

end Gate

end Passcode
