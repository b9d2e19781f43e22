import Passcode.Failure
import Passcode.Keyed
import Passcode.Text.Glyph

/-!
# Principals, groups and directories

The user who is logging in, the request of the user, the groups the user belongs to, and
the directory that knows the attributes of groups. Groups take precedence in the order of
their identifiers, by code point; groups that the directory does not know are passed over.
-/

namespace Passcode

/-- The attributes that policies and deliveries are read from. -/
inductive Attribute where
  | disabled
  | method
  | timeout
  | length
  | alphabet
  | email
  | alternateEmail
  | phone
deriving DecidableEq, Repr

namespace Attribute

def key : Attribute → String
  | disabled => "otp-disabled"
  | method => "otp-method"
  | timeout => "otp-timeout"
  | length => "otp-length"
  | alphabet => "otp-character-classes"
  | email => "email-address"
  | alternateEmail => "otp-email"
  | phone => "otp-phone"

/-- The attributes that make up a policy; users and groups have them. -/
def ofPolicies : List Attribute := [disabled, method, timeout, length, alphabet]

def ofUsers : List Attribute := ofPolicies ++ [alternateEmail, phone]

end Attribute

/-- A map of attributes. A key may be there without a text. -/
abbrev Attributes := Keyed String (Option String)

/-- The text of an attribute in a map that may itself be missing. -/
def Attributes.text? (m : Option Attributes) (a : Attribute) : Option String :=
  (m.bind fun m => m.find? a.key).join

/-- A user who is logging in. -/
structure Principal where
  identifier : String
  attributes : Option Attributes := some .empty
  groups : List String := []
deriving Repr

def Principal.isAnonymous (p : Principal) : Bool := p.identifier = ""

/-- The parameters of a request, or nothing in their place. -/
abbrev Request := Option (Keyed String (Option Glyphs))

/-- A parameter of a request. From a request without parameters none can be read. -/
def Request.parameter (r : Request) (name : String) : Except Failure (Option Glyphs) :=
  match r with
  | none => .error .noParameters
  | some table => .ok (table.find? name).join

/-- A group with its attributes. -/
structure Group where
  identifier : String
  attributes : Option Attributes := some .empty
deriving Repr, DecidableEq

namespace Group

/-- A group put in front of the first group that does not precede it. -/
def insert (g : Group) : List Group → List Group
  | [] => [g]
  | h :: rest => if g.identifier ≤ h.identifier then g :: h :: rest else h :: insert g rest

/-- Groups in order of precedence. Groups with one identifier keep their order. -/
def sort (groups : List Group) : List Group := groups.foldr insert []

theorem insert_perm (g : Group) (gs : List Group) : (insert g gs).Perm (g :: gs) := by
  induction gs with
  | nil => exact .refl _
  | cons h rest ih =>
    unfold insert
    split
    · exact .refl _
    · exact (ih.cons h).trans (.swap g h rest)

theorem sort_perm (gs : List Group) : (sort gs).Perm gs := by
  induction gs with
  | nil => exact .refl _
  | cons g gs ih => exact (insert_perm g (sort gs)).trans (ih.cons g)

end Group

/-- The attributes of groups; a group may be entered without any. -/
abbrev Directory := Keyed String (Option Attributes)

namespace Directory

/-- The attributes of a group, if the directory knows the group. -/
def attributes? (d : Directory) (identifier : String) : Option Attributes :=
  (d.find? identifier).join

/-- The groups of a user that the directory knows, in order of precedence. -/
def groupsOf (d : Directory) (p : Principal) : List Group :=
  Group.sort (p.groups.eraseDups.filterMap fun g =>
    (attributes? d g).map fun attributes => ⟨g, some attributes⟩)

end Directory

end Passcode
