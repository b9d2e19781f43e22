import Passcode.Principal

/-!
# Scripts for directories

Inquiries as data: the groups of a user, the attributes of a group, and a group entered
or changed in between.
-/

namespace Passcode.Scenario

/-- A step of a script for a directory. -/
inductive Inquiry where
  | groupsOf (p : Principal)
  | attributesOf (group : String)
  | enter (group : String) (attributes : Option Attributes)
deriving Repr

/-- What a directory answers. -/
inductive Finding where
  | groups (gs : List Group)
  | attributes (m : Option Attributes)
  | entered
deriving Repr

namespace Inquiry

def perform (d : Directory) : Inquiry → Finding × Directory
  | .groupsOf p => (.groups (d.groupsOf p), d)
  | .attributesOf group => (.attributes (d.attributes? group), d)
  | .enter group attributes => (.entered, d.put group attributes)

def run : Directory → List Inquiry → List Finding
  | _, [] => []
  | d, i :: rest => (perform d i).1 :: run (perform d i).2 rest

end Inquiry

end Passcode.Scenario
