import Passcode.Text.Blank
import Passcode.Text.LowerCase

/-!
# Vocabularies

A closed set of choices, each with the word that stands for it in settings and answers
and with a name in capitals. A choice is found exactly by its word, or leniently: by
word or name, in any case, with white space around it.
-/

namespace Passcode

/-- A closed set of choices and what they are called. -/
class Vocabulary (α : Type) where
  /-- What a member of the set is called in a message. -/
  title : String
  /-- The members in order of definition. -/
  members : List α
  /-- The word for a member. -/
  word : α → String
  /-- The name of a member. -/
  name : α → String

namespace Vocabulary

variable {α : Type} [Vocabulary α]

def ofWord? (s : String) : Option α := members.find? fun m : α => word m = s

def words (α : Type) [Vocabulary α] : List String := (members : List α).map word

/-- Whether a text, trimmed and in lower case, is the word or the name of a member. -/
def accepts (s : String) (m : α) : Bool :=
  let wanted := Text.lower (Text.trim s)
  wanted = Text.lower (word m) || wanted = Text.lower (name m)

/-- The first member that the text is accepted for. -/
def read? (s : String) : Option α := members.find? (accepts s)

end Vocabulary

end Passcode
