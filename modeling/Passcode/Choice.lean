import Passcode.Vocabulary

/-!
# Choices of a policy

The closed sets that attributes and settings choose from: the channel a code is sent by,
the alphabet it is drawn from, what happens to a user without a destination, and how the
mail connection is secured.
-/

namespace Passcode

/-- How a code reaches the user. -/
inductive Channel where
  | email
  | sms
deriving DecidableEq, Repr, Inhabited

instance : Vocabulary Channel where
  title := "DeliveryChannel"
  members := [.email, .sms]
  word
    | .email => "email"
    | .sms => "sms"
  name
    | .email => "EMAIL"
    | .sms => "SMS"

/-- What happens when a user has no destination for a code. -/
inductive MissingAction where
  | block
  | allow
deriving DecidableEq, Repr, Inhabited

instance : Vocabulary MissingAction where
  title := "MissingAction"
  members := [.block, .allow]
  word
    | .block => "block"
    | .allow => "allow"
  name
    | .block => "BLOCK"
    | .allow => "ALLOW"

/-- How the connection to the mail server is secured: not at all, from the start, or
after a plain greeting. -/
inductive Encryption where
  | none
  | ssl
  | starttls
deriving DecidableEq, Repr, Inhabited

instance : Vocabulary Encryption where
  title := "MailEncryption"
  members := [.none, .ssl, .starttls]
  word
    | .none => "none"
    | .ssl => "ssl"
    | .starttls => "starttls"
  name
    | .none => "NONE"
    | .ssl => "SSL"
    | .starttls => "STARTTLS"

/-- The alphabet that a code is drawn from. -/
inductive Alphabet where
  | numeric
  | alpha
  | alphanumeric
  | all
deriving DecidableEq, Repr, Inhabited

instance : Vocabulary Alphabet where
  title := "CharacterClass"
  members := [.numeric, .alpha, .alphanumeric, .all]
  word
    | .numeric => "numeric"
    | .alpha => "alpha"
    | .alphanumeric => "alphanumeric"
    | .all => "all"
  name
    | .numeric => "NUMERIC"
    | .alpha => "ALPHA"
    | .alphanumeric => "ALPHANUMERIC"
    | .all => "ALL"

namespace Alphabet

def digits : List Char := "0123456789".toList

/-- The letters of ASCII, capitals first. -/
def letters : List Char := "ABCDEFGHIJKLMNOPQRSTUVWXYZabcdefghijklmnopqrstuvwxyz".toList

/-- The symbols of the largest alphabet. -/
def symbols : List Char := "!@#$%^&*()[]\x7b\x7d:<>-+=".toList

/-- The characters of an alphabet in the order of their draw numbers. -/
def chars : Alphabet → List Char
  | numeric => digits
  | alpha => letters
  | alphanumeric => digits ++ letters
  | all => digits ++ letters ++ symbols

end Alphabet

end Passcode
