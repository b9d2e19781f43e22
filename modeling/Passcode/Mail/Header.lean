import Passcode.Mail.AddressList
import Passcode.Value
import Passcode.Text.Lines

/-!
# Headers

What the headers of a message say. Every header must be a single line. In a subject the
encoded words are replaced by what they mean; a list of addresses is read and written out
in its one form. Where a header is given a value that is no text, a sender is the text of
that value, and a subject is empty if the value counts as false.
-/

namespace Passcode.Mail

/-- The text of a header, which must be a single line. -/
def singleLine (s : String) : Except Failure String :=
  if 1 < (Text.lines s.toList).length then .error (.misuse .severalHeaderLines) else .ok s

/-! ## Subjects -/

/-- Whether a text has the form of an encoded word at its beginning, whatever it means. -/
def looksEncoded (s : Glyphs) : Bool :=
  EncodedWord.begins s &&
    match (s.drop 2).dropWhile (· ≠ .char '?') with
    | _ :: method :: mark :: rest =>
      method.among ['q', 'Q', 'b', 'B'] && mark = .char '?' && (EncodedWord.divide rest).isSome
    | _ => false

/-- Whether something of the form of an encoded word stands anywhere in a text. -/
def holdsEncoded : Glyphs → Bool
  | [] => false
  | g :: gs => looksEncoded (g :: gs) || holdsEncoded gs

/-- How long a text is up to where an encoded word might begin. -/
def lengthBeforeMark : Glyphs → Nat
  | [] => 0
  | g :: gs => if EncodedWord.begins (g :: gs) then 0 else lengthBeforeMark gs + 1

/-- How long the plain text at the beginning of a text is: up to the white space, or up to
an encoded word within it. An ill-formed encoded word is plain text. -/
def plainLength (why : EncodedWord.Unread) (s : Glyphs) : Nat :=
  let word := s.takeWhile (!·.isSpace)
  if why = .absent && holdsEncoded word then lengthBeforeMark s else word.length

/-- At most so many pieces of a text. -/
def piecesWithin : Nat → Glyphs → List Piece
  | 0, _ | _, [] => []
  | n + 1, g :: gs =>
    if g.isSpace then
      let (blanks, rest) := splitBlanks (g :: gs)
      .space blanks :: piecesWithin n rest
    else
      match EncodedWord.read (g :: gs) with
      | .ok (t, rest) => .encoded t :: piecesWithin n rest
      | .error why =>
        let (word, rest) := (g :: gs).splitAt (plainLength why (g :: gs))
        .plain word :: piecesWithin n rest

def pieces (s : Glyphs) : List Piece := piecesWithin s.length s

def subject : Value → Except Failure String
  | .text s => do finalText (joinPieces false (pieces (Glyphs.ofString (← singleLine s))))
  | v => if v.isTrue then .error .badArgument else .ok ""

/-! ## Addresses -/

def addresses (s : String) : Except Failure String := singleLine s >>= addressText

def sender : Value → Except Failure String
  | .text s => addresses s
  | v => .ok v.toText

def senderLine : Value → String
  | .text s => addressLine s
  | v => v.toText

end Passcode.Mail
