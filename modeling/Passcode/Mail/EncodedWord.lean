import Passcode.Text.Base64
import Passcode.Text.Charset

/-!
# Encoded words

Characters of any charset, written with those of ASCII: `=?charset?method?text?=`, where
the method is Q (an equals sign and two hexadecimal digits for an octet, a low line for a
space) or B (Base64).

`EncodedWord.read` reads one at the beginning of a text. Octets that the charset does not
explain are kept, and so are all octets beyond ASCII where the charset is unknown. Where the
octets are beyond help, the word is ill-formed.
-/

namespace Passcode.Mail

/-! ## Octets -/

/-- The octets that a text of method Q stands for. -/
def quotedOctets : List UInt8 → List UInt8
  | 0x3D :: a :: b :: bs =>
    match Text.Decoder.hexDigit? a, Text.Decoder.hexDigit? b with
    | some x, some y => UInt8.ofNat (16 * x + y) :: quotedOctets bs
    | _, _ => 0x3D :: quotedOctets (a :: b :: bs)
  | 0x5F :: bs => 0x20 :: quotedOctets bs
  | b :: bs => b :: quotedOctets bs
  | [] => []

/-! ## Words -/

namespace EncodedWord

def begins : Glyphs → Bool
  | a :: b :: _ => a = .char '=' && b = .char '?'
  | _ => false

/-- Divides a text at the first question mark before an equals sign: what stands before
the two, and what after. -/
def divide : Glyphs → Option (Glyphs × Glyphs)
  | a :: b :: gs =>
    if a = .char '?' ∧ b = .char '=' then some ([], gs)
    else (divide (b :: gs)).map fun r => (a :: r.1, r.2)
  | _ => none

/-- The parts of a text between question marks. -/
def parts : Glyphs → List Glyphs
  | [] => [[]]
  | g :: gs =>
    if g = .char '?' then [] :: parts gs
    else match parts gs with
      | p :: ps => (g :: p) :: ps
      | [] => [[g]]

/-- The charset of a name, which ends before a star; ASCII for an unknown name. A name
with a null character is none. -/
def charset? (name : Glyphs) : Option Text.Charset :=
  let word := name.takeWhile (· ≠ .char '*')
  if word.any (·.among ['\x00']) then none
  else
    match word.mapM Glyph.char? with
    | some cs => some ((Text.Charset.ofName? (String.ofList cs)).getD .ascii)
    | none => some .ascii

def meaning? : List Glyphs → Option Glyphs
  | [charset, [method], text] => do
    let bs ← text.mapM Glyph.octet?
    let octets ←
      if method.among ['q', 'Q'] then some (quotedOctets bs)
      else if method.among ['b', 'B'] then some (Text.Base64.octets bs)
      else none
    (← charset? charset).decode octets
  | _ => none

/-- Why no encoded word can be read: the text has none at its beginning, or one that is
ill-formed. -/
inductive Unread where
  | absent
  | malformed
deriving DecidableEq, Repr

def isHex (g : Glyph) : Bool := (g.octet?.bind Text.Decoder.hexDigit?).isSome

/-- The inside of an encoded word and what follows it, the first mark of its end being
found. An octet right after the second question mark is no end. -/
def extend (inside rest : Glyphs) : Glyphs × Glyphs :=
  match rest with
  | a :: b :: _ =>
    if isHex a && isHex b && inside.count (.char '?') < 2 then
      let (more, rest) := (divide rest).getD (rest, [])
      (inside ++ [.char '?', .char '='] ++ more, rest)
    else (inside, rest)
  | _ => (inside, rest)

/-- Reads the encoded word at the beginning of a text: what it means, and what follows. -/
def read (s : Glyphs) : Except Unread (Glyphs × Glyphs) :=
  if begins s then
    match divide (s.drop 2) with
    | none => .error .absent
    | some (inside, rest) =>
      let (inside, rest) := extend inside rest
      match meaning? (parts inside) with
      | some t => .ok (t, rest)
      | none => .error .malformed
  else .error .absent

end EncodedWord

/-! ## Runs of words -/

/-- A piece of a text: white space, the meaning of an encoded word, or plain text. -/
inductive Piece where
  | space (gs : Glyphs)
  | encoded (gs : Glyphs)
  | plain (gs : Glyphs)
deriving DecidableEq, Repr

def beginsEncoded : List Piece → Bool
  | .encoded _ :: _ => true
  | _ => false

/-- The text of some pieces, the first of them after an encoded word or not. White space
between two encoded words is not part of it. -/
def joinPieces : (afterEncoded : Bool) → List Piece → Glyphs
  | _, [] => []
  | afterEncoded, .space gs :: ps =>
    (if afterEncoded && beginsEncoded ps then [] else gs) ++ joinPieces false ps
  | _, .encoded gs :: ps => gs ++ joinPieces true ps
  | _, .plain gs :: ps => gs ++ joinPieces false ps

/-- The white space at the beginning of a text, and what follows it. -/
def splitBlanks (s : Glyphs) : Glyphs × Glyphs := s.span Glyph.isBlank

end Passcode.Mail
