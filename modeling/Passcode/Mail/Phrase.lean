import Passcode.Mail.EncodedWord
import Passcode.Mail.Scan

/-!
# Phrases

What the names and addresses of a header are made of: words with white space and comments
around them. A word is an atom, an encoded word or a quoted text; a phrase is a row of
words, and of points and comments that stand alone. Comments lie in parentheses, one
within another if need be, and a backslash takes the meaning of the character after it.

`Phrase.text` is what a name says: its words as they are meant, every gap between them one
space, and none at the ends.
-/

namespace Passcode.Mail

/-! ## Characters -/

/-- The characters with a meaning of their own in addresses. -/
def specials : List Char := ['(', ')', '<', '>', '@', ',', ':', ';', '.', '\\', '"', '[', ']']

def atomEnds : List Char := [' ', '\t'] ++ specials

def phraseEnds : List Char := [')', '<', '>', '@', ',', ':', ';', '\\', '[', ']']

def gapStarts : List Char := [' ', '\t', '(']

/-! ## Gaps -/

/-- How long the white space and the comments at the beginning of a text are. `depth` says
how many comments are open; `blank`, whether white space precedes; `escaped`, whether a
backslash does. -/
def gapLength : (depth : Nat) → (blank escaped : Bool) → Glyphs → Nat
  | _, _, _, [] => 0
  | 0, blank, _, g :: gs =>
    if g.isSpace || (blank && g.isBlank) then gapLength 0 true false gs + 1
    else if g = .char '(' then gapLength 1 false false gs + 1
    else 0
  | depth + 1, _, escaped, g :: gs =>
    if g.isSpace || escaped then gapLength (depth + 1) false false gs + 1
    else if g = .char '\\' then gapLength (depth + 1) false true gs + 1
    else if g = .char '(' then gapLength (depth + 2) false false gs + 1
    else if g = .char ')' then gapLength depth false false gs + 1
    else gapLength (depth + 1) false false gs + 1

/-- The white space and the comments of a gap written anew: what a backslash stood before is
kept, with the backslash only where it is needed, and comments that lack their ends get
them. -/
def rewriteGap : (depth : Nat) → (escaped : Bool) → Glyphs → Glyphs
  | depth, _, [] => List.replicate depth (.char ')')
  | 0, _, g :: gs => g :: rewriteGap (if g = .char '(' then 1 else 0) false gs
  | depth + 1, escaped, g :: gs =>
    if g.isSpace then g :: rewriteGap (depth + 1) false gs
    else if escaped then
      (if g.among ['\\', '(', ')'] then [.char '\\', g] else [g])
        ++ rewriteGap (depth + 1) false gs
    else if g = .char '\\' then rewriteGap (depth + 1) true gs
    else if g = .char '(' then g :: rewriteGap (depth + 2) false gs
    else if g = .char ')' then g :: rewriteGap depth false gs
    else g :: rewriteGap (depth + 1) false gs

/-- The white space and the comments at the beginning of a text; nothing if there are
none. -/
def gap : Scan Glyphs :=
  Scan.rewritten (rewriteGap 0 false) <| Scan.take fun s => s.splitAt (gapLength 0 false false s)

def someGap : Scan Glyphs := do
  if ← Scan.sees gapStarts then gap else Scan.noMatch

/-! ## Words -/

/-- What a word is without the gaps around it: an atom, the meaning of an encoded word, a
quoted text, or a quotation mark at the very end of the header. -/
inductive Core where
  | atom (gs : Glyphs)
  | encoded (gs : Glyphs)
  | quoted (gs : Glyphs)
  | openQuote
deriving DecidableEq, Repr

namespace Core

def text : Core → Glyphs
  | atom gs | quoted gs => gs
  | encoded gs => gs.collapse false
  | openQuote => []

/-- A way to write the word. -/
def written : Core → Glyphs
  | atom gs | encoded gs => gs
  | quoted gs => gs.inQuotes
  | openQuote => Glyphs.inQuotes []

end Core

/-- A word with the gaps before and after it. -/
structure Word where
  before : Glyphs
  core : Core
  after : Glyphs
deriving DecidableEq, Repr

/-- What a gap says: nothing if there is none, else one space. -/
def gapText (g : Glyphs) : Glyphs := if g.isEmpty then [] else [.char ' ']

/-- What a word says, with a space for every gap. -/
def Word.text (w : Word) : Glyphs := gapText w.before ++ w.core.text ++ gapText w.after

/-- Glyphs up to a space, a tab or one of the given ends, and what follows. A backslash
takes the meaning of the glyph after it and is left out. -/
def unescape (ends : List Char) : (escaped : Bool) → Glyphs → Glyphs × Glyphs
  | _, [] => ([], [])
  | escaped, g :: gs =>
    if g.isSpace then ([], g :: gs)
    else if !escaped && g = .char '\\' then unescape ends true gs
    else if !escaped && g.among ends then ([], g :: gs)
    else
      let (text, rest) := unescape ends false gs
      (g :: text, rest)

def encodedWord : Scan Glyphs := do
  match EncodedWord.read (← get).rest with
  | .ok r => Scan.take fun _ => r
  | .error _ => Scan.noMatch

def quotedPiece : Scan Piece := do
  if (← Scan.next?).any Glyph.isSpace then return .space (← Scan.take splitBlanks)
  else Scan.orElse (.encoded <$> encodedWord) (.plain <$> Scan.take (unescape ['"'] false))

/-- A quoted text, which begins here. It may lack its end. -/
def quotedCore : Scan Core := Scan.rewritten Core.written do
  Scan.skip
  if ← Scan.atEnd then return .openQuote
  let ps ← Scan.repeatWhile (!·.among ['"']) quotedPiece
  Scan.skip
  return .quoted (joinPieces false ps)

def atomText : Scan Glyphs := do
  let gs ← Scan.take fun s => s.span (!·.among atomEnds)
  if gs.isEmpty then Scan.noMatch else return gs

/-- An encoded word, or else an atom. -/
def atomCore : Scan Core :=
  Scan.orElse (.encoded <$> encodedWord) (.atom <$> atomText)

/-- A word. -/
def word : Scan Word := do
  let _ ← Scan.next
  let before ← gap
  let core ← if ← Scan.sees ['"'] then quotedCore else atomCore
  return ⟨before, core, ← gap⟩

/-! ## Phrases -/

/-- A part of a phrase. -/
inductive Part where
  | word (w : Word)
  | point
  | gap
deriving DecidableEq, Repr

def Part.text : Part → Glyphs
  | word w => w.text
  | point => [.char '.']
  | gap => [.char ' ']

def wordOrGap : Scan Part :=
  Scan.orElse (.word <$> word) ((fun _ => .gap) <$> someGap)

/-- A row of words, points and gaps. -/
abbrev Phrase := List Part

namespace Phrase

def furtherPart : Scan Part := do
  if ← Scan.sees ['.'] then
    Scan.skip
    return .point
  else wordOrGap

def scan : Scan Phrase := do
  let first ← Scan.orElse ((fun w => [.word w]) <$> word) (pure [])
  let rest ← Scan.repeatWhile (!·.among phraseEnds) furtherPart
  return first ++ rest

/-- A phrase without the gap at its beginning. A point has no place there. -/
def trimFirst : Phrase → Except HeaderFault Phrase
  | .gap :: ps => .ok ps
  | .word w :: ps => .ok (.word { w with before := [] } :: ps)
  | .point :: _ => .error .strayMark
  | [] => .error .cutShort

/-- A phrase without the gap at its end. A point has no place there either. -/
def trimLast (p : Phrase) : Except HeaderFault Phrase :=
  match p.getLast? with
  | some .gap => .ok p.dropLast
  | some (.word w) => .ok (p.dropLast ++ [.word { w with after := [] }])
  | some .point => .error .strayMark
  | none => .error .cutShort

def text (p : Phrase) : Except HeaderFault Glyphs :=
  if p.isEmpty then .ok []
  else do
    let p ← trimLast (← trimFirst p)
    return p.flatMap Part.text

end Phrase

end Passcode.Mail
