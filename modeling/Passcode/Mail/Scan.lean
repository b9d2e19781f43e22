import Passcode.Failure
import Passcode.Text.Glyph

/-!
# Scanning headers

Readers of the beginning of a text. A reader answers and leaves what follows; or it finds
nothing that it could read, and then another reader may have a try at the same place; or
it comes upon a fault, which ends everything. Along with that it says how what it has read
is written anew.
-/

namespace Passcode.Mail

/-- The text that some glyphs are in the end. Halves of characters cannot be written. -/
def finalText (gs : Glyphs) : Except Failure String :=
  match gs.firstUnit? Glyph.half? with
  | some (unit, position, count) => .error (.halves unit.toNat position count)
  | none => .ok gs.toText

/-- Why a reader does not answer. -/
inductive Stop where
  | noMatch
  | fault (f : HeaderFault)
deriving DecidableEq, Repr

/-- How far the reading of a text has come: what follows, and what has been read in the form
in which it is written anew, the last glyph first. -/
structure Cursor where
  rest : Glyphs
  written : Glyphs := []
deriving DecidableEq, Repr

/-- A reader of the beginning of a text. -/
abbrev Scan := StateT Cursor (Except Stop)

namespace Scan

variable {α : Type}

/-! ## Reading -/

/-- Finds nothing to read. -/
def noMatch : Scan α := throw .noMatch

def fault (f : HeaderFault) : Scan α := throw (.fault f)

/-- One reader, or another one in its place if it finds nothing. -/
def orElse (p q : Scan α) : Scan α := fun s =>
  match p s with
  | .error .noMatch => q s
  | r => r

def next? : Scan (Option Glyph) := do return (← get).rest.head?

/-- The next glyph, where the text must not end. -/
def next : Scan Glyph := do
  match ← next? with
  | some g => return g
  | none => fault .cutShort

def atEnd : Scan Bool := do return (← get).rest.isEmpty

def sees (cs : List Char) : Scan Bool := do return (← next?).any (·.among cs)

/-- Takes the glyphs that a division of the text puts in front. -/
def take (divide : Glyphs → Glyphs × Glyphs) : Scan Glyphs :=
  modifyGet fun c =>
    let (gs, rest) := divide c.rest
    (gs, ⟨rest, gs.reverse ++ c.written⟩)

def skip : Scan Unit := do
  let _ ← take fun s => s.splitAt 1

/-- Reads again and again as long as the next glyph is of a kind, at most so many times. -/
def repeatWithin (going : Glyph → Bool) (p : Scan α) : (times : Nat) → Scan (List α)
  | 0 => return []
  | n + 1 => do
    if (← next?).any going then
      let a ← p
      return a :: (← repeatWithin going p n)
    else return []

/-- Reads again and again as long as the next glyph is of a kind. A reader that takes at
least one glyph comes to an end. -/
def repeatWhile (going : Glyph → Bool) (p : Scan α) : Scan (List α) := do
  repeatWithin going p (← get).rest.length

/-! ## Writing anew -/

/-- Passes over a character, or supplies it if it is missing. -/
def close (mark : Char) : Scan Unit := do
  if ← sees [mark] then skip
  else modify fun c => { c with written := .char mark :: c.written }

/-- A reader whose answer is written in a form of its own. -/
def rewritten (form : α → Glyphs) (p : Scan α) : Scan α := do
  let before := (← get).written
  let a ← p
  modify fun c => { c with written := (form a).reverse ++ before }
  return a

/-- Goes back to where the given glyphs had been written, with another text in the place of
what has been read since. The glyphs are as a cursor has them. -/
def resume (written text : Glyphs) : Scan Unit :=
  modify fun c => ⟨text ++ c.rest, written⟩

end Scan

end Passcode.Mail
