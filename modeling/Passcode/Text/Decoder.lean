import Passcode.Text.Glyph

/-!
# Decoders

How the octets of a charset are read. A decoder says what stands at the beginning of some
octets: glyphs, with the number of octets that they take up, or a fault, with the number
of octets that it is about. It may have a state, which goes on to the octets that follow.

`Decoder.run` reads octets to their end. At a fault it keeps up to four octets, as far as
they are beyond ASCII, and goes on after them; a fault that begins with an octet of ASCII
is beyond help.
-/

namespace Passcode.Text

/-- What stands at the beginning of some octets. -/
inductive Reading where
  | glyphs (gs : Glyphs) (taken : Nat)
  | fault (length : Nat)
deriving DecidableEq, Repr

namespace Reading

def ofChar (c : Char) (taken : Nat) : Reading := .glyphs [.char c] taken

/-- One character, or a fault in one octet if there is none. -/
def ofChar? (c : Option Char) (taken : Nat) : Reading :=
  match c with
  | some c => ofChar c taken
  | none => .fault 1

/-- Some characters, or a fault in one octet if there are none. -/
def ofText? (s : Option String) (taken : Nat) : Reading :=
  match s with
  | some s => .glyphs (Glyphs.ofString s) taken
  | none => .fault 1

def ofOctet (b : UInt8) : Reading := ofChar (Char.ofNat b.toNat) 1

end Reading

/-- A reader of the beginning of some octets, with a state. -/
abbrev Decoder (σ : Type) := σ → List UInt8 → Reading × σ

namespace Decoder

variable {σ : Type}

def stateless (read : List UInt8 → Reading) : Decoder Unit := fun _ bs => (read bs, ())

/-- ASCII as it is, and anything else as a reader reads it. -/
def asciiOr (read : UInt8 → List UInt8 → Reading) : List UInt8 → Reading
  | [] => .fault 1
  | b :: bs => if b < 0x80 then .ofOctet b else read b bs

/-- ASCII as it is, and any other octet together with the one after it. -/
def pairs (char? : Nat → Nat → Option Char) : List UInt8 → Reading :=
  asciiOr fun a bs =>
    match bs with
    | [] => .fault 1
    | b :: _ => .ofChar? (char? a.toNat b.toNat) 2

/-- The octets of a fault that are kept. -/
def kept (length : Nat) (bs : List UInt8) : List UInt8 :=
  (bs.take (min length 4)).takeWhile (0x80 ≤ ·)

/-- What octets mean, read in so many steps at most; nothing if they are beyond help. -/
def runWithin (read : Decoder σ) : (steps : Nat) → σ → List UInt8 → Option Glyphs
  | _, _, [] => some []
  | 0, _, _ :: _ => none
  | n + 1, s, b :: bs =>
    match read s (b :: bs) with
    | (.glyphs gs taken, t) => do
      return gs ++ (← runWithin read n t ((b :: bs).drop (max taken 1)))
    | (.fault length, t) =>
      match kept length (b :: bs) with
      | [] => none
      | os => do return os.map .octet ++ (← runWithin read n t ((b :: bs).drop os.length))

/-- What octets mean; nothing if they are beyond help. -/
def run (read : Decoder σ) (start : σ) (bs : List UInt8) : Option Glyphs :=
  runWithin read bs.length start bs

end Decoder

end Passcode.Text
