import Passcode.Text.CodePage.Iso8859
import Passcode.Text.Decoder
import Passcode.Text.Decoder.Japanese
import Passcode.Text.Decoder.Korean
import Passcode.Text.Plane.Gb2312

/-!
# ISO 2022

Charsets that switch between sets of characters. An escape sequence designates a set to
one of three slots; the octets that follow are read in the set of the first slot, or of the
second one after a shift, and a single octet after another mark is read in the third one.
An escape sequence of another kind is text up to its end.
-/

namespace Passcode.Text

/-- A set of characters that can be designated. -/
inductive GraphicSet where
  | ascii
  | roman
  | kana
  | jis0208
  | jis0212
  | jis0213First (e : JisEdition)
  | jis0213Second
  | ksx1001
  | gb2312
  | westEuropean
  | greek
deriving DecidableEq, Repr

namespace GraphicSet

/-- What the octets at the beginning mean in a set: a text, and how many octets it takes. The
sets of the third slot have no meaning elsewhere. -/
def text? (set : GraphicSet) (bs : List UInt8) : Option (String × Nat) :=
  let one (c? : UInt8 → Option Char) : Option (String × Nat) := do
    return (String.ofList [← c? (← bs.head?)], 1)
  let two (text? : Nat → Nat → Option String) : Option (String × Nat) :=
    match bs with
    | a :: b :: _ => (text? a.toNat b.toNat).map fun s => (s, 2)
    | _ => none
  let twoOf (c? : Nat → Nat → Option Char) : Option (String × Nat) :=
    two fun a b => (c? a b).map fun c => String.ofList [c]
  match set with
  | ascii => one Decoder.asciiChar?
  | roman => one Decoder.romanChar?
  | kana => one fun b => if b < 0x80 then narrowKana? (b + 0x80) else none
  | jis0208 => twoOf jis0208Char?
  | jis0212 => twoOf Plane.jis0212.char?
  | jis0213First e => two (e.first? jis0208Char?)
  | jis0213Second => twoOf Plane.jis0213Second.char?
  | ksx1001 => twoOf Plane.ksx1001.char?
  | gb2312 => twoOf Plane.gb2312.char?
  | westEuropean | greek => none

/-- The places of the Greek page that its older edition left empty. -/
def newInGreek : List UInt8 := [0xA4, 0xA5, 0xAA]

/-- The character of an octet in the upper half of a set. -/
def upperChar? (set : GraphicSet) (b : UInt8) : Option Char :=
  match set with
  | ascii => Decoder.asciiChar? b
  | westEuropean => if b < 0x80 then some (Char.ofNat (b.toNat + 0x80)) else none
  | greek =>
    let c := b ^^^ 0x80
    if c ∈ newInGreek then none else CodePage.iso8859Part7.char? c
  | _ => none

end GraphicSet

namespace Iso2022

/-- A set under the octet that names it in an escape sequence, and whether a sequence for sets
of two octets names it. -/
structure Named where
  double : Bool
  letter : UInt8
  set : GraphicSet

/-- What a charset of this kind has: the sets besides ASCII, whether octets shift to the
second slot, whether there is a third slot, and whether a mark of revision may stand before
a designation of JIS X 0208. -/
structure Repertoire where
  sets : List Named
  shifts : Bool := false
  third : Bool := false
  revised : Bool := true

/-- A slot for a set. -/
inductive Slot where
  | first
  | second
  | third
deriving DecidableEq, Repr

/-- What has been designated, whether the second slot is in use, and whether an escape
sequence is being passed over. -/
structure State where
  first : GraphicSet := .ascii
  second : GraphicSet := .ascii
  third : GraphicSet := .ascii
  shifted : Bool := false
  passing : Bool := false
deriving Repr

def endsSequence (b : UInt8) : Bool := 0x40 ≤ b && b ≤ 0x5A

/-- Whether an octet after the escape character begins a designation. -/
def beginsDesignation (b : UInt8) : Bool := b ∈ [0x24, 0x26, 0x28, 0x29, 0x2E]

/-- A designation: the slot, whether it is for sets of two octets, the octet that names the
set, and the length of the sequence. -/
structure Designation where
  slot : Slot
  double : Bool
  letter : UInt8
  length : Nat

/-- The designation of JIS X 0208 with a mark of two octets before it. The mark of its
revision has the form of an end of a sequence. -/
def revised? : List UInt8 → Option Designation
  | a :: b :: 0x1B :: 0x24 :: 0x42 :: _ =>
    if !endsSequence b || (a = 0x26 && b = 0x40) then some ⟨.first, true, 0x42, 6⟩ else none
  | _ => none

def alone? (third : Bool) : List UInt8 → Option Designation
  | 0x24 :: 0x28 :: f :: _ => some ⟨.first, true, f, 4⟩
  | 0x24 :: 0x29 :: f :: _ => some ⟨.second, true, f, 4⟩
  | 0x24 :: f :: _ => some ⟨.first, true, f, 3⟩
  | 0x28 :: f :: _ => some ⟨.first, false, f, 3⟩
  | 0x29 :: f :: _ => some ⟨.second, false, f, 3⟩
  | 0x2E :: f :: _ => if third then some ⟨.third, false, f, 3⟩ else none
  | _ => none

def Repertoire.designation? (r : Repertoire) (bs : List UInt8) : Option Designation :=
  (if r.revised then revised? bs else none).or (alone? r.third bs)

def Repertoire.set? (r : Repertoire) (d : Designation) : Option GraphicSet :=
  if !endsSequence d.letter then none
  else if d.letter = 0x42 ∧ !d.double then some .ascii
  else (r.sets.find? fun s => s.double = d.double && s.letter = d.letter).map (·.set)

def State.designate (s : State) (slot : Slot) (set : GraphicSet) : State :=
  match slot with
  | .first => { s with first := set }
  | .second => { s with second := set }
  | .third => { s with third := set }

/-- What octets after an escape character mean. -/
def escaped (r : Repertoire) (s : State) (bs : List UInt8) : Reading × State :=
  match bs with
  | [] => (.fault 1, s)
  | b :: rest =>
    if beginsDesignation b then
      match (r.designation? bs).bind fun d => (r.set? d).map fun set => (d, set) with
      | some (d, set) => (.glyphs [] d.length, s.designate d.slot set)
      | none => (.fault 1, s)
    else if r.third ∧ b = 0x4E then
      (.ofChar? (rest.head?.bind s.third.upperChar?) 3, s)
    else (.ofChar '\x1B' 1, { s with passing := true })

/-- What octets mean in the set that is in use. -/
def inUse (s : State) (bs : List UInt8) : Reading × State :=
  match (if s.shifted then s.second else s.first).text? bs with
  | some (t, taken) => (.glyphs (Glyphs.ofString t) taken, s)
  | none => (.fault 1, s)

def decoder (r : Repertoire) : Decoder State
  | s, b :: bs =>
    if s.passing then (.ofOctet b, { s with passing := !endsSequence b })
    else if b = 0x1B then escaped r s bs
    else if r.shifts ∧ b = 0x0F then (.glyphs [] 1, { s with shifted := false })
    else if r.shifts ∧ b = 0x0E then (.glyphs [] 1, { s with shifted := true })
    else if b = 0x0A then (.ofOctet b, { s with shifted := false })
    else if b < 0x20 then (.ofOctet b, s)
    else if 0x80 ≤ b then (.fault 1, s)
    else inUse s (b :: bs)
  | s, [] => (.fault 1, s)

/-! ## Repertoires -/

/-- JIS X 0208, in the editions of 1983 and of 1978. -/
def sets0208 : List Named := [⟨true, 0x42, .jis0208⟩, ⟨true, 0x40, .jis0208⟩]

/-- JIS X 0208 and the Roman set of JIS X 0201. -/
def japanese : Repertoire where
  sets := sets0208 ++ [⟨false, 0x4A, .roman⟩]

/-- The Japanese sets with the supplementary characters. -/
def japanese1 : Repertoire where
  sets := japanese.sets ++ [⟨true, 0x44, .jis0212⟩]

/-- The Japanese sets with those of Korean, Chinese, Greek and the languages of Western
Europe. -/
def japanese2 : Repertoire where
  sets := japanese1.sets ++
    [⟨true, 0x43, .ksx1001⟩, ⟨true, 0x41, .gb2312⟩, ⟨false, 0x41, .westEuropean⟩,
     ⟨false, 0x46, .greek⟩]
  third := true

/-- JIS X 0208 and JIS X 0213 in its first edition. -/
def japanese3 : Repertoire where
  sets := [⟨true, 0x42, .jis0208⟩, ⟨true, 0x4F, .jis0213First .of2000⟩,
    ⟨true, 0x50, .jis0213Second⟩]

/-- JIS X 0208 and JIS X 0213 in its second edition. -/
def japanese2004 : Repertoire where
  sets := [⟨true, 0x42, .jis0208⟩, ⟨true, 0x51, .jis0213First .of2004⟩,
    ⟨true, 0x50, .jis0213Second⟩]

/-- The Japanese sets with the supplementary characters and the narrow katakana. -/
def japaneseExtended : Repertoire where
  sets := japanese1.sets ++ [⟨false, 0x49, .kana⟩]

def korean : Repertoire where
  sets := [⟨true, 0x43, .ksx1001⟩]
  shifts := true
  revised := false

end Iso2022

end Passcode.Text
