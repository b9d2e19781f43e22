import Passcode.Mail.Phrase

/-!
# Address lists

The addresses of a header: mailboxes, each with a name or without one, and named groups
of mailboxes. The reader takes whatever it is given: what is no address is read as a
mailbox without any part, up to the next comma, and so is what follows an address before
the comma, which then counts for nothing.

`AddressList.text` writes the addresses out in one form: a name is put in quotation marks
where it needs them, and comments and needless white space are left out.
-/

namespace Passcode.Mail

/-! ## Local parts -/

/-- A part of a local part that is written loosely. -/
inductive LoosePart where
  | word (w : Word)
  | point
  | backslash
  | gap
deriving DecidableEq, Repr

def LoosePart.text : LoosePart → Glyphs
  | word w => w.text
  | point => [.char '.']
  | backslash => [.char '\\']
  | gap => [.char ' ']

/-- The part of an address before the at sign: one word or a row of atoms with points
between them, or anything looser. -/
inductive LocalPart where
  | plain (c : Core)
  | loose (ps : List LoosePart)
deriving DecidableEq, Repr

namespace LocalPart

/-- The texts of loose parts. A word loses the gap on a side where a point or nothing
stands next to it; `pointed` says whether a point or nothing precedes. -/
def looseTexts : (pointed : Bool) → List LoosePart → Glyphs
  | _, [] => []
  | pointed, .word w :: ps =>
    let before := if pointed then [] else w.before
    let after := if ps.isEmpty || ps.head? = some .point then [] else w.after
    Word.text { w with before, after } ++ looseTexts false ps
  | _, p :: ps => p.text ++ looseTexts (p = .point) ps

/-- What a local part says. A word that says nothing at all is a fault. -/
def text : LocalPart → Except HeaderFault Glyphs
  | plain (.encoded []) | plain .openQuote => .error .cutShort
  | plain c => .ok c.text
  | loose ps => .ok (looseTexts true (ps.filter (· ≠ .gap)))

end LocalPart

def goesOnLocal (g : Glyph) : Bool := g.among ['\\'] || !g.among phraseEnds

def pointedAtom : Scan (Glyphs × Bool) := do
  let gs ← atomText
  if ← Scan.sees ['.'] then
    Scan.skip
    return (gs ++ [.char '.'], true)
  else return (gs, false)

/-- Atoms with points between them, and none at the end. -/
def dottedText : Scan Glyphs := do
  let ps ← Scan.repeatWhile (!·.among atomEnds) pointedAtom
  match ps.getLast? with
  | some (_, false) => return ps.flatMap (·.1)
  | _ => Scan.noMatch

/-- An encoded word or atoms with points between them, and the gap after. -/
def dottedCore : Scan (Core × Glyphs) := do
  let c ← Scan.orElse (.encoded <$> encodedWord) (.atom <$> dottedText)
  return (c, ← gap)

/-- A part of a local part that is written loosely. -/
def loosePart : Scan LoosePart := do
  if ← Scan.sees ['.'] then
    Scan.skip
    return .point
  else if ← Scan.sees ['\\'] then
    Scan.skip
    return .backslash
  else
    match ← wordOrGap with
    | .word w => return .word w
    | _ => return .gap

def looseLocal : Scan LocalPart := do
  match ← Scan.repeatWhile goesOnLocal loosePart with
  | [] | [.gap] => Scan.fault .cutShort
  | ps => return .loose ps

/-- The part of an address before the at sign. If it goes on after its first word, all of
it is read anew, with the word as it is meant and the gaps around it written anew. -/
def localPart : Scan LocalPart := do
  let _ ← Scan.next
  let start := (← get).written
  let before ← gap
  if ← Scan.atEnd then Scan.noMatch
  let first ← Scan.orElse ((fun r => some r) <$> dottedCore)
    (Scan.orElse ((fun w => some (w.core, w.after)) <$> word) do
      if (← Scan.next?).any goesOnLocal then return none else Scan.noMatch)
  if (← Scan.next?).any goesOnLocal then
    let written := match first with
      | some (c, after) => c.written ++ rewriteGap 0 false after
      | none => []
    Scan.resume start (rewriteGap 0 false before ++ written)
    looseLocal
  else
    match first with
    | some (c, _) => return .plain c
    | none => Scan.noMatch

/-! ## Domains -/

/-- The glyphs without any white space. -/
def unspaced (gs : Glyphs) : Glyphs := gs.filter (!·.isBlank)

/-- The white space that begins here with a space or a tab. -/
def spaces : Scan Unit := do
  if (← Scan.next?).any Glyph.isSpace then
    let _ ← Scan.take splitBlanks

/-- A domain in brackets; nothing if the header ends before the bracket is closed. -/
def bracketed : Scan (Option Glyphs) := do
  Scan.skip
  if ← Scan.atEnd then return none
  spaces
  if ← Scan.atEnd then Scan.fault .blankBracket
  let gs ← Scan.take (unescape ['[', ']'] false)
  spaces
  if ← Scan.atEnd then return none
  if ← Scan.sees [']'] then
    Scan.skip
    let _ ← gap
    return some ([.char '['] ++ unspaced gs ++ [.char ']'])
  else Scan.noMatch

def spacedAtom : Scan Core := do
  let _ ← gap
  let c ← atomCore
  let _ ← gap
  return c

def furtherAtom : Scan Core := do
  Scan.skip
  spacedAtom

/-- The part of an address after the at sign; nothing if it is a bracket that is never
closed. -/
def domain : Scan (Option Glyphs) := do
  let _ ← Scan.next
  let _ ← gap
  if ← Scan.sees ['['] then bracketed
  else
    let first ← Scan.orElse ((fun r => r.1) <$> dottedCore) spacedAtom
    if ← Scan.sees ['@'] then Scan.noMatch
    else
      let further ← Scan.repeatWhile (·.among ['.']) furtherAtom
      return some (unspaced (first.text ++ further.flatMap fun c => .char '.' :: c.text))

/-! ## Mailboxes -/

/-- One address. Any of its parts may be missing. -/
structure Mailbox where
  name : Option Phrase := none
  localPart : Option LocalPart := none
  domain : Option Glyphs := none
deriving DecidableEq, Repr

/-- A bare address: a local part, and a domain after an at sign if one follows. The flag
tells a domain that is a bracket never closed. -/
def bareAddress : Scan (Mailbox × Bool) := do
  let l ← localPart
  if ← Scan.sees ['@'] then
    Scan.skip
    let d ← domain
    return ({ localPart := l, domain := d }, d.isNone)
  else return ({ localPart := l }, false)

def routeDomain : Scan Unit := do
  Scan.skip
  let _ ← domain

def routeComma : Scan Unit := do
  Scan.skip
  unless ← Scan.atEnd do
    let _ ← gap
    let _ ← Scan.next
    if ← Scan.sees ['@'] then routeDomain

/-- A route: the domains that a message is to pass through, in front of an address. -/
def route : Scan Unit := do
  let _ ← Scan.repeatWhile (·.among (',' :: gapStarts)) do
    if ← Scan.sees [','] then Scan.skip else let _ ← gap
  unless ← Scan.sees ['@'] do Scan.noMatch
  routeDomain
  let _ ← Scan.repeatWhile (·.among [',']) routeComma
  unless ← Scan.sees [':'] do Scan.noMatch
  Scan.skip

/-- An address in angle brackets. The closing bracket may be missing. -/
def angleAddress : Scan (Mailbox × Bool) := do
  let _ ← gap
  unless ← Scan.sees ['<'] do Scan.noMatch
  Scan.skip
  let _ ← Scan.next
  if ← Scan.sees ['>'] then
    Scan.skip
    return ({}, false)
  else
    let r ← Scan.orElse bareAddress do
      route
      bareAddress
    Scan.close '>'
    let _ ← gap
    return r

def addressName : Scan (Option Phrase) := do
  let _ ← Scan.next
  let before ← gap
  if ← Scan.sees ['<'] then return none
  else
    if ← Scan.sees phraseEnds then Scan.noMatch
    if ← Scan.atEnd then Scan.noMatch
    let name ← Phrase.scan
    if ← Scan.atEnd then Scan.noMatch
    if !before.isEmpty && name.head? = some .point then Scan.fault .gapBeforeMark
    return some name

/-- An address in angle brackets, with a name or without one. -/
def namedAddress : Scan (Mailbox × Bool) := do
  let name ← addressName
  let (m, broken) ← angleAddress
  return ({ m with name }, broken)

def mailbox : Scan Mailbox := do
  let (m, broken) ← Scan.orElse namedAddress bareAddress
  if broken then Scan.fault .strayMark else return m

def stray (ends : List Char) : Scan Unit := do
  let _ ← Scan.repeatWhile (!·.among ends) do
    if ← Scan.sees phraseEnds then Scan.skip else let _ ← Phrase.scan

/-- What stands in a list where no entry can be read: an entry that is nothing but white
space is none, and anything else is a mailbox without any part. -/
def strayEntry (ends : List Char) : Scan (Option Mailbox) := do
  let before ← gap
  if before.isEmpty then
    if ← Scan.sees [','] then return none
  else
    if (← Scan.atEnd) || (← Scan.sees ends) then return none
  stray ends
  return some {}

def mailboxEntry : Scan (Option Mailbox) := do
  let m ← Scan.orElse (some <$> mailbox) (strayEntry [',', ';'])
  stray [',', ';']
  if ← Scan.sees [','] then Scan.skip
  return m

def mailboxes : Scan (List Mailbox) := do
  let ms ← Scan.repeatWhile (!·.among [';']) mailboxEntry
  return ms.filterMap id

/-! ## Addresses -/

/-- An entry of an address list: a mailbox, a group, or a group with something after it
that does not belong there. -/
inductive Address where
  | mailbox (m : Mailbox)
  | group (name : Phrase) (members : List Mailbox)
  | brokenGroup (name : Phrase)
deriving DecidableEq, Repr

/-- A group. The semicolon at its end may be missing where the header ends. -/
def group : Scan Address := do
  let name ← Phrase.scan
  unless ← Scan.sees [':'] do Scan.noMatch
  Scan.skip
  if ← Scan.sees [';'] then
    Scan.skip
    return .group name []
  else
    let _ ← gap
    let members ← mailboxes
    Scan.close ';'
    let _ ← gap
    return .group name members

/-- An entry after which something stands that does not belong there. -/
def Address.followed : Address → Address
  | .group name _ => .brokenGroup name
  | a => a

/-- An address that can be read, together with what does not belong to it. -/
def address : Scan Address := do
  let a ← Scan.orElse group (.mailbox <$> mailbox)
  if (← Scan.next?).any (!·.among [',']) then
    stray [',']
    return a.followed
  else return a

def addressEntry : Scan (Option Address) := do
  let a ← Scan.orElse (some <$> address) do
    return (← strayEntry [',']).map .mailbox
  Scan.skip
  return a

/-- An address list. It goes to the end of the text. -/
def addressList : Scan (List Address) := do
  return (← Scan.repeatWhile (fun _ => true) addressEntry).filterMap id

/-! ## Texts -/

/-- A name, in quotation marks if a special character is in it. -/
def quotedName (gs : Glyphs) : Glyphs := if gs.mention specials then gs.inQuotes else gs

/-- A local part, in quotation marks if a special character other than a point or a space
is in it. -/
def quotedLocal (gs : Glyphs) : Glyphs :=
  if gs.mention (atomEnds.filter (· ≠ '.')) then gs.inQuotes else gs

/-- Glyphs between two others. -/
def enclose (left right : Char) (gs : Glyphs) : Glyphs := [.char left] ++ gs ++ [.char right]

def commaList : List Glyphs → Glyphs
  | [] => []
  | [gs] => gs
  | gs :: rest => gs ++ [.char ',', .char ' '] ++ commaList rest

namespace Mailbox

/-- A mailbox written out, from its name and what stands before and after the at sign. -/
def write (name user domain : Glyphs) : Glyphs :=
  let bare := quotedLocal user ++ if domain.isEmpty then [] else .char '@' :: domain
  if name.isEmpty then if bare.isEmpty then enclose '<' '>' [] else bare
  else quotedName name ++ [.char ' '] ++ enclose '<' '>' bare

/-- What a mailbox says. No part of it may hold the end of a line. -/
def text (m : Mailbox) : Except Failure Glyphs := do
  let name ← match m.name with
    | some p => p.text.mapError .header
    | none => .ok []
  let user ← match m.localPart with
    | some l => l.text.mapError .header
    | none => .ok []
  let domain := m.domain.getD []
  if (name ++ user ++ domain).mention ['\r', '\n'] then .error (.misuse .lineEndInAddress)
  else return write name user domain

end Mailbox

def Address.text : Address → Except Failure Glyphs
  | .mailbox m => m.text
  | .brokenGroup name => do
    let _ ← name.text.mapError .header
    .error (.header .strayMark)
  | .group name members => do
    let title ← name.text.mapError .header
    let texts ← members.mapM Mailbox.text
    let body := if texts.isEmpty then [] else .char ' ' :: commaList texts
    return quotedName title ++ [.char ':'] ++ body ++ [.char ';']

/-- The entries of the address list in a text, and the list as it is written anew. -/
def readAddresses (s : String) : Except Failure (List Address × Glyphs) :=
  match addressList ⟨Glyphs.ofString s, []⟩ with
  | .ok (entries, c) => .ok (entries, c.written.reverse)
  | .error (.fault f) => .error (.header f)
  | .error .noMatch => .error (.header .cutShort)

def addressText (s : String) : Except Failure String := do
  finalText (commaList (← (← readAddresses s).1.mapM Address.text))

/-- The address list in a text as it goes into a message: as it was given, but encoded words
are what they mean, and marks that are missing at an end are there. -/
def addressLine (s : String) : String :=
  match readAddresses s with
  | .ok (_, written) => written.toText
  | .error _ => s

end Passcode.Mail
