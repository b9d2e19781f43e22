import Passcode.Failure
import Passcode.Text.Lines

/-!
# Templates

Texts with placeholders. A dollar sign before another one stands for a dollar sign; a
dollar sign before a name, or before a name in braces, stands for the value of the name.
Any other dollar sign is an error at its line and column. Values go in as they are and
are not looked at again.
-/

namespace Passcode.Mail

def startsName (c : Char) : Bool := c.isAlpha || c = '_'

def continuesName (c : Char) : Bool := startsName c || c.isDigit

/-- What follows a dollar sign. -/
inductive Placeholder where
  | dollar
  | name (n : String)
  | invalid
deriving DecidableEq, Repr

/-- The placeholder at the characters after a dollar sign, and how many of them it
takes. -/
def Placeholder.at : List Char → Placeholder × Nat
  | '$' :: _ => (.dollar, 1)
  | '\x7b' :: cs =>
    let n := cs.takeWhile continuesName
    match n, cs.drop n.length with
    | first :: _, '\x7d' :: _ =>
      if startsName first then (.name (String.ofList n), n.length + 2) else (.invalid, 0)
    | _, _ => (.invalid, 0)
  | cs =>
    let n := cs.takeWhile continuesName
    match n with
    | first :: _ => if startsName first then (.name (String.ofList n), n.length) else (.invalid, 0)
    | [] => (.invalid, 0)

/-- The line and column of the last of the characters read so far, from 1. -/
def position (read : List Char) : Nat × Nat :=
  let ls := Text.lines read
  (ls.length, (ls.getLast?.getD []).length)

/-- Puts values into the characters of a template. `read` are the characters already
behind, `skip` those of a placeholder still to be passed over. -/
def expandChars (value? : String → Option String) :
    (read : List Char) → (skip : Nat) → List Char → Except Failure (List Char)
  | _, _, [] => .ok []
  | read, skip + 1, c :: cs => expandChars value? (read ++ [c]) skip cs
  | read, 0, c :: cs =>
    if c = '$' then
      match Placeholder.at cs with
      | (.dollar, n) => (expandChars value? (read ++ [c]) n cs).map ('$' :: ·)
      | (.name name, n) =>
        match value? name with
        | some v => (expandChars value? (read ++ [c]) n cs).map (v.toList ++ ·)
        | none => .error .unknownPlaceholder
      | (.invalid, _) =>
        let (line, column) := position (read ++ [c])
        .error (.misuse (.badPlaceholder line column))
    else (expandChars value? (read ++ [c]) 0 cs).map (c :: ·)

def expand (value? : String → Option String) (template : String) : Except Failure String :=
  (expandChars value? [] 0 template.toList).map String.ofList

end Passcode.Mail
