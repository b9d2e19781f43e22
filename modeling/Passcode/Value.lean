import Passcode.Decimal.Reading
import Passcode.Decimal.Shortest
import Passcode.Failure

/-!
# Values

The values that a caller may hand over: nothing, a truth value, a whole number of any
size, a floating-point number, a text, a list of values, or a table of named values.
`Value.toText` writes one out, `Value.shown` shows one in a message, and `Value.isTrue`
says which of them count as true. Whole numbers are read and written up to a limit of
digits; `Value.written` fails beyond it.
-/

namespace Passcode

/-- A whole number or a floating-point number. -/
inductive Number where
  | int (n : Int)
  | float (x : Float)
deriving Repr, Inhabited

/-- Whether the number is at most zero; not-a-number is not. -/
def Number.atMostZero : Number → Bool
  | .int n => n ≤ 0
  | .float x => x ≤ 0

/-- Whether the number is less than one; not-a-number is not. -/
def Number.belowOne : Number → Bool
  | .int n => n < 1
  | .float x => x < 1

def Number.toFloat : Number → Float
  | .int n => Decimal.ofInt n
  | .float x => x

/-- The number as a floating-point number, unless it is a whole number beyond them all. -/
def Number.inRange : Number → Except Failure Float
  | .int n => if (Decimal.ofInt n).isInf then .error .tooLarge else .ok (Decimal.ofInt n)
  | .float x => .ok x

/-- A value as it is handed over, before it is checked. -/
inductive Value where
  | none
  | bool (b : Bool)
  | int (n : Int)
  | float (x : Float)
  | text (s : String)
  | list (vs : List Value)
  | table (fs : List (String × Value))
deriving Repr, Inhabited

namespace Value

def ofNumber : Number → Value
  | .int n => .int n
  | .float x => .float x

def ofOption : Option String → Value
  | Option.none => .none
  | some s => .text s

mutual

/-- A value as it is shown in a message: a text stands in quotes, and the parts of a list
or a table stand between brackets, each as it is shown itself. -/
def shown : Value → String
  | .none => "None"
  | .bool true => "True"
  | .bool false => "False"
  | .int n => toString n
  | .float x => Decimal.floatText x
  | .text s => Text.quoted s
  | .list vs => "[" ++ ", ".intercalate (shownItems vs) ++ "]"
  | .table fs => "\x7b" ++ ", ".intercalate (shownFields fs) ++ "\x7d"

def shownItems : List Value → List String
  | [] => []
  | v :: vs => v.shown :: shownItems vs

def shownFields : List (String × Value) → List String
  | [] => []
  | (name, v) :: fs => (Text.quoted name ++ ": " ++ v.shown) :: shownFields fs

end

/-- The text of a value: a text is its own. -/
def toText : Value → String
  | .text s => s
  | v => v.shown

mutual

/-- Whether a value can be written out: no whole number in it has too many digits. -/
def isWritable : Value → Bool
  | .int n => Decimal.digitCount n.natAbs ≤ Decimal.maxDigits
  | .list vs => areWritable vs
  | .table fs => fieldsWritable fs
  | _ => true

def areWritable : List Value → Bool
  | [] => true
  | v :: vs => v.isWritable && areWritable vs

def fieldsWritable : List (String × Value) → Bool
  | [] => true
  | (_, v) :: fs => v.isWritable && fieldsWritable fs

end

/-- The text of a value that can be written out. -/
def written (v : Value) : Except Failure String :=
  if v.isWritable then .ok v.toText else .error (.misuse .tooManyDigits)

/-- The text that a value is, if it is one. -/
def text? : Value → Option String
  | .text s => some s
  | _ => Option.none

/-- The number that a value is; a truth value counts as one or zero. -/
def number : Value → Except Failure Number
  | .int n => .ok (.int n)
  | .float x => .ok (.float x)
  | .bool b => .ok (.int (if b then 1 else 0))
  | _ => .error .badArgument

/-- Whether a value counts as true: not nothing, not zero, not empty. -/
def isTrue : Value → Bool
  | .none => false
  | .bool b => b
  | .int n => n != 0
  | .float x => x != 0
  | .text s => s != ""
  | .list vs => !vs.isEmpty
  | .table fs => !fs.isEmpty

end Value

end Passcode
