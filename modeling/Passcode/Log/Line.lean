import Passcode.Log.Event
import Passcode.Text.Lines
import Passcode.Text.Quoted

/-!
# Log lines

How a host program shows events: a threshold below which nothing is shown, and lines
that are either sets of named fields or plain text. Every line carries the name of the
service, which an event's own field of that name replaces; its level, logger and time
stand over fields of the same names. In plain text a stack and an exception follow on
lines of their own, and an event that is handed over as an exception is followed by a
line for the exception at hand, of which there is none.
-/

namespace Passcode.Log

/-! ## Levels -/

/-- The number of a level; events are shown from the threshold upward. -/
def levelNumber : Level → Nat
  | .debug => 10
  | .info => 20
  | .warning => 30
  | .error => 40
  | .critical => 50

def thresholds : List (String × Nat) :=
  [("CRITICAL", 50), ("FATAL", 50), ("ERROR", 40), ("WARNING", 30), ("WARN", 30), ("INFO", 20),
   ("DEBUG", 10), ("NOTSET", 0)]

/-- The capitals of a letter, as far as capitals of ASCII go: besides the small letters of
ASCII, the dotless i, the long s, and the ligatures of s and t have them. -/
def capitals (c : Char) : List Char :=
  if c = '\u0131' then ['I']
  else if c = '\u017F' then ['S']
  else if c = '\uFB05' ∨ c = '\uFB06' then ['S', 'T']
  else [c.toUpper]

/-- The threshold of a name in any case; the usual one for an unknown name. Two names
stand for things that are no thresholds: the usual layout of a line, and the styles of
layouts. -/
def threshold (name : String) : Except Failure Nat :=
  let wanted := String.ofList (name.toList.flatMap capitals)
  if wanted = "BASIC_FORMAT" then
    .error (.misuse (.other "Unknown level: '%(levelname)s:%(name)s:%(message)s'"))
  else if wanted = "_STYLES" then .error .badArgument
  else .ok (((thresholds.find? (·.1 = wanted)).map (·.2)).getD 20)

/-- The level of the word by which an event is handed over. -/
def level? (word : String) : Option Level :=
  match word with
  | "debug" => some .debug
  | "info" => some .info
  | "warning" | "warn" => some .warning
  | "error" | "exception" => some .error
  | "critical" | "fatal" => some .critical
  | _ => none

/-! ## Entries -/

/-- An event as a host program hands it over: the word for its level, what happened, and
named fields. -/
structure Call where
  level : Value
  event : Value
  fields : List (String × Value) := []
deriving Repr

/-- An event of a host program. -/
structure Entry where
  level : Level
  event : Value
  fields : List (String × Value) := []
  asException : Bool := false
deriving Repr

def takenNames : List String := ["event", "self", "method_name"]

def Call.entry (c : Call) : Except Failure Entry :=
  match c.level with
  | .text word =>
    match level? word with
    | some l =>
      if c.fields.any (·.1 ∈ takenNames) then .error .badArgument
      else .ok ⟨l, c.event, c.fields, word = "exception"⟩
    | none => .error .unknownLevel
  | _ => .error .badArgument

/-! ## Lines -/

/-- How events are shown. -/
structure Setup where
  service : Value
  level : Value := .text "INFO"
  asFields : Bool := true
deriving Repr

def Setup.setField (s : Setup) (name : String) (v : Value) : Except Failure Setup :=
  match name with
  | "service_name" => .ok { s with service := v }
  | "level" => .ok { s with level := v }
  | "json_output" => .ok { s with asFields := v.isTrue }
  | _ => .error .badArgument

/-- The setup of some named fields, among which the service must be. -/
def Setup.ofFields (fields : List (String × Value)) : Except Failure Setup :=
  if fields.any (·.1 = "service_name") then
    fields.foldlM (fun s f => s.setField f.1 f.2) { service := .none }
  else .error .badArgument

/-- A line of a log. -/
inductive Line where
  | fields (fs : List (String × Value))
  | text (s : String)
deriving Repr

def loggerName : String := "stepup_otp"

/-- What stands for the time. -/
def timeMark : String := "<time>"

/-- The names of the parts of a line that are not an event's own fields. The last two ask
for a trace, of which there is none. -/
def ownNames : List String := ["level", "logger", "timestamp", "exc_info", "stack_info"]

/-- The fields that an entry is shown with, besides those that every line has. -/
def extraFields (s : Setup) (e : Entry) : List (String × Value) :=
  let own := e.fields.filter fun f => f.1 ∉ ownNames
  if own.any (·.1 = "service") then own else ("service", s.service) :: own

/-- A field put in front of the first field whose name does not precede its own. -/
def insertField (f : String × Value) : List (String × Value) → List (String × Value)
  | [] => [f]
  | g :: rest => if f.1 ≤ g.1 then f :: g :: rest else g :: insertField f rest

/-- The text of a value: quoted if it is a text with white space, a quote or an equals
sign in it. -/
def valueText : Value → String
  | .text s =>
    if s.toList.any fun c => c ∈ [' ', '\t', '=', '\r', '\n', '"', '\''] then Text.quoted s else s
  | v => v.toText

/-- Characters with every run of spaces made one space. -/
def squeeze : List Char → List Char
  | ' ' :: ' ' :: cs => squeeze (' ' :: cs)
  | c :: cs => c :: squeeze cs
  | [] => []

/-- How long the colour mark at the beginning of some characters is. -/
def colourLength : List Char → Nat
  | '\x1b' :: '[' :: cs =>
    let n := (cs.takeWhile fun c => c.isDigit || c = ';').length
    if (cs.drop n).head? = some 'm' then n + 3 else 0
  | _ => 0

/-- Characters without the colour marks in them, and without the first `skip`. -/
def uncoloured : (skip : Nat) → List Char → List Char
  | _, [] => []
  | skip + 1, _ :: cs => uncoloured skip cs
  | 0, c :: cs =>
    match colourLength (c :: cs) with
    | 0 => c :: uncoloured 0 cs
    | n + 1 => uncoloured n cs

/-- The names of the fields that have a place of their own in plain text. -/
def placedNames : List String := ["", "logger_name", "stack", "exception"]

def textField (e : Entry) (name : String) : Except Failure (Option String) :=
  match e.fields.find? (·.1 = name) with
  | none | some (_, .none) => .ok none
  | some (_, .text s) => .ok (some s)
  | some _ => .error .badArgument

/-- The line between a stack and an exception. -/
def rule : String := String.ofList (List.replicate 79 '=')

/-- What is said of the exception at hand where there is none. -/
def noException : String := "NoneType: None"

def fieldText (f : String × Value) : String := f.1 ++ "=" ++ valueText f.2

/-- The first line of an entry in plain text: the field without a name, the time, the level,
the event, the loggers, and the other fields by name. -/
def headline (s : Setup) (e : Entry) : String :=
  let event := match e.event with
    | .none => []
    | v => [v.toText]
  let loggers := .text loggerName :: (e.fields.filter (·.1 = "logger_name")).map (·.2)
  let others := ((extraFields s e).filter (·.1 ∉ placedNames)).foldr insertField []
  let nameless := e.fields.filter (·.1 = "")
  " ".intercalate (nameless.map fieldText ++ [timeMark, "[" ++ e.level.word ++ " ]"] ++ event
    ++ (loggers.map fun v => "[" ++ v.toText ++ "]") ++ others.map fieldText)

def withLine (s line : String) : String :=
  if s.toList.getLast? = some '\n' then s ++ line else s ++ "\n" ++ line

/-- An entry in plain text: its stack and its exception follow the first line. -/
def plainText (s : Setup) (e : Entry) : Except Failure String := do
  let stack ← textField e "stack"
  let exception ← textField e "exception"
  let stackText := match stack with
    | some t => "\n" ++ t ++ if exception.isSome then "\n\n" ++ rule ++ "\n" else ""
    | none => ""
  let exceptionText := match exception with
    | some t => "\n" ++ t
    | none => ""
  let text := headline s e ++ stackText ++ exceptionText
  return (if e.asException then withLine text noException else text) ++ "\n"

def entryLines (s : Setup) (e : Entry) : Except Failure (List Line) :=
  if s.asFields then
    let event := match e.event with
      | .none => []
      | v => [("event", v)]
    .ok [.fields (event ++ [("level", .text e.level.word), ("logger", .text loggerName),
      ("timestamp", .text timeMark)] ++ extraFields s e)]
  else
    (plainText s e).map fun t => (Text.lines (uncoloured 0 t.toList)).map fun l =>
      .text (Text.trim (String.ofList (squeeze l)))

/-- The threshold of a setup, whose level must be a text. -/
def Setup.threshold (s : Setup) : Except Failure Nat :=
  match s.level with
  | .text name => Log.threshold name
  | _ => .error .notText

/-- The lines that an event is shown as when it is handed over: none below the threshold. -/
def Call.lines (s : Setup) (threshold : Nat) (c : Call) : Except Failure (List Line) := do
  let e ← c.entry
  if threshold ≤ levelNumber e.level then entryLines s e else return []

/-- The threshold of a log, and its lines: the notice of the setup itself, and the events
that are handed over. -/
def reported (s : Setup) (calls : List Call) : Except Failure (Nat × List Line) := do
  let threshold ← s.threshold
  let opening : Call := ⟨.text "info", .text "logging_configured", []⟩
  let ls ← (opening :: calls).mapM (Call.lines s threshold)
  return (threshold, ls.flatten)

end Passcode.Log
