import Passcode.Choice
import Passcode.Failure
import Passcode.Decimal.Reading
import Passcode.Value

/-!
# Reading values

Strict readers for the texts of attributes and settings. A reader gives a value or says
what is wrong with the text; it never guesses. `Reader.read` puts the complaint into a
refusal that names the attribute, its text as it was given, and where it came from.

`Vocabulary.demand` is for callers that must know the exact words. Where a member of a
vocabulary is wanted, a member of somebody else's may have been handed over (`Held`); it is
kept as it is until the member is demanded.
-/

namespace Passcode

/-- The member with exactly this word; no other value will do. -/
def Vocabulary.demand {α : Type} [Vocabulary α] (v : Value) : Except Failure α :=
  let member := match v with
    | .text s => Vocabulary.ofWord? s
    | _ => none
  match member with
  | some m => .ok m
  | none => .error (.misuse (.unknownWord v.shown (Vocabulary.title α)))

/-! ## Members of other sets -/

/-- A member of a set of choices that is none of ours: what the set and the member are called,
the value that the member stands for, and whether the member counts as that value where the
value is a text. -/
structure Stranger where
  title : String
  name : String
  value : Value
  isText : Bool := true
deriving Repr, Inhabited

namespace Stranger

def shown (m : Stranger) : String := "<" ++ m.title ++ "." ++ m.name ++ ": " ++ m.value.shown ++ ">"

def text? (m : Stranger) : Option String := if m.isText then m.value.text? else none

end Stranger

/-- What stands where a member of a vocabulary is wanted. -/
inductive Held (α : Type) where
  | own (a : α)
  | stranger (m : Stranger)
deriving Repr, Inhabited

namespace Held

variable {α : Type} [Vocabulary α]

/-- The value that stands for what is held: the word of a member. -/
def value : Held α → Value
  | own a => .text (Vocabulary.word a)
  | stranger m => m.value

/-- The member that is held. A stranger will do only if it counts as the word of a member. -/
def demand : Held α → Except Failure α
  | own a => .ok a
  | stranger m =>
    match m.text?.bind Vocabulary.ofWord? with
    | some a => .ok a
    | none => .error (.misuse (.unknownWord m.shown (Vocabulary.title α)))

theorem unknownWord_of_demand {h : Held α} {e : Failure} (he : h.demand = .error e) :
    ∃ shown, e = .misuse (.unknownWord shown (Vocabulary.title α)) := by
  cases h with
  | own a => cases he
  | stranger m =>
    rw [demand] at he
    split at he
    · cases he
    · exact ⟨_, (Except.error.inj he).symm⟩

end Held

/-! ## Readers -/

/-- Reads a value from a text, or says what is wrong with it. -/
abbrev Reader (α : Type) := String → Except Complaint α

namespace Reader

/-- Reads a member of a vocabulary by its word or name. -/
def choice {α : Type} [Vocabulary α] : Reader α := fun s =>
  match Vocabulary.read? s with
  | some m => .ok m
  | none => .error (.notAmong (Vocabulary.words α))

/-- Reads a member of a vocabulary where strangers are let in too. -/
def held {α : Type} [Vocabulary α] : Reader (Held α) := fun s => (choice s).map .own

def positiveInt : Reader Int := fun s =>
  match Decimal.int? s.toList with
  | none => .error .notAnInteger
  | some n => if n < 1 then .error .belowOne else .ok n

/-- Reads a number above zero. Not-a-number is let through: it is not at most zero. -/
def positiveFloat : Reader Float := fun s =>
  match Decimal.float? s.toList with
  | none => .error .notANumber
  | some x => if x ≤ 0 then .error .notPositive else .ok x

theorem one_le_of_positiveInt {raw : String} {n : Int} (h : positiveInt raw = .ok n) : 1 ≤ n := by
  unfold positiveInt at h
  split at h
  · cases h
  · split at h
    · cases h
    · next hn =>
      obtain rfl := Except.ok.inj h
      omega

theorem not_le_of_positiveFloat {raw : String} {x : Float} (h : positiveFloat raw = .ok x) :
    ¬ x ≤ 0 := by
  unfold positiveFloat at h
  split at h
  · cases h
  · split at h
    · cases h
    · next hx =>
      obtain rfl := Except.ok.inj h
      exact hx

/-- Reads a truth value: one of two words in any case. -/
def boolean : Reader Bool := fun s =>
  let word := Text.lower (Text.trim s)
  if word = "true" then .ok true
  else if word = "false" then .ok false
  else .error .notABoolean

def read {α : Type} (r : Reader α) (key : String) (source raw : Option String) :
    Except Failure α :=
  match raw with
  | none => .error .notText
  | some s =>
    match r s with
    | .ok a => .ok a
    | .error c => .error (.refused (.configuration key s source c.text))

section Read

variable {α : Type} {r : Reader α} {key raw : String} {source : Option String}

theorem read_eq_ok_iff {a : α} : r.read key source (some raw) = .ok a ↔ r raw = .ok a := by
  rw [read]
  cases r raw <;> simp

theorem read_eq_error_iff {e : Failure} : r.read key source (some raw) = .error e ↔
    ∃ c, r raw = .error c ∧ e = .refused (.configuration key raw source c.text) := by
  rw [read]
  cases r raw <;> simp [eq_comm]

end Read

end Reader

end Passcode
