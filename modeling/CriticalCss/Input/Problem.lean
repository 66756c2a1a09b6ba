import CriticalCss.Json.Basic
/-! What can be wrong with what a caller sends. Every problem has a place in it and a cause, and the
caller is told all problems at once.
-/

namespace CriticalCss.Input

/-- A step on the way to a value inside what was sent. -/
inductive Step where
  | field (name : String)
  | item (index : Nat)
  deriving DecidableEq, Repr

/-- The cause of a problem. -/
inductive Cause where
  | missing
  | noText
  | tornText
  | emptyText
  | unknownLetter
  | noNumber
  | unreadableNumber
  | endlessNumber
  | fractionalNumber
  | infiniteNumber
  | notAbove (bound : Int)
  | below (bound : Int)
  | noChoice
  | unclearChoice
  | noTable
  | noList
  | noRequest
  | noObject
  | unknownField
  | unreadable
  | rejected (reason : String)
  deriving DecidableEq, Repr

namespace Cause

/-- The word for a cause. -/
def word : Cause → String
  | missing => "missing"
  | noText => "string_type"
  | tornText => "string_unicode"
  | emptyText => "string_too_short"
  | unknownLetter => "string_pattern_mismatch"
  | noNumber => "int_type"
  | unreadableNumber => "int_parsing"
  | endlessNumber => "int_parsing_size"
  | fractionalNumber => "int_from_float"
  | infiniteNumber => "finite_number"
  | notAbove _ => "greater_than"
  | below _ => "greater_than_equal"
  | noChoice => "bool_type"
  | unclearChoice => "bool_parsing"
  | noTable => "dict_type"
  | noList => "list_type"
  | noRequest => "model_type"
  | noObject => "model_attributes_type"
  | unknownField => "extra_forbidden"
  | unreadable => "json_invalid"
  | rejected _ => "value_error"

/-- The wording of a cause. -/
def message : Cause → String
  | missing => "Field required"
  | noText => "Input should be a valid string"
  | tornText => "Input should be a valid string, unable to parse raw data as a unicode string"
  | emptyText => "String should have at least 1 character"
  | unknownLetter => "String should match pattern '^[ims]*$'"
  | noNumber => "Input should be a valid integer"
  | unreadableNumber => "Input should be a valid integer, unable to parse string as an integer"
  | endlessNumber => "Unable to parse input string as an integer, exceeded maximum size"
  | fractionalNumber => "Input should be a valid integer, got a number with a fractional part"
  | infiniteNumber => "Input should be a finite number"
  | notAbove bound => "Input should be greater than " ++ toString bound
  | below bound => "Input should be greater than or equal to " ++ toString bound
  | noChoice => "Input should be a valid boolean"
  | unclearChoice => "Input should be a valid boolean, unable to interpret input"
  | noTable => "Input should be a valid dictionary"
  | noList => "Input should be a valid list"
  | noRequest => "Input should be a valid dictionary or instance of CriticalCSSRequest"
  | noObject => "Input should be a valid dictionary or object to extract fields from"
  | unknownField => "Extra inputs are not permitted"
  | unreadable => "JSON decode error"
  | rejected reason => "Value error, " ++ reason

end Cause

/-- A problem. -/
structure Problem where
  place : List Step
  cause : Cause
  deriving DecidableEq, Repr

/-- The value at a place inside another. -/
def valueAt (json : Json) : List Step → Option Json
  | [] => some json
  | .field name :: rest => (json.get? name).bind (valueAt · rest)
  | .item index :: rest => (json.arr?.bind (·[index]?)).bind (valueAt · rest)

/-- The value that a problem is about. What is missing is missed by what surrounds it. -/
def Problem.subject? (problem : Problem) (json : Json) : Option Json :=
  valueAt json (if problem.cause = .missing then problem.place.dropLast else problem.place)

/-- The same problem seen from one step further out. -/
def Problem.inside (step : Step) (problem : Problem) : Problem :=
  { problem with place := step :: problem.place }

/-- A value, or what is wrong with it. -/
inductive Checked (α : Type) where
  | ok (value : α)
  | faulty (problems : List Problem)

namespace Checked

/-- What is wrong, nothing if there is a value. -/
def problems {α : Type} : Checked α → List Problem
  | ok _ => []
  | faulty problems => problems

/-- One thing is wrong, right here. -/
def fail {α : Type} (cause : Cause) : Checked α :=
  faulty [⟨[], cause⟩]

/-- A change to the value. -/
def map {α β : Type} (f : α → β) : Checked α → Checked β
  | ok value => ok (f value)
  | faulty problems => faulty problems

/-- Applies a function to a value. Problems of both are told, those of the function first. -/
def apply {α β : Type} (f : Checked (α → β)) (a : Checked α) : Checked β :=
  match f, a with
  | ok f, ok a => ok (f a)
  | f, a => faulty (f.problems ++ a.problems)

instance : Applicative Checked where
  pure := ok
  seq f a := f.apply (a ())

/-- A further check, made only if there is a value. -/
def andThen {α β : Type} (a : Checked α) (check : α → Checked β) : Checked β :=
  match a with
  | ok value => check value
  | faulty problems => faulty problems

/-- The same seen from one step further out. -/
def inside {α : Type} (step : Step) : Checked α → Checked α
  | ok value => ok value
  | faulty problems => faulty (problems.map (·.inside step))

/-- All values of a list, if nothing is wrong with any of them. -/
def all {α : Type} : List (Checked α) → Checked (List α)
  | [] => ok []
  | a :: rest => ((a.map List.cons).apply (all rest))

end Checked

end CriticalCss.Input
