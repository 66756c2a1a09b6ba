import CriticalCss.Input.Problem
import CriticalCss.Input.WholeNumber
/-! Reading the fields of what a caller sends. Numbers and choices may also come as texts or as each
other, as long as it is clear what is meant; texts, lists and tables are what they are.
-/

namespace CriticalCss.Input

/-- Reads a text. -/
def text : Json → Checked String
  | .str value | .torn value => .ok value
  | _ => .fail .noText

/-- Reads a text that is looked into, which a torn one cannot be. -/
def wholeText : Json → Checked String
  | .torn _ => .fail .tornText
  | json => text json

/-- Reads a text that is not empty. -/
def filledText (json : Json) : Checked String :=
  (wholeText json).andThen fun value => if value.isEmpty then .fail .emptyText else .ok value

/-- The first whole number beyond 64 bits. -/
def wordBound : Int := 9223372036854775808

/-- Is the whole number one that may be written with a fraction? -/
def mayHaveFraction (number : Int) : Bool :=
  -wordBound < number && number < wordBound

/-- Reads a whole number. -/
def number : Json → Checked Int
  | .int value => .ok value
  | .bool value => .ok (if value then 1 else 0)
  | .float value =>
    match value, value.toInt? with
    | _, some number => if mayHaveFraction number then .ok number else .fail .endlessNumber
    | .finite .., none => .fail .fractionalNumber
    | _, none => .fail .infiniteNumber
  | .str value =>
    match readNumber value with
    | .value number => .ok number
    | .unreadable => .fail .unreadableNumber
    | .endless => .fail .endlessNumber
  | .torn _ => .fail .tornText
  | _ => .fail .noNumber

/-- Reads a whole number above a bound. -/
def numberAbove (bound : Int) (json : Json) : Checked Int :=
  (number json).andThen fun value =>
    if bound < value then .ok value else .fail (.notAbove bound)

/-- Reads a whole number from a bound on. -/
def numberFrom (bound : Int) (json : Json) : Checked Int :=
  (number json).andThen fun value => if bound ≤ value then .ok value else .fail (.below bound)

/-- The choice that a word stands for, in any case. -/
def choiceOfWord (word : String) : Option Bool :=
  let word := word.map Char.toLower
  if ["0", "off", "f", "false", "n", "no"].contains word then some false
  else if ["1", "on", "t", "true", "y", "yes"].contains word then some true
  else none

/-- The choice that a number stands for. -/
def choiceOfNumber (number : Int) : Checked Bool :=
  if number = 0 then .ok false else if number = 1 then .ok true else .fail .unclearChoice

/-- Reads a choice between yes and no. A number of more than 64 bits is not taken for one. -/
def choice : Json → Checked Bool
  | .bool value => .ok value
  | .str value =>
    match choiceOfWord value with
    | some value => .ok value
    | none => .fail .unclearChoice
  | .torn _ => .fail .tornText
  | .int value =>
    if -wordBound ≤ value && value < wordBound then choiceOfNumber value else .fail .noChoice
  | .float value =>
    match value.toInt? with
    | some value => if mayHaveFraction value then choiceOfNumber value else .fail .noChoice
    | none => .fail .noChoice
  | _ => .fail .noChoice

/-- Reads what may also be left open with null. -/
def optional {α : Type} (read : Json → Checked α) : Json → Checked (Option α)
  | .null => .ok none
  | json => (read json).map some

/-- Reads the items of a list, counted from a number on. -/
def itemsFrom {α : Type} (read : Json → Checked α) (index : Nat) : List Json → List (Checked α)
  | [] => []
  | item :: rest => (read item).inside (.item index) :: itemsFrom read (index + 1) rest

/-- Reads a list. -/
def list {α : Type} (read : Json → Checked α) : Json → Checked (List α)
  | .arr items => .all (itemsFrom read 0 items)
  | _ => .fail .noList

/-- Reads a table. -/
def tableOf {α : Type} (read : Json → Checked α) : Json → Checked (List (String × α))
  | .obj members =>
    .all (members.map fun (name, value) =>
      ((read value).inside (.field name)).map fun value => (name, value))
  | _ => .fail .noTable

/-- Reads a table of texts. -/
def table : Json → Checked (List (String × String)) :=
  tableOf text

/-- Reads a field, with a value for the case that it is not there. -/
def field {α : Type} (json : Json) (name : String) (default : α) (read : Json → Checked α)
    : Checked α :=
  match json.get? name with
  | some value => (read value).inside (.field name)
  | none => .ok default

/-- Reads a field that has to be there. -/
def requiredField {α : Type} (json : Json) (name : String) (read : Json → Checked α)
    : Checked α :=
  match json.get? name with
  | some value => (read value).inside (.field name)
  | none => (Checked.fail .missing).inside (.field name)

end CriticalCss.Input
