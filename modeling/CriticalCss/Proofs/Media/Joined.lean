import CriticalCss.Proofs.Media.Written

/-! Media queries whose parts are joined by "and" alone, as they are written: in letters of any
case, with whitespace of any script, and with values of any characters but brackets and commas. What
such a query comes to on a viewport is said by its type and by its lower bounds in whole lengths.
-/

namespace CriticalCss.Media.Joined

open Written (Digits Mantissa)

--------------------------------------------------------------------------------
-- Texts
--------------------------------------------------------------------------------

/-- Whitespace where none is needed. -/
structure Blanks where
  chars : List Char
  blank : ∀ c ∈ chars, Text.isBlank c = true

/-- Whitespace between words. -/
structure Spaces extends Blanks where
  some : chars ≠ []

/-- A word in letters of any case. -/
structure Spelled (word : String) where
  chars : List Char
  same : chars.map Char.toLower = word.toList

/-- A character that takes part in no cut. -/
def IsFree (c : Char) : Prop :=
  c ≠ ',' ∧ c ≠ '(' ∧ c ≠ ')'

instance (c : Char) : Decidable (IsFree c) :=
  inferInstanceAs (Decidable (_ ∧ _))

/-- The units of lengths that count, in lower case: pixels, or ems in two ways. -/
def pixelUnits : List (List Char) := [[], "px".toList]

def emUnits : List (List Char) := ["em".toList, "rem".toList]

/-- A number without a sign, and behind it such a unit or none. -/
def IsLength (text : List Char) : Prop :=
  ∃ (mantissa : Mantissa) (space : Blanks) (unit : List Char),
    text = mantissa.text ++ (space.chars ++ unit)
    ∧ unit.map Char.toLower ∈ pixelUnits ++ emUnits

/-- A length whose number is whole. -/
structure WholeLength where
  digits : Digits
  small : digits.value < 2 ^ 40
  space : Blanks
  unit : List Char
  known : unit.map Char.toLower ∈ pixelUnits ++ emUnits

def WholeLength.text (length : WholeLength) : List Char :=
  length.digits.chars ++ (length.space.chars ++ length.unit)

/-- The pixels of a length, sixteen to an em. -/
def WholeLength.pixels (length : WholeLength) : Nat :=
  if emUnits.contains (length.unit.map Char.toLower) then length.digits.value * 16
  else length.digits.value

/-- What stands for the value of a feature: a whole length, or no length at all. -/
inductive Content (text : List Char) where
  | whole (length : WholeLength) (same : text = length.text)
  | other (noLength : ¬ IsLength text)

def Content.pixels? {text : List Char} : Content text → Option Nat
  | whole length _ => some length.pixels
  | other _ => none

/-- The value of a feature, with the whitespace around it. -/
structure Value where
  before : Blanks
  chars : List Char
  filled : chars ≠ []
  trimmed : Text.trim chars = chars
  free : ∀ c ∈ chars, IsFree c
  content : Content chars
  after : Blanks

def Value.text (value : Value) : List Char :=
  value.before.chars ++ (value.chars ++ value.after.chars)

/-- A feature in brackets, with or without a value. -/
structure Feature where
  before : Blanks
  name : List Char
  named : name ≠ []
  letters : ∀ c ∈ name, c.isAlpha = true ∨ c = '-'
  after : Blanks
  value : Option Value

def Feature.text (feature : Feature) : List Char :=
  let ending := (feature.value.map fun value => ':' :: value.text).getD []
  ['('] ++ (feature.before.chars ++ (feature.name ++ (feature.after.chars ++ (ending ++ [')']))))

/-- A word for a media type. -/
structure MediaType where
  chars : List Char
  filled : chars ≠ []
  ascii : ∀ c ∈ chars, c.toNat < 128
  whole : ∀ c ∈ chars, Text.isBlank c = false
  free : ∀ c ∈ chars, IsFree c
  other : String.ofList (chars.map Char.toLower) ∉ ["not", "only", "and"]

/-- A further feature behind the word that joins it. -/
structure Part where
  before : Spaces
  joiner : Spelled "and"
  after : Spaces
  feature : Feature

def Part.text (part : Part) : List Char :=
  part.before.chars ++ (part.joiner.chars ++ (part.after.chars ++ part.feature.text))

/-- A query: a media type and features, or features alone. -/
inductive Query where
  | typed (only : Option (Spelled "only" × Spaces)) (type : MediaType) (parts : List Part)
  | untyped (first : Feature) (parts : List Part)

def Query.text : Query → List Char
  | typed only type parts =>
    let mark := (only.map fun (word, space) => word.chars ++ space.chars).getD []
    mark ++ (type.chars ++ parts.flatMap (·.text))
  | untyped first parts => first.text ++ parts.flatMap (·.text)

/-- A query in a list, with the whitespace up to the commas. -/
structure Entry where
  before : Blanks
  query : Query
  after : Blanks

def Entry.text (entry : Entry) : List Char :=
  entry.before.chars ++ entry.query.text ++ entry.after.chars

/-- The queries with commas between them. -/
def listText (entries : List Entry) : List Char :=
  [','].intercalate (entries.map (·.text))

--------------------------------------------------------------------------------
-- What counts
--------------------------------------------------------------------------------

/-- The dimension of the viewport that a feature bounds from below. -/
def Feature.dimension? (feature : Feature) (viewport : Viewport) : Option Int :=
  match String.ofList (feature.name.map Char.toLower) with
  | "min-width" | "min-device-width" => some viewport.width
  | "min-height" | "min-device-height" => some viewport.height
  | _ => none

/-- The pixels of the value, if it is a whole length. -/
def Feature.pixels? (feature : Feature) : Option Nat :=
  feature.value.bind (·.content.pixels?)

/-- A lower bound in a whole length is no larger than the dimension that it bounds. -/
def Feature.Fits (feature : Feature) (viewport : Viewport) : Prop :=
  ∀ size ∈ feature.dimension? viewport, ∀ pixels ∈ feature.pixels?, (pixels : Int) ≤ size

instance (feature : Feature) (viewport : Viewport) : Decidable (feature.Fits viewport) :=
  inferInstanceAs (Decidable (∀ size ∈ _, ∀ pixels ∈ _, _))

/-- The media type in lower case. -/
def Query.type? : Query → Option String
  | typed _ type _ => some (String.ofList (type.chars.map Char.toLower))
  | untyped _ _ => none

def Query.features : Query → List Feature
  | typed _ _ parts => parts.map (·.feature)
  | untyped first parts => first :: parts.map (·.feature)

/-- The type is none of those that are no screen, and either it is one that is not known, or larger
screens count as well, or all lower bounds fit. -/
def Query.Matches (query : Query) (viewport : Viewport) (keepLarger : Bool) : Prop :=
  (∀ type ∈ query.type?, type ∉ otherTypes)
  ∧ ((∃ type ∈ query.type?, type ∉ screenTypes)
    ∨ keepLarger = true
    ∨ ∀ feature ∈ query.features, feature.Fits viewport)

instance (query : Query) (viewport : Viewport) (keepLarger : Bool)
    : Decidable (query.Matches viewport keepLarger) :=
  inferInstanceAs (Decidable (_ ∧ _))

end CriticalCss.Media.Joined
