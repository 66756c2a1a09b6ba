import CriticalCss.Media
import Mathlib.Algebra.Order.Field.Rat

/-! Media queries as they are written, and what they mean. A tree holds every blank, sign and digit
of its text, in lower case; what it means is asked of a screen, which has a size and an answer for
each feature that is not about sizes. Comments and escapes are no part of these texts.
-/

namespace CriticalCss.Media.Written

--------------------------------------------------------------------------------
-- Blanks, numbers and lengths
--------------------------------------------------------------------------------

/-- The whitespace of style sheets. -/
def isSpace (c : Char) : Bool :=
  c == ' ' || c == '\t' || c == '\n' || c == '\r' || c == '\x0c'

/-- Whitespace where none is needed. -/
structure Gap where
  chars : List Char
  spaces : ∀ c ∈ chars, isSpace c = true

/-- Whitespace between a word and what would belong to it otherwise. -/
structure Break extends Gap where
  some : chars ≠ []

/-- Nothing where whitespace may be missing. -/
def noGap : Gap :=
  ⟨[], nofun⟩

/-- A single space. -/
def space : Break :=
  ⟨⟨[' '], List.all_eq_true.mp (by decide)⟩, by decide⟩

inductive Sign where
  | plus
  | minus
  deriving DecidableEq, Repr

def Sign.char : Sign → Char
  | plus => '+'
  | minus => '-'

/-- The factor that a sign stands for, also where there is none. -/
def Sign.factor : Option Sign → Int
  | some minus => -1
  | _ => 1

/-- At least one digit. -/
structure Digits where
  chars : List Char
  digits : ∀ c ∈ chars, c.isDigit = true
  some : chars ≠ []

def Digits.value (digits : Digits) : Nat :=
  Text.digitsValue 10 digits.chars

/-- The digits of a number before its exponent: whole ones, or some behind a point. -/
inductive Mantissa where
  | whole (digits : Digits)
  | fraction (front : Option Digits) (places : Digits)

def Mantissa.text : Mantissa → List Char
  | whole digits => digits.chars
  | fraction front places => (front.map (·.chars)).getD [] ++ '.' :: places.chars

/-- All digits of a mantissa, as those of a whole number. -/
def Mantissa.digits : Mantissa → List Char
  | whole digits => digits.chars
  | fraction front places => (front.map (·.chars)).getD [] ++ places.chars

/-- The number of digits behind the point. -/
def Mantissa.places : Mantissa → Nat
  | whole _ => 0
  | fraction _ places => places.chars.length

/-- The power of ten of a number, with its sign. -/
structure Exponent where
  sign : Option Sign
  digits : Digits

def Exponent.text (exponent : Exponent) : List Char :=
  'e' :: ((exponent.sign.map (·.char)).toList ++ exponent.digits.chars)

/-- A length: a number and, right behind it, its unit. A length of zero may have none. -/
structure Length where
  sign : Option Sign
  mantissa : Mantissa
  exponent : Option Exponent
  unit : List Char
  letters : ∀ c ∈ unit, 'a' ≤ c ∧ c ≤ 'z'

namespace Length

/-- What follows the mantissa. -/
def ending (length : Length) : List Char :=
  (length.exponent.map (·.text)).getD [] ++ length.unit

def text (length : Length) : List Char :=
  (length.sign.map (·.char)).toList ++ (length.mantissa.text ++ length.ending)

/-- The number of a length, without its unit. -/
def number (length : Length) : ℚ :=
  let power : Int :=
    match length.exponent with
    | some exponent => Sign.factor exponent.sign * exponent.digits.value
    | none => 0
  Sign.factor length.sign * Text.digitsValue 10 length.mantissa.digits
    * 10 ^ (power - length.mantissa.places)

end Length

--------------------------------------------------------------------------------
-- Queries
--------------------------------------------------------------------------------

/-- A character of a feature's name. -/
def isNameChar (c : Char) : Bool :=
  ('a' ≤ c && c ≤ 'z') || c.isDigit || c == '-' || c == '_'

/-- What stands behind the colon of a feature. -/
structure Value where
  before : Gap
  length : Length
  after : Gap

/-- A feature in brackets, with or without a value. -/
structure Atom where
  before : Gap
  name : List Char
  named : name ≠ [] ∧ ∀ c ∈ name, isNameChar c = true
  after : Gap
  value : Option Value

/-- A word between two conditions. -/
inductive Joiner where
  | and
  | or
  deriving DecidableEq, Repr

/-- A condition. No word binds closer than another, so that a text without brackets to tell is
covered with every tree that it has. -/
inductive Condition where
  | atom (own : Atom)
  | group (before : Gap) (inside : Condition) (after : Gap)
  | not (space : Break) (inside : Condition)
  | joined (joiner : Joiner) (left : Condition) (before : Gap) (after : Break) (right : Condition)

/-- A media type that a screen belongs to. -/
inductive ScreenType where
  | screen
  | all
  deriving DecidableEq, Repr

/-- A condition behind a media type, and the whitespace around the word that joins it. -/
structure Tail where
  before : Break
  after : Break
  condition : Condition

inductive Query where
  | typed (only : Option Break) (type : ScreenType) (tail : Option Tail)
  | untyped (condition : Condition)

/-- A query in a list, with the whitespace up to the commas. -/
structure Entry where
  before : Gap
  query : Query
  after : Gap

--------------------------------------------------------------------------------
-- Texts
--------------------------------------------------------------------------------

/-- What stands behind the colon of a feature, up to its closing bracket. -/
def Value.text (value : Value) : List Char :=
  value.before.chars ++ value.length.text ++ value.after.chars

/-- What stands in the brackets of a feature. -/
def Atom.inside (atom : Atom) : List Char :=
  let ending := (atom.value.map fun value => ':' :: value.text).getD []
  atom.before.chars ++ (atom.name ++ (atom.after.chars ++ ending))

/-- A text in brackets. -/
def bracketed (text : List Char) : List Char :=
  '(' :: (text ++ [')'])

def Joiner.text : Joiner → List Char
  | and => "and".toList
  | or => "or".toList

def Condition.text : Condition → List Char
  | atom own => bracketed own.inside
  | group before inside after => bracketed (before.chars ++ (inside.text ++ after.chars))
  | not space inside => "not".toList ++ (space.chars ++ inside.text)
  | joined joiner left before after right =>
    left.text ++ (before.chars ++ (joiner.text ++ (after.chars ++ right.text)))

def ScreenType.text : ScreenType → List Char
  | screen => "screen".toList
  | all => "all".toList

def Tail.text (tail : Tail) : List Char :=
  tail.before.chars ++ ("and".toList ++ (tail.after.chars ++ tail.condition.text))

def Query.text : Query → List Char
  | typed only type tail =>
    let mark := (only.map fun space => "only".toList ++ space.chars).getD []
    mark ++ (type.text ++ (tail.map (·.text)).getD [])
  | untyped condition => condition.text

def Entry.text (entry : Entry) : List Char :=
  entry.before.chars ++ entry.query.text ++ entry.after.chars

/-- The text is that of the queries, with commas between them and letters of any case. -/
def Spells (prelude : String) (entries : List Entry) : Prop :=
  prelude.toList.map Char.toLower = [','].intercalate (entries.map (·.text))

instance (prelude : String) (entries : List Entry) : Decidable (Spells prelude entries) :=
  inferInstanceAs (Decidable (_ = _))

--------------------------------------------------------------------------------
-- Meaning
--------------------------------------------------------------------------------

/-- A screen that shows nothing but the viewport, so that its own size is that of the viewport. -/
structure Screen where
  viewport : Viewport
  /-- The pixels of the units that depend on more than the font size of the root element. -/
  unit : List Char → ℚ
  /-- Does a feature that is not about the size hold, for a value in pixels if it has one? -/
  other : List Char → Option ℚ → Prop

/-- The pixels of a length. -/
def Length.pixels (length : Length) (screen : Screen) : ℚ :=
  match String.ofList length.unit with
  | "" | "px" => length.number
  | "em" | "rem" => length.number * 16
  | _ => length.number * screen.unit length.unit

/-- Has the screen the feature with this name, for the pixels of its value if there is one? -/
def Screen.HasFeature (screen : Screen) (name : List Char) (value : Option ℚ) : Prop :=
  let width : ℚ := screen.viewport.width
  let height : ℚ := screen.viewport.height
  match String.ofList name, value with
  | "width", none | "device-width", none => width ≠ 0
  | "width", some value | "device-width", some value => width = value
  | "min-width", some value | "min-device-width", some value => value ≤ width
  | "max-width", some value | "max-device-width", some value => width ≤ value
  | "height", none | "device-height", none => height ≠ 0
  | "height", some value | "device-height", some value => height = value
  | "min-height", some value | "min-device-height", some value => value ≤ height
  | "max-height", some value | "max-device-height", some value => height ≤ value
  | _, _ => screen.other name value

def Atom.Holds (atom : Atom) (screen : Screen) : Prop :=
  screen.HasFeature atom.name (atom.value.map (·.length.pixels screen))

def Joiner.Holds : Joiner → Prop → Prop → Prop
  | and => And
  | or => Or

def Condition.Holds (screen : Screen) : Condition → Prop
  | atom own => own.Holds screen
  | group _ inside _ => inside.Holds screen
  | not _ inside => ¬ inside.Holds screen
  | joined joiner left _ _ right => joiner.Holds (left.Holds screen) (right.Holds screen)

/-- Is the query true on the screen? It has each of the types that a query can name here. -/
def Query.Holds (screen : Screen) : Query → Prop
  | typed _ _ tail => ∀ behind ∈ tail, behind.condition.Holds screen
  | untyped condition => condition.Holds screen

--------------------------------------------------------------------------------
-- What counts against a query
--------------------------------------------------------------------------------

/-- Is the name of letters and hyphens alone? -/
def Atom.isUnderstood (atom : Atom) : Bool :=
  atom.name.all fun c => c == '-' || ('a' ≤ c && c ≤ 'z')

/-- The name and the text of the value. -/
def Atom.feature (atom : Atom) : Feature :=
  ⟨atom.name, atom.value.map (·.length.text)⟩

/-- The features of a condition that are understood, in order. -/
def Condition.features : Condition → List Feature
  | atom own => if own.isUnderstood then [own.feature] else []
  | group _ inside _ => inside.features
  | not _ inside => inside.features
  | joined _ left _ _ right => left.features ++ right.features

/-- The features that a condition holds only with: those that no "not" or "or" is about. -/
def Condition.demands : Condition → List Feature
  | atom own => if own.isUnderstood then [own.feature] else []
  | group _ inside _ => inside.demands
  | not _ _ => []
  | joined .and left _ _ right => left.demands ++ right.demands
  | joined .or _ _ _ _ => []

/-- Is the condition nothing but features that are understood, joined by "and"? -/
def Condition.isFlat : Condition → Bool
  | atom own => own.isUnderstood
  | joined .and left _ _ right => left.isFlat && right.isFlat
  | _ => false

/-- Some feature asks for more than the viewport has, where the query is taken for one that asks for
all of its features: behind a type always, without one if it is flat. -/
def Query.isDismissed (viewport : Viewport) : Query → Bool
  | typed _ _ none => false
  | typed _ _ (some tail) => tail.condition.features.any (·.rulesOut viewport)
  | untyped condition => condition.isFlat && condition.features.any (·.rulesOut viewport)

/-- What asks for more than the viewport has, behind a type, is something that the query demands. -/
def Query.AsksForLowerBounds (viewport : Viewport) : Query → Prop
  | typed _ _ tail =>
    ∀ behind ∈ tail, ∀ feature ∈ behind.condition.features,
      feature.rulesOut viewport = true → feature ∈ behind.condition.demands
  | untyped _ => True

end CriticalCss.Media.Written
