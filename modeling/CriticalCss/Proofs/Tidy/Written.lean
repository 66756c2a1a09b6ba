import CriticalCss.Proofs.Media.Written
import CriticalCss.Proofs.Text.Commas
import CriticalCss.Syntax.Lexer
import CriticalCss.Tidy.Reference

/-! Font families as they are written: alone, in a list, and in a font shorthand. A tree holds every
blank, quote and backslash of its text. Comments are no part of these texts.
-/

namespace CriticalCss.Tidy.Written

open Media.Written (Gap Break Sign Mantissa)

--------------------------------------------------------------------------------
-- Families
--------------------------------------------------------------------------------

/-- The quote on both sides of a text. -/
inductive Quote where
  | single
  | double
  deriving DecidableEq, Repr

def Quote.char : Quote → Char
  | single => '\''
  | double => '"'

/-- A character of an identifier: itself, or an escape of it by a backslash or by its code. -/
inductive Letter where
  | plain (c : Char) (fits : Syntax.isNamePart c = true)
  | escaped (c : Char) (fits : c ≠ '\n')
  | coded (digits : List Char) (fits : ∀ c ∈ digits, Text.isHexDigit c = true) (space : Gap)
      (one : space.chars.length ≤ 1)

def Letter.text : Letter → List Char
  | plain c _ => [c]
  | escaped c _ => ['\\', c]
  | coded digits _ space _ => '\\' :: (digits ++ space.chars)

structure Identifier where
  letters : List Letter
  some : letters ≠ []

def Identifier.text (identifier : Identifier) : List Char :=
  identifier.letters.flatMap (·.text)

/-- An identifier without escapes. -/
def Identifier.plain (text : List Char) (some : text ≠ [])
    (fits : text.all Syntax.isNamePart = true)
    : Identifier where
  letters := text.attach.map fun c => .plain c.1 (List.all_eq_true.mp fits c.1 c.2)
  some := by simpa using some

/-- The name of a family: in quotes, or as identifiers with whitespace between them. -/
inductive Family where
  | quoted (quote : Quote) (inside : List Char)
      (fits : ∀ c ∈ inside, c ≠ quote.char ∧ c ≠ '\\' ∧ c ≠ '\n')
  | named (first : Identifier) (others : List (Break × Identifier))

def Family.text : Family → List Char
  | quoted quote inside _ => quote.char :: (inside ++ [quote.char])
  | named first others =>
    first.text ++ others.flatMap fun (space, identifier) => space.chars ++ identifier.text

/-- A family as it is compared: without its quotes, in lower case, with one space between words. -/
def Family.normal : Family → List Char
  | quoted _ inside _ => Text.lower (Text.collapse inside)
  | family => Text.lower (Text.collapse family.text)

/-- A text without commas and brackets. -/
def IsPlain (text : List Char) : Prop :=
  ∀ c ∈ text, c ≠ ',' ∧ c ≠ '(' ∧ c ≠ ')'

instance (text : List Char) : Decidable (IsPlain text) :=
  decidable_of_iff (text.all (fun c => c ≠ ',' ∧ c ≠ '(' ∧ c ≠ ')') = true) (by simp [IsPlain])

/-- A family in a list, with the whitespace up to the commas. -/
structure Item where
  before : Gap
  family : Family
  after : Gap

def Item.text (item : Item) : List Char :=
  item.before.chars ++ item.family.text ++ item.after.chars

/-- The items with commas between them. -/
def listText (items : List Item) : List Char :=
  [','].intercalate (items.map (·.text))

--------------------------------------------------------------------------------
-- Font shorthands
--------------------------------------------------------------------------------

/-- A word in front of the families of a shorthand. -/
structure Word where
  chars : List Char
  some : chars ≠ []
  whole : ∀ c ∈ chars, Text.isBlank c = false
  unquoted : ∀ c ∈ chars, c ≠ '\'' ∧ c ≠ '"'
  plain : IsPlain chars

/-- A line height behind its slash. A comma in it, as of a function with two arguments, stands in
brackets. -/
structure Height where
  before : Gap
  after : Gap
  chars : List Char
  unquoted : ∀ c ∈ chars, c ≠ '\'' ∧ c ≠ '"'
  whole : Text.outerCommas 0 chars = 0
  balanced : Text.IsBalanced chars

def Height.text (height : Height) : List Char :=
  height.before.chars ++ '/' :: (height.after.chars ++ height.chars)

/-- A font shorthand: words for style, variant, weight and stretch, a size, maybe a line height, and
a list of families. -/
structure Shorthand where
  before : Gap
  lead : List (Word × Break)
  size : Word
  height : Option Height
  space : Break
  first : Family
  after : Gap
  others : List Item

namespace Shorthand

/-- What stands in front of the families, up to the whitespace before them. -/
def head (shorthand : Shorthand) : List Char :=
  shorthand.before.chars
    ++ (shorthand.lead.flatMap (fun (word, space) => word.chars ++ space.chars)
      ++ (shorthand.size.chars ++ (shorthand.height.map (·.text)).getD []))

/-- The text up to the first comma between families. -/
def firstText (shorthand : Shorthand) : List Char :=
  shorthand.head
    ++ (shorthand.space.chars ++ (shorthand.first.text ++ shorthand.after.chars))

def text (shorthand : Shorthand) : List Char :=
  [','].intercalate (shorthand.firstText :: shorthand.others.map (·.text))

def families (shorthand : Shorthand) : List Family :=
  shorthand.first :: shorthand.others.map (·.family)

end Shorthand

/-- A number without an exponent and right behind it a unit, a percent sign, or nothing. -/
def IsMeasured (text : List Char) : Prop :=
  ∃ (sign : Option Sign) (mantissa : Mantissa) (unit : List Char),
    (∀ c ∈ unit, c.isAlpha = true ∨ c = '%')
    ∧ text = (sign.map (·.char)).toList ++ (mantissa.text ++ unit)

/-- Is there no whitespace around the slash, and one word behind it? -/
def Height.IsAttached (height : Height) : Prop :=
  height.before.chars = [] ∧ height.after.chars = [] ∧ height.chars ≠ []
  ∧ ∀ c ∈ height.chars, Text.isBlank c = false

/-- The size is a keyword without a line height, or it is measured and the line height, if there is
one, is attached to it. -/
def Shorthand.IsUsual (shorthand : Shorthand) : Prop :=
  (shorthand.size.chars.map Char.toLower ∈ sizeWords.map String.toList ∧ shorthand.height = none)
  ∨ (IsMeasured shorthand.size.chars ∧ ∀ height ∈ shorthand.height, height.IsAttached)

end CriticalCss.Tidy.Written
