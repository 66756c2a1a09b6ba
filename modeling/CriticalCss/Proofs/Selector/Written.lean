import CriticalCss.Proofs.Tidy.Written
import CriticalCss.Selector.Query

/-! Selectors as they are written: simple selectors, compounds of them, and chains of compounds with
combinators between them. A tree holds every blank and every escape of its text; what stands in
brackets is any text. Comments are no part of these texts.
-/

namespace CriticalCss.Selector.Written

open Media.Written (Break Gap)
open Tidy.Written (Identifier)

--------------------------------------------------------------------------------
-- Compounds
--------------------------------------------------------------------------------

/-- The namespace in front of an element: any, one that has a name, or none. -/
inductive Namespace where
  | any
  | named (name : Identifier)
  | none

def Namespace.text : Namespace → List Char
  | any => ['*', '|']
  | named name => name.text ++ ['|']
  | none => ['|']

/-- The elements of a type, or all elements where there is no type. -/
structure Element where
  space : Option Namespace := none
  type : Option Identifier := none

def Element.text (element : Element) : List Char :=
  (element.space.map (·.text)).getD [] ++ (element.type.map (·.text)).getD ['*']

/-- The colons of a pseudo, one or two. -/
def colons (double : Bool) : List Char :=
  if double then [':', ':'] else [':']

/-- A simple selector that is no element. -/
inductive Simple where
  | className (name : Identifier)
  | id (name : Identifier)
  /-- A condition on attributes, in square brackets. -/
  | attr (inside : List Char)
  /-- A pseudo-class or pseudo-element. -/
  | pseudo (double : Bool) (name : Identifier) (arguments : Option (List Char))

def Simple.text : Simple → List Char
  | className name => '.' :: name.text
  | id name => '#' :: name.text
  | attr inside => '[' :: (inside ++ [']'])
  | pseudo double name arguments =>
    colons double ++ (name.text ++ (arguments.map fun inside => '(' :: (inside ++ [')'])).getD [])

/-- A pseudo that no page tells, in letters of any case. -/
structure Untold where
  double : Bool
  spelling : List Char
  listed : ∃ name ∈ strippedPseudos, spelling.map Char.toLower = name.toList

def Untold.text (pseudo : Untold) : List Char :=
  colons pseudo.double ++ pseudo.spelling

/-- A part of a compound behind its element. -/
inductive Part where
  | simple (simple : Simple)
  | untold (pseudo : Untold)

namespace Part

def text : Part → List Char
  | simple it => it.text
  | untold pseudo => pseudo.text

/-- What is left of a part when the pseudos are taken away that no page tells. -/
def bare : Part → List Char
  | simple it => it.text
  | untold _ => []

def isUntold : Part → Bool
  | simple _ => false
  | untold _ => true

end Part

/-- A compound: an element, other simple selectors, or both. -/
structure Compound where
  element : Option Element := none
  parts : List Part
  filled : element ≠ none ∨ parts ≠ []

namespace Compound

/-- The text of the element, if there is one. -/
def front (compound : Compound) : List Char :=
  (compound.element.map (·.text)).getD []

def text (compound : Compound) : List Char :=
  compound.front ++ compound.parts.flatMap (·.text)

/-- What is left of the text without the pseudos that no page tells. -/
def bare (compound : Compound) : List Char :=
  compound.front ++ compound.parts.flatMap (·.bare)

/-- Does the compound consist of pseudos alone that no page tells? -/
def isEmptied (compound : Compound) : Bool :=
  compound.element.isNone && compound.parts.all (·.isUntold)

/-- The compound for the elements that a compound decorates: it has no pseudos that no page tells,
and if nothing is left it is a star. -/
def decorated (compound : Compound) : Compound :=
  if emptied : compound.isEmptied = true then
    { element := some {}, parts := [], filled := .inl nofun }
  else
    { element := compound.element
      parts := compound.parts.filter (!·.isUntold)
      filled := by
        simp only [isEmptied, Bool.and_eq_true, Option.isNone_iff_eq_none, List.all_eq_true,
          not_and] at emptied
        by_cases bare : compound.element = none
        · exact .inr (by simpa [List.filter_eq_nil_iff] using emptied bare)
        · exact .inl bare }

end Compound

--------------------------------------------------------------------------------
-- Chains of compounds
--------------------------------------------------------------------------------

/-- A combinator with a character of its own. -/
inductive Mark where
  | child
  | next
  | subsequent
  deriving DecidableEq, Repr

def Mark.char : Mark → Char
  | child => '>'
  | next => '+'
  | subsequent => '~'

/-- A combinator between two compounds, with its blanks. Blanks alone stand for the descendants. -/
inductive Joint where
  | descendant (space : Break)
  | marked (before : Gap) (mark : Mark) (after : Gap)

namespace Joint

def text : Joint → List Char
  | descendant space => space.chars
  | marked before mark after => before.chars ++ mark.char :: after.chars

/-- The combinator without its blanks. -/
def mark? : Joint → Option Mark
  | descendant _ => none
  | marked _ mark _ => some mark

end Joint

/-- A complex selector: compounds with combinators between them. -/
inductive Complex where
  | single (compound : Compound)
  | joined (front : Complex) (joint : Joint) (last : Compound)

namespace Complex

def text : Complex → List Char
  | single compound => compound.text
  | joined front joint last => front.text ++ (joint.text ++ last.text)

/-- The text without the pseudos that no page tells. -/
def bare : Complex → List Char
  | single compound => compound.bare
  | joined front joint last => front.bare ++ (joint.text ++ last.bare)

def compounds : Complex → List Compound
  | single compound => [compound]
  | joined front _ last => front.compounds ++ [last]

/-- The combinators, without their blanks. -/
def marks : Complex → List (Option Mark)
  | single _ => []
  | joined front joint _ => front.marks ++ [joint.mark?]

def first : Complex → Compound
  | single compound => compound
  | joined front _ _ => front.first

def last : Complex → Compound
  | single compound => compound
  | joined _ _ last => last

end Complex

--------------------------------------------------------------------------------
-- Compounds of names
--------------------------------------------------------------------------------

/-- A class name or an id. -/
inductive Tag where
  | className (name : Identifier)
  | id (name : Identifier)

namespace Tag

def name : Tag → Identifier
  | className name => name
  | id name => name

def simple : Tag → Simple
  | className name => .className name
  | id name => .id name

end Tag

/-- A compound of a type, class names and ids only. -/
structure Label where
  type : Option Identifier := none
  tags : List Tag
  filled : type ≠ none ∨ tags ≠ []

namespace Label

def compound (label : Label) : Compound where
  element := label.type.map fun name => { type := some name }
  parts := label.tags.map fun tag => .simple tag.simple
  filled := by simpa using label.filled

def text (label : Label) : List Char :=
  label.compound.text

def names (label : Label) : List Identifier :=
  label.type.toList ++ label.tags.map (·.name)

end Label

end CriticalCss.Selector.Written
