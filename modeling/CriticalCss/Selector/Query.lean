import CriticalCss.Selector.Interactive
import CriticalCss.Text.Blank
/-! The selector that a page is asked about. Pseudo-elements have no place of their own, so the
element that they decorate is asked about instead: they are cut out of the selector, and where
nothing or only a combinator is left any element stands for it.
-/

namespace CriticalCss.Selector

/-- Pseudo-elements, and the class of visited links, which no page tells. -/
def strippedPseudos : List String :=
  ["before", "after", "first-line", "first-letter", "selection", "placeholder", "marker",
    "backdrop", "visited"]

/-- A text behind its first colon, and a second one if there is one. -/
def afterColons : List Char → Option (List Char)
  | ':' :: ':' :: rest => some rest
  | ':' :: rest => some rest
  | _ => none

/-- What follows the pseudo-element that a text starts with. -/
def afterStripped? (text : List Char) : Option (List Char) :=
  (afterColons text).bind fun rest =>
    strippedPseudos.findSome? fun name =>
      (Text.dropWordIgnoringCase name.toList rest).filter nameEnds

/-- A letter from a to z in any case. -/
def isLatinLetter (c : Char) : Bool :=
  'a' ≤ Text.caseKey c && Text.caseKey c ≤ 'z'

/-- What follows arguments in brackets, the text itself if it starts with none. -/
def afterArguments (text : List Char) : List Char :=
  match text with
  | '(' :: rest =>
    match rest.dropWhile (· != ')') with
    | _ :: after => after
    | [] => text
  | _ => text

/-- What follows the vendor's pseudo-class or pseudo-element that a text starts with: a hyphen, the
vendor's name, a hyphen, the name, and arguments if there are any. -/
def afterVendor? (text : List Char) : Option (List Char) :=
  match afterColons text with
  | some ('-' :: rest) =>
    match rest.takeWhile isLatinLetter, rest.dropWhile isLatinLetter with
    | _ :: _, '-' :: name =>
      let isNameChar (c : Char) : Bool := isLatinLetter c || c == '-'
      if (name.takeWhile isNameChar).isEmpty then none
      else some (afterArguments (name.dropWhile isNameChar))
    | _, _ => none
  | _ => none

/-- Cuts every occurrence of something out of a text. What is cut out starts at the first place
where it can and is not looked at again. -/
def cutOut (after? : List Char → Option (List Char)) (text : List Char) : List Char :=
  match text with
  | [] => []
  | c :: rest =>
    match after? (c :: rest) with
    | some after =>
      if after.length ≤ rest.length then cutOut after? after else c :: cutOut after? rest
    | none => c :: cutOut after? rest
termination_by text.length
decreasing_by all_goals simp only [List.length_cons]; omega

/-- Does something occur in a text? -/
def occursIn (after? : List Char → Option (List Char)) : List Char → Bool
  | [] => false
  | c :: rest => (after? (c :: rest)).isSome || occursIn after? rest

/-- Does the text end in a combinator? -/
def endsInCombinator (text : List Char) : Bool :=
  text.getLast?.any fun c => c == '>' || c == '+' || c == '~'

/-- The query for the element that a selector without vendor pseudos decorates. -/
def decoratedQuery (selector : List Char) : List Char :=
  let stripped := Text.trim (cutOut afterStripped? selector)
  if stripped.isEmpty then ['*']
  else if endsInCombinator stripped then Text.trim (stripped ++ [' ', '*'])
  else stripped

/-- The selector to ask a page about. Selectors with a vendor's pseudo are not asked about at all if
`strict` is set, otherwise the pseudo is cut out too. -/
def queryFor? (selector : String) (strict : Bool) : Option String :=
  let text := selector.toList
  if occursIn afterVendor? text then
    if strict then none else some (String.ofList (decoratedQuery (cutOut afterVendor? text)))
  else some (String.ofList (decoratedQuery text))

end CriticalCss.Selector
