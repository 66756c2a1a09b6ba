import CriticalCss.Text.Alphanumeric
import CriticalCss.Text.CaseFold
/-! Selectors that apply only after the visitor has done something. Such a selector names an
interactive pseudo-class: a single colon, not one of the two of a pseudo-element, and a name that
ends there.
-/

namespace CriticalCss.Selector

/-- Pseudo-classes that depend on the visitor. -/
def interactivePseudoClasses : List String :=
  ["hover", "active", "focus", "focus-within", "focus-visible"]

/-- Does a name that ends here end for good? It does not if a word character or a hyphen follows. -/
def nameEnds (text : List Char) : Bool :=
  !text.head?.any fun c => Text.isWord c || c == '-'

/-- Does the text start with one of the names, case ignored, and does the name end there? -/
def startsWithName (names : List String) (text : List Char) : Bool :=
  names.any fun name => (Text.dropWordIgnoringCase name.toList text).any nameEnds

/-- Does one of the pseudo-classes occur in a text? `afterColon` says whether a colon precedes it.
-/
def holdsPseudoClass (names : List String) (afterColon : Bool) : List Char → Bool
  | [] => false
  | c :: rest =>
    (c == ':' && !afterColon && startsWithName names rest)
      || holdsPseudoClass names (c == ':') rest

/-- Do the names differ, and in their last character alone? -/
def differInLast (names : List (List Char)) : Bool :=
  match names with
  | [] => false
  | first :: rest =>
    !first.isEmpty && rest.any (· != first)
      && rest.all fun name => !name.isEmpty && name.dropLast == first.dropLast

/-- Is the character a capital beyond the basic plane? -/
def isRemoteCapital (c : Char) : Bool :=
  0xFFFF < c.toNat && Text.lowerChar c != c

/-- The names that are looked for; without any names it is the empty one. If the names differ in
their last character alone these are taken for a set, and a capital beyond the basic plane is never
found in a set that ignores case. -/
def soughtNames (names : List String) : List String :=
  if names.isEmpty then [""]
  else if differInLast (names.map (·.toList)) then
    names.filter fun name => !name.toList.getLast?.any isRemoteCapital
  else names

/-- Does the selector name one of the pseudo-classes? Without any names every single colon does
whose name would be empty. -/
def isInteractive (names : List String) (selector : String) : Bool :=
  holdsPseudoClass (soughtNames names) false selector.toList

end CriticalCss.Selector
