/-! Tokens of style sheets. A token is an atom, which stands for itself, or a bracket: the start of
a function, an opening bracket or a closing one. Values are kept decoded; numbers keep the text they
were written with.
-/

namespace CriticalCss.Syntax

/-- The brackets that pair up. -/
inductive Bracket where
  | round
  | square
  | curly
  deriving Repr, DecidableEq

/-- What went wrong where an atom could not be read. -/
inductive Flaw where
  /-- A quoted string broken by a line end. -/
  | badString
  /-- A url holding a character that cannot stand in one. -/
  | badUrl
  /-- A closing bracket that closes nothing. -/
  | unmatched (bracket : Bracket)
  /-- The text ended inside a quoted string. -/
  | endInString
  /-- The text ended inside a url. -/
  | endInUrl
  deriving Repr, DecidableEq

/-- A token that stands for itself. -/
inductive Atom where
  | whitespace (text : List Char)
  | literal (text : List Char)
  | ident (name : List Char)
  | atKeyword (name : List Char)
  /-- A name after a number sign; `isIdent` if an identifier could start there. -/
  | hash (name : List Char) (isIdent : Bool)
  /-- A quoted string; not `closed` if the text ended inside it. -/
  | string (value : List Char) (closed : Bool)
  /-- An unquoted url; not `closed` if the text ended inside it. -/
  | url (value : List Char) (closed : Bool)
  | unicodeRange (first last : Nat)
  | number (text : List Char)
  | percentage (text : List Char)
  | dimension (text unit : List Char)
  | flaw (flaw : Flaw)
  deriving Repr, DecidableEq

/-- A token of a style sheet. -/
inductive Token where
  | atom (atom : Atom)
  /-- A name with the opening round bracket behind it. -/
  | function (name : List Char)
  | opening (bracket : Bracket)
  | closing (bracket : Bracket)
  deriving Repr, DecidableEq

/-- The text of the number in an atom. -/
def Atom.numberText? : Atom → Option (List Char)
  | number text | percentage text | dimension text _ => some text
  | _ => none

/-- The number of digits of a whole number in a token. A number with a point or an exponent is not
whole. -/
def Token.wholeDigits? : Token → Option Nat
  | atom found => do
    let text ← found.numberText?
    if text.any fun c => c == '.' || c == 'e' || c == 'E' then none
    else some (text.countP Char.isDigit)
  | _ => none

/-- A token with the line its first character stands on. -/
structure Lexeme where
  line : Nat
  token : Token
  deriving Repr, DecidableEq

/-- The ASCII letters, the only ones whose case style sheets ignore, in lower case. -/
def lowerAscii (text : List Char) : List Char :=
  text.map Char.toLower

end CriticalCss.Syntax
