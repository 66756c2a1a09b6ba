import CriticalCss.Syntax.Component
/-! Writing component values as text that reads back as the same values. Where two neighbours would
run together an empty comment is written between them, and a literal backslash is kept from what
follows it by a line end.
-/

namespace CriticalCss.Syntax

--------------------------------------------------------------------------------
-- Names and quoted values
--------------------------------------------------------------------------------

/-- An escape by code point, with the space that ends it. -/
def hexEscape (c : Char) : List Char :=
  '\\' :: (Nat.toDigits 16 c.toNat).map Char.toUpper ++ [' ']

/-- A character that ends a line. -/
def isLineEnd (c : Char) : Bool :=
  c == '\n' || c == '\r' || c == '\x0c'

/-- One character of a name. -/
def nameChar (c : Char) : List Char :=
  if isNamePart c then [c]
  else if isLineEnd c then hexEscape c
  else ['\\', c]

/-- The first character of an identifier, where a digit cannot stand as it is. -/
def identStartChar (c : Char) : List Char :=
  if isNameStart c then [c]
  else if isLineEnd c || c.isDigit then hexEscape c
  else ['\\', c]

/-- A name that something else precedes. -/
def writeName (name : List Char) : List Char :=
  name.flatMap nameChar

/-- A name that stands on its own. -/
def writeIdent : List Char → List Char
  | ['-'] => ['\\', '-']
  | '-' :: '-' :: rest => '-' :: '-' :: writeName rest
  | '-' :: c :: rest => '-' :: identStartChar c ++ writeName rest
  | c :: rest => identStartChar c ++ writeName rest
  | [] => []

/-- One character inside double quotes. -/
def stringChar (c : Char) : List Char :=
  if c = '"' || c = '\\' then ['\\', c]
  else if isLineEnd c then hexEscape c
  else [c]

/-- One character of an unquoted url. -/
def urlChar (c : Char) : List Char :=
  if c = '\'' || c = '"' || c = '\\' || c = ' ' || c = '(' || c = ')' then ['\\', c]
  else if c = '\t' || isLineEnd c then hexEscape c
  else [c]

/-- The unit of a dimension. A unit that would read as an exponent has its first letter escaped. -/
def writeUnit (unit : List Char) : List Char :=
  match unit with
  | [c] => if c = 'e' || c = 'E' then "\\65 ".toList else writeIdent unit
  | c :: '-' :: rest =>
    if c = 'e' || c = 'E' then "\\65 ".toList ++ writeName ('-' :: rest) else writeIdent unit
  | _ => writeIdent unit

/-- A code point in hexadecimal digits. -/
def writeCode (code : Nat) : List Char :=
  (Nat.toDigits 16 code).map Char.toUpper

/-- The closing bracket of a pair. -/
def closingChar : Bracket → Char
  | .round => ')'
  | .square => ']'
  | .curly => '\x7d'

/-- The opening bracket of a pair. -/
def openingChar : Bracket → Char
  | .round => '('
  | .square => '['
  | .curly => '\x7b'

/-- What stands for something that could not be read. -/
def writeFlaw : Flaw → List Char
  | .badString => "\"[bad string]\n".toList
  | .badUrl => "url([bad url])".toList
  | .unmatched bracket => [closingChar bracket]
  | .endInString => []
  | .endInUrl => []

/-- The text of an atom. -/
def writeAtom : Atom → List Char
  | .whitespace text => text
  | .literal text => text
  | .ident name => writeIdent name
  | .atKeyword name => '@' :: writeIdent name
  | .hash name isIdent => '#' :: (if isIdent then writeIdent name else writeName name)
  | .string value closed => '"' :: value.flatMap stringChar ++ (if closed then ['"'] else [])
  | .url value closed => "url(".toList ++ value.flatMap urlChar ++ (if closed then [')'] else [])
  | .unicodeRange first last =>
    "U+".toList ++ writeCode first ++ (if first = last then [] else '-' :: writeCode last)
  | .number text => text
  | .percentage text => text ++ ['%']
  | .dimension text unit => text ++ writeUnit unit
  | .flaw flaw => writeFlaw flaw

--------------------------------------------------------------------------------
-- Neighbours
--------------------------------------------------------------------------------

/-- The kind of a component, as far as its neighbours have to know it. -/
inductive Kind where
  | whitespace
  | literal (text : List Char)
  | ident
  | atKeyword
  | hash
  | string
  | url
  | unicodeRange
  | number
  | percentage
  | dimension
  | flaw
  | function
  | block (bracket : Bracket)
  deriving DecidableEq

/-- The kind of an atom. -/
def Atom.kind : Atom → Kind
  | .whitespace _ => .whitespace
  | .literal text => .literal text
  | .ident _ => .ident
  | .atKeyword _ => .atKeyword
  | .hash _ _ => .hash
  | .string _ _ => .string
  | .url _ _ => .url
  | .unicodeRange _ _ => .unicodeRange
  | .number _ => .number
  | .percentage _ => .percentage
  | .dimension _ _ => .dimension
  | .flaw _ => .flaw

/-- The kind of a component. -/
def Component.kind : Component → Kind
  | .atom _ found => found.kind
  | .block _ bracket _ => .block bracket
  | .function _ _ _ => .function

/-- The word messages use for the kind of a component. -/
def Kind.word : Kind → String
  | .whitespace => "whitespace"
  | .literal _ => "literal"
  | .ident => "ident"
  | .atKeyword => "at-keyword"
  | .hash => "hash"
  | .string => "string"
  | .url => "url"
  | .unicodeRange => "unicode-range"
  | .number => "number"
  | .percentage => "percentage"
  | .dimension => "dimension"
  | .flaw => "error"
  | .function => "function"
  | .block .round => "() block"
  | .block .square => "[] block"
  | .block .curly => "\x7b\x7d block"

/-- Is the kind the literal of one character? -/
def Kind.isMark (kind : Kind) (c : Char) : Bool :=
  kind = .literal [c]

/-- Kinds whose text ends in a name. -/
def Kind.endsInName (kind : Kind) : Bool :=
  kind = .ident || kind = .atKeyword || kind = .hash || kind = .dimension

/-- Kinds whose text starts with a name. -/
def Kind.startsWithName (kind : Kind) : Bool :=
  kind = .ident || kind = .function || kind = .url

/-- Kinds whose text starts with a number. -/
def Kind.startsWithNumber (kind : Kind) : Bool :=
  kind = .number || kind = .percentage || kind = .dimension

/-- Would the two kinds run together if nothing were written between them? -/
def runTogether (left right : Kind) : Bool :=
  ((left.endsInName || left.isMark '#' || left.isMark '-' || left = .number)
      && (right.startsWithName || right.startsWithNumber || right = .unicodeRange))
    || (left.endsInName && (right.isMark '-' || right = .literal "-->".toList))
    || (left.isMark '@' && (right.startsWithName || right = .unicodeRange || right.isMark '-'))
    || ((left = .unicodeRange || left.isMark '.' || left.isMark '+') && right.startsWithNumber)
    || (left = .unicodeRange && (right = .ident || right = .function || right.isMark '?'))
    || ((left.isMark '$' || left.isMark '*' || left.isMark '^' || left.isMark '~'
        || left.isMark '|') && right.isMark '=')
    || (left = .ident && right = .block .round)
    || (left.isMark '|' && right.isMark '|')
    || (left.isMark '/' && right.isMark '*')

/-- What is written between two neighbours. A line end after a backslash is not needed if
whitespace with a line end of its own follows. -/
def gapBetween (left : Option Kind) (right : Component) : List Char :=
  match left with
  | none => []
  | some left =>
    if runTogether left right.kind then "/**/".toList
    else if left.isMark '\\' then
      match right with
      | .atom _ (.whitespace ('\n' :: _)) => []
      | _ => ['\n']
    else []

--------------------------------------------------------------------------------
-- Components
--------------------------------------------------------------------------------

mutual
/-- Does the text of the component end inside a quoted string that the end of the text broke off?
Then no bracket is written behind it. -/
def endsInString : Component → Bool
  | .atom _ (.flaw .endInString) => true
  | .function _ _ arguments => lastEndsInString arguments
  | _ => false

/-- The same question for the last of several components. -/
def lastEndsInString : List Component → Bool
  | [] => false
  | [last] => endsInString last
  | _ :: rest => lastEndsInString rest
end

mutual
/-- The text of a component. -/
def writeComponent : Component → List Char
  | .atom _ found => writeAtom found
  | .block _ bracket content =>
    openingChar bracket :: writeAfter none content ++ [closingChar bracket]
  | .function _ name arguments =>
    writeIdent name ++ '(' :: writeAfter none arguments
      ++ (if lastEndsInString arguments then [] else [')'])

/-- The text of components behind a neighbour of the given kind. -/
def writeAfter (left : Option Kind) : List Component → List Char
  | [] => []
  | component :: rest =>
    gapBetween left component ++ writeComponent component ++ writeAfter component.kind rest
end

/-- The text of components. -/
def writeAll (components : List Component) : List Char :=
  writeAfter none components

end CriticalCss.Syntax
