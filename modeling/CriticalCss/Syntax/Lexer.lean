import CriticalCss.Syntax.Token
import CriticalCss.Text.Digit
/-! Cutting a style sheet into tokens. Each step reads at least one character and looks at what
follows only as far as it has to; the first rule that fits decides. Comments leave no token.
-/

namespace CriticalCss.Syntax

--------------------------------------------------------------------------------
-- Characters
--------------------------------------------------------------------------------

/-- The whitespace of style sheets. -/
def isSpace (c : Char) : Bool :=
  c == ' ' || c == '\n' || c == '\t'

/-- A character that may begin a name. -/
def isNameStart (c : Char) : Bool :=
  c.isAlpha || c == '_' || 0x7F < c.toNat

/-- A character that may continue a name. -/
def isNamePart (c : Char) : Bool :=
  isNameStart c || c.isDigit || c == '-'

/-- Does a valid escape start here? It does at a backslash that no line end follows. -/
def startsEscape : List Char → Bool
  | '\\' :: '\n' :: _ => false
  | '\\' :: _ => true
  | _ => false

/-- Does an identifier start here? -/
def startsIdent : List Char → Bool
  | [] => false
  | '-' :: rest =>
    match rest with
    | [] => false
    | c :: _ => isNameStart c || c == '-' || startsEscape rest
  | c :: rest => isNameStart c || startsEscape (c :: rest)

--------------------------------------------------------------------------------
-- Line ends
--------------------------------------------------------------------------------

/-- The text as it is cut into tokens: the null character becomes the replacement character, and
every way to end a line becomes a line feed. -/
def normalizeLines : List Char → List Char
  | [] => []
  | '\r' :: '\n' :: rest => '\n' :: normalizeLines rest
  | c :: rest =>
    (if c = '\r' || c = '\x0c' then '\n' else if c = '\x00' then '\uFFFD' else c)
      :: normalizeLines rest

/-- The number of line ends in a text. -/
def lineEnds (text : List Char) : Nat :=
  text.count '\n'

--------------------------------------------------------------------------------
-- Names, strings, urls and numbers
--------------------------------------------------------------------------------

/-- The character of an escape, given the text behind its backslash, and how many characters of
that text the escape takes. -/
def readEscape (text : List Char) : Char × Nat :=
  let digits := (text.take 6).takeWhile Text.isHexDigit
  match text with
  | [] => ('\uFFFD', 0)
  | c :: _ =>
    if digits.isEmpty then (c, 1)
    else
      let code := Text.digitsValue 16 digits
      let decoded := if code = 0 || !code.isValidChar then '\uFFFD' else Char.ofNat code
      let blank := if (text.drop digits.length).head?.any isSpace then 1 else 0
      (decoded, digits.length + blank)

/-- A name, escapes decoded, and how many characters it takes. -/
def readName (text : List Char) : List Char × Nat :=
  match text with
  | [] => ([], 0)
  | c :: rest =>
    if isNamePart c then
      let (name, length) := readName rest
      (c :: name, length + 1)
    else if startsEscape (c :: rest) then
      let escape := readEscape rest
      let (name, length) := readName (rest.drop escape.2)
      (escape.1 :: name, length + escape.2 + 1)
    else ([], 0)
termination_by text.length
decreasing_by
  · simp
  · simp only [List.length_drop, List.length_cons]
    omega

/-- How reading a quoted string ends. -/
inductive StringEnd where
  /-- At its quote. -/
  | closed
  /-- At the end of the text. -/
  | atEnd
  /-- At a line end, which is not part of it. -/
  | broken
  deriving DecidableEq

/-- The value of a quoted string whose opening quote is passed, how it ends, and how many characters
it takes. An escaped line end adds nothing, and neither does a backslash at the end of the text. -/
def readString (quote : Char) (text : List Char) : List Char × StringEnd × Nat :=
  match text with
  | [] => ([], .atEnd, 0)
  | c :: rest =>
    if c = quote then ([], .closed, 1)
    else if c = '\\' then
      if rest = [] then ([], .atEnd, 1)
      else if rest.head? = some '\n' then
        let (value, ending, length) := readString quote (rest.drop 1)
        (value, ending, length + 2)
      else
        let escape := readEscape rest
        let (value, ending, length) := readString quote (rest.drop escape.2)
        (escape.1 :: value, ending, length + escape.2 + 1)
    else if c = '\n' then ([], .broken, 0)
    else
      let (value, ending, length) := readString quote rest
      (c :: value, ending, length + 1)
termination_by text.length
decreasing_by
  · simp only [List.length_cons, List.length_drop]
    omega
  · simp only [List.length_cons, List.length_drop]
    omega
  · simp

/-- A character that cannot stand unescaped in an unquoted url. -/
def breaksUrl (c : Char) : Bool :=
  c == '"' || c == '\'' || c == '(' || c.toNat < 9 || c.toNat == 0x0B
    || (0x0E ≤ c.toNat && c.toNat < 0x20) || c.toNat == 0x7F

/-- How reading an unquoted url ends. -/
inductive UrlEnd where
  | closed
  | atEnd
  | broken
  deriving DecidableEq

/-- The length of the rest of a url that went wrong: it reaches past the next closing bracket that
has no backslash before it. -/
def badUrlLength : List Char → Nat
  | [] => 0
  | '\\' :: ')' :: rest => badUrlLength rest + 2
  | ')' :: _ => 1
  | _ :: rest => badUrlLength rest + 1

/-- The end of a url whose characters are read, with blanks before its bracket. -/
def closeUrl (text : List Char) : UrlEnd × Nat :=
  let blanks := text.takeWhile isSpace
  match text.drop blanks.length with
  | [] => (.atEnd, blanks.length)
  | ')' :: _ => (.closed, blanks.length + 1)
  | rest => (.broken, blanks.length + badUrlLength rest)

/-- The value of an unquoted url whose leading blanks are passed, how it ends, and how many
characters it takes. -/
def readUrl (text : List Char) : List Char × UrlEnd × Nat :=
  match text with
  | [] => ([], .atEnd, 0)
  | c :: rest =>
    if c = ')' then ([], .closed, 1)
    else if isSpace c then
      let (ending, length) := closeUrl rest
      ([], ending, length + 1)
    else if startsEscape (c :: rest) then
      let escape := readEscape rest
      let (value, ending, length) := readUrl (rest.drop escape.2)
      (escape.1 :: value, ending, length + escape.2 + 1)
    else if breaksUrl c then ([], .broken, badUrlLength rest + 1)
    else
      let (value, ending, length) := readUrl rest
      (c :: value, ending, length + 1)
termination_by text.length
decreasing_by
  · simp only [List.length_cons, List.length_drop]
    omega
  · simp

/-- The digits at the start of a text. -/
def leadingDigits (text : List Char) : List Char :=
  text.takeWhile Char.isDigit

/-- The length of the digits of a number without its sign: digits, or digits, a point and at least
one digit. -/
def mantissaLength (text : List Char) : Nat :=
  let whole := leadingDigits text
  match text.drop whole.length with
  | '.' :: rest =>
    let fraction := leadingDigits rest
    if fraction.isEmpty then whole.length else whole.length + 1 + fraction.length
  | _ => whole.length

/-- The length of an exponent: a letter e, a sign or none, and at least one digit. -/
def exponentLength : List Char → Nat
  | c :: rest =>
    if c = 'e' || c = 'E' then
      match rest with
      | s :: after =>
        if s = '+' || s = '-' then
          let digits := leadingDigits after
          if digits.isEmpty then 0 else 2 + digits.length
        else
          let digits := leadingDigits rest
          if digits.isEmpty then 0 else 1 + digits.length
      | [] => 0
    else 0
  | [] => 0

/-- The length of the number that a text starts with, zero if it starts with none. -/
def numberLength (text : List Char) : Nat :=
  let sign :=
    match text with
    | c :: _ => if c = '+' || c = '-' then 1 else 0
    | [] => 0
  let mantissa := mantissaLength (text.drop sign)
  if mantissa = 0 then 0
  else sign + mantissa + exponentLength (text.drop (sign + mantissa))

/-- A range of code points, given the text behind the plus sign, and how many characters of that
text it takes. -/
def readUnicodeRange (text : List Char) : Nat × Nat × Nat :=
  let digits := (text.take 6).takeWhile Text.isHexDigit
  let marks := ((text.take 6).drop digits.length).takeWhile (· == '?')
  let length := digits.length + marks.length
  if marks.isEmpty then
    match text.drop length with
    | '-' :: rest =>
      let last := (rest.take 6).takeWhile Text.isHexDigit
      if last.isEmpty then (Text.digitsValue 16 digits, Text.digitsValue 16 digits, length)
      else (Text.digitsValue 16 digits, Text.digitsValue 16 last, length + 1 + last.length)
    | _ => (Text.digitsValue 16 digits, Text.digitsValue 16 digits, length)
  else
    let filled (c : Char) := Text.digitsValue 16 (digits ++ List.replicate marks.length c)
    (filled '0', filled 'F', length)

/-- The length of a comment whose opening mark is passed. -/
def commentLength : List Char → Nat
  | [] => 0
  | '*' :: '/' :: _ => 2
  | _ :: rest => commentLength rest + 1

--------------------------------------------------------------------------------
-- Tokens
--------------------------------------------------------------------------------

/-- The token of a quoted string. A string that the text ends in is followed by a flaw that says
so; a broken one leaves only its flaw. -/
def stringTokens (value : List Char) : StringEnd → List Token
  | .closed => [.atom (.string value true)]
  | .atEnd => [.atom (.string value false), .atom (.flaw .endInString)]
  | .broken => [.atom (.flaw .badString)]

/-- The token of an unquoted url, with the same rules as for strings. -/
def urlTokens (value : List Char) : UrlEnd → List Token
  | .closed => [.atom (.url value true)]
  | .atEnd => [.atom (.url value false), .atom (.flaw .endInUrl)]
  | .broken => [.atom (.flaw .badUrl)]

/-- Does the text, blanks passed, start with a quote? -/
def startsQuoted (text : List Char) : Bool :=
  let first := (text.dropWhile isSpace).head?
  first = some '"' || first = some '\''

/-- The tokens that start with a name, an identifier, a function or an unquoted url, and how many
characters they take. -/
def scanName (text : List Char) : List Token × Nat :=
  let (name, length) := readName text
  let after := text.drop length
  if after.head? = some '(' then
    let inside := after.drop 1
    if lowerAscii name = "url".toList && !startsQuoted inside then
      let blanks := inside.takeWhile isSpace
      let url := readUrl (inside.drop blanks.length)
      (urlTokens url.1 url.2.1, length + 1 + blanks.length + url.2.2)
    else ([.function name], length + 1)
  else ([.atom (.ident name)], length)

/-- The token that starts with a number of the given length, a number alone, one with a unit or a
percentage, and how many characters it takes. -/
def scanNumber (text : List Char) (length : Nat) : List Token × Nat :=
  let number := text.take length
  let after := text.drop length
  if startsIdent after then
    let (unit, unitLength) := readName after
    ([.atom (.dimension number unit)], length + unitLength)
  else if after.head? = some '%' then ([.atom (.percentage number)], length + 1)
  else ([.atom (.number number)], length)

/-- Characters that form one literal with an equals sign behind them. -/
def joinsEquals (c : Char) : Bool :=
  c == '~' || c == '|' || c == '^' || c == '$' || c == '*'

/-- A literal, of several characters where these have a meaning together and otherwise of one, and
how many characters it takes. -/
def scanLiteral (c : Char) (rest : List Char) : List Token × Nat :=
  if c = '<' && "!--".toList.isPrefixOf rest then ([.atom (.literal "<!--".toList)], 4)
  else if c = '|' && rest.head? = some '|' then ([.atom (.literal "||".toList)], 2)
  else if joinsEquals c && rest.head? = some '=' then ([.atom (.literal [c, '='])], 2)
  else ([.atom (.literal [c])], 1)

/-- The token at a character that names follow, a keyword behind an at sign or a hash behind a
number sign, and how many characters it takes. -/
def scanMarked (c : Char) (rest : List Char) : List Token × Nat :=
  if c = '@' && startsIdent rest then
    let (name, length) := readName rest
    ([.atom (.atKeyword name)], length + 1)
  else if c = '#' && (rest.head?.any isNamePart || startsEscape rest) then
    let (name, length) := readName rest
    ([.atom (.hash name (startsIdent rest))], length + 1)
  else scanLiteral c rest

/-- The token of a bracket. -/
def bracketToken? : Char → Option Token
  | '(' => some (.opening .round)
  | '[' => some (.opening .square)
  | '\x7b' => some (.opening .curly)
  | ')' => some (.closing .round)
  | ']' => some (.closing .square)
  | '\x7d' => some (.closing .curly)
  | _ => none

/-- Does a range of code points start here? -/
def startsUnicodeRange : List Char → Bool
  | c :: '+' :: d :: _ => (c == 'u' || c == 'U') && (Text.isHexDigit d || d == '?')
  | _ => false

/-- The tokens at the start of a text, given as first character and rest, none for a comment, and
how many characters they take. -/
def scan (c : Char) (rest : List Char) : List Token × Nat :=
  if isSpace c then
    let blanks := rest.takeWhile isSpace
    ([.atom (.whitespace (c :: blanks))], blanks.length + 1)
  else if startsUnicodeRange (c :: rest) then
    let (first, last, length) := readUnicodeRange (rest.drop 1)
    ([.atom (.unicodeRange first last)], length + 2)
  else if "-->".toList.isPrefixOf (c :: rest) then ([.atom (.literal "-->".toList)], 3)
  else if startsIdent (c :: rest) then scanName (c :: rest)
  else if numberLength (c :: rest) ≠ 0 then scanNumber (c :: rest) (numberLength (c :: rest))
  else if c = '@' || c = '#' then scanMarked c rest
  else if c = '"' || c = '\'' then
    let (value, ending, length) := readString c rest
    (stringTokens value ending, length + 1)
  else if c = '/' && rest.head? = some '*' then ([], commentLength (rest.drop 1) + 2)
  else
    match bracketToken? c with
    | some token => ([token], 1)
    | none => scanLiteral c rest

/-- Where an identifier starts, the name that begins there takes at least one character. -/
theorem readName_length_pos {text : List Char} (h : startsIdent text = true)
    : 0 < (readName text).2 := by
  cases text with
  | nil => simp [startsIdent] at h
  | cons c rest =>
    rw [readName.eq_def]
    dsimp only
    split
    · exact Nat.succ_pos _
    · rename_i hpart
      split
      · exact Nat.succ_pos _
      · rename_i hesc
        exfalso
        revert h
        unfold startsIdent
        split
        · simp
        · simp_all [isNamePart]
        · simp_all [isNamePart]

theorem scanName_length_pos {text : List Char} (h : startsIdent text = true)
    : 0 < (scanName text).2 := by
  have := readName_length_pos h
  unfold scanName
  dsimp only
  split
  · split
    · dsimp only
      omega
    · exact Nat.succ_pos _
  · exact this

theorem scanNumber_length_pos {text : List Char} {length : Nat} (h : length ≠ 0)
    : 0 < (scanNumber text length).2 := by
  unfold scanNumber
  dsimp only
  split
  · dsimp only
    omega
  split
  · exact Nat.succ_pos _
  · exact Nat.pos_of_ne_zero h

theorem scanLiteral_length_pos (c : Char) (rest : List Char) : 0 < (scanLiteral c rest).2 := by
  unfold scanLiteral
  split
  · exact Nat.succ_pos _
  split
  · exact Nat.succ_pos _
  split
  · exact Nat.succ_pos _
  · exact Nat.succ_pos _

theorem scanMarked_length_pos (c : Char) (rest : List Char) : 0 < (scanMarked c rest).2 := by
  unfold scanMarked
  split
  · exact Nat.succ_pos _
  split
  · exact Nat.succ_pos _
  · exact scanLiteral_length_pos c rest

/-- Every step reads at least one character. -/
theorem scan_length_pos (c : Char) (rest : List Char) : 0 < (scan c rest).2 := by
  unfold scan
  split
  · exact Nat.succ_pos _
  split
  · exact Nat.succ_pos _
  split
  · exact Nat.succ_pos _
  split
  · exact scanName_length_pos ‹_›
  split
  · exact scanNumber_length_pos ‹_›
  split
  · exact scanMarked_length_pos c rest
  split
  · exact Nat.succ_pos _
  split
  · exact Nat.succ_pos _
  split
  · exact Nat.succ_pos _
  · exact scanLiteral_length_pos c rest

/-- The tokens of a text whose first character stands on the given line. -/
def lexFrom (line : Nat) (text : List Char) : List Lexeme :=
  match text with
  | [] => []
  | c :: rest =>
    let step := scan c rest
    step.1.map (⟨line, ·⟩)
      ++ lexFrom (line + lineEnds ((c :: rest).take step.2)) ((c :: rest).drop step.2)
termination_by text.length
decreasing_by
  have := scan_length_pos c rest
  simp only [List.length_drop, List.length_cons]
  omega

/-- The tokens of a style sheet. -/
def lex (text : String) : List Lexeme :=
  lexFrom 1 (normalizeLines text.toList)

end CriticalCss.Syntax
