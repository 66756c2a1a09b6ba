import CriticalCss.Json.Basic
import CriticalCss.Text.Digit
/-! Reading JSON texts. Besides the standard grammar the words NaN, Infinity and -Infinity are
numbers. A fault is reported with the position of the character, counted from zero, at which the
text stops being JSON: for an unterminated string its opening quote, for a bad escape its
backslash, otherwise the first character that cannot stand where it does. Two limits are kept on
the way: on the digits of a whole number and on how deep values are nested.
-/

namespace CriticalCss.Json

/-- A place in a text: how many characters are read, and what follows. -/
structure Cursor where
  position : Nat
  rest : List Char

namespace Cursor

/-- The cursor after so many more characters. -/
def skip (cursor : Cursor) (count : Nat) : Cursor :=
  ⟨cursor.position + count, cursor.rest.drop count⟩

/-- The cursor after the whitespace that follows. -/
def skipBlanks (cursor : Cursor) : Cursor :=
  let isBlank (c : Char) := c == ' ' || c == '\t' || c == '\n' || c == '\r'
  cursor.skip (cursor.rest.takeWhile isBlank).length

/-- Does the text go on with the given characters? -/
def startsWith (cursor : Cursor) (word : String) : Bool :=
  word.toList.isPrefixOf cursor.rest

end Cursor

/-- Why a text is not read. -/
inductive Fault where
  /-- The text stops being JSON at a character. -/
  | malformed (position : Nat)
  /-- A whole number has too many digits. -/
  | longNumber
  /-- Values are nested too deep. -/
  | tooDeep
  deriving DecidableEq, Repr

/-- How deep arrays and objects may be nested. -/
def deepestNesting : Nat := 970

/-- The value of exactly four hexadecimal digits. -/
def fourHex? (text : List Char) : Option Nat :=
  let digits := text.take 4
  if digits.length = 4 && digits.all Text.isHexDigit then some (Text.digitsValue 16 digits)
  else none

/-- The character of a one-letter escape. -/
def simpleEscape? : Char → Option Char
  | '"' => some '"'
  | '\\' => some '\\'
  | '/' => some '/'
  | 'b' => some '\x08'
  | 'f' => some '\x0c'
  | 'n' => some '\n'
  | 'r' => some '\r'
  | 't' => some '\t'
  | _ => none

/-- Reads the character of an escape whose backslash and letter u are passed; the cursor stands on
the first digit. Two escapes that form a surrogate pair are one character, half of a pair is none.
-/
def readUnicodeEscape (cursor : Cursor) : Except Fault (Option Char × Cursor) :=
  match fourHex? cursor.rest with
  | none => .error (.malformed (cursor.position - 1))
  | some high =>
    if (cursor.rest.drop 4).isEmpty then .error (.malformed (cursor.position - 1))
    else
      let after := cursor.skip 4
      if 0xD800 ≤ high && high ≤ 0xDBFF && after.startsWith "\\u"
          && !(after.rest.drop 6).isEmpty then
        match fourHex? (after.rest.drop 2) with
        | none => .error (.malformed (after.position + 1))
        | some low =>
          if 0xDC00 ≤ low && low ≤ 0xDFFF then
            .ok (Char.ofNat (0x10000 + (high - 0xD800) * 0x400 + (low - 0xDC00)), after.skip 6)
          else .ok (none, after)
      else if 0xD800 ≤ high && high ≤ 0xDFFF then .ok (none, after)
      else .ok (Char.ofNat high, after)

/-- A string that was read. -/
structure ReadText where
  /-- The characters, the last one first. -/
  backwards : List Char := []
  /-- Was half of a surrogate pair replaced? -/
  isTorn : Bool := false

/-- What was read, and one character more, or half of a pair. -/
def ReadText.push (read : ReadText) (c : Option Char) : ReadText :=
  match c with
  | some c => { read with backwards := c :: read.backwards }
  | none => ⟨'\uFFFD' :: read.backwards, true⟩

/-- The text that was read. -/
def ReadText.text (read : ReadText) : String :=
  String.ofList read.backwards.reverse

/-- The value of a string. -/
def ReadText.toJson (read : ReadText) : Json :=
  if read.isTorn then .torn read.text else .str read.text

/-- Reads the rest of a string, up to and with its closing quote. Every round reads at least one
character, so one round more than there are characters left is enough. -/
def readString (start : Nat) (rounds : Nat) (read : ReadText) (cursor : Cursor)
    : Except Fault (ReadText × Cursor) :=
  match rounds with
  | 0 => .error (.malformed start)
  | rounds + 1 =>
    match cursor.rest with
    | [] => .error (.malformed start)
    | '"' :: _ => .ok (read, cursor.skip 1)
    | '\\' :: [] => .error (.malformed start)
    | '\\' :: 'u' :: _ =>
      match readUnicodeEscape (cursor.skip 2) with
      | .error fault => .error fault
      | .ok (c, after) => readString start rounds (read.push c) after
    | '\\' :: letter :: _ =>
      match simpleEscape? letter with
      | some c => readString start rounds (read.push c) (cursor.skip 2)
      | none => .error (.malformed cursor.position)
    | c :: _ =>
      if c.toNat < 0x20 then .error (.malformed cursor.position)
      else readString start rounds (read.push c) (cursor.skip 1)

/-- The digits of a whole part: a zero alone, or digits that start with another one. -/
def wholeDigits : List Char → List Char
  | '0' :: _ => ['0']
  | rest => rest.takeWhile (fun c => '0' ≤ c && c ≤ '9')

/-- An exponent part: the number of its characters and its value. -/
def exponentPart : List Char → Option (Nat × Int)
  | mark :: rest =>
    if mark = 'e' || mark = 'E' then
      let (negative, signs, rest) :=
        match rest with
        | '-' :: rest => (true, 1, rest)
        | '+' :: rest => (false, 1, rest)
        | rest => (false, 0, rest)
      let digits := rest.takeWhile (fun c => '0' ≤ c && c ≤ '9')
      if digits.isEmpty then none
      else
        let value : Int := Text.digitsValue 10 digits
        some (1 + signs + digits.length, if negative then -value else value)
    else none
  | [] => none

/-- Reads a number. -/
def readNumber (cursor : Cursor) : Except Fault (Json × Cursor) :=
  let negative := cursor.startsWith "-"
  let unsigned := if negative then cursor.skip 1 else cursor
  let whole := wholeDigits unsigned.rest
  if whole.isEmpty then .error (.malformed cursor.position)
  else
    let afterWhole := unsigned.skip whole.length
    let fraction :=
      match afterWhole.rest with
      | '.' :: rest => rest.takeWhile (fun c => '0' ≤ c && c ≤ '9')
      | _ => []
    let afterFraction :=
      if fraction.isEmpty then afterWhole else afterWhole.skip (1 + fraction.length)
    match exponentPart afterFraction.rest with
    | some (count, exponent) =>
      let value := Decimal.ofDecimal negative (Text.digitsValue 10 (whole ++ fraction))
        (exponent - fraction.length)
      .ok (.float value, afterFraction.skip count)
    | none =>
      if fraction.isEmpty && Text.digitLimit < whole.length then .error .longNumber
      else if fraction.isEmpty then
        let value : Int := Text.digitsValue 10 whole
        .ok (.int (if negative then -value else value), afterWhole)
      else
        let value := Decimal.ofDecimal negative (Text.digitsValue 10 (whole ++ fraction))
          (-(fraction.length : Int))
        .ok (.float value, afterFraction)

/-- The words that are values. -/
def valueWords : List (String × Json) :=
  [("null", .null), ("true", .bool true), ("false", .bool false),
    ("NaN", .float .notANumber), ("Infinity", .float (.infinite false)),
    ("-Infinity", .float (.infinite true))]

mutual
/-- Reads one value, in which arrays and objects may be nested so deep. Two rounds for each character
that is left, and two more, are enough: every round but one in two reads a character. -/
def readValue (rounds depth : Nat) (cursor : Cursor) : Except Fault (Json × Cursor) :=
  match rounds with
  | 0 => .error (.malformed cursor.position)
  | rounds + 1 =>
    match cursor.rest, depth with
    | '"' :: _, _ => do
      let (read, after) ← readString cursor.position rounds {} (cursor.skip 1)
      return (read.toJson, after)
    | '[' :: _, 0 | '\x7b' :: _, 0 => .error .tooDeep
    | '[' :: _, depth + 1 => do
      let inside := (cursor.skip 1).skipBlanks
      if inside.startsWith "]" then return (.arr [], inside.skip 1)
      else readItems rounds depth [] inside
    | '\x7b' :: _, depth + 1 => do
      let inside := (cursor.skip 1).skipBlanks
      if inside.startsWith "\x7d" then return (.obj [], inside.skip 1)
      else readMembers rounds depth [] inside
    | _, _ =>
      match valueWords.find? (fun entry => cursor.startsWith entry.1) with
      | some (word, value) => .ok (value, cursor.skip word.length)
      | none => readNumber cursor

/-- Reads the items of an array up to and with its closing bracket. -/
def readItems (rounds depth : Nat) (read : List Json) (cursor : Cursor)
    : Except Fault (Json × Cursor) :=
  match rounds with
  | 0 => .error (.malformed cursor.position)
  | rounds + 1 => do
    let (item, after) ← readValue rounds depth cursor
    let after := after.skipBlanks
    match after.rest with
    | ']' :: _ => return (.arr (item :: read).reverse, after.skip 1)
    | ',' :: _ => readItems rounds depth (item :: read) (after.skip 1).skipBlanks
    | _ => .error (.malformed after.position)

/-- Reads the members of an object up to and with its closing brace. A member whose name is torn has
the name for its value, for nothing is looked up by such a name. -/
def readMembers (rounds depth : Nat) (read : List (String × Json)) (cursor : Cursor)
    : Except Fault (Json × Cursor) :=
  match rounds with
  | 0 => .error (.malformed cursor.position)
  | rounds + 1 =>
    if !cursor.startsWith "\"" then .error (.malformed cursor.position)
    else do
      let (name, after) ← readString cursor.position rounds {} (cursor.skip 1)
      let colon := after.skipBlanks
      if !colon.startsWith ":" then .error (.malformed colon.position)
      else
        let (value, after) ← readValue rounds depth (colon.skip 1).skipBlanks
        let after := after.skipBlanks
        let members :=
          setMember read name.text (if name.isTorn then .torn name.text else value)
        match after.rest with
        | '\x7d' :: _ => return (.obj members, after.skip 1)
        | ',' :: _ => readMembers rounds depth members (after.skip 1).skipBlanks
        | _ => .error (.malformed after.position)
end

/-- Reads a whole text as one value. -/
def read (text : String) : Except Fault Json := do
  let cursor : Cursor := Cursor.skipBlanks ⟨0, text.toList⟩
  let (value, after) ← readValue (2 * text.length + 2) deepestNesting cursor
  let after := after.skipBlanks
  if after.rest.isEmpty then return value else .error (.malformed after.position)

end CriticalCss.Json
