import CriticalCss.Text.Digit
/-! Whole numbers as people write them. A plain number has digits only, with a minus sign in front
if it is negative, and no zero in front of other digits. Written more freely it may stand between
blanks, start with a plus sign, have zeros and underscores in front of its other digits, single
underscores between digits, and end in a point and zeros. The minus sign may also stand behind the
zeros in front.
-/

namespace CriticalCss.Input

/-- What reading a number gives. -/
inductive NumberReading where
  | value (number : Int)
  | unreadable
  /-- There are more digits than are read. -/
  | endless
  deriving DecidableEq, Repr

/-- The number that decimal digits write. -/
def decimalValue (digits : List Char) : Nat :=
  digits.foldl (fun value c => value * 10 + (c.toNat - '0'.toNat)) 0

/-- Reads a plain number. -/
def readPlain (text : List Char) : NumberReading :=
  let negative := text.head? == some '-'
  let digits := if negative then text.drop 1 else text
  let run := digits.takeWhile Char.isDigit
  let number : Int := decimalValue run
  let value : NumberReading := .value (if negative then -number else number)
  if run.isEmpty then .unreadable
  else if run.head? == some '0' then if digits = ['0'] then value else .unreadable
  else if Text.digitLimit < run.length then .endless
  else if run = digits then value
  else .unreadable

/-- A blank around a number. -/
def isNumberBlank (c : Char) : Bool :=
  let code := c.toNat
  code == 0x20 || (0x09 ≤ code && code ≤ 0x0D) || code == 0x85 || code == 0xA0 || code == 0x1680
    || (0x2000 ≤ code && code ≤ 0x200A) || code == 0x2028 || code == 0x2029 || code == 0x202F
    || code == 0x205F || code == 0x3000

/-- The text without the blanks around it. -/
def trimNumber (text : List Char) : List Char :=
  ((text.dropWhile isNumberBlank).reverse.dropWhile isNumberBlank).reverse

/-- The text without a plus sign in front, unless a minus sign follows it. -/
def dropPlus : List Char → Option (List Char)
  | '+' :: '-' :: _ => none
  | '+' :: rest => some rest
  | text => some text

/-- A digit other than zero. -/
def isLeadingDigit (c : Char) : Bool :=
  '1' ≤ c && c ≤ '9'

/-- Goes on behind a zero, or behind an underscore that follows one. What `last` says stays if no
other digit comes. -/
def skipZeros (last : Char) : List Char → Option (List Char)
  | [] => some [last]
  | c :: rest =>
    if c = '0' || c = '_' then skipZeros c rest
    else if isLeadingDigit c || c = '-' then some (c :: rest)
    else if c = '.' then some (last :: c :: rest)
    else none

/-- The digits without the zeros in front of others. -/
def dropZeros : List Char → Option (List Char)
  | '0' :: rest => skipZeros '0' rest
  | c :: rest => if isLeadingDigit c then some (c :: rest) else none
  | [] => none

/-- The text without the zeros in front of other digits. -/
def dropSignedZeros : List Char → Option (List Char)
  | '-' :: digits => (dropZeros digits).map ('-' :: ·)
  | digits => dropZeros digits

/-- The text without a point at which zeros follow to its end. -/
def dropZeroFraction (text : List Char) : List Char :=
  let zeros := (text.dropWhile (· != '.')).drop 1
  if !zeros.isEmpty && zeros.all (· == '0') then text.takeWhile (· != '.') else text

/-- Does the text have two underscores in a row? -/
def hasDoubleUnderscore : List Char → Bool
  | '_' :: '_' :: _ => true
  | _ :: rest => hasDoubleUnderscore rest
  | [] => false

/-- The text without its underscores, if each stands alone between other characters. -/
def dropUnderscores (text : List Char) : List Char :=
  if text.head? == some '_' || text.getLast? == some '_' || hasDoubleUnderscore text then text
  else text.filter (· != '_')

/-- The plain form of a number that is written freely. -/
def plainForm (text : List Char) : Option (List Char) :=
  ((dropPlus (trimNumber text)).bind dropSignedZeros).map fun text =>
    dropUnderscores (dropZeroFraction text)

/-- Reads a number, plain or written freely. Too many digits are told apart only in a plain one. -/
def readNumber (text : String) : NumberReading :=
  match readPlain text.toList with
  | .unreadable =>
    match (plainForm text.toList).map readPlain with
    | some (.value number) => .value number
    | _ => .unreadable
  | reading => reading

end CriticalCss.Input
