/-! Whitespace, and the ways of cutting a text at it. The class is the one of text processing over
all scripts: spaces, tabs, line ends, the separator controls and the typographic spaces. The
narrower whitespace of style sheets belongs to their tokens.
-/

namespace CriticalCss.Text

/-- A whitespace character of any script. -/
def isBlank (c : Char) : Bool :=
  let code := c.toNat
  code == 0x20 || (0x09 ≤ code && code ≤ 0x0D) || (0x1C ≤ code && code ≤ 0x1F)
    || code == 0x85 || code == 0xA0 || code == 0x1680 || (0x2000 ≤ code && code ≤ 0x200A)
    || code == 0x2028 || code == 0x2029 || code == 0x202F || code == 0x205F || code == 0x3000

/-- The text without the whitespace at its start. -/
def trimStart (text : List Char) : List Char :=
  text.dropWhile isBlank

/-- The text without the whitespace at its end. -/
def trimEnd (text : List Char) : List Char :=
  (text.reverse.dropWhile isBlank).reverse

/-- The text without the whitespace at both ends. -/
def trim (text : List Char) : List Char :=
  trimEnd (trimStart text)

/-- Puts a character in front of the first of several pieces. -/
def consFirst (c : Char) : List (List Char) → List (List Char)
  | [] => [[c]]
  | piece :: pieces => (c :: piece) :: pieces

/-- The pieces of a text between the characters that satisfy `cut`, empty pieces included. -/
def splitWhere (cut : Char → Bool) : List Char → List (List Char)
  | [] => [[]]
  | c :: rest => if cut c then [] :: splitWhere cut rest else consFirst c (splitWhere cut rest)

/-- The maximal runs of characters that are not whitespace. -/
def words (text : List Char) : List (List Char) :=
  (splitWhere isBlank text).filter (!·.isEmpty)

/-- The words of a text with one space between neighbours. -/
def collapse (text : List Char) : List Char :=
  List.intercalate [' '] (words text)

/-- Is there nothing but whitespace? -/
def allBlank (text : String) : Bool :=
  text.toList.all isBlank

/-- The string without the whitespace at both ends. -/
def trimString (text : String) : String :=
  String.ofList (trim text.toList)

end CriticalCss.Text
