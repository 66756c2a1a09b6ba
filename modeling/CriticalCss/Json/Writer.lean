import CriticalCss.Json.Basic
/-! Writing JSON values on one line: control characters, the quote and the backslash are escaped,
every other character stands for itself. Numbers that are not finite are written as words.
-/

namespace CriticalCss.Json

/-- One character inside a JSON string. -/
def writtenChar (c : Char) : List Char :=
  if c = '"' || c = '\\' then ['\\', c]
  else if c.toNat < 0x20 then '\\' :: 'u' :: Text.hexPadded 4 c.toNat
  else [c]

/-- A JSON string. -/
def writtenString (text : String) : String :=
  "\"" ++ String.ofList (text.toList.flatMap writtenChar) ++ "\""

/-- A number with a point or an exponent. -/
def writtenNumber : Decimal.Binary → String
  | .infinite negative => if negative then "-Infinity" else "Infinity"
  | .notANumber => "NaN"
  | finite => finite.text

mutual
/-- The value as JSON text. -/
def write : Json → String
  | .null => "null"
  | .bool value => if value then "true" else "false"
  | .int value => toString value
  | .float value => writtenNumber value
  | .str value => writtenString value
  | .torn value => writtenString value
  | .arr items => "[" ++ ",".intercalate (writeItems items) ++ "]"
  | .obj members => "\x7b" ++ ",".intercalate (writeMembers members) ++ "\x7d"

def writeItems : List Json → List String
  | [] => []
  | item :: rest => write item :: writeItems rest

def writeMembers : List (String × Json) → List String
  | [] => []
  | (name, value) :: rest => (writtenString name ++ ":" ++ write value) :: writeMembers rest
end

end CriticalCss.Json
