import CriticalCss.Text.Blank
/-! Cutting a list at its commas. Commas between round brackets do not cut; a closing bracket
without an opening one is passed over.
-/

namespace CriticalCss.Text

/-- The depth of brackets behind a character. -/
def depthAfter (depth : Nat) (c : Char) : Nat :=
  if c = '(' then depth + 1 else if c = ')' then depth - 1 else depth

/-- The pieces of a text between the commas outside brackets, where `depth` brackets are open at its
start. -/
def splitCommasFrom (depth : Nat) : List Char → List (List Char)
  | [] => [[]]
  | c :: rest =>
    let pieces := splitCommasFrom (depthAfter depth c) rest
    if c = ',' && depth = 0 then [] :: pieces else consFirst c pieces

/-- The pieces of a text between the commas outside brackets. -/
def splitCommas (text : List Char) : List (List Char) :=
  splitCommasFrom 0 text

end CriticalCss.Text
