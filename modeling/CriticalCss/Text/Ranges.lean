/-! Sets of characters given as sorted ranges of code points, the form in which the character
tables of this library are written. Code points below 128 are decided by plain comparisons in the
functions that use a table, so the tables start at 128 unless they say otherwise.
-/

namespace CriticalCss.Text

/-- Is the code point in one of the closed ranges? -/
def inRanges (table : List (Nat × Nat)) (code : Nat) : Bool :=
  table.any fun range => range.1 ≤ code && code ≤ range.2

end CriticalCss.Text
