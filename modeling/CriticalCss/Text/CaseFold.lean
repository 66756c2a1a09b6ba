import CriticalCss.Text.Lowercase
/-! Letters that count as the same when case is ignored. Two characters do if their lower cases
are equal or are two lower-case forms of one capital, such as the letter s and the long s.
-/

namespace CriticalCss.Text

/-- Lower-case characters that share a capital, each class in ascending order. -/
def lowercaseClasses : List (List Nat) :=
  [[0x69, 0x131], [0x73, 0x17F], [0xB5, 0x3BC], [0x345, 0x3B9, 0x1FBE], [0x390, 0x1FD3],
   [0x3B0, 0x1FE3], [0x3B2, 0x3D0], [0x3B5, 0x3F5], [0x3B8, 0x3D1], [0x3BA, 0x3F0],
   [0x3C0, 0x3D6], [0x3C1, 0x3F1], [0x3C2, 0x3C3], [0x3C6, 0x3D5], [0x432, 0x1C80],
   [0x434, 0x1C81], [0x43E, 0x1C82], [0x441, 0x1C83], [0x442, 0x1C84, 0x1C85], [0x44A, 0x1C86],
   [0x463, 0x1C87], [0x1C88, 0xA64B], [0x1E61, 0x1E9B], [0xFB05, 0xFB06]]

/-- The representative of all characters that equal `c` when case is ignored. -/
def caseKey (c : Char) : Char :=
  let small := lowerChar c
  match lowercaseClasses.find? (·.contains small.toNat) with
  | some (first :: _) => Char.ofNat first
  | _ => small

/-- Equality when case is ignored. -/
def sameIgnoringCase (c d : Char) : Bool :=
  caseKey c == caseKey d

/-- Capitals whose lower case is the given code point. -/
def capitalsOf (small : Nat) : List Nat :=
  (if 0x61 ≤ small && small ≤ 0x7A then [small - 0x20] else [])
    ++ lowercaseRows.filterMap fun row =>
      let code := (small : Int) - row.offset
      if 0 ≤ code && row.holds code.toNat then some code.toNat else none

/-- The code points of all characters that equal `c` when case is ignored. -/
def caseVariants (c : Char) : List Nat :=
  let small := (lowerChar c).toNat
  let smalls :=
    match lowercaseClasses.find? (·.contains small) with
    | some cls => cls
    | none => [small]
  smalls.flatMap fun code => code :: capitalsOf code

/-- Does the text begin with the word, case ignored? Gives what follows the word. -/
def dropWordIgnoringCase : (word text : List Char) → Option (List Char)
  | [], text => some text
  | _ :: _, [] => none
  | w :: word, c :: text =>
    if sameIgnoringCase w c then dropWordIgnoringCase word text else none

end CriticalCss.Text
