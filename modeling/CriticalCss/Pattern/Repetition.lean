import CriticalCss.Pattern.Sign
import CriticalCss.Text.Digit
/-! Repetition in a pattern: the bounds between curly brackets, and the three ways to repeat the
last expression of a sequence.
-/

namespace CriticalCss.Pattern

/-- Numbers of rounds from here on are too large. -/
def repetitionBound : Nat := 4294967295

/-- The number of rounds that digits write; none mean zero. -/
def readRounds (digits : List Char) : Read Nat := do
  if Text.digitLimit < digits.length then throw ⟨.numberTooLong digits.length, none⟩
  let rounds := Text.digitsValue 10 digits
  if repetitionBound ≤ rounds then throw ⟨.repetitionTooLarge, none⟩
  return rounds

/-- Reads the bounds between curly brackets, the opening one passed. Gives nothing, and reads
nothing, if these are no bounds. -/
def readBounds : Read (Option (Nat × Option Nat)) := do
  let here ← get
  if (← peek) = some (.plain '\x7d') then return none
  let low ← takeChars Char.isDigit (← remaining)
  let high ← if ← accept ',' then takeChars Char.isDigit (← remaining) else pure low
  if !(← accept '\x7d') then
    set here
    return none
  let least ← readRounds low
  if high.isEmpty then return some (least, none)
  else
    let most ← readRounds high
    if most < least then failAt .leastAboveMost here.position
    else return some (least, some most)

/-- Repeats the last expression of a sequence, given in reverse; the sign of the repetition stands
at `start`. -/
def repeatLast (start least : Nat) (most : Option Nat) (read : List Expr) : Read (List Expr) := do
  match read with
  | [] => failAt .nothingToRepeat start
  | .anchor _ :: _ => failAt .nothingToRepeat start
  | .repeated .. :: _ => failAt .multipleRepeat start
  | item :: before =>
    if ← accept '?' then return .repeated .lazy least most item :: before
    else if ← accept '+' then return .repeated .possessive least most item :: before
    else return .repeated .greedy least most item :: before

end CriticalCss.Pattern
