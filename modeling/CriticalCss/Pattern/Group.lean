import CriticalCss.Pattern.Sign
import CriticalCss.Text.Blank
import CriticalCss.Text.Digit
/-! The groups of a pattern while it is read: their numbers, their names, and how wide a text each
can match. A reference to a group is refused while the group is open, and inside an assertion that
looks behind it is refused for the groups of that assertion.
-/

namespace CriticalCss.Pattern

/-- Refuses a reference to a group that is open, or that belongs to the assertion around it. -/
def checkBehind (group : Nat) : Read Unit := do
  let state ← get
  match state.groupsBehind with
  | none => return ()
  | some before =>
    if ((state.widths[group - 1]?).join).isNone then failBack .openGroup 0
    else if before < group then failBack .groupInLookBehind 0
    else return ()

/-- Least widths beyond this bound are not told apart. -/
def leastWidthBound : Nat := 4294967294

/-- Greatest widths beyond this bound are not told apart. It is above the other, so a width beyond
both is not fixed. -/
def mostWidthBound : Nat := 4294967295

/-- The widths of a sequence of two expressions with the given widths. -/
def addWidths (first second : Nat × Nat) : Nat × Nat :=
  (min (first.1 + second.1) leastWidthBound, min (first.2 + second.2) mostWidthBound)

/-- The widths of a choice between two expressions with the given widths. -/
def joinWidths (first second : Nat × Nat) : Nat × Nat :=
  (min first.1 second.1, max first.2 second.2)

/-- The least and greatest width of what an expression matches. -/
def Expr.width (widths : List (Option (Nat × Nat))) : Expr → Nat × Nat
  | .empty | .anchor _ | .lookAhead _ _ | .lookBehind _ _ _ _ => (0, 0)
  | .code _ | .otherCode _ | .anyChar | .set _ _ => (1, 1)
  | .repeated _ least most body =>
    let (low, high) := body.width widths
    let high := high * most.getD mostWidthBound
    (min (low * least) leastWidthBound, min high mostWidthBound)
  | .group _ body | .scoped _ body | .atomic body => body.width widths
  | .reference number => ((widths[number - 1]?).join).getD (0, 0)
  | .conditional _ yes no => joinWidths (yes.width widths) (no.width widths)
  | .cat first second => addWidths (first.width widths) (second.width widths)
  | .alt first second => joinWidths (first.width widths) (second.width widths)

/-- Opens a group, with its name if it has one, and gives its number. -/
def openGroup (name : Option (List Char)) : Read Nat := do
  let state ← get
  let number := state.widths.length + 1
  match name with
  | none => set { state with widths := state.widths ++ [none] }
  | some chars =>
    let name := String.ofList chars
    match state.names.lookup name with
    | some previous => failBack (.repeatedGroupName name number previous) (chars.length + 1)
    | none =>
      set { state with
        widths := state.widths ++ [none]
        names := (name, number) :: state.names }
  return number

/-- Closes a group that holds the given expression. -/
def closeGroup (number : Nat) (body : Expr) : Read Unit :=
  modify fun state =>
    { state with widths := state.widths.set (number - 1) (some (body.width state.widths)) }

/-- A blank around the number of a group. Of the control characters only those that move the place
of writing are blanks here. -/
def isNumberBlank (c : Char) : Bool :=
  if c.toNat < 0x80 then c == ' ' || ('\t' ≤ c && c ≤ '\r') else Text.isBlank c

/-- The number of a group that a condition names. -/
def conditionNumber? (name : List Char) : Option Int :=
  let trimmed := ((name.dropWhile isNumberBlank).reverse.dropWhile isNumberBlank).reverse
  let (negative, digits) :=
    match trimmed with
    | '-' :: rest => (true, rest)
    | '+' :: rest => (false, rest)
    | rest => (false, rest)
  let pieces := Text.splitWhere (· == '_') digits
  if pieces.any (·.isEmpty) || Text.digitLimit < pieces.flatten.length then none
  else
    let value := pieces.flatten.foldl
      (fun value? c => do return (← value?) * 10 + (← Text.digitValue? c)) (some 0)
    value.map fun value => if negative then -(value : Int) else value

end CriticalCss.Pattern
