import CriticalCss.Pattern.Escape
/-! Character sets of a pattern, as members and ranges between brackets.
-/

namespace CriticalCss.Pattern

/-- A member of a set as it was written. -/
structure Member where
  sign : Sign
  value : SetEscape

/-- Reads what a sign stands for inside a set. -/
def readMember (sign : Sign) : Read Member := do
  match sign with
  | .plain c => return ⟨sign, .code c.toNat⟩
  | .escaped c => return ⟨sign, ← readSetEscape c⟩

/-- The set item of a member that is no end of a range. -/
def Member.item (member : Member) : SetItem :=
  match member.value with
  | .code code => .code code
  | .named name negated => .named name negated

/-- The range between two members. -/
def rangeBetween (first last : Member) : Read SetItem := do
  let bad : Read SetItem :=
    failBack (.badRange (String.ofList first.sign.text) (String.ofList last.sign.text))
      (first.sign.length + 1 + last.sign.length)
  match first.value, last.value with
  | .code low, .code high => if high < low then bad else return .range low high
  | _, _ => bad

/-- Reads the items of a set up to and with its closing bracket; a bracket that comes first is a
member. `start` is the place of the opening bracket. -/
def readSetItems (start : Nat) : Nat → List SetItem → Read (List SetItem)
  | 0, _ => failAt .unterminatedSet start
  | rounds + 1, items => do
    match ← take with
    | none => failAt .unterminatedSet start
    | some sign =>
      if sign = .plain ']' && !items.isEmpty then return items
      else
        let first ← readMember sign
        if ← accept '-' then
          match ← take with
          | none => failAt .unterminatedSet start
          | some sign' =>
            if sign' = .plain ']' then return items ++ [first.item, .code '-'.toNat]
            else
              let last ← readMember sign'
              let range ← rangeBetween first last
              readSetItems start rounds (items ++ [range])
        else readSetItems start rounds (items ++ [first.item])

/-- The expression of a set. A set of one character is that character, and its negation any other
character. -/
def setExpr (negated : Bool) (items : List SetItem) : Expr :=
  match negated, items.eraseDups with
  | false, [.code code] => .code code
  | true, [.code code] => .otherCode code
  | negated, items => .set negated items

/-- Reads a set whose opening bracket is passed. -/
def readSet : Read Expr := do
  let start := (← get).position - 1
  let negated ← accept '^'
  let items ← readSetItems start ((← remaining) + 1) []
  return setExpr negated items

end CriticalCss.Pattern
