import CriticalCss.Pattern.Basic
/-! Sequences and alternatives. What all alternatives begin with stands in front of them once, and
alternatives of which one character or one set is left each make a set together. A set of characters
may match less than the characters by themselves: see how case is ignored in sets.
-/

namespace CriticalCss.Pattern

/-- A sequence of items. -/
def Expr.sequence : List Expr → Expr
  | [] => .empty
  | [item] => item
  | item :: rest => .cat item (sequence rest)

/-- The items of a sequence. Those of a plain group stand among the others. -/
def Expr.items : Expr → List Expr
  | .empty => []
  | .cat first second => first.items ++ second.items
  | .group none body => body.items
  | expr => [expr]

/-- Is an item without parts? Only such items are compared. -/
def Expr.isLeaf : Expr → Bool
  | .code _ | .otherCode _ | .anyChar | .set .. | .anchor _ | .reference _ => true
  | _ => false

/-- The leaves that a sequence and all the others begin with. -/
def sharedBeginning (others : List (List Expr)) : List Expr → List Expr
  | [] => []
  | item :: rest =>
    if item.isLeaf && others.all (·.head? == some item) then
      item :: sharedBeginning (others.map (·.drop 1)) rest
    else []

/-- The members of the set that a sequence comes to. -/
def setMembers? : List Expr → Option (List SetItem)
  | [.code code] => some [.code code]
  | [.set false items] => some items
  | _ => none

/-- A choice between expressions, the first preferred. -/
def Expr.choice : List Expr → Expr
  | [] => .empty
  | [expr] => expr
  | expr :: rest => .alt expr (choice rest)

/-- Alternatives, of which there are several. -/
def Expr.alternatives (first : Expr) (others : List Expr) : Expr :=
  let shared := sharedBeginning (others.map items) first.items
  let rests := (first :: others).map (·.items.drop shared.length)
  let rest :=
    match rests.mapM setMembers? with
    | some members => .set false members.flatten.eraseDups
    | none => choice (rests.map sequence)
  sequence (shared ++ [rest])

end CriticalCss.Pattern
