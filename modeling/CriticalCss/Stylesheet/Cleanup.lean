import CriticalCss.Stylesheet.Basic
/-! Removing what says nothing: style rules without selectors or declarations, and blocks without
content. A block that loses all its rules goes with them. Verbatim rules and statements stay.
-/

namespace CriticalCss

mutual
/-- The rule without its empty parts, nothing if all of it is empty. -/
def Node.withoutEmpty : Node → Option Node
  | .style selectors declarations =>
    if selectors.isEmpty || declarations.isEmpty then none
    else some (.style selectors declarations)
  | .declarationBlock name prelude body =>
    if body.isEmpty then none else some (.declarationBlock name prelude body)
  | .ruleBlock name prelude body =>
    let body := Stylesheet.withoutEmpty body
    if body.isEmpty then none else some (.ruleBlock name prelude body)
  | .hollow .. => none
  | .verbatim name prelude text kind unread => some (.verbatim name prelude text kind unread)
  | .statement name prelude unread => some (.statement name prelude unread)
  | .foreign typeWord => some (.foreign typeWord)

/-- The rules without their empty parts. -/
def Stylesheet.withoutEmpty : List Node → List Node
  | [] => []
  | node :: rest =>
    match node.withoutEmpty with
    | none => Stylesheet.withoutEmpty rest
    | some kept => kept :: Stylesheet.withoutEmpty rest
end

end CriticalCss
