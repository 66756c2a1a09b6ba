import CriticalCss.Retention
/-! Taking out what cannot be critical whatever the page shows, and finding the style rules whose
selectors have to be decided. At-rules that never shape a screen, and media blocks that cannot
match, go with all that they hold; containers are gone through, everything else stays.
-/

namespace CriticalCss.Selection

/-- Containers are looked into under these conditions. -/
structure Scope where
  viewport : Viewport
  keepLarger : Bool
  deriving DecidableEq, Repr

/-- The treatment of a rule. -/
def Scope.retention (scope : Scope) (node : Node) : Retention :=
  Retention.of (some scope.viewport) scope.keepLarger node

/-- The name of an at-rule, empty for other rules. -/
def nameOf : Node → String × String
  | .verbatim name prelude _ _ _ => (name, prelude)
  | .statement name prelude _ => (name, prelude)
  | .declarationBlock name prelude _ => (name, prelude)
  | .ruleBlock name prelude _ => (name, prelude)
  | .hollow name prelude _ => (name, prelude)
  | .style .. | .foreign _ => ("", "")

/-- The event of dropping a rule. -/
def dropEvent (scope : Scope) (node : Node) : Event :=
  .atRuleDropped (nameOf node).1 (nameOf node).2 (scope.retention node).word

/-- Is a rule dropped whatever the page shows? -/
def Scope.drops (scope : Scope) (node : Node) : Bool :=
  scope.retention node == .nonCritical || scope.retention node == .unmatchedMedia

/-- What collecting leaves: the rules, whether a container without content has stopped it, and the
events up to there. A rule is left out of `kept` if it is dropped; if collecting was stopped the
rules of the list are all there still, those gone through with their content reduced. -/
structure Collected (α : Type) where
  kept : α
  stopped : Bool
  events : List Event

mutual
/-- Collects one rule; nothing is kept of a dropped one. -/
def collectNode (scope : Scope) (node : Node) : Collected (Option Node) :=
  if scope.drops node then ⟨none, false, [dropEvent scope node]⟩
  else
    match node with
    | .ruleBlock name prelude body =>
      if scope.retention (.ruleBlock name prelude body) == .container then
        let inner := collectNodes scope body
        ⟨some (.ruleBlock name prelude inner.kept), inner.stopped, inner.events⟩
      else ⟨some (.ruleBlock name prelude body), false, []⟩
    | .hollow name prelude ofRules =>
      ⟨some (.hollow name prelude ofRules),
        scope.retention (.hollow name prelude ofRules) == .container, []⟩
    | other => ⟨some other, false, []⟩

/-- Collects rules in order. -/
def collectNodes (scope : Scope) : List Node → Collected (List Node)
  | [] => ⟨[], false, []⟩
  | node :: rest =>
    let first := collectNode scope node
    if first.stopped then ⟨first.kept.getD node :: rest, true, first.events⟩
    else
      let others := collectNodes scope rest
      let kept := if others.stopped then some (first.kept.getD node) else first.kept
      ⟨kept.toList ++ others.kept, others.stopped, first.events ++ others.events⟩
end

mutual
/-- The style rules in a rule, as selectors with declarations. -/
def styleRulesOf (scope : Scope) (node : Node) : List (List String × List Declaration) :=
  match node with
  | .style selectors declarations => [(selectors, declarations)]
  | .ruleBlock name prelude body =>
    if scope.retention (.ruleBlock name prelude body) == .container then styleRules scope body
    else []
  | _ => []

/-- The style rules whose selectors are decided, in order. -/
def styleRules (scope : Scope) : List Node → List (List String × List Declaration)
  | [] => []
  | node :: rest => styleRulesOf scope node ++ styleRules scope rest
end

mutual
/-- Keeps the selectors of a rule that satisfy a test, which may look at the declarations. -/
def filterNode (scope : Scope) (test : List Declaration → String → Bool) (node : Node) : Node :=
  match node with
  | .style selectors declarations => .style (selectors.filter (test declarations)) declarations
  | .ruleBlock name prelude body =>
    if scope.retention (.ruleBlock name prelude body) == .container then
      .ruleBlock name prelude (filterNodes scope test body)
    else .ruleBlock name prelude body
  | other => other

/-- Keeps the selectors that satisfy a test. -/
def filterNodes (scope : Scope) (test : List Declaration → String → Bool)
    : List Node → List Node
  | [] => []
  | node :: rest => filterNode scope test node :: filterNodes scope test rest
end

mutual
/-- The rule, nothing if it is a style rule without selectors or a block of rules that holds
none. -/
def dropEmptyNode : Node → Option Node
  | .style selectors declarations =>
    if selectors.isEmpty then none else some (.style selectors declarations)
  | .ruleBlock name prelude body =>
    let body := dropEmptyNodes body
    if body.isEmpty then none else some (.ruleBlock name prelude body)
  | .hollow name prelude ofRules =>
    if ofRules then none else some (.hollow name prelude ofRules)
  | other => some other

/-- The rules without style rules that have no selectors and blocks of rules that hold none. -/
def dropEmptyNodes : List Node → List Node
  | [] => []
  | node :: rest =>
    match dropEmptyNode node with
    | none => dropEmptyNodes rest
    | some kept => kept :: dropEmptyNodes rest
end

end CriticalCss.Selection
