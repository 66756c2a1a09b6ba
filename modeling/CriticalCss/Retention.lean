import CriticalCss.Media
import CriticalCss.Stylesheet.Basic
/-! What becomes of a top-level rule when the critical part of a style sheet is chosen. -/

namespace CriticalCss

/-- How a rule is treated. -/
inductive Retention where
  /-- Kept as it is. -/
  | untouched
  /-- Kept unless nothing refers to it. -/
  | definition
  /-- Dropped, for it never shapes a screen. -/
  | nonCritical
  /-- Its rules are looked at one by one. -/
  | container
  /-- Dropped, for its media query cannot match. -/
  | unmatchedMedia
  /-- A style rule. -/
  | plain
  deriving DecidableEq, Repr

namespace Retention

/-- The word for a treatment. -/
def word : Retention → String
  | untouched => "OPAQUE"
  | definition => "DECLARATIONS"
  | nonCritical => "NON_CRITICAL"
  | container => "CONTAINER"
  | unmatchedMedia => "UNMATCHED_MEDIA"
  | plain => "PLAIN"

/-- The number for a treatment. -/
def number : Retention → Nat
  | untouched => 0
  | definition => 1
  | nonCritical => 2
  | container => 3
  | unmatchedMedia => 4
  | plain => 5

end Retention

/-- At-rules that are kept as they are. -/
def untouchedNames : List String :=
  ["charset", "import", "namespace"]

/-- At-rules that never shape a screen. -/
def nonCriticalNames : List String :=
  ["page"]

/-- The treatment of an at-rule. Media queries are looked at only if a viewport is given. -/
def Retention.ofAtRule (name prelude : String) (holdsRules : Bool) (viewport : Option Viewport)
    (keepLarger : Bool)
    : Retention :=
  let name := Text.lowerString name
  if untouchedNames.contains name then untouched
  else if name = "font-face" || isKeyframes name then definition
  else if nonCriticalNames.contains name then nonCritical
  else if ruleBlockNames.contains name && holdsRules then
    match viewport with
    | some viewport =>
      if name = "media" && !Media.mayMatch prelude viewport keepLarger then unmatchedMedia
      else container
    | none => container
  else untouched

/-- The treatment of a rule. -/
def Retention.of (viewport : Option Viewport) (keepLarger : Bool) : Node → Retention
  | .style _ _ => plain
  | .verbatim name prelude _ _ _ => ofAtRule name prelude false viewport keepLarger
  | .statement name prelude _ => ofAtRule name prelude false viewport keepLarger
  | .declarationBlock name prelude _ => ofAtRule name prelude false viewport keepLarger
  | .ruleBlock name prelude _ => ofAtRule name prelude true viewport keepLarger
  | .hollow name prelude ofRules => ofAtRule name prelude ofRules viewport keepLarger
  | .foreign _ => untouched

end CriticalCss
