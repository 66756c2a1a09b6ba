import CriticalCss.Pattern.Matcher
import CriticalCss.Pattern.Reader
/-! Search patterns ready for use: a pattern is compiled once and then searched for in texts. -/

namespace CriticalCss

/-- A compiled pattern. -/
structure Pattern where
  /-- The text it was compiled from. -/
  source : String
  /-- The options that hold for all of it, those it sets itself included. -/
  options : Pattern.Options
  expr : Pattern.Expr

namespace Pattern

/-- Compiles a pattern with the given options. -/
def compile (source : String) (options : Options) : Except PatternError Pattern :=
  match readPattern.run { position := 0, rest := source.toList } with
  | .ok (expr, state) => .ok ⟨source, options.union state.options, expr⟩
  | .error error => .error error

/-- Does the pattern match somewhere in the text? -/
def search (pattern : Pattern) (text : String) : Bool :=
  pattern.expr.foundIn pattern.options text.toList

end Pattern

end CriticalCss
