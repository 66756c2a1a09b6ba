import CriticalCss.Event
import CriticalCss.Text.Lowercase
/-! Style sheets as trees of style rules and at-rules. A tree can also be put together by a caller,
so it has room for what no text gives: rules without selectors, blocks without content, and things
that are neither rules nor declarations. These are kept until something has to be printed.
-/

namespace CriticalCss

/-- A declaration of a style rule or at-rule. -/
inductive Declaration where
  | set (property value : String) (important : Bool)
  /-- Something a caller put where a declaration belongs, as messages show it. -/
  | foreign (shown : String)
  deriving DecidableEq, Repr

namespace Declaration

/-- The property that is set, empty if the declaration sets none. -/
def property : Declaration → String
  | set property _ _ => property
  | foreign _ => ""

/-- The value it is set to. -/
def value : Declaration → String
  | set _ value _ => value
  | foreign _ => ""

end Declaration

/-- What the block of an at-rule holds. -/
inductive BlockKind where
  | none
  | declarations
  | rules
  deriving DecidableEq, Repr

/-- The word for a kind of block. -/
def BlockKind.word : BlockKind → String
  | none => "none"
  | declarations => "declarations"
  | rules => "rules"

/-- A rule of a style sheet. -/
inductive Node where
  /-- Declarations for all elements that one of the selectors matches. -/
  | style (selectors : List String) (declarations : List Declaration)
  /-- An at-rule kept as it was written. Its block is never looked at; what a caller attached as
  one is handed back untouched. -/
  | verbatim (name prelude text : String) (kind : BlockKind) (unread : Json)
  /-- An at-rule that ends with a semicolon, again with what a caller attached. -/
  | statement (name prelude : String) (unread : Json)
  /-- An at-rule with a block of declarations. -/
  | declarationBlock (name prelude : String) (body : List Declaration)
  /-- An at-rule with a block of rules. -/
  | ruleBlock (name prelude : String) (body : List Node)
  /-- An at-rule whose block has no content, not even an empty one. -/
  | hollow (name prelude : String) (ofRules : Bool)
  /-- Something a caller put where a rule belongs, with the word for its type. -/
  | foreign (typeWord : String)
  deriving Inhabited

/-- A style sheet is the list of its top-level rules. -/
abbrev Stylesheet := List Node

/-- At-rules whose block holds rules, keyframes aside. -/
def ruleBlockNames : List String :=
  ["media", "supports", "document", "-moz-document", "layer", "container"]

/-- At-rules whose block holds declarations. -/
def declarationBlockNames : List String :=
  ["font-face", "page"]

/-- Is the at-rule a keyframes rule, under its own name or with a vendor in front? -/
def isKeyframes (name : String) : Bool :=
  "keyframes".toList.isSuffixOf (Text.lower name.toList)

mutual
/-- The declarations of a rule, those of at-rules whose name is to be skipped left out. -/
def Node.declarations (skip : String → Bool) : Node → List Declaration
  | .style _ declarations => declarations
  | .declarationBlock name _ body => if skip name then [] else body
  | .ruleBlock name _ body => if skip name then [] else Stylesheet.declarations skip body
  | .verbatim .. | .statement .. | .hollow .. | .foreign _ => []

/-- The declarations of several rules in the order they stand in. -/
def Stylesheet.declarations (skip : String → Bool) : List Node → List Declaration
  | [] => []
  | node :: rest => node.declarations skip ++ Stylesheet.declarations skip rest
end

end CriticalCss
