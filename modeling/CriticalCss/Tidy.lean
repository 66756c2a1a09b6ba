import CriticalCss.Pattern
import CriticalCss.Stylesheet.Cleanup
import CriticalCss.Tidy.Payload
import CriticalCss.Tidy.Reference
/-! Tidying a style sheet once its critical part is chosen. Every pass only takes away, and clears
what it leaves empty: declarations of unwanted properties, declarations with large embedded data,
then the font faces and the keyframes that nothing refers to any more.
-/

namespace CriticalCss

--------------------------------------------------------------------------------
-- Declarations
--------------------------------------------------------------------------------

mutual
/-- The rule without the declarations that satisfy a test. -/
def Node.dropDeclarations (test : Declaration → Bool) : Node → Node
  | .style selectors declarations => .style selectors (declarations.filter (!test ·))
  | .declarationBlock name prelude body =>
    .declarationBlock name prelude (body.filter (!test ·))
  | .ruleBlock name prelude body =>
    .ruleBlock name prelude (Stylesheet.dropDeclarations test body)
  | .verbatim name prelude text kind unread => .verbatim name prelude text kind unread
  | .statement name prelude unread => .statement name prelude unread
  | .hollow name prelude ofRules => .hollow name prelude ofRules
  | .foreign typeWord => .foreign typeWord

/-- The rules without the declarations that satisfy a test. -/
def Stylesheet.dropDeclarations (test : Declaration → Bool) : List Node → List Node
  | [] => []
  | node :: rest => node.dropDeclarations test :: Stylesheet.dropDeclarations test rest
end

/-- The declarations of a sheet, wherever they stand. -/
def Stylesheet.allDeclarations (sheet : Stylesheet) : List Declaration :=
  Stylesheet.declarations (fun _ => false) sheet

--------------------------------------------------------------------------------
-- At-rules
--------------------------------------------------------------------------------

/-- Name and prelude of an at-rule that is not verbatim. -/
def Node.atRule? : Node → Option (String × String)
  | .statement name prelude _ => some (name, prelude)
  | .declarationBlock name prelude _ => some (name, prelude)
  | .ruleBlock name prelude _ => some (name, prelude)
  | .hollow name prelude _ => some (name, prelude)
  | .style .. | .verbatim .. | .foreign _ => none

mutual
/-- The rule without the at-rules that satisfy a test, nothing if it is one of them. The content of
keyframes is not looked at. -/
def Node.dropAtRules (test : Node → Bool) (node : Node) : Option Node :=
  if test node then none
  else
    match node with
    | .ruleBlock name prelude body =>
      some (.ruleBlock name prelude
        (if isKeyframes name then body else Stylesheet.dropAtRules test body))
    | other => some other

/-- The rules without the at-rules that satisfy a test. -/
def Stylesheet.dropAtRules (test : Node → Bool) : List Node → List Node
  | [] => []
  | node :: rest =>
    match node.dropAtRules test with
    | none => Stylesheet.dropAtRules test rest
    | some kept => kept :: Stylesheet.dropAtRules test rest
end

mutual
/-- Name and prelude of the at-rules that are dropped from a rule, in order. -/
def Node.droppedAtRules (test : Node → Bool) (node : Node) : List (String × String) :=
  if test node then node.atRule?.toList
  else
    match node with
    | .ruleBlock name _ body =>
      if isKeyframes name then [] else Stylesheet.droppedAtRules test body
    | _ => []

/-- Name and prelude of the at-rules that are dropped from rules, in order. -/
def Stylesheet.droppedAtRules (test : Node → Bool) : List Node → List (String × String)
  | [] => []
  | node :: rest => node.droppedAtRules test ++ Stylesheet.droppedAtRules test rest
end

namespace Tidy

/-- A sheet after a pass, and what the pass has to report. -/
structure Outcome where
  sheet : Stylesheet
  events : List Event

--------------------------------------------------------------------------------
-- Passes over declarations
--------------------------------------------------------------------------------

/-- Is the property of a declaration one that a pattern matches? -/
def isUnwanted (patterns : List Pattern) (declaration : Declaration) : Bool :=
  patterns.any (·.search declaration.property)

/-- Takes the declarations of unwanted properties away. Without patterns nothing happens at all. -/
def removeUnwanted (patterns : List Pattern) (sheet : Stylesheet) : Outcome :=
  if patterns.isEmpty then ⟨sheet, []⟩
  else
    ⟨Stylesheet.withoutEmpty (Stylesheet.dropDeclarations (isUnwanted patterns) sheet),
      [.propertiesRemoved ((Stylesheet.allDeclarations sheet).countP (isUnwanted patterns))]⟩

/-- Does a declaration embed more than the limit allows? -/
def isOversized (limit : Int) (declaration : Declaration) : Bool :=
  holdsOversized limit declaration.value

/-- Takes declarations with large embedded data away. -/
def removeOversized (limit : Int) (sheet : Stylesheet) : Outcome :=
  ⟨Stylesheet.withoutEmpty (Stylesheet.dropDeclarations (isOversized limit) sheet),
    [.payloadsRemoved ((Stylesheet.allDeclarations sheet).countP (isOversized limit)) limit]⟩

--------------------------------------------------------------------------------
-- Passes over definitions
--------------------------------------------------------------------------------

/-- Is the at-rule a definition, whose own references do not count? -/
def isDefinition (name : String) : Bool :=
  name = "font-face" || isKeyframes name

/-- The declarations whose references count. -/
def referring (sheet : Stylesheet) : List Declaration :=
  Stylesheet.declarations isDefinition sheet

/-- The families that a declaration refers to. -/
def familiesOf (declaration : Declaration) : List (List Char) :=
  if declaration.property = "font-family" then listedFamilies declaration.value.toList
  else if declaration.property = "font" then shorthandFamilies declaration.value.toList
  else []

/-- The animations that a declaration refers to. -/
def animationsOf (declaration : Declaration) : List (List Char) :=
  if isAnimationProperty declaration.property then animationNames declaration.value.toList
  else []

/-- The declarations of the block of a font face. -/
def fontFaceBody? : Node → Option (List Declaration)
  | .declarationBlock "font-face" _ body => some body
  | .hollow "font-face" _ false => some []
  | _ => none

/-- Is the rule a font face none of whose families is among the given ones? -/
def isUnusedFontFace (families : List (List Char)) (node : Node) : Bool :=
  match fontFaceBody? node with
  | none => false
  | some body =>
    !(body.filter (·.property = "font-family")).any fun declaration =>
      families.contains (normalFamily declaration.value.toList)

/-- Is the rule a keyframes rule whose name is not among the given ones? -/
def isUnusedKeyframes (names : List (List Char)) (node : Node) : Bool :=
  match node.atRule? with
  | none => false
  | some (name, prelude) => isKeyframes name && !names.contains (unquote prelude.toList)

/-- Takes away the font faces that nothing refers to. -/
def removeUnusedFontFaces (sheet : Stylesheet) : Outcome :=
  let test := isUnusedFontFace ((referring sheet).flatMap familiesOf)
  ⟨Stylesheet.withoutEmpty (Stylesheet.dropAtRules test sheet),
    (Stylesheet.droppedAtRules test sheet).map fun rule => .fontFaceRemoved rule.1 rule.2⟩

/-- Takes away the keyframes that nothing refers to. -/
def removeUnusedKeyframes (sheet : Stylesheet) : Outcome :=
  let test := isUnusedKeyframes ((referring sheet).flatMap animationsOf)
  ⟨Stylesheet.withoutEmpty (Stylesheet.dropAtRules test sheet),
    (Stylesheet.droppedAtRules test sheet).map fun rule => .keyframesRemoved rule.1 rule.2⟩

--------------------------------------------------------------------------------
-- All passes
--------------------------------------------------------------------------------

/-- A further pass over what a pass has left. -/
def Outcome.andThen (outcome : Outcome) (pass : Stylesheet → Outcome) : Outcome :=
  let next := pass outcome.sheet
  ⟨next.sheet, outcome.events ++ next.events⟩

/-- All passes. The definitions come last, for the passes before them can take the last reference
to one away. -/
def run (patterns : List Pattern) (limit : Int) (sheet : Stylesheet) : Outcome :=
  (((removeUnwanted patterns sheet).andThen (removeOversized limit)).andThen
    removeUnusedFontFaces).andThen removeUnusedKeyframes

/-- Compiles the patterns of unwanted properties, whose case is ignored. -/
def compilePatterns (sources : List String)
    : Except (String × Pattern.PatternError) (List Pattern) :=
  sources.mapM fun source =>
    match Pattern.compile source { ignoreCase := true } with
    | .ok pattern => .ok pattern
    | .error error => .error (source, error)

end Tidy

end CriticalCss
