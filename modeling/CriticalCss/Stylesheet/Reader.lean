import CriticalCss.Stylesheet.Basic
import CriticalCss.Syntax.Rule
import CriticalCss.Text.Blank
import CriticalCss.Text.Digit
/-! Reading a style sheet. Rules and declarations that cannot be read are skipped with an event, so
every text gives a tree unless it has a whole number with too many digits. At-rules whose block is
not looked at later are kept verbatim.
-/

namespace CriticalCss

open Syntax

/-- Runs of whitespace as one space. Whitespace inside brackets is left alone. -/
def unifySpaces (components : List Component) : List Component :=
  components.map fun component =>
    match component with
    | .atom line (.whitespace _) => .atom line (.whitespace [' '])
    | other => other

/-- The text of components, with one space for each run of whitespace between them. -/
def compactText (components : List Component) : String :=
  String.ofList (Text.trim (writeAll (unifySpaces components)))

/-- The groups between the commas of a selector list. -/
def commaGroups : List Component → List (List Component)
  | [] => [[]]
  | component :: rest =>
    if component.isLiteral "," then [] :: commaGroups rest
    else
      match commaGroups rest with
      | group :: groups => (component :: group) :: groups
      | [] => [[component]]

/-- The selectors in the prelude of a style rule; empty ones are left out. -/
def selectorTexts (prelude : List Component) : List String :=
  ((commaGroups prelude).map compactText).filter (!·.isEmpty)

/-- A property name. Names of custom properties keep their case. -/
def propertyName (name : List Char) : String :=
  String.ofList (if "--".toList.isPrefixOf name then name else lowerAscii name)

/-- The declarations in a list of entries, and the events for the others. -/
def readDeclarations : List Entry → List Declaration × List Event
  | [] => ([], [])
  | entry :: rest =>
    let (declarations, events) := readDeclarations rest
    match entry with
    | .declaration name value important =>
      (.set (propertyName name) (compactText value) important :: declarations, events)
    | .at line => (declarations, .nestedRuleSkipped line :: events)
    | .fault line fault => (declarations, .declarationFault line fault.message :: events)

/-- An at-rule as it was written. -/
def verbatimText (name : List Char) (prelude : List Component)
    (content : Option (List Component))
    : String :=
  String.ofList <|
    '@' :: writeIdent name ++ writeAll prelude
      ++ match content with
        | none => [';']
        | some content => '\x7b' :: writeAll content ++ ['\x7d']

/-- The content of the block of a rule. -/
def Syntax.Rule.content? : Rule → Option (List Component)
  | .style _ _ content => some content
  | .at _ _ _ content => content
  | .fault _ _ => none

theorem Syntax.Component.sizeOf_curlyContent {component : Component} {content : List Component}
    (h : component.curlyContent? = some content) : sizeOf content < sizeOf component := by
  unfold Component.curlyContent? at h
  split at h
  · cases h
    simp only [Component.block.sizeOf_spec]
    omega
  · cases h

/-- The content of the first rule of a list is smaller than the list. -/
theorem Syntax.sizeOf_takeRule_content {first : Component} {rest content : List Component}
    (h : (takeRule first rest).1.content? = some content)
    : sizeOf content < sizeOf (first :: rest) := by
  have cut {test : Component → Bool}
      (hc : (cutAt test rest).2.1.bind Component.curlyContent? = some content)
      : sizeOf content < sizeOf (first :: rest) := by
    obtain ⟨component, hcomponent, hcontent⟩ := Option.bind_eq_some_iff.1 hc
    have h1 := Component.sizeOf_curlyContent hcontent
    have h2 := List.sizeOf_lt_of_mem (cutAt_mem hcomponent)
    simp only [List.cons.sizeOf_spec]
    omega
  unfold takeRule at h
  split at h
  · exact cut h
  · split at h
    · rename_i content' hcontent
      have h1 := Component.sizeOf_curlyContent hcontent
      simp only [Rule.content?, Option.some.injEq] at h
      subst h
      simp only [List.cons.sizeOf_spec]
      omega
    · dsimp only at h
      split at h
      · rename_i content' hcontent
        simp only [Rule.content?, Option.some.injEq] at h
        subst h
        exact cut hcontent
      · simp [Rule.content?] at h

theorem Syntax.sizeOf_takeRule_rest (first : Component) (rest : List Component)
    : sizeOf (takeRule first rest).2 < sizeOf (first :: rest) := by
  have le_of_sublist {a b : List Component} (h : a.Sublist b) : sizeOf a ≤ sizeOf b := by
    induction h with
    | slnil => exact Nat.le_refl _
    | cons _ _ ih => simp only [List.cons.sizeOf_spec]; omega
    | cons_cons _ _ ih => simp only [List.cons.sizeOf_spec]; omega
  have h1 := le_of_sublist (cutAt_sublist endsAtRule rest)
  have h2 := le_of_sublist (cutAt_sublist isCurly rest)
  simp only [List.cons.sizeOf_spec]
  unfold takeRule
  split
  · dsimp only
    omega
  split
  · dsimp only
    omega
  dsimp only
  split
  · dsimp only
    omega
  · dsimp only
    omega

/-- The content of every rule in a list is smaller than the list. -/
theorem Syntax.sizeOf_rules_content {top : Bool} {components content : List Component} {rule : Rule}
    (hrule : rule ∈ rules top components) (h : rule.content? = some content)
    : sizeOf content < sizeOf components := by
  fun_induction rules top components with
  | case1 => simp at hrule
  | case2 first rest _ ih =>
    have := ih hrule
    simp only [List.cons.sizeOf_spec]
    omega
  | case3 first rest _ taken ih =>
    rcases List.mem_cons.1 hrule with rfl | hrest
    · exact sizeOf_takeRule_content h
    · have h1 := ih hrest
      have h2 := sizeOf_takeRule_rest first rest
      exact Nat.lt_trans h1 h2

/-- The rules in a list of components, and the events for those that cannot be read. -/
def readRules (top : Bool) (components : List Component) : List Node × List Event :=
  let read := (rules top components).attach.map fun ⟨rule, hrule⟩ =>
    match rule, hrule with
    | .style line prelude content, _ =>
      let selectors := selectorTexts prelude
      if selectors.isEmpty then (none, [Event.ruleWithoutSelector line])
      else
        let (declarations, events) := readDeclarations (entries content)
        (some (Node.style selectors declarations), events)
    | .at _ keyword prelude none, _ =>
      let name := String.ofList (lowerAscii keyword)
      let text := verbatimText keyword prelude none
      (some (Node.verbatim name (compactText prelude) text .none .null), [])
    | .at _ keyword prelude (some content), _hrule =>
      let name := String.ofList (lowerAscii keyword)
      let head := compactText prelude
      if ruleBlockNames.contains name || isKeyframes name then
        let (body, events) := readRules false content
        (some (Node.ruleBlock name head body), events)
      else if declarationBlockNames.contains name then
        let (body, events) := readDeclarations (entries content)
        (some (Node.declarationBlock name head body), events)
      else
        let text := verbatimText keyword prelude (some content)
        (some (Node.verbatim name head text .none .null), [])
    | .fault line fault, _ => (none, [Event.ruleFault line fault.message])
  (read.filterMap (·.1), read.flatMap (·.2))
termination_by sizeOf components
decreasing_by
  exact sizeOf_rules_content _hrule rfl

/-- A style sheet with the events of reading it. -/
structure Reading where
  sheet : Stylesheet
  events : List Event

/-- A whole number in a style sheet has too many digits. -/
structure LongNumber where
  digits : Nat
  deriving DecidableEq, Repr

/-- The wording of it. -/
def LongNumber.message (number : LongNumber) : String :=
  Text.tooManyDigits number.digits

/-- The first whole number with too many digits among tokens. -/
def LongNumber.first? (lexemes : List Lexeme) : Option LongNumber :=
  ((lexemes.filterMap (·.token.wholeDigits?)).find? (Text.digitLimit < ·)).map LongNumber.mk

/-- Reads a style sheet. -/
def Stylesheet.read (css : String) : Except LongNumber Reading :=
  match LongNumber.first? (lex css) with
  | some number => .error number
  | none =>
    let (nodes, events) := readRules true (Component.ofText css)
    .ok ⟨nodes, events⟩

end CriticalCss
