import CriticalCss.Proofs.Stylesheet.Reading
import CriticalCss.Proofs.Syntax.Gathering
import Mathlib.Data.List.Basic

/-! Lines are for messages only. Components that differ in nothing else give the same tree.
-/

namespace CriticalCss.Syntax

--------------------------------------------------------------------------------
-- Texts
--------------------------------------------------------------------------------

namespace Component

@[simp]
theorem isWhitespace_bare (component : Component)
    : component.bare.isWhitespace = component.isWhitespace := by
  cases component with
  | atom line found => cases found <;> rfl
  | block line bracket content => rfl
  | function line name arguments => rfl

@[simp]
theorem isLiteral_bare (component : Component) (text : String)
    : component.bare.isLiteral text = component.isLiteral text := by
  cases component with
  | atom line found => cases found <;> rfl
  | block line bracket content => rfl
  | function line name arguments => rfl

@[simp]
theorem kind_bare (component : Component) : component.bare.kind = component.kind := by
  cases component <;> rfl

@[simp]
theorem curlyContent?_bare (component : Component)
    : component.bare.curlyContent? = component.curlyContent?.map bareAll := by
  cases component with
  | atom line found => rfl
  | block line bracket content => cases bracket <;> rfl
  | function line name arguments => rfl

end Component

@[simp]
theorem isCurly_bare (component : Component) : isCurly component.bare = isCurly component := by
  simp [isCurly]

@[simp]
theorem endsAtRule_bare (component : Component) : endsAtRule component.bare = endsAtRule component := by
  simp [endsAtRule]

/-- Between a neighbour and whitespace only the first blank counts. -/
theorem gapBetween_whitespace (left : Kind) (line : Nat) (text : List Char)
    : gapBetween (some left) (.atom line (.whitespace text))
      = if runTogether left .whitespace then "/**/".toList
        else if left.isMark '\\' then (if text.head? = some '\n' then [] else ['\n'])
        else [] := by
  unfold gapBetween
  split
  · contradiction
  · rename_i own same
    cases same
    have kind : (Component.atom line (.whitespace text)).kind = .whitespace := rfl
    rw [kind]
    by_cases together : runTogether left .whitespace = true
    · simp only [together, if_true]
    · simp only [together, Bool.false_eq_true, if_false]
      split
      · split
        · rename_i same
          cases same
          rfl
        · rename_i other
          rw [if_neg]
          intro head
          obtain ⟨rest, rfl⟩ := List.head?_eq_some_iff.mp head
          exact other line rest rfl
      · rfl

theorem gapBetween_bare (left : Option Kind) (component : Component)
    : gapBetween left component.bare = gapBetween left component := by
  cases left with
  | none => rfl
  | some left =>
    cases component with
    | atom line found =>
      cases found with
      | whitespace text => rw [Component.bare, gapBetween_whitespace, gapBetween_whitespace]
      | _ => rfl
    | block line bracket content => rfl
    | function line name arguments => rfl

mutual
theorem endsInString_bare (component : Component)
    : endsInString component.bare = endsInString component := by
  match component with
  | .atom line found =>
    cases found with
    | flaw fault => cases fault <;> rfl
    | _ => rfl
  | .block line bracket content => rfl
  | .function line name arguments => exact lastEndsInString_bare arguments

theorem lastEndsInString_bare (components : List Component)
    : lastEndsInString (bareAll components) = lastEndsInString components := by
  match components with
  | [] => rfl
  | [last] => exact endsInString_bare last
  | _ :: second :: rest => exact lastEndsInString_bare (second :: rest)
end

mutual
theorem writeComponent_bare (component : Component)
    : writeComponent component.bare = writeComponent component := by
  match component with
  | .atom line found => rfl
  | .block line bracket content =>
    simp only [Component.bare, writeComponent, writeAfter_bareAll none content]
  | .function line name arguments =>
    simp only [Component.bare, writeComponent, writeAfter_bareAll none arguments,
      lastEndsInString_bare arguments]

/-- Components are written without their lines. -/
theorem writeAfter_bareAll (left : Option Kind) (components : List Component)
    : writeAfter left (bareAll components) = writeAfter left components := by
  match components with
  | [] => rfl
  | component :: rest =>
    simp only [bareAll, writeAfter, gapBetween_bare, writeComponent_bare component,
      Component.kind_bare, writeAfter_bareAll component.kind rest]
end

--------------------------------------------------------------------------------
-- Rules
--------------------------------------------------------------------------------

/-- The rule without its lines. -/
def Rule.bare : Rule → Rule
  | .style _ selectors content => .style 0 (bareAll selectors) (bareAll content)
  | .at _ name prelude content => .at 0 name (bareAll prelude) (content.map bareAll)
  | .fault _ reason => .fault 0 reason

/-- The entry without its lines. -/
def Entry.bare : Entry → Entry
  | .declaration name value important => .declaration name (bareAll value) important
  | .at _ => .at 0
  | .fault _ reason => .fault 0 reason

theorem cutAt_bareAll (test : Component → Bool)
    (blind : ∀ component, test component.bare = test component) (components : List Component)
    : cutAt test (bareAll components)
      = (bareAll (cutAt test components).1, (cutAt test components).2.1.map Component.bare,
          bareAll (cutAt test components).2.2) := by
  induction components with
  | nil => rfl
  | cons component rest ih =>
    rw [bareAll, cutAt, cutAt, blind]
    split
    · rfl
    · rw [ih]
      rfl

theorem curlyContent?_bind_bare (found : Option Component)
    : (found.map Component.bare).bind Component.curlyContent?
      = (found.bind Component.curlyContent?).map bareAll := by
  cases found with
  | none => rfl
  | some component => exact Component.curlyContent?_bare component

theorem line_bare (component : Component) : component.bare.line = 0 := by
  cases component <;> rfl

theorem lastLine_bareAll (components : List Component) : lastLine 0 (bareAll components) = 0 := by
  have zero : ∀ component ∈ bareAll components, component.line = 0 := by
    rw [bareAll_eq_map]
    intro component member
    obtain ⟨own, _, rfl⟩ := List.mem_map.mp member
    exact line_bare own
  unfold lastLine
  cases found : (bareAll components).getLast? with
  | none => rfl
  | some last => exact zero last (List.mem_of_getLast? found)

/-- Is the component the name of an at-rule? -/
def Component.isAtKeyword : Component → Bool
  | .atom _ (.atKeyword _) => true
  | _ => false

@[simp]
theorem Component.isAtKeyword_bare (component : Component)
    : component.bare.isAtKeyword = component.isAtKeyword := by
  cases component with
  | atom line found => cases found <;> rfl
  | block line bracket content => rfl
  | function line name arguments => rfl

/-- A component that names no at-rule starts a style rule, if a block follows. -/
theorem takeRule_of_not_isAtKeyword {first : Component} (other : first.isAtKeyword = false)
    (rest : List Component)
    : takeRule first rest
      = match first.curlyContent? with
        | some content => (.style first.line [] content, rest)
        | none =>
          match (cutAt isCurly rest).2.1.bind Component.curlyContent? with
          | some content =>
            (.style first.line (first :: (cutAt isCurly rest).1) content, (cutAt isCurly rest).2.2)
          | none =>
            (.fault (lastLine first.line (cutAt isCurly rest).1) .missingBlock,
              (cutAt isCurly rest).2.2) := by
  unfold takeRule
  split
  · cases other
  · rfl

theorem takeRule_bare (first : Component) (rest : List Component)
    : takeRule first.bare (bareAll rest)
      = ((takeRule first rest).1.bare, bareAll (takeRule first rest).2) := by
  by_cases atRule : first.isAtKeyword = true
  · unfold Component.isAtKeyword at atRule
    split at atRule
    · rename_i line name
      simp only [Component.bare, takeRule, cutAt_bareAll endsAtRule endsAtRule_bare, curlyContent?_bind_bare,
        Rule.bare]
    · cases atRule
  · have other := Bool.eq_false_iff.mpr atRule
    rw [takeRule_of_not_isAtKeyword other,
      takeRule_of_not_isAtKeyword (by rw [Component.isAtKeyword_bare, other]),
      cutAt_bareAll isCurly isCurly_bare, Component.curlyContent?_bare, line_bare]
    cases first.curlyContent? with
    | some content => rfl
    | none =>
      simp only [Option.map_none, curlyContent?_bind_bare]
      cases (cutAt isCurly rest).2.1.bind Component.curlyContent? with
      | some content => rfl
      | none => simp only [Option.map_none, lastLine_bareAll, Rule.bare]

/-- Rules are found without their lines. -/
theorem rules_bareAll (top : Bool) (components : List Component)
    : rules top (bareAll components) = (rules top components).map Rule.bare := by
  fun_induction rules top components with
  | case1 =>
    rw [bareAll, rules]
    rfl
  | case2 first rest skipped ih =>
    rw [bareAll, rules, Component.isWhitespace_bare, Component.isLiteral_bare,
      Component.isLiteral_bare, if_pos skipped, ih]
  | case3 first rest taken own ih =>
    rw [bareAll, rules, Component.isWhitespace_bare, Component.isLiteral_bare,
      Component.isLiteral_bare, if_neg taken, takeRule_bare]
    simp only [List.map_cons]
    rw [ih]

--------------------------------------------------------------------------------
-- Declarations
--------------------------------------------------------------------------------

/-- Is the component the word that follows the mark of importance? -/
def Component.isImportant : Component → Bool
  | .atom _ (.ident name) => lowerAscii name = "important".toList
  | _ => false

/-- Reading a component that has no part in a mark of importance. -/
def ValueScan.pass (scan : ValueScan) (component : Component) : ValueScan :=
  if component.isWhitespace then scan
  else
    { scan with
      state := .value
      started := true
      holdsBlock := scan.holdsBlock || (isCurly component && scan.started) }

/-- A value is read component by component. -/
theorem ValueScan.step_eq (scan : ValueScan) (component : Component)
    : scan.step component
      = { (match scan.state with
            | .value =>
              if component.isLiteral "!" then { scan with state := .bang scan.position }
              else scan.pass component
            | .bang position =>
              if component.isImportant then { scan with state := .important position }
              else scan.pass component
            | .important _ => scan.pass component) with
          position := scan.position + 1 } := by
  obtain ⟨position, state, started, holdsBlock⟩ := scan
  cases state with
  | value =>
    by_cases bang : component.isLiteral "!" = true
    · unfold Component.isLiteral at bang
      split at bang
      · rename_i line text
        obtain rfl : text = ['!'] := by simpa using bang
        rfl
      · cases bang
    · unfold step
      simp only [bang, Bool.false_eq_true, if_false]
      split
      · exact absurd rfl bang
      · contradiction
      · rfl
  | bang start =>
    by_cases word : component.isImportant = true
    · unfold Component.isImportant at word
      split at word
      · rename_i line name
        have named : lowerAscii name = "important".toList := of_decide_eq_true word
        have own : (Component.atom line (.ident name)).isImportant = true := word
        simp only [own, if_true]
        unfold step
        dsimp only
        rw [if_pos named]
      · cases word
    · unfold step
      simp only [word, Bool.false_eq_true, if_false]
      split
      · contradiction
      · rename_i line name same
        cases same
        have other : lowerAscii name ≠ "important".toList := fun named => word (decide_eq_true named)
        rw [if_neg other]
        rfl
      · rfl
  | important start => 
    unfold step
    rfl
@[simp]
theorem Component.isImportant_bare (component : Component)
    : component.bare.isImportant = component.isImportant := by
  cases component with
  | atom line found => cases found <;> rfl
  | block line bracket content => rfl
  | function line name arguments => rfl

theorem ValueScan.step_bare (scan : ValueScan) (component : Component)
    : scan.step component.bare = scan.step component := by
  simp only [ValueScan.step_eq, ValueScan.pass, Component.isLiteral_bare, Component.isImportant_bare,
    Component.isWhitespace_bare, isCurly_bare]

theorem foldl_step_bareAll (scan : ValueScan) (components : List Component)
    : (bareAll components).foldl ValueScan.step scan = components.foldl ValueScan.step scan := by
  induction components generalizing scan with
  | nil => rfl
  | cons component rest ih =>
    rw [bareAll, List.foldl_cons, List.foldl_cons, ValueScan.step_bare, ih]

theorem dropWhile_bareAll (components : List Component)
    : (bareAll components).dropWhile Component.isWhitespace
      = bareAll (components.dropWhile Component.isWhitespace) := by
  induction components with
  | nil => rfl
  | cons component rest ih =>
    rw [bareAll, List.dropWhile_cons, List.dropWhile_cons, Component.isWhitespace_bare]
    split
    · exact ih
    · rfl

theorem declarationOf_bareAll (line : Nat) (name : List Char) (rest : List Component)
    : declarationOf 0 name (bareAll rest) = (declarationOf line name rest).bare := by
  unfold declarationOf
  rw [dropWhile_bareAll]
  cases rest.dropWhile Component.isWhitespace with
  | nil => rfl
  | cons colon value =>
    simp only [bareAll, Component.isLiteral_bare, foldl_step_bareAll, line_bare]
    split
    · rfl
    · split
      · rfl
      · split
        · simp only [Entry.bare, bareAll_eq_map, List.map_take]
        · rfl

/-- A component that is no name starts nothing in a list of declarations. -/
theorem takeEntry_of_other {first : Component} (noRule : first.isAtKeyword = false)
    (noName : ∀ line name, first ≠ .atom line (.ident name)) (rest : List Component)
    : takeEntry first rest
      = (.fault first.line (.expectedName first.kind), (cutAt (·.isLiteral ";") rest).2.2) := by
  unfold takeEntry
  split
  · cases noRule
  · exact absurd rfl (noName _ _)
  · rfl

theorem takeEntry_bare (first : Component) (rest : List Component)
    : takeEntry first.bare (bareAll rest)
      = ((takeEntry first rest).1.bare, bareAll (takeEntry first rest).2) := by
  have cut := cutAt_bareAll (·.isLiteral ";") (fun component => component.isLiteral_bare ";") rest
  by_cases atRule : first.isAtKeyword = true
  · unfold Component.isAtKeyword at atRule
    split at atRule
    · simp only [Component.bare, takeEntry, cutAt_bareAll endsAtRule endsAtRule_bare, Entry.bare]
    · cases atRule
  · by_cases named : ∃ line name, first = .atom line (.ident name)
    · obtain ⟨line, name, rfl⟩ := named
      simp only [Component.bare, takeEntry, cut, declarationOf_bareAll line]
    · have noName : ∀ line name, first ≠ .atom line (.ident name) :=
        fun line name same => named ⟨line, name, same⟩
      have noName' : ∀ line name, first.bare ≠ .atom line (.ident name) := by
        intro line name same
        cases first with
        | atom own found =>
          cases same
          exact noName own name rfl
        | block own bracket content => cases same
        | function own called arguments => cases same
      have noRule := Bool.eq_false_iff.mpr atRule
      rw [takeEntry_of_other noRule noName,
        takeEntry_of_other (by rw [Component.isAtKeyword_bare, noRule]) noName', cut, line_bare,
        Component.kind_bare]
      rfl

/-- Entries are found without their lines. -/
theorem entries_bareAll (components : List Component)
    : entries (bareAll components) = (entries components).map Entry.bare := by
  fun_induction entries components with
  | case1 =>
    rw [bareAll, entries]
    rfl
  | case2 first rest skipped ih =>
    rw [bareAll, entries, Component.isWhitespace_bare, Component.isLiteral_bare, if_pos skipped, ih]
  | case3 first rest taken own ih =>
    rw [bareAll, entries, Component.isWhitespace_bare, Component.isLiteral_bare, if_neg taken,
      takeEntry_bare]
    simp only [List.map_cons]
    rw [ih]

end CriticalCss.Syntax

namespace CriticalCss

open Syntax

--------------------------------------------------------------------------------
-- Reading
--------------------------------------------------------------------------------

theorem unifySpaces_bareAll (components : List Component)
    : unifySpaces (bareAll components) = bareAll (unifySpaces components) := by
  simp only [unifySpaces, bareAll_eq_map, List.map_map]
  refine List.map_congr_left fun component _ => ?_
  cases component with
  | atom line found => cases found <;> rfl
  | block line bracket content => rfl
  | function line name arguments => rfl

theorem compactText_bareAll (components : List Component)
    : compactText (bareAll components) = compactText components := by
  simp only [compactText, writeAll, unifySpaces_bareAll, writeAfter_bareAll]

theorem commaGroups_bareAll (components : List Component)
    : commaGroups (bareAll components) = (commaGroups components).map bareAll := by
  induction components with
  | nil => rfl
  | cons component rest ih =>
    rw [bareAll, commaGroups, commaGroups, Component.isLiteral_bare, ih]
    split
    · rfl
    · cases commaGroups rest with
      | nil => rfl
      | cons group groups => rfl

theorem selectorTexts_bareAll (prelude : List Component)
    : selectorTexts (bareAll prelude) = selectorTexts prelude := by
  simp only [selectorTexts, commaGroups_bareAll, List.map_map, Function.comp_def,
    compactText_bareAll]

theorem readDeclarations_bare (found : List Entry)
    : (readDeclarations (found.map Entry.bare)).1 = (readDeclarations found).1 := by
  induction found with
  | nil => rfl
  | cons entry rest ih =>
    cases entry with
    | declaration name value important =>
      simp only [List.map_cons, Entry.bare, readDeclarations, compactText_bareAll, ih]
    | «at» line => simpa only [List.map_cons, Entry.bare, readDeclarations] using ih
    | fault line reason => simpa only [List.map_cons, Entry.bare, readDeclarations] using ih

theorem verbatimText_bareAll (name : List Char) (prelude : List Component)
    (content : Option (List Component))
    : verbatimText name (bareAll prelude) (content.map bareAll) = verbatimText name prelude content := by
  cases content with
  | none => simp only [verbatimText, Option.map_none, writeAll, writeAfter_bareAll]
  | some content => simp only [verbatimText, Option.map_some, writeAll, writeAfter_bareAll]

/-- Components give the same tree on whatever lines they stand.
Witness: recursion on the size of the components, since a block is a part of them.
-/
theorem readRules_bareAll (top : Bool) (components : List Component)
    : (readRules top (bareAll components)).1 = (readRules top components).1 := by
  rw [readRules_eq, readRules_eq, rules_bareAll]
  simp only [List.filterMap_map]
  refine List.filterMap_congr fun rule inRules => ?_
  cases rule with
  | style line prelude content =>
    simp only [Function.comp_apply, Rule.bare, Rule.reading, selectorTexts_bareAll, entries_bareAll,
      readDeclarations_bare]
    split <;> rfl
  | «at» line keyword prelude content =>
    cases content with
    | none => 
      have text := verbatimText_bareAll keyword prelude none
      simp only [Option.map_none] at text
      simp only [Function.comp_apply, Rule.bare, Option.map_none, Rule.reading, compactText_bareAll, text]
    | some content =>
      have text := verbatimText_bareAll keyword prelude (some content)
      simp only [Option.map_some] at text
      simp only [Function.comp_apply, Rule.bare, Option.map_some, Rule.reading, compactText_bareAll,
        entries_bareAll, readDeclarations_bare, readRules_bareAll false content, text]
      split
      · rfl
      · split <;> rfl
  | fault line reason => rfl
termination_by sizeOf components
decreasing_by exact sizeOf_rules_content inRules rfl

/-- Components that differ in their lines only give the same tree. -/
theorem readRules_congr {top : Bool} {components others : List Component}
    (same : bareAll components = bareAll others)
    : (readRules top components).1 = (readRules top others).1 := by
  rw [← readRules_bareAll, same, readRules_bareAll]

end CriticalCss
