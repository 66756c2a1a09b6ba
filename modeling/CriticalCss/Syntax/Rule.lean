import CriticalCss.Syntax.Writer
/-! Rules and declarations as groups of component values. Nothing is interpreted here: a rule is a
prelude with the content of its block, and what cannot be grouped is a fault with its line.
-/

namespace CriticalCss.Syntax

/-- Why components do not form a rule or a declaration. -/
inductive Fault where
  /-- A style rule without a block. -/
  | missingBlock
  /-- A declaration that does not start with a name but with the given kind. -/
  | expectedName (found : Kind)
  /-- A declaration that ends after its name. -/
  | missingColon
  /-- A declaration with something else behind its name. -/
  | expectedColon
  /-- A value with a block in curly brackets behind other components. -/
  | blockInValue

/-- The wording of a fault. The fault at the colon names no kind. -/
def Fault.message : Fault → String
  | .missingBlock => "EOF reached before \x7b\x7d block for a qualified rule."
  | .expectedName found => "Expected <ident> for declaration name, got " ++ found.word ++ "."
  | .missingColon => "Expected ':' after declaration name, got EOF"
  | .expectedColon => "Expected ':' after declaration name, got \x7bcolon.type\x7d."
  | .blockInValue => "Declaration contains \x7b\x7d block"

/-- A group of components in a list of rules. -/
inductive Rule where
  | style (line : Nat) (selectors content : List Component)
  | at (line : Nat) (name : List Char) (prelude : List Component)
      (content : Option (List Component))
  | fault (line : Nat) (fault : Fault)

/-- A group of components in a list of declarations. -/
inductive Entry where
  | declaration (name : List Char) (value : List Component) (important : Bool)
  | at (line : Nat)
  | fault (line : Nat) (fault : Fault)

--------------------------------------------------------------------------------
-- At-rules and style rules
--------------------------------------------------------------------------------

/-- Cuts at the first component that satisfies a test: those before it, it, and those after it. -/
def cutAt (test : Component → Bool)
    : List Component → List Component × Option Component × List Component
  | [] => ([], none, [])
  | component :: rest =>
    if test component then ([], some component, rest)
    else
      let cut := cutAt test rest
      (component :: cut.1, cut.2)

theorem cutAt_length (test : Component → Bool) (components : List Component)
    : (cutAt test components).2.2.length ≤ components.length := by
  induction components with
  | nil => simp [cutAt]
  | cons component rest ih =>
    unfold cutAt
    split
    · simp
    · simp only [List.length_cons]
      omega

theorem cutAt_mem {test : Component → Bool} {components : List Component} {found : Component}
    (h : (cutAt test components).2.1 = some found) : found ∈ components := by
  induction components with
  | nil => simp [cutAt] at h
  | cons component rest ih =>
    unfold cutAt at h
    split at h
    · simp_all
    · exact List.mem_cons_of_mem _ (ih h)

theorem cutAt_sublist (test : Component → Bool) (components : List Component)
    : (cutAt test components).2.2.Sublist components := by
  induction components with
  | nil => simp [cutAt]
  | cons component rest ih =>
    unfold cutAt
    split
    · exact List.sublist_cons_self _ _
    · exact ih.trans (List.sublist_cons_self _ _)

/-- Is the component a block in curly brackets? -/
def isCurly (component : Component) : Bool :=
  component.curlyContent?.isSome

/-- Does the component end an at-rule? -/
def endsAtRule (component : Component) : Bool :=
  isCurly component || component.isLiteral ";"

/-- The line of the last of several components. -/
def lastLine (default : Nat) (components : List Component) : Nat :=
  (components.getLast?.map Component.line).getD default

/-- The rule that starts with the given component, and what follows it. -/
def takeRule (first : Component) (rest : List Component) : Rule × List Component :=
  match first with
  | .atom line (.atKeyword name) =>
    let cut := cutAt endsAtRule rest
    (.at line name cut.1 (cut.2.1.bind Component.curlyContent?), cut.2.2)
  | _ =>
    match first.curlyContent? with
    | some content => (.style first.line [] content, rest)
    | none =>
      let cut := cutAt isCurly rest
      match cut.2.1.bind Component.curlyContent? with
      | some content => (.style first.line (first :: cut.1) content, cut.2.2)
      | none => (.fault (lastLine first.line cut.1) .missingBlock, cut.2.2)

theorem takeRule_length (first : Component) (rest : List Component)
    : (takeRule first rest).2.length ≤ rest.length := by
  have h1 := cutAt_length endsAtRule rest
  have h2 := cutAt_length isCurly rest
  unfold takeRule
  split
  · exact h1
  split
  · exact Nat.le_refl _
  dsimp only
  split
  · exact h2
  · exact h2

/-- The rules in a list of components. At the top of a style sheet the marks of an enclosing
comment are skipped too. -/
def rules (top : Bool) (components : List Component) : List Rule :=
  match components with
  | [] => []
  | first :: rest =>
    if first.isWhitespace || (top && (first.isLiteral "<!--" || first.isLiteral "-->")) then
      rules top rest
    else
      let taken := takeRule first rest
      taken.1 :: rules top taken.2
termination_by components.length
decreasing_by
  · simp
  · have := takeRule_length first rest
    simp only [List.length_cons]
    omega

--------------------------------------------------------------------------------
-- Declarations
--------------------------------------------------------------------------------

/-- Where the search for an importance mark stands in a value. -/
inductive MarkState where
  /-- No mark is open. -/
  | value
  /-- An exclamation mark is read at the given position. -/
  | bang (position : Nat)
  /-- The word follows the exclamation mark at the given position. -/
  | important (position : Nat)

/-- What is known of a value after some of its components. -/
structure ValueScan where
  position : Nat := 0
  state : MarkState := .value
  /-- Something other than whitespace has been read. -/
  started : Bool := false
  /-- A block in curly brackets has been read behind something else. -/
  holdsBlock : Bool := false

/-- Reads one component of a value. -/
def ValueScan.step (scan : ValueScan) (component : Component) : ValueScan :=
  let other : ValueScan :=
    if component.isWhitespace then scan
    else
      { scan with
        state := .value
        started := true
        holdsBlock := scan.holdsBlock || (isCurly component && scan.started) }
  let read : ValueScan :=
    match scan.state, component with
    | .value, .atom _ (.literal ['!']) => { scan with state := .bang scan.position }
    | .bang position, .atom _ (.ident name) =>
      if lowerAscii name = "important".toList then { scan with state := .important position }
      else other
    | _, _ => other
  { read with position := scan.position + 1 }

/-- The declaration with the given name and the components behind it. -/
def declarationOf (nameLine : Nat) (name : List Char) (rest : List Component) : Entry :=
  match rest.dropWhile Component.isWhitespace with
  | [] => .fault nameLine .missingColon
  | colon :: value =>
    if !colon.isLiteral ":" then .fault colon.line .expectedColon
    else
      let scan := value.foldl ValueScan.step {}
      if scan.holdsBlock then .fault colon.line .blockInValue
      else
        match scan.state with
        | .important position => .declaration name (value.take position) true
        | _ => .declaration name value false

/-- The entry that starts with the given component, and what follows it. -/
def takeEntry (first : Component) (rest : List Component) : Entry × List Component :=
  match first with
  | .atom line (.atKeyword _) => (.at line, (cutAt endsAtRule rest).2.2)
  | .atom line (.ident name) =>
    let cut := cutAt (·.isLiteral ";") rest
    (declarationOf line name cut.1, cut.2.2)
  | _ => (.fault first.line (.expectedName first.kind), (cutAt (·.isLiteral ";") rest).2.2)

theorem takeEntry_length (first : Component) (rest : List Component)
    : (takeEntry first rest).2.length ≤ rest.length := by
  unfold takeEntry
  split <;> exact cutAt_length _ rest

/-- The entries in the content of a block of declarations. -/
def entries (components : List Component) : List Entry :=
  match components with
  | [] => []
  | first :: rest =>
    if first.isWhitespace || first.isLiteral ";" then entries rest
    else
      let taken := takeEntry first rest
      taken.1 :: entries taken.2
termination_by components.length
decreasing_by
  · simp
  · have := takeEntry_length first rest
    simp only [List.length_cons]
    omega

end CriticalCss.Syntax
