import CriticalCss.Proofs.Stylesheet.Layout

/-! Reading what is laid out. Each declaration and each rule of a layout ends where it should, so
that reading finds it, and then the next one; what it finds has the same texts.
-/

namespace CriticalCss

open Syntax

--------------------------------------------------------------------------------
-- Cutting a layout
--------------------------------------------------------------------------------

/-- A cut is made at the first component that satisfies the test. -/
theorem cutAt_of_before {test : Component → Bool} {before : List Component} {found : Component}
    (noneBefore : ∀ component ∈ before, test component = false) (satisfies : test found = true)
    (rest : List Component)
    : cutAt test (before ++ found :: rest) = (before, some found, rest) := by
  induction before with
  | nil => simp [cutAt, satisfies]
  | cons component others ih =>
    have other := noneBefore component List.mem_cons_self
    rw [List.cons_append, cutAt, other,
      ih fun component member => noneBefore component (List.mem_cons_of_mem _ member)]
    rfl

/-- What is in a piece comes from its components, but for the whitespace. -/
theorem mem_piece {components : List Component} {component : Component}
    (member : component ∈ piece components)
    : component.isWhitespace = true ∨ component ∈ components := by
  obtain ⟨own, inside, same⟩ := List.mem_map.mp ((trimBlanks_sublist _).subset member)
  cases own with
  | atom line found =>
    cases found with
    | whitespace text =>
      left
      rw [← same]
      rfl
    | _ =>
      right
      rw [← same]
      exact inside
  | block line bracket content =>
    right
    rw [← same]
    exact inside
  | function line name arguments =>
    right
    rw [← same]
    exact inside

/-- A test that whitespace fails fails on a piece if it fails on the components. -/
theorem piece_of_test {test : Component → Bool} {components : List Component}
    (noSpace : ∀ component, component.isWhitespace = true → test component = false)
    (all : ∀ component ∈ components, test component = false)
    : ∀ component ∈ piece components, test component = false := by
  intro component member
  rcases mem_piece member with space | inside
  · exact noSpace component space
  · exact all component inside

--------------------------------------------------------------------------------
-- Values
--------------------------------------------------------------------------------

/-- The state of a search, without the place of the mark. -/
def Syntax.MarkState.bare : MarkState → MarkState
  | .value => .value
  | .bang _ => .bang 0
  | .important _ => .important 0

/-- What is known of a value, without any places in it. -/
def Syntax.ValueScan.bare (scan : ValueScan) : ValueScan :=
  { scan with position := 0, state := scan.state.bare }

theorem bare_pass (scan : ValueScan) (component : Component)
    : (scan.pass component).bare = scan.bare.pass component := by
  unfold ValueScan.pass
  split
  · rfl
  · rfl

theorem bare_bare (scan : ValueScan) : scan.bare.bare = scan.bare := by
  obtain ⟨position, state, started, holdsBlock⟩ := scan
  cases state <;> rfl

theorem bare_step (scan : ValueScan) (component : Component)
    : (scan.step component).bare = (scan.bare.step component).bare := by
  have passed : (scan.pass component).bare = (scan.bare.pass component).bare := by
    rw [bare_pass, bare_pass, bare_bare]
  obtain ⟨position, state, started, holdsBlock⟩ := scan
  rw [ValueScan.step_eq, ValueScan.step_eq]
  cases state with
  | value =>
    by_cases bang : component.isLiteral "!" = true
    · simp [ValueScan.bare, MarkState.bare, bang]
    · simpa [ValueScan.bare, MarkState.bare, bang] using passed
  | bang start =>
    by_cases word : component.isImportant = true
    · simp [ValueScan.bare, MarkState.bare, word]
    · simpa [ValueScan.bare, MarkState.bare, word] using passed
  | important start => simpa [ValueScan.bare, MarkState.bare] using passed

/-- Whitespace in a value is passed. -/
theorem bare_step_of_isWhitespace {component : Component} (space : component.isWhitespace = true)
    (scan : ValueScan)
    : (scan.step component).bare = scan.bare := by
  have noWord : component.isImportant = false := by
    unfold Component.isWhitespace at space
    split at space
    · rfl
    · cases space
  have noBang := isLiteral_of_isWhitespace "!" space
  obtain ⟨position, state, started, holdsBlock⟩ := scan
  rw [ValueScan.step_eq]
  cases state <;> simp [ValueScan.bare, ValueScan.pass, noWord, noBang, space]

theorem bare_foldl_congr {scan other : ValueScan} (same : scan.bare = other.bare)
    (components : List Component)
    : (components.foldl ValueScan.step scan).bare = (components.foldl ValueScan.step other).bare := by
  induction components generalizing scan other with
  | nil => exact same
  | cons component rest ih =>
    refine ih ?_
    rw [bare_step scan, bare_step other, same]

/-- What is known of a value does not depend on the whitespace in it. -/
theorem bare_foldl_filter (scan : ValueScan) (components : List Component)
    : (components.foldl ValueScan.step scan).bare
      = ((components.filter (!·.isWhitespace)).foldl ValueScan.step scan).bare := by
  induction components generalizing scan with
  | nil => rfl
  | cons component rest ih =>
    by_cases space : component.isWhitespace = true
    · rw [List.filter_cons_of_neg (by simp [space]), ← ih]
      exact bare_foldl_congr (bare_step_of_isWhitespace space scan) rest
    · rw [List.filter_cons_of_pos (by simp [space])]
      exact ih _

theorem filter_dropWhile (components : List Component)
    : (components.dropWhile Component.isWhitespace).filter (!·.isWhitespace)
      = components.filter (!·.isWhitespace) := by
  induction components with
  | nil => rfl
  | cons component rest ih =>
    by_cases space : component.isWhitespace = true
    · rw [List.dropWhile_cons_of_pos space, ih, List.filter_cons_of_neg (by simp [space])]
    · rw [List.dropWhile_cons_of_neg space]

theorem filter_unifySpaces (components : List Component)
    : (unifySpaces components).filter (!·.isWhitespace)
      = components.filter (!·.isWhitespace) := by
  induction components with
  | nil => rfl
  | cons component rest ih =>
    rw [unifySpaces] at ih ⊢
    rw [List.map_cons]
    cases component with
    | atom line found =>
      cases found with
      | whitespace text =>
        rw [List.filter_cons_of_neg (by simp [Component.isWhitespace]), ih,
          List.filter_cons_of_neg (by simp [Component.isWhitespace])]
      | _ => simp only [List.filter_cons, ih]
    | block line bracket content => simp only [List.filter_cons, ih]
    | function line name arguments => simp only [List.filter_cons, ih]

/-- A piece holds everything but the whitespace at the ends. -/
theorem filter_piece (components : List Component)
    : (piece components).filter (!·.isWhitespace) = components.filter (!·.isWhitespace) := by
  rw [piece, trimBlanks, List.rdropWhile, List.filter_reverse, filter_dropWhile, List.filter_reverse,
    List.reverse_reverse, filter_dropWhile, filter_unifySpaces]

theorem filter_padded (setting : Setting)
    : setting.padded.filter (!·.isWhitespace) = setting.value.filter (!·.isWhitespace) := by
  have space (text : List Char) : (blank text).isWhitespace = true := rfl
  have whole := filter_piece setting.value
  rw [Setting.padded]
  split
  · rename_i nothing
    simp only [Bool.and_eq_true, List.isEmpty_iff] at nothing
    rw [nothing.1] at whole
    rw [← whole]
    simp [space]
  · rw [← whole, List.filter_cons_of_neg (by simp [space]), List.filter_append]
    split
    · simp [space]
    · simp

theorem piece_padded (setting : Setting) : piece setting.padded = piece setting.value := by
  rw [Setting.padded]
  split
  · rename_i nothing
    simp only [Bool.and_eq_true, List.isEmpty_iff] at nothing
    rw [nothing.1, piece_blank_cons]
    rfl
  · rw [piece_blank_cons]
    split
    · rw [piece_concat_blank, piece_piece]
    · rw [List.append_nil, piece_piece]

/-- What is known of what is laid out for a value is what is known of the value. -/
theorem bare_scanValue_padded (setting : Setting)
    : (scanValue setting.padded).bare = (scanValue setting.value).bare := by
  rw [scanValue, scanValue, bare_foldl_filter, filter_padded, ← bare_foldl_filter]

--------------------------------------------------------------------------------
-- Declarations
--------------------------------------------------------------------------------

theorem lowerAscii_lowerAscii (text : List Char)
    : lowerAscii (lowerAscii text) = lowerAscii text := by
  rw [lowerAscii, lowerAscii, List.map_map]
  exact List.map_congr_left fun c _ => toLower_toLower c

/-- The name of a property is printed as it is read. -/
theorem propertyName_propertyName (name : List Char)
    : propertyName (propertyName name).toList = propertyName name := by
  by_cases custom : "--".toList.isPrefixOf name = true
  · simp only [propertyName, custom, if_true, String.toList_ofList]
  · simp only [propertyName, custom, Bool.false_eq_true, if_false, String.toList_ofList,
      lowerAscii_lowerAscii, ite_self]

section Settings

variable {setting : Setting}

/-- What stands behind the name and the colon of a declaration that is laid out. -/
def Setting.marked (setting : Setting) : List Component :=
  setting.padded ++ if setting.important then importance else []

/-- The declaration that is found in what is laid out for one. -/
def Setting.reread (setting : Setting) : Setting :=
  ⟨(propertyName setting.name).toList, setting.padded, setting.important⟩

theorem declaration_reread (setting : Setting) : setting.reread.declaration = setting.declaration := by
  simp only [Setting.declaration, Setting.reread, propertyName_propertyName,
    compactText_congr (piece_padded setting)]

theorem layout_append (setting : Setting) (rest : List Component)
    : setting.layout ++ rest
      = .atom 0 (.ident (propertyName setting.name).toList)
        :: (mark ':' :: setting.marked ++ mark ';' :: rest) := by
  simp [Setting.layout, Setting.marked]

/-- What is laid out for a value ends where the declaration does. -/
theorem Setting.Formed.noEnd_marked (formed : setting.Formed)
    : ∀ component ∈ setting.marked, component.isLiteral ";" = false := by
  intro component member
  have inValue : ∀ component ∈ piece setting.value, component.isLiteral ";" = false :=
    piece_of_test (fun _ => isLiteral_of_isWhitespace ";") formed.noEnd
  rw [Setting.marked, List.mem_append] at member
  rcases member with padded | marked
  · rw [Setting.padded] at padded
    split at padded
    · rw [List.mem_singleton.mp padded]
      rfl
    · rcases List.mem_cons.mp padded with rfl | padded
      · rfl
      · rcases List.mem_append.mp padded with inPiece | space
        · exact inValue component inPiece
        · split at space
          · rw [List.mem_singleton.mp space]
            rfl
          · cases space
  · split at marked
    · rcases List.mem_cons.mp marked with rfl | word
      · rfl
      · rw [List.mem_singleton.mp word]
        rfl
    · cases marked

theorem declarationOf_colon (line : Nat) (name : List Char) (value : List Component)
    : declarationOf line name (mark ':' :: value)
      = if (scanValue value).holdsBlock then .fault 0 .blockInValue
        else
          match (scanValue value).state with
          | .important position => .declaration name (value.take position) true
          | _ => .declaration name value false :=
  rfl

/-- The mark of importance is found behind a value. -/
theorem scanValue_importance {value : List Component} (state : (scanValue value).state = .value)
    : (scanValue (value ++ importance)).state = .important value.length
      ∧ (scanValue (value ++ importance)).holdsBlock = (scanValue value).holdsBlock := by
  have position := (scanValue_marks value).1
  have split
      : value ++ importance = value ++ [mark '!'] ++ [.atom 0 (.ident "important".toList)] := by
    rw [List.append_assoc]
    rfl
  have bang : ((scanValue value).step (mark '!')).state = .bang value.length := by
    rw [ValueScan.step_eq, state, ← position]
    rfl
  rw [split, scanValue_concat, scanValue_concat, ValueScan.step_eq _ (.atom 0 _), bang]
  refine ⟨rfl, ?_⟩
  show ((scanValue value).step (mark '!')).holdsBlock = _
  rw [ValueScan.step_eq, state]
  rfl

/-- The value that is laid out is read back, with its mark of importance if it has one. -/
theorem declarationOf_layout (formed : setting.Formed) (line : Nat) (name : List Char)
    : declarationOf line name (mark ':' :: setting.marked)
      = .declaration name setting.padded setting.important := by
  have known := bare_scanValue_padded setting
  have noBlock : (scanValue setting.padded).holdsBlock = false := by
    have same := congrArg ValueScan.holdsBlock known
    exact same.trans formed.noBlock
  have state : (scanValue setting.padded).state.bare = (scanValue setting.value).state.bare :=
    congrArg ValueScan.state known
  rw [declarationOf_colon, Setting.marked]
  cases important : setting.important with
  | false =>
    rw [if_neg Bool.false_ne_true, List.append_nil, noBlock, if_neg Bool.false_ne_true]
    split
    · rename_i position marked
      rw [marked] at state
      cases own : (scanValue setting.value).state with
      | important start => exact absurd own (formed.unmarked start)
      | value =>
        rw [own] at state
        cases state
      | bang start =>
        rw [own] at state
        cases state
    · rfl
  | true =>
    have before : (scanValue setting.padded).state = .value := by
      rw [formed.beforeMark important] at state
      cases own : (scanValue setting.padded).state with
      | value => rfl
      | important start =>
        rw [own] at state
        cases state
      | bang start =>
        rw [own] at state
        cases state
    obtain ⟨found, block⟩ := scanValue_importance before
    rw [if_pos rfl, block, noBlock, if_neg Bool.false_ne_true, found]
    simp only [List.take_left]

/-- A declaration that is laid out is read back, whatever follows it. -/
theorem entries_layout (formed : setting.Formed) (rest : List Component)
    : settingsOf (entries (setting.layout ++ rest))
      = setting.reread :: settingsOf (entries rest) := by
  have noEnd : ∀ component ∈ mark ':' :: setting.marked, component.isLiteral ";" = false := by
    intro component member
    rcases List.mem_cons.mp member with rfl | inMarked
    · rfl
    · exact formed.noEnd_marked component inMarked
  have cut
      : cutAt (·.isLiteral ";") (mark ':' :: setting.marked ++ mark ';' :: rest)
        = (mark ':' :: setting.marked, some (mark ';'), rest) :=
    cutAt_of_before noEnd rfl rest
  rw [layout_append, entries, if_neg (by simp [Component.isWhitespace, Component.isLiteral])]
  simp only [takeEntry, cut, declarationOf_layout formed]
  rfl

theorem entries_blank (text : List Char) (rest : List Component)
    : entries (blank text :: rest) = entries rest := by
  rw [entries, if_pos (by rfl)]

/-- The declarations of a block that is laid out are read back. -/
theorem settingsOf_settingsLayout (depth : Nat) {settings : List Setting}
    (formed : ∀ setting ∈ settings, setting.Formed)
    : settingsOf (entries (settingsLayout depth settings)) = settings.map Setting.reread := by
  induction settings with
  | nil =>
    rw [settingsLayout, List.flatMap_nil, List.nil_append, lineBreak, entries_blank, entries]
    rfl
  | cons setting rest ih =>
    rw [settingsLayout_cons, lineBreak, entries_blank, entries_layout (formed setting List.mem_cons_self),
      ih fun setting member => formed setting (List.mem_cons_of_mem _ member)]
    rfl

end Settings

/-- Reading a block of declarations that is laid out gives the declarations. -/
theorem readDeclarations_settingsLayout (depth : Nat) {settings : List Setting}
    (formed : ∀ setting ∈ settings, setting.Formed)
    : (readDeclarations (entries (settingsLayout depth settings))).1
      = settings.map Setting.declaration := by
  rw [readDeclarations_eq, settingsOf_settingsLayout depth formed, List.map_map]
  exact List.map_congr_left fun setting _ => declaration_reread setting

--------------------------------------------------------------------------------
-- Selectors
--------------------------------------------------------------------------------

/-- Components without commas in front of others belong to the first group. -/
theorem commaGroups_append {components : List Component}
    (noComma : ∀ component ∈ components, component.isLiteral "," = false)
    {rest first : List Component} {others : List (List Component)}
    (groups : commaGroups rest = first :: others)
    : commaGroups (components ++ rest) = (components ++ first) :: others := by
  induction components with
  | nil => exact groups
  | cons component more ih =>
    have grouped := ih fun component member => noComma component (List.mem_cons_of_mem _ member)
    rw [List.cons_append, commaGroups, noComma component List.mem_cons_self,
      if_neg Bool.false_ne_true, grouped]
    rfl

theorem commaGroups_comma (rest : List Component)
    : commaGroups (mark ',' :: rest) = [] :: commaGroups rest := by
  rw [commaGroups, if_pos (by rfl)]

/-- The groups of selectors that are laid out have the texts of the selectors.
Witness: induction on the selectors, each behind blanks that its text does not show.
-/
theorem map_commaGroups_selectorsLayout {closer : Option Bracket}
    {selectors : List (List Component)} (filled : selectors ≠ [])
    (formed : ∀ group ∈ selectors, SelectorFormed closer group)
    : (commaGroups (selectorsLayout selectors ++ [blank [' ']])).map compactText
      = selectors.map compactText := by
  have noComma {group : List Component} (formed : SelectorFormed closer group)
      : ∀ component ∈ piece group, component.isLiteral "," = false :=
    piece_of_test (fun _ => isLiteral_of_isWhitespace ",") formed.noComma
  have single : commaGroups [blank [' ']] = [[blank [' ']]] := rfl
  induction selectors with
  | nil => exact absurd rfl filled
  | cons group rest ih =>
    have own := formed group List.mem_cons_self
    cases rest with
    | nil =>
      rw [selectorsLayout, commaGroups_append (noComma own) single]
      simp only [List.map_cons, List.map_nil]
      rw [compactText_congr (piece_concat_blank _ _), compactText_congr (piece_piece group)]
    | cons next others =>
      have later := ih (by simp) fun group member => formed group (List.mem_cons_of_mem _ member)
      cases found : commaGroups (selectorsLayout (next :: others) ++ [blank [' ']]) with
      | nil => simp [found] at later
      | cons first more =>
        have spaced
            : commaGroups (blank [' '] :: (selectorsLayout (next :: others) ++ [blank [' ']]))
              = (blank [' '] :: first) :: more := by
          have plain : ∀ component ∈ [blank [' ']], component.isLiteral "," = false := by
            simp [blank, Component.isLiteral]
          exact commaGroups_append plain found
        have split
            : selectorsLayout (group :: next :: others) ++ [blank [' ']]
              = piece group ++ mark ','
                  :: blank [' '] :: (selectorsLayout (next :: others) ++ [blank [' ']]) := by
          simp [selectorsLayout_cons_cons]
        rw [found] at later
        rw [split, commaGroups_append (noComma own) (commaGroups_comma _), spaced]
        simp only [List.map_cons, List.append_nil] at later ⊢
        rw [compactText_congr (piece_piece group), compactText_congr (piece_blank_cons _ first),
          later]

/-- What stands in selectors that are laid out, whitespace and commas aside, stands in one of them. -/
theorem mem_selectorsLayout {selectors : List (List Component)} {component : Component}
    (member : component ∈ selectorsLayout selectors)
    : component.isWhitespace = true ∨ component = mark ','
      ∨ ∃ group ∈ selectors, component ∈ group := by
  have inGroup {group : List Component} {others : List (List Component)}
      (member : component ∈ piece group)
      : component.isWhitespace = true ∨ component = mark ','
        ∨ ∃ own ∈ group :: others, component ∈ own :=
    (mem_piece member).imp_right fun own => Or.inr ⟨group, List.mem_cons_self, own⟩
  induction selectors with
  | nil => cases member
  | cons group rest ih =>
    cases rest with
    | nil => exact inGroup member
    | cons next others =>
      rw [selectorsLayout_cons_cons, List.mem_append] at member
      rcases member with own | behind
      · exact inGroup own
      · rcases List.mem_cons.mp behind with comma | behind
        · exact Or.inr (Or.inl comma)
        · rcases List.mem_cons.mp behind with rfl | later
          · exact Or.inl rfl
          · refine (ih later).imp_right fun found => found.imp_right ?_
            rintro ⟨own, listed, inside⟩
            exact ⟨own, List.mem_cons_of_mem _ listed, inside⟩

/-- The first component that is printed for selectors. -/
def firstOf (selectors : List (List Component)) : Option Component :=
  selectors.head?.bind fun group => (piece group).head?

theorem selectorsLayout_cons {closer : Option Bracket} {selectors : List (List Component)}
    (filled : selectors ≠ []) (formed : ∀ group ∈ selectors, SelectorFormed closer group)
    : ∃ first more,
        selectorsLayout selectors = first :: more ∧ firstOf selectors = some first
        ∧ first.isWhitespace = false := by
  cases selectors with
  | nil => exact absurd rfl filled
  | cons group rest =>
    cases found : piece group with
    | nil =>
      have text := compactText_eq group
      rw [found] at text
      exact absurd text (formed group List.mem_cons_self).filled
    | cons first more =>
      have head : firstOf (group :: rest) = some first := by simp [firstOf, found]
      have start := isWhitespace_head_piece found
      cases rest with
      | nil => exact ⟨first, more, by rw [selectorsLayout, found], head, start⟩
      | cons next others =>
        refine ⟨first, more ++ mark ',' :: blank [' '] :: selectorsLayout (next :: others), ?_, head,
          start⟩
        rw [selectorsLayout_cons_cons, found, List.cons_append]

--------------------------------------------------------------------------------
-- Rules
--------------------------------------------------------------------------------

/-- Would the component, first in a list of rules, start no style rule? -/
def startsNoStyle (top : Bool) (component : Component) : Bool :=
  component.isAtKeyword || (top && (component.isLiteral "<!--" || component.isLiteral "-->"))

mutual
/-- Does every style rule start with a component that starts one? -/
def Item.leads (top : Bool) : Item → Bool
  | .style selectors _ => !(firstOf selectors).any (startsNoStyle top)
  | .verbatim _ _ _ | .declarationBlock _ _ _ => true
  | .ruleBlock _ _ body => Item.allLead false body

/-- Does every style rule start with a component that starts one? -/
def Item.allLead (top : Bool) : List Item → Bool
  | [] => true
  | item :: rest => item.leads top && Item.allLead top rest
end

theorem rules_blank (top : Bool) (text : List Char) (rest : List Component)
    : rules top (blank text :: rest) = rules top rest := by
  rw [rules, if_pos (by rfl)]

theorem readRules_blank (top : Bool) (text : List Char) (rest : List Component)
    : (readRules top (blank text :: rest)).1 = (readRules top rest).1 := by
  rw [readRules_eq, readRules_eq, rules_blank]

/-- A rule is read in front of the others. -/
theorem readRules_cons {top : Bool} {components rest : List Component} {rule : Rule} {node : Node}
    (taken : rules top components = rule :: rules top rest) (gives : rule.reading.1 = some node)
    : (readRules top components).1 = node :: (readRules top rest).1 := by
  rw [readRules_eq, readRules_eq, taken]
  exact List.filterMap_cons_some (f := fun rule : Rule => rule.reading.1) gives

/-- An at-rule in front of others is taken up to its block or its semicolon. -/
theorem rules_atRule (top : Bool) (name : List Char) {prelude : List Component} {last : Component}
    (noEnd : ∀ component ∈ prelude, endsAtRule component = false) (ends : endsAtRule last = true)
    (rest : List Component)
    : rules top (.atom 0 (.atKeyword name) :: (prelude ++ last :: rest))
      = .at 0 name prelude last.curlyContent? :: rules top rest := by
  rw [rules, if_neg (by simp [Component.isWhitespace, Component.isLiteral])]
  simp only [takeRule, cutAt_of_before noEnd ends rest, Option.bind_some]

/-- A style rule in front of others is taken up to its block. -/
theorem rules_style {top : Bool} {first : Component} {more : List Component}
    (start : first.isWhitespace = false) (leads : startsNoStyle top first = false)
    (noCurly : ∀ component ∈ first :: more, isCurly component = false)
    (content rest : List Component)
    : rules top (first :: (more ++ .block 0 .curly content :: rest))
      = .style first.line (first :: more) content :: rules top rest := by
  rw [startsNoStyle, Bool.or_eq_false_iff] at leads
  have own := noCurly first List.mem_cons_self
  have noContent : first.curlyContent? = none := by simpa [isCurly] using own
  have cut
      : cutAt isCurly (more ++ .block 0 .curly content :: rest)
        = (more, some (.block 0 .curly content), rest) :=
    cutAt_of_before (fun component member => noCurly component (List.mem_cons_of_mem _ member)) rfl
      rest
  rw [rules, if_neg (by simp [start, leads.2]), takeRule_of_not_isAtKeyword leads.1, noContent, cut]
  rfl

/-- A prelude that is laid out has the same text. -/
theorem compactText_preludeLayout (prelude : List Component)
    : compactText (preludeLayout prelude ++ [blank [' ']]) = compactText prelude := by
  refine compactText_congr ?_
  rw [piece_concat_blank, preludeLayout]
  split
  · rename_i nothing
    rw [List.isEmpty_iff.mp nothing]
    rfl
  · rw [piece_blank_cons, piece_piece]

/-- A prelude that is laid out does not end the at-rule. -/
theorem noEnd_preludeLayout {prelude : List Component}
    (noEnd : ∀ component ∈ prelude, endsAtRule component = false)
    : ∀ component ∈ preludeLayout prelude ++ [blank [' ']], endsAtRule component = false := by
  have inPiece := piece_of_test (fun _ => endsAtRule_of_isWhitespace) noEnd
  intro component member
  rcases List.mem_append.mp member with inLayout | space
  · rw [preludeLayout] at inLayout
    split at inLayout
    · cases inLayout
    · rcases List.mem_cons.mp inLayout with rfl | own
      · rfl
      · exact inPiece component own
  · rw [List.mem_singleton.mp space]
    rfl

/-- The at-rule that is found in what is laid out for one with a block. -/
theorem rules_headLayout (top : Bool) (keyword : List Char) {prelude : List Component}
    (noEnd : ∀ component ∈ prelude, endsAtRule component = false)
    (content rest : List Component)
    : rules top (headLayout keyword prelude ++ [blank [' '], .block 0 .curly content] ++ rest)
      = .at 0 (lowerAscii keyword) (preludeLayout prelude ++ [blank [' ']]) (some content)
        :: rules top rest := by
  have split
      : headLayout keyword prelude ++ [blank [' '], .block 0 .curly content] ++ rest
        = .atom 0 (.atKeyword (lowerAscii keyword))
          :: ((preludeLayout prelude ++ [blank [' ']]) ++ .block 0 .curly content :: rest) := by
    simp [headLayout]
  rw [split, rules_atRule top _ (noEnd_preludeLayout noEnd) rfl]
  rfl

section Reading

variable {closer : Option Bracket} {top : Bool}

/-- A style rule that is laid out is read back. -/
theorem readRules_style {selectors : List (List Component)} {settings : List Setting}
    (formed : (Item.style selectors settings).Formed closer)
    (leads : (Item.style selectors settings).leads top = true) (depth : Nat) (rest : List Component)
    : (readRules top ((Item.style selectors settings).layout depth ++ rest)).1
      = (Item.style selectors settings).node :: (readRules top rest).1 := by
  obtain ⟨filled, formedSelectors, formedSettings⟩ := formed
  obtain ⟨first, more, starts, found, noSpace⟩ := selectorsLayout_cons filled formedSelectors
  have noCurly : ∀ component ∈ first :: (more ++ [blank [' ']]), isCurly component = false := by
    intro component member
    rw [← List.cons_append, ← starts, List.mem_append] at member
    rcases member with inSelectors | space
    · rcases mem_selectorsLayout inSelectors with space | rfl | ⟨group, listed, inGroup⟩
      · exact isCurly_of_isWhitespace space
      · rfl
      · exact (formedSelectors group listed).noCurly component inGroup
    · rw [List.mem_singleton.mp space]
      rfl
  have start : startsNoStyle top first = false := by
    rw [Item.leads, found] at leads
    simpa using leads
  have texts
      : selectorTexts (selectorsLayout selectors ++ [blank [' ']])
        = selectors.map compactText := by
    rw [selectorTexts, map_commaGroups_selectorsLayout filled formedSelectors, List.filter_eq_self]
    intro text member
    obtain ⟨group, listed, rfl⟩ := List.mem_map.mp member
    simpa using (formedSelectors group listed).filled
  have split
      : (Item.style selectors settings).layout depth ++ rest
        = first :: ((more ++ [blank [' ']]) ++ .block 0 .curly (settingsLayout depth settings)
            :: rest) := by
    simp [Item.layout, starts]
  rw [split]
  refine readRules_cons (rules_style noSpace start noCurly _ rest) ?_
  rw [← List.cons_append, ← starts, Rule.reading, texts, if_neg (by simpa using filled),
    readDeclarations_settingsLayout depth formedSettings, Item.node]

/-- An at-rule that is laid out as it was written is read back. -/
theorem readRules_verbatim {keyword : List Char} {prelude : List Component}
    {content : Option (List Component)} (formed : (Item.verbatim keyword prelude content).Formed closer)
    (depth : Nat) (rest : List Component)
    : (readRules top ((Item.verbatim keyword prelude content).layout depth ++ rest)).1
      = (Item.verbatim keyword prelude content).node :: (readRules top rest).1 := by
  obtain ⟨formedPrelude, inside⟩ := formed
  cases content with
  | none =>
    have split
        : (Item.verbatim keyword prelude none).layout depth ++ rest
          = .atom 0 (.atKeyword keyword) :: (prelude ++ mark ';' :: rest) := by
      simp [Item.layout]
    rw [split]
    exact readRules_cons (rules_atRule top keyword formedPrelude.noEnd rfl rest) rfl
  | some content =>
    obtain ⟨-, noRules, noDeclarations⟩ := inside content rfl
    have split
        : (Item.verbatim keyword prelude (some content)).layout depth ++ rest
          = .atom 0 (.atKeyword keyword) :: (prelude ++ .block 0 .curly content :: rest) := by
      simp [Item.layout]
    have noList
        : declarationBlockNames.contains (String.ofList (lowerAscii keyword)) = false := by
      simpa [holdsDeclarations, noRules] using noDeclarations
    rw [split]
    refine readRules_cons (rules_atRule top keyword formedPrelude.noEnd rfl rest) ?_
    rw [holdsRules] at noRules
    simp only [Component.curlyContent?, Rule.reading, noRules, noList, Bool.false_eq_true, if_false]
    rfl

/-- A block of declarations that is laid out is read back. -/
theorem readRules_declarationBlock {keyword : List Char} {prelude : List Component}
    {settings : List Setting} (formed : (Item.declarationBlock keyword prelude settings).Formed closer)
    (depth : Nat) (rest : List Component)
    : (readRules top ((Item.declarationBlock keyword prelude settings).layout depth ++ rest)).1
      = (Item.declarationBlock keyword prelude settings).node :: (readRules top rest).1 := by
  obtain ⟨formedPrelude, holds, formedSettings⟩ := formed
  refine readRules_cons (rules_headLayout top keyword formedPrelude.noEnd _ rest) ?_
  simp only [holdsDeclarations, holdsRules, Bool.and_eq_true, Bool.not_eq_true'] at holds
  simp only [Rule.reading, lowerAscii_lowerAscii, holds.1, holds.2, Bool.false_eq_true, if_false,
    if_true, compactText_preludeLayout, readDeclarations_settingsLayout depth formedSettings]
  rfl

mutual
/-- An item that is laid out is read back, whatever follows it. -/
theorem readRules_layout (item : Item) {closer : Option Bracket} {top : Bool}
    (formed : item.Formed closer) (leads : item.leads top = true) (depth : Nat)
    (rest : List Component)
    : (readRules top (item.layout depth ++ rest)).1 = item.node :: (readRules top rest).1 := by
  match item with
  | .style selectors settings => exact readRules_style formed leads depth rest
  | .verbatim keyword prelude content => exact readRules_verbatim formed depth rest
  | .declarationBlock keyword prelude settings =>
    exact readRules_declarationBlock formed depth rest
  | .ruleBlock keyword prelude body =>
    obtain ⟨formedPrelude, holds, formedBody⟩ := formed
    have inside
        : (readRules false (Item.bodyLayout (depth + 1) body ++ [lineBreak depth])).1
          = Item.nodes body := by
      rw [readRules_bodyLayout body formedBody leads, lineBreak, readRules_blank, readRules_eq, rules]
      exact List.append_nil _
    refine readRules_cons (rules_headLayout top keyword formedPrelude.noEnd _ rest) ?_
    rw [holdsRules] at holds
    simp only [Rule.reading, lowerAscii_lowerAscii, holds, if_true, compactText_preludeLayout, inside]
    rfl

/-- Items that are laid out in a block are read back. -/
theorem readRules_bodyLayout (items : List Item) {closer : Option Bracket} {top : Bool}
    (formed : Item.AllFormed closer items) (leads : Item.allLead top items = true) (depth : Nat)
    (rest : List Component)
    : (readRules top (Item.bodyLayout depth items ++ rest)).1
      = Item.nodes items ++ (readRules top rest).1 := by
  match items with
  | [] => rfl
  | item :: others =>
    rw [Item.allLead, Bool.and_eq_true] at leads
    rw [Item.bodyLayout, List.cons_append, lineBreak, readRules_blank, List.append_assoc,
      readRules_layout item formed.1 leads.1, readRules_bodyLayout others formed.2 leads.2]
    rfl
end

/-- A sheet that is laid out is read back. -/
theorem readRules_sheetLayout {items : List Item} (formed : Item.AllFormed closer items)
    (leads : Item.allLead top items = true)
    : (readRules top (sheetLayout items)).1 = Item.nodes items := by
  induction items with
  | nil =>
    rw [sheetLayout, List.flatMap_nil, readRules_eq, rules]
    rfl
  | cons item rest ih =>
    rw [Item.allLead, Bool.and_eq_true] at leads
    rw [sheetLayout_cons, readRules_layout item formed.1 leads.1, lineBreak, readRules_blank,
      ih formed.2 leads.2]
    rfl

end Reading

end CriticalCss
