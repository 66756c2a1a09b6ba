import CriticalCss.Proofs.Stylesheet.Items
import Mathlib.Data.List.Induction

/-! What the items of a sheet are like because of how they are found. Their components come from
the text, so their tokens are ones that reading gives; a prelude ends where the rule does, a value
ends where the declaration does, and the mark of importance is no part of it.
-/

namespace CriticalCss.Syntax

/-- A token as it stands in a sheet that is read: no whole number in it has too many digits. -/
structure Token.IsSound (token : Token) : Prop where
  formed : token.WellFormed
  short : token.wholeDigits?.all (· ≤ Text.digitLimit) = true

/-- Components whose tokens are sound and that stand inside the given brackets. -/
structure Sound (closer : Option Bracket) (components : List Component) : Prop where
  tokens : ∀ token ∈ tokensOf components, token.IsSound
  openIn : allOpenIn closer components = true

section Sound

variable {closer : Option Bracket} {components : List Component}

/-- Components taken from sound ones are sound. -/
theorem Sound.of_subset {part : List Component} (sound : Sound closer components)
    (subset : ∀ component ∈ part, component ∈ components)
    : Sound closer part := by
  constructor
  · intro token member
    rw [tokensOf_eq_flatMap] at member
    obtain ⟨component, inPart, own⟩ := List.mem_flatMap.mp member
    refine sound.tokens token ?_
    rw [tokensOf_eq_flatMap]
    exact List.mem_flatMap.mpr ⟨component, subset component inPart, own⟩
  · have openIn := sound.openIn
    rw [allOpenIn_eq_all, List.all_eq_true] at openIn ⊢
    exact fun component inPart => openIn component (subset component inPart)

/-- The content of a block stands inside its brackets. -/
theorem Sound.content {line : Nat} {bracket : Bracket} {content : List Component}
    (sound : Sound closer components) (member : .block line bracket content ∈ components)
    : Sound (some bracket) content := by
  constructor
  · intro token inContent
    refine sound.tokens token ?_
    rw [tokensOf_eq_flatMap]
    refine List.mem_flatMap.mpr ⟨_, member, ?_⟩
    exact List.mem_cons_of_mem _ (List.mem_append_left _ inContent)
  · have openIn := sound.openIn
    rw [allOpenIn_eq_all, List.all_eq_true] at openIn
    exact openIn _ member

/-- The arguments of a function stand inside round brackets. -/
theorem Sound.arguments {line : Nat} {name : List Char} {arguments : List Component}
    (sound : Sound closer components) (member : .function line name arguments ∈ components)
    : Sound (some .round) arguments := by
  constructor
  · intro token inArguments
    refine sound.tokens token ?_
    rw [tokensOf_eq_flatMap]
    refine List.mem_flatMap.mpr ⟨_, member, ?_⟩
    exact List.mem_cons_of_mem _ (List.mem_append_left _ inArguments)
  · have openIn := sound.openIn
    rw [allOpenIn_eq_all, List.all_eq_true] at openIn
    exact openIn _ member

theorem Sound.curlyContent {component : Component} {content : List Component}
    (sound : Sound closer components) (member : component ∈ components)
    (curly : component.curlyContent? = some content)
    : Sound (some .curly) content := by
  unfold Component.curlyContent? at curly
  split at curly
  · cases curly
    exact sound.content member
  · cases curly

--------------------------------------------------------------------------------
-- Cutting
--------------------------------------------------------------------------------

/-- A cut leaves nothing out. -/
theorem cutAt_append (test : Component → Bool) (components : List Component)
    : (cutAt test components).1 ++ ((cutAt test components).2.1.toList ++ (cutAt test components).2.2)
      = components := by
  induction components with
  | nil => rfl
  | cons component rest ih =>
    unfold cutAt
    split
    · rfl
    · rw [List.cons_append, ih]

/-- No component before a cut satisfies the test. -/
theorem cutAt_before {test : Component → Bool} {components : List Component} {component : Component}
    (member : component ∈ (cutAt test components).1)
    : test component = false := by
  induction components with
  | nil => cases member
  | cons first rest ih =>
    unfold cutAt at member
    split at member
    · cases member
    · rename_i other
      rcases List.mem_cons.mp member with rfl | inRest
      · exact Bool.eq_false_iff.mpr other
      · exact ih inRest

theorem mem_of_mem_cutAt {test : Component → Bool} {component : Component}
    (member : component ∈ (cutAt test components).1)
    : component ∈ components := by
  rw [← cutAt_append test components]
  exact List.mem_append_left _ member

/-- The content of the block at a cut stands in curly brackets. -/
theorem Sound.cut_content {test : Component → Bool} {content : List Component}
    (sound : Sound closer components)
    (found : (cutAt test components).2.1.bind Component.curlyContent? = some content)
    : Sound (some .curly) content := by
  obtain ⟨component, cut, curly⟩ := Option.bind_eq_some_iff.mp found
  exact sound.curlyContent (cutAt_mem cut) curly

theorem isLiteral_of_isWhitespace (text : String) {component : Component}
    (space : component.isWhitespace = true)
    : component.isLiteral text = false := by
  unfold Component.isWhitespace at space
  split at space
  · rfl
  · cases space

theorem isCurly_of_isWhitespace {component : Component} (space : component.isWhitespace = true)
    : isCurly component = false := by
  unfold Component.isWhitespace at space
  split at space
  · rfl
  · cases space

theorem endsAtRule_of_isWhitespace {component : Component} (space : component.isWhitespace = true)
    : endsAtRule component = false := by
  rw [endsAtRule, isCurly_of_isWhitespace space, isLiteral_of_isWhitespace ";" space]
  rfl

--------------------------------------------------------------------------------
-- Rules
--------------------------------------------------------------------------------

/-- A rule as it is found inside the given brackets. -/
def Rule.Stands (closer : Option Bracket) : Rule → Prop
  | .style _ prelude content =>
    Sound closer prelude ∧ (∀ component ∈ prelude, isCurly component = false)
    ∧ Sound (some .curly) content
  | .at _ keyword prelude content =>
    IsName keyword ∧ Sound closer prelude ∧ (∀ component ∈ prelude, endsAtRule component = false)
    ∧ ∀ inner ∈ content, Sound (some .curly) inner
  | .fault _ _ => True

theorem stands_takeRule {first : Component} {rest : List Component}
    (sound : Sound closer (first :: rest))
    : (takeRule first rest).1.Stands closer := by
  have behind : Sound closer rest := sound.of_subset fun _ => List.mem_cons_of_mem _
  by_cases atRule : first.isAtKeyword = true
  · unfold Component.isAtKeyword at atRule
    split at atRule
    · rename_i line name
      refine ⟨?_, behind.of_subset fun _ => mem_of_mem_cutAt, fun _ => cutAt_before, ?_⟩
      · exact (sound.tokens (.atom (.atKeyword name)) List.mem_cons_self).formed
      · exact fun inner found => behind.cut_content found
    · cases atRule
  · rw [takeRule_of_not_isAtKeyword (Bool.eq_false_iff.mpr atRule)]
    split
    · rename_i content curly
      exact ⟨sound.of_subset (by simp), by simp, sound.curlyContent List.mem_cons_self curly⟩
    · rename_i noCurly
      split
      · rename_i content found
        refine ⟨sound.of_subset ?_, ?_, behind.cut_content found⟩
        · intro component member
          rcases List.mem_cons.mp member with rfl | inCut
          · exact List.mem_cons_self
          · exact List.mem_cons_of_mem _ (mem_of_mem_cutAt inCut)
        · intro component member
          rcases List.mem_cons.mp member with rfl | inCut
          · simp [isCurly, noCurly]
          · exact cutAt_before inCut
      · trivial

theorem takeRule_sublist (first : Component) (rest : List Component)
    : (takeRule first rest).2.Sublist rest := by
  unfold takeRule
  split
  · exact cutAt_sublist endsAtRule rest
  · split
    · exact List.Sublist.refl rest
    · dsimp only
      split
      · exact cutAt_sublist isCurly rest
      · exact cutAt_sublist isCurly rest

/-- Every rule that is found among sound components is found sound. -/
theorem stands_rules {top : Bool} (sound : Sound closer components)
    : ∀ rule ∈ rules top components, rule.Stands closer := by
  fun_induction rules top components with
  | case1 => simp
  | case2 first rest _ ih => exact ih (sound.of_subset fun _ => List.mem_cons_of_mem _)
  | case3 first rest _ taken ih =>
    intro rule member
    rcases List.mem_cons.mp member with rfl | inRest
    · exact stands_takeRule sound
    · refine ih (sound.of_subset fun component inTaken => ?_) rule inRest
      exact List.mem_cons_of_mem _ ((takeRule_sublist first rest).subset inTaken)

end Sound

--------------------------------------------------------------------------------
-- Values
--------------------------------------------------------------------------------

/-- What is known of a value after all of it. -/
def scanValue (value : List Component) : ValueScan :=
  value.foldl ValueScan.step {}

theorem scanValue_concat (value : List Component) (component : Component)
    : scanValue (value ++ [component]) = (scanValue value).step component := by
  simp [scanValue]

/-- The part of a value in front of a mark that starts at the given place has been read without one,
and holds no block that the whole value does not hold. -/
def MarksAt (value : List Component) (position : Nat) : Prop :=
  position ≤ value.length ∧ (scanValue (value.take position)).state = .value
  ∧ ((scanValue (value.take position)).holdsBlock = true → (scanValue value).holdsBlock = true)

/-- Reading on never takes back that a block was found. -/
theorem holdsBlock_step {scan : ValueScan} {component : Component} (holds : scan.holdsBlock = true)
    : (scan.step component).holdsBlock = true := by
  have passed : (scan.pass component).holdsBlock = true := by
    unfold ValueScan.pass
    split
    · exact holds
    · simp [holds]
  rw [ValueScan.step_eq]
  split
  · split
    · exact holds
    · exact passed
  · split
    · exact holds
    · exact passed
  · exact passed

theorem MarksAt.concat {value : List Component} {position : Nat} (marks : MarksAt value position)
    (component : Component)
    : MarksAt (value ++ [component]) position := by
  obtain ⟨inside, before, holds⟩ := marks
  refine ⟨by simp; omega, ?_, ?_⟩
  · rw [List.take_append_of_le_length inside]
    exact before
  · rw [List.take_append_of_le_length inside, scanValue_concat]
    exact fun block => holdsBlock_step (holds block)

/-- An open mark starts where the value in front of it ends.
Witness: induction on the value from its end, since that is where reading goes on.
-/
theorem scanValue_marks (value : List Component)
    : (scanValue value).position = value.length
      ∧ ∀ position,
          (scanValue value).state = .bang position ∨ (scanValue value).state = .important position
            → MarksAt value position := by
  induction value using List.reverseRecOn with
  | nil => exact ⟨rfl, by simp [scanValue]⟩
  | append_singleton value component ih =>
    obtain ⟨position, marks⟩ := ih
    rw [scanValue_concat, ValueScan.step_eq]
    refine ⟨by simp [position], fun start marked => ?_⟩
    -- The state behind the component is a new mark, the word of one, or what it was.
    have passed
        (marked
          : ((scanValue value).pass component).state = .bang start
            ∨ ((scanValue value).pass component).state = .important start)
        : MarksAt (value ++ [component]) start := by
      unfold ValueScan.pass at marked
      split at marked
      · exact (marks start marked).concat component
      · simp at marked
    dsimp only at marked
    split at marked
    · rename_i before
      split at marked
      · simp only [MarkState.bang.injEq, reduceCtorEq, or_false] at marked
        subst marked
        rw [position]
        refine ⟨by simp, ?_, ?_⟩
        · rw [List.take_left]
          exact before
        · rw [List.take_left, scanValue_concat]
          exact holdsBlock_step
      · exact passed marked
    · rename_i begun before
      split at marked
      · simp only [reduceCtorEq, MarkState.important.injEq, false_or] at marked
        subst marked
        exact (marks begun (Or.inl before)).concat component
      · exact passed marked
    · exact passed marked

end CriticalCss.Syntax

namespace CriticalCss

open Syntax

/-- A declaration as it is found: its value ends where the declaration does, holds no block behind
something else, and stands in front of the mark of importance if there is one. -/
structure Setting.Formed (setting : Setting) : Prop where
  named : IsName setting.name
  sound : Sound (some .curly) setting.value
  noEnd : ∀ component ∈ setting.value, component.isLiteral ";" = false
  noBlock : (scanValue setting.value).holdsBlock = false
  unmarked : ∀ position, (scanValue setting.value).state ≠ .important position
  beforeMark : setting.important = true → (scanValue setting.value).state = .value

/-- What is taken for a declaration is one. -/
theorem formed_declarationOf {line : Nat} {name found : List Char} {rest value : List Component}
    {important : Bool} (named : IsName name) (sound : Sound (some .curly) rest)
    (noEnd : ∀ component ∈ rest, component.isLiteral ";" = false)
    (gives : declarationOf line name rest = .declaration found value important)
    : Setting.Formed ⟨found, value, important⟩ := by
  unfold declarationOf at gives
  split at gives
  · cases gives
  · rename_i colon whole behind
    have inRest : ∀ component ∈ whole, component ∈ rest := by
      intro component member
      have tail : component ∈ rest.dropWhile Component.isWhitespace := by
        rw [behind]
        exact List.mem_cons_of_mem _ member
      exact (List.dropWhile_sublist _).subset tail
    split at gives
    · cases gives
    · dsimp only at gives
      have marks := (scanValue_marks whole).2
      split at gives
      · cases gives
      · rename_i noBlock
        have noBlock : (scanValue whole).holdsBlock = false := Bool.eq_false_iff.mpr noBlock
        split at gives
        · rename_i position marked
          obtain ⟨_, before, holds⟩ := marks position (Or.inr marked)
          cases gives
          have inWhole : ∀ component ∈ whole.take position, component ∈ rest :=
            fun component member => inRest component (List.mem_of_mem_take member)
          refine ⟨named, sound.of_subset inWhole,
            fun component member => noEnd component (inWhole component member), ?_, ?_,
            fun _ => before⟩
          · exact Bool.eq_false_iff.mpr fun block => absurd (holds block) (by simp [noBlock])
          · intro start
            rw [before]
            simp
        · rename_i unmarked
          cases gives
          exact ⟨named, sound.of_subset inRest,
            fun component member => noEnd component (inRest component member), noBlock,
            fun position marked => unmarked position marked, by simp⟩

theorem takeEntry_sublist (first : Component) (rest : List Component)
    : (takeEntry first rest).2.Sublist rest := by
  unfold takeEntry
  split
  · exact cutAt_sublist _ rest
  · exact cutAt_sublist _ rest
  · exact cutAt_sublist _ rest

theorem formed_takeEntry {first : Component} {rest value : List Component} {name : List Char}
    {important : Bool} (sound : Sound (some .curly) (first :: rest))
    (gives : (takeEntry first rest).1 = .declaration name value important)
    : Setting.Formed ⟨name, value, important⟩ := by
  have behind : Sound (some .curly) rest := sound.of_subset fun _ => List.mem_cons_of_mem _
  unfold takeEntry at gives
  split at gives
  · cases gives
  · rename_i line own
    have named := (sound.tokens (.atom (.ident own)) List.mem_cons_self).formed
    exact formed_declarationOf named (behind.of_subset fun _ => mem_of_mem_cutAt)
      (fun _ => cutAt_before) gives
  · cases gives

/-- Every declaration that is found among sound components is formed. -/
theorem formed_settingsOf {components : List Component} (sound : Sound (some .curly) components)
    : ∀ setting ∈ settingsOf (entries components), setting.Formed := by
  fun_induction entries components with
  | case1 => simp [settingsOf]
  | case2 first rest _ ih => exact ih (sound.of_subset fun _ => List.mem_cons_of_mem _)
  | case3 first rest _ taken ih =>
    have behind : Sound (some .curly) rest := sound.of_subset fun _ => List.mem_cons_of_mem _
    have others := ih (behind.of_subset fun _ member => (takeEntry_sublist first rest).subset member)
    intro setting member
    obtain ⟨entry, inEntries, gives⟩ := List.mem_filterMap.mp member
    rcases List.mem_cons.mp inEntries with same | inRest
    · cases entry with
      | declaration name value important =>
        cases gives
        exact formed_takeEntry sound same.symm
      | «at» line => cases gives
      | fault line reason => cases gives
    · exact others setting (List.mem_filterMap.mpr ⟨entry, inRest, gives⟩)

--------------------------------------------------------------------------------
-- Items
--------------------------------------------------------------------------------

/-- Does a block of the at-rule hold rules? -/
def holdsRules (keyword : List Char) : Bool :=
  ruleBlockNames.contains (String.ofList (lowerAscii keyword))
    || isKeyframes (String.ofList (lowerAscii keyword))

/-- Does a block of the at-rule hold declarations? -/
def holdsDeclarations (keyword : List Char) : Bool :=
  !holdsRules keyword && declarationBlockNames.contains (String.ofList (lowerAscii keyword))

/-- A prelude as it is found inside the given brackets. -/
structure PreludeFormed (closer : Option Bracket) (keyword : List Char) (prelude : List Component)
    : Prop where
  named : IsName keyword
  sound : Sound closer prelude
  noEnd : ∀ component ∈ prelude, endsAtRule component = false

/-- A selector as it is found inside the given brackets. -/
structure SelectorFormed (closer : Option Bracket) (group : List Component) : Prop where
  sound : Sound closer group
  noCurly : ∀ component ∈ group, isCurly component = false
  noComma : ∀ component ∈ group, component.isLiteral "," = false
  filled : compactText group ≠ ""

mutual
/-- An item as it is found inside the given brackets. -/
def Item.Formed (closer : Option Bracket) : Item → Prop
  | .style selectors settings =>
    selectors ≠ [] ∧ (∀ group ∈ selectors, SelectorFormed closer group)
    ∧ ∀ setting ∈ settings, setting.Formed
  | .verbatim keyword prelude content =>
    PreludeFormed closer keyword prelude
    ∧ ∀ inner ∈ content,
        Sound (some .curly) inner ∧ holdsRules keyword = false ∧ holdsDeclarations keyword = false
  | .declarationBlock keyword prelude settings =>
    PreludeFormed closer keyword prelude ∧ holdsDeclarations keyword = true
    ∧ ∀ setting ∈ settings, setting.Formed
  | .ruleBlock keyword prelude body =>
    PreludeFormed closer keyword prelude ∧ holdsRules keyword = true
    ∧ Item.AllFormed (some .curly) body

/-- Items as they are found inside the given brackets. -/
def Item.AllFormed (closer : Option Bracket) : List Item → Prop
  | [] => True
  | item :: rest => item.Formed closer ∧ Item.AllFormed closer rest
end

theorem Item.allFormed_iff {closer : Option Bracket} {items : List Item}
    : Item.AllFormed closer items ↔ ∀ item ∈ items, item.Formed closer := by
  induction items with
  | nil => simp [Item.AllFormed]
  | cons item rest ih => simp [Item.AllFormed, ih]

theorem subset_of_mem_commaGroups {prelude group : List Component} (member : group ∈ commaGroups prelude)
    : ∀ component ∈ group, component ∈ prelude ∧ component.isLiteral "," = false := by
  induction prelude generalizing group with
  | nil =>
    rw [commaGroups, List.mem_singleton] at member
    simp [member]
  | cons component rest ih =>
    rw [commaGroups] at member
    split at member
    · rcases List.mem_cons.mp member with rfl | inRest
      · simp
      · exact fun own inGroup => (ih inRest own inGroup).imp_left (List.mem_cons_of_mem _)
    · rename_i noComma
      have noComma : component.isLiteral "," = false := Bool.eq_false_iff.mpr noComma
      split at member
      · rename_i first groups found
        rw [found] at ih
        rcases List.mem_cons.mp member with rfl | inRest
        · intro own inGroup
          rcases List.mem_cons.mp inGroup with rfl | inFirst
          · exact ⟨List.mem_cons_self, noComma⟩
          · exact (ih List.mem_cons_self own inFirst).imp_left (List.mem_cons_of_mem _)
        · exact fun own inGroup =>
            (ih (List.mem_cons_of_mem _ inRest) own inGroup).imp_left (List.mem_cons_of_mem _)
      · rw [List.mem_singleton.mp member]
        intro own inGroup
        rw [List.mem_singleton.mp inGroup]
        exact ⟨List.mem_cons_self, noComma⟩

/-- Every item that is found among sound components is formed.
Witness: recursion on the size of the components, since a block is a part of them.
-/
theorem formed_itemsOf {closer : Option Bracket} {components : List Component} (top : Bool)
    (sound : Sound closer components)
    : Item.AllFormed closer (itemsOf top components) := by
  rw [itemsOf_eq, Item.allFormed_iff]
  intro item member
  obtain ⟨rule, inRules, gives⟩ := List.mem_filterMap.mp member
  have stands := stands_rules sound rule inRules
  cases rule with
  | style line prelude content =>
    obtain ⟨soundPrelude, noCurly, soundContent⟩ := stands
    simp only [Rule.item] at gives
    split at gives
    · cases gives
    · rename_i filled
      cases gives
      refine ⟨?_, fun group inGroups => ?_, formed_settingsOf soundContent⟩
      · rw [selectorTexts_eq, List.isEmpty_iff, List.map_eq_nil_iff] at filled
        exact filled
      · obtain ⟨inComma, notEmpty⟩ := List.mem_filter.mp inGroups
        have parts := subset_of_mem_commaGroups inComma
        exact ⟨soundPrelude.of_subset fun own inGroup => (parts own inGroup).1,
          fun own inGroup => noCurly own (parts own inGroup).1,
          fun own inGroup => (parts own inGroup).2, by simpa using notEmpty⟩
  | «at» line keyword prelude content =>
    obtain ⟨named, soundPrelude, noEnd, soundContent⟩ := stands
    have formed : PreludeFormed closer keyword prelude := ⟨named, soundPrelude, noEnd⟩
    cases content with
    | none =>
      cases gives
      exact ⟨formed, by simp⟩
    | some content =>
      have sound := soundContent content rfl
      simp only [Rule.item] at gives
      split at gives
      · rename_i rules
        cases gives
        exact ⟨formed, rules, formed_itemsOf false sound⟩
      · rename_i noRules
        have noRules : holdsRules keyword = false := Bool.eq_false_iff.mpr noRules
        split at gives
        · rename_i declarations
          cases gives
          have holds : holdsDeclarations keyword = true := by
            rw [holdsDeclarations, noRules, declarations]
            rfl
          exact ⟨formed, holds, formed_settingsOf sound⟩
        · rename_i noDeclarations
          cases gives
          refine ⟨formed, fun inner same => ?_⟩
          cases same
          have holds : holdsDeclarations keyword = false := by
            rw [holdsDeclarations, noRules, Bool.eq_false_iff.mpr noDeclarations]
            rfl
          exact ⟨sound, noRules, holds⟩
  | fault line reason => cases gives
termination_by sizeOf components
decreasing_by exact sizeOf_rules_content inRules rfl

end CriticalCss
