import CriticalCss.Proofs.Stylesheet.Soundness

/-! Whitespace side by side. A comment that is dropped can leave two pieces of whitespace next to
each other, which are one when they are read back. Inside brackets and in the content of a block
that is kept as it was written this changes no text.
-/

namespace CriticalCss

open Syntax

namespace Syntax

--------------------------------------------------------------------------------
-- Joining whitespace
--------------------------------------------------------------------------------

/-- Puts a component in front of others, whitespace in front of whitespace as one. -/
def consJoined : Component → List Component → List Component
  | .atom line (.whitespace text), .atom _ (.whitespace more) :: rest =>
    .atom line (.whitespace (text ++ more)) :: rest
  | component, rest => component :: rest

mutual
/-- The component with no whitespace side by side inside it. -/
def Component.joined : Component → Component
  | .atom line found => .atom line found
  | .block line bracket content => .block line bracket (joinedAll content)
  | .function line name arguments => .function line name (joinedAll arguments)

/-- The components with no whitespace side by side, inside them or among them. -/
def joinedAll : List Component → List Component
  | [] => []
  | component :: rest => consJoined component.joined (joinedAll rest)
end

theorem consJoined_cases (component : Component) (rest : List Component)
    : consJoined component rest = component :: rest
      ∨ ∃ line text own more others,
          component = .atom line (.whitespace text) ∧ rest = .atom own (.whitespace more) :: others
          ∧ consJoined component rest = .atom line (.whitespace (text ++ more)) :: others := by
  unfold consJoined
  split
  · exact Or.inr ⟨_, _, _, _, _, rfl, rfl, rfl⟩
  · exact Or.inl rfl

@[simp]
theorem isWhitespace_joined (component : Component)
    : component.joined.isWhitespace = component.isWhitespace := by
  cases component <;> rfl

@[simp]
theorem isLiteral_joined (component : Component) (text : String)
    : component.joined.isLiteral text = component.isLiteral text := by
  cases component <;> rfl

@[simp]
theorem isImportant_joined (component : Component)
    : component.joined.isImportant = component.isImportant := by
  cases component <;> rfl

@[simp]
theorem isCurly_joined (component : Component) : isCurly component.joined = isCurly component := by
  cases component with
  | atom line found => rfl
  | block line bracket content => cases bracket <;> rfl
  | function line name arguments => rfl

@[simp]
theorem endsAtRule_joined (component : Component)
    : endsAtRule component.joined = endsAtRule component := by
  simp [endsAtRule]

@[simp]
theorem kind_joined (component : Component) : component.joined.kind = component.kind := by
  cases component <;> rfl

theorem gapBetween_joined (left : Option Kind) (component : Component)
    : gapBetween left component.joined = gapBetween left component := by
  cases left with
  | none => rfl
  | some left => cases component <;> rfl

--------------------------------------------------------------------------------
-- Texts
--------------------------------------------------------------------------------

/-- Whitespace in front of whitespace is written as one. -/
theorem writeAfter_consJoined {component : Component}
    (filled : ∀ line, component ≠ .atom line (.whitespace [])) (left : Option Kind)
    (rest : List Component)
    : writeAfter left (consJoined component rest) = writeAfter left (component :: rest) := by
  rcases consJoined_cases component rest
    with same | ⟨line, text, own, more, others, rfl, rfl, joined⟩
  · rw [same]
  · have inert : Kind.isInert .whitespace :=
      ⟨fun right => by simp [runTogether, Kind.endsInName, Kind.isMark], by decide⟩
    have notEmpty : text ≠ [] := fun nothing => filled line (by rw [nothing])
    obtain ⟨c, blanks, rfl⟩ := List.exists_cons_of_ne_nil notEmpty
    have gap
        : gapBetween left (.atom line (.whitespace (c :: blanks ++ more)))
          = gapBetween left (.atom line (.whitespace (c :: blanks))) := by
      cases left with
      | none => rfl
      | some left => rw [gapBetween_whitespace, gapBetween_whitespace]; rfl
    have behind
        : writeAfter (some .whitespace) (.atom own (.whitespace more) :: others)
          = more ++ writeAfter (some .whitespace) others :=
      writeAfter_inert inert _
    rw [joined, writeAfter, gap]
    show gapBetween left _ ++ (c :: blanks ++ more) ++ writeAfter (some .whitespace) others
      = gapBetween left _ ++ (c :: blanks) ++ writeAfter (some .whitespace) _
    rw [behind]
    simp

theorem lastEndsInString_consJoined (component : Component) (rest : List Component)
    : lastEndsInString (consJoined component rest) = lastEndsInString (component :: rest) := by
  rcases consJoined_cases component rest
    with same | ⟨line, text, own, more, others, rfl, rfl, joined⟩
  · rw [same]
  · rw [joined]
    cases others <;> rfl

/-- Components whose tokens are well-formed. -/
def allFormed (components : List Component) : Prop :=
  ∀ token ∈ tokensOf components, token.WellFormed

theorem allFormed.head {component : Component} {rest : List Component}
    (formed : allFormed (component :: rest))
    : ∀ token ∈ component.tokens, token.WellFormed :=
  fun token member => formed token (List.mem_append_left _ member)

theorem allFormed.tail {component : Component} {rest : List Component}
    (formed : allFormed (component :: rest))
    : allFormed rest :=
  fun token member => formed token (List.mem_append_right _ member)

theorem filled_of_formed {component : Component}
    (formed : ∀ token ∈ component.tokens, token.WellFormed)
    : ∀ line, component.joined ≠ .atom line (.whitespace []) := by
  intro line same
  cases component with
  | atom own found =>
    cases same
    exact (formed (.atom (.whitespace [])) List.mem_cons_self).1 rfl
  | block own bracket content => cases same
  | function own name arguments => cases same

mutual
theorem endsInString_joined (component : Component)
    : endsInString component.joined = endsInString component := by
  match component with
  | .atom line found => rfl
  | .block line bracket content => rfl
  | .function line name arguments => exact lastEndsInString_joinedAll arguments

theorem lastEndsInString_joinedAll (components : List Component)
    : lastEndsInString (joinedAll components) = lastEndsInString components := by
  match components with
  | [] => rfl
  | [last] =>
    rw [joinedAll, lastEndsInString_consJoined]
    exact endsInString_joined last
  | first :: second :: rest =>
    have later := lastEndsInString_joinedAll (second :: rest)
    rw [joinedAll, lastEndsInString_consJoined]
    rcases consJoined_cases second.joined (joinedAll rest) with same | ⟨_, _, _, _, _, _, _, same⟩
    all_goals
      rw [joinedAll, same] at later ⊢
      exact later
end

mutual
/-- Joining whitespace inside a component leaves its text. -/
theorem writeComponent_joined (component : Component)
    (formed : ∀ token ∈ component.tokens, token.WellFormed)
    : writeComponent component.joined = writeComponent component := by
  match component with
  | .atom line found => rfl
  | .block line bracket content =>
    have inside : allFormed content := fun token member =>
      formed token (List.mem_cons_of_mem _ (List.mem_append_left _ member))
    rw [Component.joined, writeComponent, writeComponent, writeAfter_joinedAll none content inside]
  | .function line name arguments =>
    have inside : allFormed arguments := fun token member =>
      formed token (List.mem_cons_of_mem _ (List.mem_append_left _ member))
    rw [Component.joined, writeComponent, writeComponent, writeAfter_joinedAll none arguments inside,
      lastEndsInString_joinedAll]

/-- Joining whitespace leaves the text of components. -/
theorem writeAfter_joinedAll (left : Option Kind) (components : List Component)
    (formed : allFormed components)
    : writeAfter left (joinedAll components) = writeAfter left components := by
  match components with
  | [] => rfl
  | component :: rest =>
    rw [joinedAll, writeAfter_consJoined (filled_of_formed formed.head), writeAfter, writeAfter,
      gapBetween_joined, kind_joined, writeComponent_joined component formed.head,
      writeAfter_joinedAll component.kind rest formed.tail]
end

/-- Joining whitespace inside components leaves their text. -/
theorem writeAfter_map_joined (left : Option Kind) {components : List Component}
    (formed : allFormed components)
    : writeAfter left (components.map Component.joined) = writeAfter left components := by
  induction components generalizing left with
  | nil => rfl
  | cons component rest ih =>
    rw [List.map_cons, writeAfter, writeAfter, gapBetween_joined, kind_joined,
      writeComponent_joined component formed.head, ih _ formed.tail]

--------------------------------------------------------------------------------
-- Soundness
--------------------------------------------------------------------------------

section Sound

variable {closer : Option Bracket}

theorem sound_function {line : Nat} {name : List Char} {arguments : List Component}
    (named : IsName name) (sound : Sound (some .round) arguments)
    : Sound closer [.function line name arguments] := by
  constructor
  · intro token member
    simp only [tokensOf, Component.tokens, List.append_nil, List.mem_cons, List.mem_append,
      List.not_mem_nil, or_false] at member
    rcases member with rfl | inside | rfl
    · exact ⟨named, rfl⟩
    · exact sound.tokens token inside
    · exact ⟨trivial, rfl⟩
  · rw [allOpenIn, Component.isOpenIn, sound.openIn]
    rfl

/-- Joined whitespace is sound. -/
theorem Sound.consJoined {component : Component} {rest : List Component}
    (first : Sound closer [component]) (others : Sound closer rest)
    : Sound closer (consJoined component rest) := by
  rcases consJoined_cases component rest
    with same | ⟨line, text, own, more, behind, rfl, rfl, joined⟩
  · rw [same]
    exact first.cons others
  · obtain ⟨filled, blanks⟩ := (first.tokens (.atom (.whitespace text)) List.mem_cons_self).formed
    have after := (others.tokens (.atom (.whitespace more)) List.mem_cons_self).formed.2
    have whole : (Token.atom (.whitespace (text ++ more))).WellFormed := by
      refine ⟨by simp [filled], fun c member => ?_⟩
      exact (List.mem_append.mp member).elim (blanks c) (after c)
    rw [joined]
    exact (sound_atom whole rfl).cons (others.of_subset fun _ => List.mem_cons_of_mem _)

theorem Sound.formed {components : List Component} (sound : Sound closer components)
    : allFormed components :=
  fun token member => (sound.tokens token member).formed

mutual
theorem sound_joined (component : Component) {closer : Option Bracket}
    (sound : Sound closer [component])
    : Sound closer [component.joined] := by
  match component with
  | .atom line found => exact sound
  | .block line bracket content =>
    exact sound_block (sound_joinedAll content (sound.content List.mem_cons_self))
  | .function line name arguments =>
    have named := (sound.tokens (.function name) List.mem_cons_self).formed
    exact sound_function named (sound_joinedAll arguments (sound.arguments List.mem_cons_self))

/-- Sound components stay sound when whitespace among them is joined. -/
theorem sound_joinedAll (components : List Component) {closer : Option Bracket}
    (sound : Sound closer components)
    : Sound closer (joinedAll components) := by
  match components with
  | [] => exact sound
  | component :: rest =>
    have first : Sound closer [component] := sound.of_subset (by simp)
    have others : Sound closer rest := sound.of_subset fun _ => List.mem_cons_of_mem _
    exact (sound_joined component first).consJoined (sound_joinedAll rest others)
end

theorem sound_map_joined {components : List Component} (sound : Sound closer components)
    : Sound closer (components.map Component.joined) := by
  induction components with
  | nil => exact sound
  | cons component rest ih =>
    have first : Sound closer [component] := sound.of_subset (by simp)
    have others : Sound closer rest := sound.of_subset fun _ => List.mem_cons_of_mem _
    exact (sound_joined component first).cons (ih others)

end Sound

end Syntax

--------------------------------------------------------------------------------
-- Items
--------------------------------------------------------------------------------

theorem unifySpaces_map_joined (components : List Component)
    : unifySpaces (components.map Component.joined)
      = (unifySpaces components).map Component.joined := by
  simp only [unifySpaces, List.map_map]
  refine List.map_congr_left fun component _ => ?_
  cases component with
  | atom line found => cases found <;> rfl
  | block line bracket content => rfl
  | function line name arguments => rfl

/-- Joining whitespace inside brackets leaves the text of a selector, a value or a prelude. -/
theorem compactText_map_joined {closer : Option Bracket} {components : List Component}
    (sound : Sound closer components)
    : compactText (components.map Component.joined) = compactText components := by
  rw [compactText, compactText, unifySpaces_map_joined, writeAll,
    writeAfter_map_joined none (sound_unifySpaces sound).formed]
  rfl

/-- The declaration with no whitespace side by side inside brackets. -/
def Setting.joined (setting : Setting) : Setting :=
  { setting with value := setting.value.map Component.joined }

theorem step_joined (scan : ValueScan) (component : Component)
    : scan.step component.joined = scan.step component := by
  simp only [ValueScan.step_eq, ValueScan.pass, isLiteral_joined, isImportant_joined,
    isWhitespace_joined, isCurly_joined]

theorem scanValue_map_joined (value : List Component)
    : scanValue (value.map Component.joined) = scanValue value := by
  rw [scanValue, scanValue, List.foldl_map]
  simp only [step_joined]

/-- A test that joining whitespace does not change holds nowhere in the joined components either. -/
theorem map_joined_of_test {test : Component → Bool} {components : List Component}
    (blind : ∀ component, test component.joined = test component)
    (all : ∀ component ∈ components, test component = false)
    : ∀ component ∈ components.map Component.joined, test component = false := by
  intro component member
  obtain ⟨own, inside, rfl⟩ := List.mem_map.mp member
  rw [blind]
  exact all own inside

theorem Setting.Formed.joined {setting : Setting} (formed : setting.Formed)
    : setting.joined.Formed := by
  refine ⟨formed.named, sound_map_joined formed.sound,
    map_joined_of_test (isLiteral_joined · ";") formed.noEnd, ?_, ?_, ?_⟩
  · rw [Setting.joined, scanValue_map_joined]
    exact formed.noBlock
  · rw [Setting.joined, scanValue_map_joined]
    exact formed.unmarked
  · rw [Setting.joined, scanValue_map_joined]
    exact formed.beforeMark

theorem declaration_joined {setting : Setting} (formed : setting.Formed)
    : setting.joined.declaration = setting.declaration := by
  rw [Setting.declaration, Setting.declaration, Setting.joined, compactText_map_joined formed.sound]

mutual
/-- The item with no whitespace side by side where its text does not show it. -/
def Item.joined : Item → Item
  | .style selectors settings =>
    .style (selectors.map (·.map Component.joined)) (settings.map Setting.joined)
  | .verbatim keyword prelude content =>
    .verbatim keyword (joinedAll prelude) (content.map joinedAll)
  | .declarationBlock keyword prelude settings =>
    .declarationBlock keyword (prelude.map Component.joined) (settings.map Setting.joined)
  | .ruleBlock keyword prelude body =>
    .ruleBlock keyword (prelude.map Component.joined) (Item.allJoined body)

/-- The items with no whitespace side by side where their text does not show it. -/
def Item.allJoined : List Item → List Item
  | [] => []
  | item :: rest => item.joined :: Item.allJoined rest
end

mutual
/-- Is the prelude of every at-rule that is kept as it was written the same text with its whitespace
joined? -/
def Item.keepsPrelude : Item → Bool
  | .verbatim _ prelude _ => compactText (joinedAll prelude) == compactText prelude
  | .style _ _ | .declarationBlock _ _ _ => true
  | .ruleBlock _ _ body => Item.allKeepPrelude body

/-- Is the prelude of every at-rule that is kept as it was written the same text with its whitespace
joined? -/
def Item.allKeepPrelude : List Item → Bool
  | [] => true
  | item :: rest => item.keepsPrelude && Item.allKeepPrelude rest
end

theorem mem_joinedAll {components : List Component} {component : Component}
    (member : component ∈ joinedAll components)
    : component.isWhitespace = true ∨ ∃ own ∈ components, component = own.joined := by
  induction components with
  | nil => cases member
  | cons first rest ih =>
    have later (inRest : component ∈ joinedAll rest)
        : component.isWhitespace = true ∨ ∃ own ∈ first :: rest, component = own.joined := by
      refine (ih inRest).imp_right ?_
      rintro ⟨own, listed, same⟩
      exact ⟨own, List.mem_cons_of_mem _ listed, same⟩
    rw [joinedAll] at member
    rcases consJoined_cases first.joined (joinedAll rest)
      with same | ⟨_, _, _, _, others, _, behind, same⟩
    · rw [same] at member
      rcases List.mem_cons.mp member with rfl | inRest
      · exact Or.inr ⟨first, List.mem_cons_self, rfl⟩
      · exact later inRest
    · rw [same] at member
      rcases List.mem_cons.mp member with rfl | inOthers
      · exact Or.inl rfl
      · exact later (behind ▸ List.mem_cons_of_mem _ inOthers)

theorem SelectorFormed.joined {closer : Option Bracket} {group : List Component}
    (formed : SelectorFormed closer group)
    : SelectorFormed closer (group.map Component.joined) :=
  ⟨sound_map_joined formed.sound, map_joined_of_test isCurly_joined formed.noCurly,
    map_joined_of_test (isLiteral_joined · ",") formed.noComma,
    by rw [compactText_map_joined formed.sound]; exact formed.filled⟩

theorem PreludeFormed.joined {closer : Option Bracket} {keyword : List Char}
    {prelude : List Component} (formed : PreludeFormed closer keyword prelude)
    : PreludeFormed closer keyword (prelude.map Component.joined) :=
  ⟨formed.named, sound_map_joined formed.sound, map_joined_of_test endsAtRule_joined formed.noEnd⟩

theorem PreludeFormed.joinedAll {closer : Option Bracket} {keyword : List Char}
    {prelude : List Component} (formed : PreludeFormed closer keyword prelude)
    : PreludeFormed closer keyword (joinedAll prelude) := by
  refine ⟨formed.named, sound_joinedAll prelude formed.sound, fun component member => ?_⟩
  rcases mem_joinedAll member with space | ⟨own, inside, rfl⟩
  · exact endsAtRule_of_isWhitespace space
  · rw [endsAtRule_joined]
    exact formed.noEnd own inside

theorem formed_map_joined {settings : List Setting}
    (formed : ∀ setting ∈ settings, setting.Formed)
    : ∀ setting ∈ settings.map Setting.joined, setting.Formed := by
  intro setting member
  obtain ⟨own, listed, rfl⟩ := List.mem_map.mp member
  exact (formed own listed).joined

theorem declarations_map_joined {settings : List Setting}
    (formed : ∀ setting ∈ settings, setting.Formed)
    : (settings.map Setting.joined).map Setting.declaration = settings.map Setting.declaration := by
  rw [List.map_map]
  exact List.map_congr_left fun setting listed => declaration_joined (formed setting listed)

mutual
/-- Joining whitespace leaves an item as it is found. -/
theorem formed_joined (item : Item) {closer : Option Bracket} (formed : item.Formed closer)
    : item.joined.Formed closer := by
  match item with
  | .style selectors settings =>
    obtain ⟨filled, formedSelectors, formedSettings⟩ := formed
    refine ⟨by simpa using filled, fun group member => ?_, formed_map_joined formedSettings⟩
    obtain ⟨own, listed, rfl⟩ := List.mem_map.mp member
    exact (formedSelectors own listed).joined
  | .verbatim keyword prelude content =>
    refine ⟨formed.1.joinedAll, fun inner member => ?_⟩
    cases content with
    | none => cases member
    | some own =>
      cases member
      obtain ⟨sound, names⟩ := formed.2 own rfl
      exact ⟨sound_joinedAll own sound, names⟩
  | .declarationBlock keyword prelude settings =>
    exact ⟨formed.1.joined, formed.2.1, formed_map_joined formed.2.2⟩
  | .ruleBlock keyword prelude body =>
    exact ⟨formed.1.joined, formed.2.1, formed_allJoined body formed.2.2⟩

theorem formed_allJoined (items : List Item) {closer : Option Bracket}
    (formed : Item.AllFormed closer items)
    : Item.AllFormed closer (Item.allJoined items) := by
  match items with
  | [] => trivial
  | item :: rest => exact ⟨formed_joined item formed.1, formed_allJoined rest formed.2⟩
end

theorem verbatimText_joined (keyword : List Char) {prelude : List Component}
    {content : Option (List Component)} {closer : Option Bracket} (sound : Sound closer prelude)
    (inside : ∀ inner ∈ content, Sound (some .curly) inner)
    : verbatimText keyword (joinedAll prelude) (content.map joinedAll)
      = verbatimText keyword prelude content := by
  have before : writeAll (joinedAll prelude) = writeAll prelude :=
    writeAfter_joinedAll none prelude sound.formed
  cases content with
  | none => simp only [verbatimText, Option.map_none, before]
  | some content =>
    have within : writeAll (joinedAll content) = writeAll content :=
      writeAfter_joinedAll none content (inside content rfl).formed
    simp only [verbatimText, Option.map_some, before, within]

mutual
/-- Joining whitespace leaves the rule that an item stands for. -/
theorem node_joined (item : Item) {closer : Option Bracket} (formed : item.Formed closer)
    (keeps : item.keepsPrelude = true)
    : item.joined.node = item.node := by
  match item with
  | .style selectors settings =>
    obtain ⟨-, formedSelectors, formedSettings⟩ := formed
    have texts
        : (selectors.map (·.map Component.joined)).map compactText = selectors.map compactText := by
      rw [List.map_map]
      exact List.map_congr_left fun group listed =>
        compactText_map_joined (formedSelectors group listed).sound
    rw [Item.joined, Item.node, Item.node, texts, declarations_map_joined formedSettings]
  | .verbatim keyword prelude content =>
    have head : compactText (joinedAll prelude) = compactText prelude := beq_iff_eq.mp keeps
    have text := verbatimText_joined keyword formed.1.sound
      fun inner member => (formed.2 inner member).1
    rw [Item.joined, Item.node, Item.node, head, text]
  | .declarationBlock keyword prelude settings =>
    rw [Item.joined, Item.node, Item.node, compactText_map_joined formed.1.sound,
      declarations_map_joined formed.2.2]
  | .ruleBlock keyword prelude body =>
    rw [Item.joined, Item.node, Item.node, compactText_map_joined formed.1.sound,
      nodes_allJoined body formed.2.2 keeps]

/-- Joining whitespace leaves the rules that items stand for. -/
theorem nodes_allJoined (items : List Item) {closer : Option Bracket}
    (formed : Item.AllFormed closer items) (keeps : Item.allKeepPrelude items = true)
    : Item.nodes (Item.allJoined items) = Item.nodes items := by
  match items with
  | [] => rfl
  | item :: rest =>
    rw [Item.allKeepPrelude, Bool.and_eq_true] at keeps
    rw [Item.allJoined, Item.nodes, Item.nodes, node_joined item formed.1 keeps.1,
      nodes_allJoined rest formed.2 keeps.2]
end

end CriticalCss
