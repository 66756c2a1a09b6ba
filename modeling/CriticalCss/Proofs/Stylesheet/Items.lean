import CriticalCss.Proofs.Stylesheet.Lines

/-! Rules with the components that their texts come from. Reading goes through them: what is found
in the components of a sheet is a list of items, and every item stands for a rule of the tree.
-/

namespace CriticalCss

open Syntax

/-- A declaration, its value in components. -/
structure Setting where
  name : List Char
  value : List Component
  important : Bool

/-- A rule, its selectors, values and preludes in components. -/
inductive Item where
  | style (selectors : List (List Component)) (settings : List Setting)
  | verbatim (keyword : List Char) (prelude : List Component) (content : Option (List Component))
  | declarationBlock (keyword : List Char) (prelude : List Component) (settings : List Setting)
  | ruleBlock (keyword : List Char) (prelude : List Component) (body : List Item)

/-- The declaration that a setting stands for. -/
def Setting.declaration (setting : Setting) : Declaration :=
  .set (propertyName setting.name) (compactText setting.value) setting.important

mutual
/-- The rule that an item stands for. -/
def Item.node : Item → Node
  | .style selectors settings =>
    .style (selectors.map compactText) (settings.map Setting.declaration)
  | .verbatim keyword prelude content =>
    .verbatim (String.ofList (lowerAscii keyword)) (compactText prelude)
      (verbatimText keyword prelude content) .none .null
  | .declarationBlock keyword prelude settings =>
    .declarationBlock (String.ofList (lowerAscii keyword)) (compactText prelude)
      (settings.map Setting.declaration)
  | .ruleBlock keyword prelude body =>
    .ruleBlock (String.ofList (lowerAscii keyword)) (compactText prelude) (Item.nodes body)

/-- The rules that items stand for. -/
def Item.nodes : List Item → List Node
  | [] => []
  | item :: rest => item.node :: Item.nodes rest
end

theorem Item.nodes_eq_map (items : List Item) : Item.nodes items = items.map Item.node := by
  induction items with
  | nil => rfl
  | cons item rest ih => rw [Item.nodes, ih, List.map_cons]

--------------------------------------------------------------------------------
-- Finding items
--------------------------------------------------------------------------------

/-- The declarations among entries. -/
def settingsOf (found : List Entry) : List Setting :=
  found.filterMap fun entry =>
    match entry with
    | .declaration name value important => some ⟨name, value, important⟩
    | .at _ | .fault _ _ => none

/-- The groups of a prelude that are selectors. -/
def selectorGroups (prelude : List Component) : List (List Component) :=
  (commaGroups prelude).filter fun group => !(compactText group).isEmpty

/-- The items in a list of components. -/
def itemsOf (top : Bool) (components : List Component) : List Item :=
  (rules top components).attach.filterMap fun ⟨rule, inRules⟩ =>
    match rule, inRules with
    | .style _ prelude content, _ =>
      if (selectorTexts prelude).isEmpty then none
      else some (.style (selectorGroups prelude) (settingsOf (entries content)))
    | .at _ keyword prelude none, _ => some (.verbatim keyword prelude none)
    | .at _ keyword prelude (some content), _inRules =>
      let name := String.ofList (lowerAscii keyword)
      if ruleBlockNames.contains name || isKeyframes name then
        some (.ruleBlock keyword prelude (itemsOf false content))
      else if declarationBlockNames.contains name then
        some (.declarationBlock keyword prelude (settingsOf (entries content)))
      else some (.verbatim keyword prelude (some content))
    | .fault _ _, _ => none
termination_by sizeOf components
decreasing_by exact sizeOf_rules_content _inRules rfl

/-- The item that a rule gives, if any. -/
def Syntax.Rule.item : Syntax.Rule → Option Item
  | .style _ prelude content =>
    if (selectorTexts prelude).isEmpty then none
    else some (.style (selectorGroups prelude) (settingsOf (entries content)))
  | .at _ keyword prelude none => some (.verbatim keyword prelude none)
  | .at _ keyword prelude (some content) =>
    let name := String.ofList (lowerAscii keyword)
    if ruleBlockNames.contains name || isKeyframes name then
      some (.ruleBlock keyword prelude (itemsOf false content))
    else if declarationBlockNames.contains name then
      some (.declarationBlock keyword prelude (settingsOf (entries content)))
    else some (.verbatim keyword prelude (some content))
  | .fault _ _ => none

/-- Items are found rule by rule. -/
theorem itemsOf_eq (top : Bool) (components : List Component)
    : itemsOf top components = (rules top components).filterMap (·.item) := by
  rw [itemsOf]
  conv => rhs; rw [← List.attach_map_subtype_val (rules top components), List.filterMap_map]
  refine List.filterMap_congr fun ⟨rule, inRules⟩ _ => ?_
  cases rule with
  | style line prelude content => rfl
  | «at» line keyword prelude content => cases content <;> rfl
  | fault line reason => rfl

theorem readDeclarations_eq (found : List Entry)
    : (readDeclarations found).1 = (settingsOf found).map Setting.declaration := by
  induction found with
  | nil => rfl
  | cons entry rest ih =>
    cases entry with
    | declaration name value important =>
      show Declaration.set (propertyName name) (compactText value) important
          :: (readDeclarations rest).1 = _
      rw [ih]
      rfl
    | «at» line => exact ih
    | fault line reason => exact ih

theorem selectorTexts_eq (prelude : List Component)
    : selectorTexts prelude = (selectorGroups prelude).map compactText := by
  rw [selectorTexts, selectorGroups, List.filter_map]
  rfl

/-- Reading gives the rules that the items stand for.
Witness: recursion on the size of the components, since a block is a part of them.
-/
theorem readRules_eq_nodes (top : Bool) (components : List Component)
    : (readRules top components).1 = Item.nodes (itemsOf top components) := by
  rw [readRules_eq, itemsOf_eq, Item.nodes_eq_map, List.map_filterMap]
  refine List.filterMap_congr fun rule inRules => ?_
  cases rule with
  | style line prelude content =>
    simp only [Rule.reading, Rule.item]
    split
    · rfl
    · simp only [readDeclarations_eq, Option.map_some, Item.node, ← selectorTexts_eq]
  | «at» line keyword prelude content =>
    cases content with
    | none => rfl
    | some content =>
      simp only [Rule.reading, Rule.item, readRules_eq_nodes false content, readDeclarations_eq]
      split
      · rfl
      · split <;> rfl
  | fault line reason => rfl
termination_by sizeOf components
decreasing_by exact sizeOf_rules_content inRules rfl

end CriticalCss
