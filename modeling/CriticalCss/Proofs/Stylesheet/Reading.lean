import CriticalCss.Proofs.Stylesheet.Cleanup
import CriticalCss.Stylesheet.Reader

/-! What reading gives. A tree that comes from a text has none of the things that only a caller can
put into one: its style rules have selectors, its blocks have content, and every rule in it is a
rule of a kind that reading knows.
-/

namespace CriticalCss

open Syntax

/-- What reading one rule gives, if anything, and the events of it. -/
def Syntax.Rule.reading : Syntax.Rule → Option Node × List Event
  | .style line prelude content =>
    if (selectorTexts prelude).isEmpty then (none, [.ruleWithoutSelector line])
    else
      (some (.style (selectorTexts prelude) (readDeclarations (entries content)).1),
        (readDeclarations (entries content)).2)
  | .at _ keyword prelude none =>
    (some (.verbatim (String.ofList (lowerAscii keyword)) (compactText prelude)
      (verbatimText keyword prelude none) .none .null), [])
  | .at _ keyword prelude (some content) =>
    let name := String.ofList (lowerAscii keyword)
    if ruleBlockNames.contains name || isKeyframes name then
      (some (.ruleBlock name (compactText prelude) (readRules false content).1),
        (readRules false content).2)
    else if declarationBlockNames.contains name then
      (some (.declarationBlock name (compactText prelude) (readDeclarations (entries content)).1),
        (readDeclarations (entries content)).2)
    else
      (some (.verbatim name (compactText prelude) (verbatimText keyword prelude (some content))
        .none .null), [])
  | .fault line reason => (none, [.ruleFault line reason.message])

/-- Rules are read one by one. -/
theorem readRules_eq (top : Bool) (components : List Component)
    : readRules top components
      = ((rules top components).filterMap (·.reading.1),
          (rules top components).flatMap (·.reading.2)) := by
  rw [readRules]
  have pointwise {pick : {rule // rule ∈ rules top components} → Option Node × List Event}
      (same : ∀ rule, pick rule = rule.1.reading)
      : (rules top components).attach.map pick = (rules top components).map (·.reading) := by
    conv => rhs; rw [← List.attach_map_subtype_val (rules top components), List.map_map]
    exact List.map_congr_left fun rule _ => same rule
  rw [pointwise]
  · rw [List.filterMap_map, List.flatMap_map]
    rfl
  · rintro ⟨rule, member⟩
    cases rule with
    | style line prelude content => simp only [Rule.reading]
    | «at» line keyword prelude content =>
      cases content with
      | none => rfl
      | some content => simp only [Rule.reading]
    | fault line fault => rfl

mutual
/-- Is the rule one that a text can give? -/
def Node.Textual : Node → Prop
  | .style selectors _ => selectors ≠ []
  | .verbatim _ _ _ kind unread => kind = .none ∧ unread = .null
  | .declarationBlock name _ _ => name ∈ declarationBlockNames
  | .ruleBlock name _ body =>
    (name ∈ ruleBlockNames ∨ isKeyframes name = true) ∧ Stylesheet.Textual body
  | .statement .. | .hollow .. | .foreign _ => False

/-- Is every rule one that a text can give? -/
def Stylesheet.Textual : List Node → Prop
  | [] => True
  | node :: rest => node.Textual ∧ Stylesheet.Textual rest
end

theorem Stylesheet.textual_iff {sheet : List Node}
    : Stylesheet.Textual sheet ↔ ∀ node ∈ sheet, node.Textual := by
  induction sheet with
  | nil => simp [Stylesheet.Textual]
  | cons node rest ih => simp [Stylesheet.Textual, ih]

/-- Reading gives only what a text can give.
Witness: recursion on the size of the text's components, since a block is a part of them.
-/
theorem textual_readRules (top : Bool) (components : List Component)
    : Stylesheet.Textual (readRules top components).1 := by
  rw [readRules_eq, Stylesheet.textual_iff]
  intro node member
  obtain ⟨rule, inRules, gives⟩ := List.mem_filterMap.mp member
  cases rule with
  | style line prelude content =>
    simp only [Rule.reading] at gives
    split at gives
    · cases gives
    · rename_i filled
      cases gives
      simpa [Node.Textual] using filled
  | «at» line keyword prelude content =>
    cases content with
    | none =>
      cases gives
      exact ⟨rfl, rfl⟩
    | some content =>
      simp only [Rule.reading] at gives
      split at gives
      · rename_i holdsRules
        cases gives
        exact ⟨by simpa using holdsRules, textual_readRules false content⟩
      · split at gives
        · rename_i holdsDeclarations
          cases gives
          simpa [Node.Textual] using holdsDeclarations
        · cases gives
          exact ⟨rfl, rfl⟩
  | fault line fault => cases gives
termination_by sizeOf components
decreasing_by exact sizeOf_rules_content inRules rfl

/-- A sheet that was read is one that a text can give. -/
theorem Stylesheet.textual_read {css : String} {reading : Reading}
    (read : Stylesheet.read css = .ok reading)
    : Stylesheet.Textual reading.sheet := by
  unfold Stylesheet.read at read
  split at read
  · cases read
  · cases read
    exact textual_readRules true _

--------------------------------------------------------------------------------
-- Comparing trees
--------------------------------------------------------------------------------

mutual
/-- Are two rules that a text can give the same? -/
def Node.same : Node → Node → Bool
  | .style selectors declarations, .style selectors' declarations' =>
    selectors == selectors' && declarations == declarations'
  | .verbatim name prelude text .none .null, .verbatim name' prelude' text' .none .null =>
    name == name' && prelude == prelude' && text == text'
  | .declarationBlock name prelude body, .declarationBlock name' prelude' body' =>
    name == name' && prelude == prelude' && body == body'
  | .ruleBlock name prelude body, .ruleBlock name' prelude' body' =>
    name == name' && prelude == prelude' && Stylesheet.same body body'
  | _, _ => false

/-- Are two trees that a text can give the same? -/
def Stylesheet.same : List Node → List Node → Bool
  | [], [] => true
  | node :: rest, node' :: rest' => node.same node' && Stylesheet.same rest rest'
  | _, _ => false
end

mutual
theorem Node.eq_of_same {node other : Node} (same : node.same other = true) : node = other := by
  unfold Node.same at same
  split at same
  · simpa using same
  · simpa [and_assoc] using same
  · simpa [and_assoc] using same
  · rename_i name prelude body name' prelude' body'
    simp only [Bool.and_eq_true, beq_iff_eq] at same
    obtain ⟨⟨rfl, rfl⟩, within⟩ := same
    rw [Stylesheet.eq_of_same within]
  · cases same

theorem Stylesheet.eq_of_same {sheet other : List Node} (same : Stylesheet.same sheet other = true)
    : sheet = other := by
  unfold Stylesheet.same at same
  split at same
  · rfl
  · rw [Bool.and_eq_true] at same
    rw [Node.eq_of_same same.1, Stylesheet.eq_of_same same.2]
  · cases same
end

/-- Does reading give the tree, without any events? -/
def Stylesheet.reads (css : String) (sheet : Stylesheet) : Bool :=
  match Stylesheet.read css with
  | .ok reading => Stylesheet.same reading.sheet sheet && reading.events.isEmpty
  | .error _ => false

theorem Stylesheet.read_of_reads {css : String} {sheet : Stylesheet}
    (reads : Stylesheet.reads css sheet = true)
    : Stylesheet.read css = .ok ⟨sheet, []⟩ := by
  unfold Stylesheet.reads at reads
  split at reads
  · rename_i reading read
    rw [Bool.and_eq_true, List.isEmpty_iff] at reads
    rw [read, ← Stylesheet.eq_of_same reads.1, ← reads.2]
  · cases reads

end CriticalCss
