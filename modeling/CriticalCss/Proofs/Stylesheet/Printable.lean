import CriticalCss.Proofs.Selection.Pruning
import CriticalCss.Proofs.Stylesheet.Soundness
import CriticalCss.Proofs.Tidy.Passes
import CriticalCss.Stylesheet.Printer

/-! What can be printed. Printing refuses style rules without selectors, at-rules and declarations
without a name, blocks without content, and what is no rule or declaration. Nothing of that comes
from a text, and nothing of it is made by taking parts of a tree away as selection and tidying do.
-/

namespace CriticalCss

open Syntax

--------------------------------------------------------------------------------
-- Printing
--------------------------------------------------------------------------------

/-- Can the declaration be printed? -/
def Declaration.Printable : Declaration → Prop
  | .set property _ _ => property ≠ ""
  | .foreign _ => False

mutual
/-- Can the rule be printed? -/
def Node.Printable : Node → Prop
  | .style selectors declarations =>
    selectors ≠ [] ∧ ∀ declaration ∈ declarations, declaration.Printable
  | .verbatim name _ _ _ _ => name ≠ ""
  | .statement name _ _ => name ≠ ""
  | .declarationBlock name _ body =>
    name ≠ "" ∧ ∀ declaration ∈ body, declaration.Printable
  | .ruleBlock name _ body => name ≠ "" ∧ Stylesheet.Printable body
  | .hollow .. => False
  | .foreign _ => False

/-- Can the rules be printed? -/
def Stylesheet.Printable : List Node → Prop
  | [] => True
  | node :: rest => node.Printable ∧ Stylesheet.Printable rest
end

theorem Stylesheet.printable_append {left right : List Node}
    : Printable (left ++ right) ↔ Printable left ∧ Printable right := by
  induction left with
  | nil => simp [Printable]
  | cons node rest ih => simp [Printable, ih, and_assoc]

/-- Declarations that can be printed have their lines. -/
theorem exists_declarationLines (depth : Nat) {declarations : List Declaration}
    (printable : ∀ declaration ∈ declarations, declaration.Printable)
    : ∃ lines, declarationLines depth declarations = .ok lines := by
  induction declarations with
  | nil => exact ⟨[], rfl⟩
  | cons declaration rest ih =>
    obtain ⟨others, found⟩ := ih fun other member => printable other (List.mem_cons_of_mem _ member)
    have own := printable declaration List.mem_cons_self
    cases declaration with
    | foreign shown => exact own.elim
    | set property value important =>
      have named : property.isEmpty = false := by
        simpa [Declaration.Printable] using own
      unfold declarationLines at found ⊢
      simp [List.mapM_cons, Declaration.line, named, found, bind, Except.bind, pure, Except.pure]

/-- A rule without a block of rules that can be printed has its lines. -/
theorem Node.exists_lines_leaf {node : Node} (leaf : node.holdsRules = false)
    (printable : node.Printable) (depth : Nat)
    : ∃ lines, node.lines depth = .ok lines := by
  cases node with
  | ruleBlock => simp [Node.holdsRules] at leaf
  | hollow => exact printable.elim
  | foreign => exact printable.elim
  | style selectors declarations =>
    obtain ⟨body, found⟩ := exists_declarationLines (depth + 1) printable.2
    have filled : selectors.isEmpty = false := by simpa using printable.1
    exact ⟨_, by rw [Node.lines, filled, found]; rfl⟩
  | verbatim name prelude text kind unread =>
    have some : name.isEmpty = false := by simpa [Node.Printable] using printable
    exact ⟨_, by rw [Node.lines, named, some]; rfl⟩
  | statement name prelude unread =>
    have some : name.isEmpty = false := by simpa [Node.Printable] using printable
    exact ⟨_, by rw [Node.lines, named, some]; rfl⟩
  | declarationBlock name prelude body =>
    obtain ⟨body, found⟩ := exists_declarationLines (depth + 1) printable.2
    have some : name.isEmpty = false := by simpa using printable.1
    exact ⟨_, by rw [Node.lines, named, some, found]; rfl⟩

/-- Rules that can be printed have their lines, however deep they stand.
Witness: induction on the tree, whose blocks are printed one step deeper.
-/
theorem Stylesheet.exists_lines {sheet : List Node} (printable : Printable sheet) (depth : Nat)
    : ∃ lines, Stylesheet.lines depth sheet = .ok lines := by
  induction sheet using Stylesheet.induction generalizing depth with
  | nil => exact ⟨[], rfl⟩
  | block name prelude body rest inner later =>
    obtain ⟨⟨head, printableBody⟩, printableRest⟩ := printable
    obtain ⟨inside, foundInside⟩ := inner printableBody (depth + 1)
    obtain ⟨others, foundOthers⟩ := later printableRest depth
    have some : name.isEmpty = false := by simpa using head
    exact ⟨_, by rw [Stylesheet.lines, Node.lines, named, some, foundInside, foundOthers]; rfl⟩
  | leaf node rest leaf later =>
    obtain ⟨own, foundOwn⟩ := Node.exists_lines_leaf leaf printable.1 depth
    obtain ⟨others, foundOthers⟩ := later printable.2 depth
    exact ⟨_, by rw [Stylesheet.lines, foundOwn, foundOthers]; rfl⟩

/-- A sheet that can be printed is printed. -/
theorem Stylesheet.exists_print {sheet : Stylesheet} (printable : Printable sheet)
    : ∃ text, sheet.print = .ok text := by
  obtain ⟨lines, found⟩ := exists_lines printable 0
  exact ⟨_, by rw [Stylesheet.print, found]; rfl⟩

--------------------------------------------------------------------------------
-- Reading
--------------------------------------------------------------------------------

/-- What stands for a declaration in a text can be printed. -/
theorem Setting.Formed.printable {setting : Setting} (formed : setting.Formed)
    : setting.declaration.Printable := by
  intro empty
  exact (isName_propertyName formed.named).1 (by rw [empty]; rfl)

theorem printable_settings {settings : List Setting}
    (formed : ∀ setting ∈ settings, setting.Formed)
    : ∀ declaration ∈ settings.map Setting.declaration, declaration.Printable := by
  intro declaration member
  obtain ⟨setting, inSettings, rfl⟩ := List.mem_map.mp member
  exact (formed setting inSettings).printable

/-- The name of an at-rule is not empty in lower case either. -/
theorem ofList_lowerAscii_ne_empty {keyword : List Char} (named : IsName keyword)
    : String.ofList (lowerAscii keyword) ≠ "" := by
  intro empty
  have none := congrArg String.toList empty
  rw [String.toList_ofList] at none
  exact (isName_lowerAscii named).1 none

mutual
/-- The rule that a formed item stands for can be printed. -/
theorem Item.Formed.printable {closer : Option Bracket} {item : Item} (formed : item.Formed closer)
    : item.node.Printable := by
  match item with
  | .style selectors settings =>
    obtain ⟨filled, _, formedSettings⟩ := formed
    exact ⟨by simpa using filled, printable_settings formedSettings⟩
  | .verbatim keyword prelude content => exact ofList_lowerAscii_ne_empty formed.1.named
  | .declarationBlock keyword prelude settings =>
    exact ⟨ofList_lowerAscii_ne_empty formed.1.named, printable_settings formed.2.2⟩
  | .ruleBlock keyword prelude body =>
    exact ⟨ofList_lowerAscii_ne_empty formed.1.named, Item.AllFormed.printable formed.2.2⟩

/-- The rules that formed items stand for can be printed. -/
theorem Item.AllFormed.printable {closer : Option Bracket} {items : List Item}
    (formed : Item.AllFormed closer items)
    : Stylesheet.Printable (Item.nodes items) := by
  match items with
  | [] => trivial
  | item :: rest => exact ⟨Item.Formed.printable formed.1, Item.AllFormed.printable formed.2⟩
end

/-- A sheet that was read can be printed. -/
theorem Stylesheet.printable_read {css : String} {reading : Reading}
    (read : Stylesheet.read css = .ok reading)
    : Printable reading.sheet := by
  unfold Stylesheet.read at read
  split at read
  · cases read
  · rename_i short
    cases read
    rw [readRules_eq_nodes]
    exact (formed_itemsOf true (sound_ofText short)).printable

--------------------------------------------------------------------------------
-- Taking parts away
--------------------------------------------------------------------------------

namespace Stylesheet.Printable

variable {sheet : List Node}

/-- Cleaning leaves what can be printed. -/
theorem withoutEmpty (printable : Printable sheet) : Printable (Stylesheet.withoutEmpty sheet) := by
  induction sheet using Stylesheet.induction with
  | nil => trivial
  | block name prelude body rest inner later =>
    obtain ⟨⟨head, printableBody⟩, printableRest⟩ := printable
    rw [Stylesheet.withoutEmpty_cons, Node.withoutEmpty_ruleBlock, printable_append]
    refine ⟨?_, later printableRest⟩
    split
    · trivial
    · exact ⟨⟨head, inner printableBody⟩, trivial⟩
  | leaf node rest leaf later =>
    rw [Stylesheet.withoutEmpty_cons, printable_append]
    refine ⟨?_, later printable.2⟩
    rcases Node.withoutEmpty_leaf leaf with gone | kept
    · rw [gone]
      trivial
    · rw [kept]
      exact ⟨printable.1, trivial⟩

/-- Dropping declarations leaves what can be printed. -/
theorem dropDeclarations (test : Declaration → Bool) (printable : Printable sheet)
    : Printable (Stylesheet.dropDeclarations test sheet) := by
  have fewer {declarations : List Declaration}
      (all : ∀ declaration ∈ declarations, declaration.Printable)
      : ∀ declaration ∈ declarations.filter (!test ·), declaration.Printable :=
    fun declaration member => all declaration (List.mem_filter.mp member).1
  induction sheet using Stylesheet.induction with
  | nil => trivial
  | block name prelude body rest inner later =>
    obtain ⟨⟨head, printableBody⟩, printableRest⟩ := printable
    exact ⟨⟨head, inner printableBody⟩, later printableRest⟩
  | leaf node rest leaf later =>
    refine ⟨?_, later printable.2⟩
    cases node with
    | ruleBlock => simp [Node.holdsRules] at leaf
    | style selectors declarations => exact ⟨printable.1.1, fewer printable.1.2⟩
    | declarationBlock name prelude body => exact ⟨printable.1.1, fewer printable.1.2⟩
    | _ => exact printable.1

/-- Dropping at-rules leaves what can be printed. -/
theorem dropAtRules (test : Node → Bool) (printable : Printable sheet)
    : Printable (Stylesheet.dropAtRules test sheet) := by
  induction sheet using Stylesheet.induction with
  | nil => trivial
  | block name prelude body rest inner later =>
    obtain ⟨⟨head, printableBody⟩, printableRest⟩ := printable
    rw [Stylesheet.dropAtRules_cons, Node.dropAtRules, printable_append]
    refine ⟨?_, later printableRest⟩
    split
    · trivial
    · refine ⟨⟨head, ?_⟩, trivial⟩
      split
      · exact printableBody
      · exact inner printableBody
  | leaf node rest leaf later =>
    rw [Stylesheet.dropAtRules_cons, Node.dropAtRules_leaf test leaf, printable_append]
    refine ⟨?_, later printable.2⟩
    split
    · trivial
    · exact ⟨printable.1, trivial⟩

/-- Tidying leaves what can be printed. -/
theorem tidied (patterns : List Pattern) (limit : Int) (printable : Printable sheet)
    : Printable (Tidy.run patterns limit sheet).sheet := by
  have wanted : Printable (Tidy.removeUnwanted patterns sheet).sheet := by
    unfold Tidy.removeUnwanted
    split
    · exact printable
    · exact (printable.dropDeclarations _).withoutEmpty
  have small := (wanted.dropDeclarations (Tidy.isOversized limit)).withoutEmpty
  exact ((small.dropAtRules _).withoutEmpty.dropAtRules _).withoutEmpty

/-- Taking out the blocks that hold nothing leaves what can be printed. -/
theorem withoutBareBlocks (printable : Printable sheet)
    : Printable (Stylesheet.withoutBareBlocks sheet) := by
  induction sheet using Stylesheet.induction with
  | nil => trivial
  | block name prelude body rest inner later =>
    obtain ⟨⟨head, printableBody⟩, printableRest⟩ := printable
    rw [Stylesheet.withoutBareBlocks, Node.withoutBareBlocks, printable_append]
    refine ⟨?_, later printableRest⟩
    split
    · trivial
    · exact ⟨⟨head, inner printableBody⟩, trivial⟩
  | leaf node rest leaf later =>
    rw [Stylesheet.withoutBareBlocks, printable_append]
    refine ⟨?_, later printable.2⟩
    cases node with
    | ruleBlock => simp [Node.holdsRules] at leaf
    | _ => exact ⟨printable.1, trivial⟩

/-- Pruning leaves what can be printed. -/
theorem pruneNodes (scope : Selection.Scope) (keeps : List Declaration → String → Bool)
    (printable : Printable sheet)
    : Printable (Selection.pruneNodes scope keeps sheet) := by
  induction sheet using Stylesheet.induction with
  | nil => trivial
  | block name prelude body rest inner later =>
    obtain ⟨⟨head, printableBody⟩, printableRest⟩ := printable
    rw [Selection.pruneNodes, Selection.pruneNode, printable_append]
    refine ⟨?_, later printableRest⟩
    split
    · trivial
    · split
      · split
        · trivial
        · exact ⟨⟨head, inner printableBody⟩, trivial⟩
      · have bare : Printable (Stylesheet.withoutBareBlocks [.ruleBlock name prelude body]) :=
          withoutBareBlocks ⟨⟨head, printableBody⟩, trivial⟩
        simpa [Stylesheet.withoutBareBlocks] using bare
  | leaf node rest leaf later =>
    rw [Selection.pruneNodes, printable_append]
    refine ⟨?_, later printable.2⟩
    unfold Selection.pruneNode
    split
    · trivial
    · cases node with
      | ruleBlock => simp [Node.holdsRules] at leaf
      | style selectors declarations =>
        dsimp only
        split
        · trivial
        · rename_i filled
          exact ⟨⟨filled, printable.1.2⟩, trivial⟩
      | _ => exact ⟨printable.1, trivial⟩

end Stylesheet.Printable

end CriticalCss
