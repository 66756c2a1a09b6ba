import CriticalCss.Stylesheet.Cleanup

/-! Cleaning a tree of rules leaves nothing empty in it and keeps what its declarations say. One
induction principle serves every function that goes through rules and the rules in their blocks. A
cleaned tree has no empty rule at any depth, and of the rules that hold no rules just those that
were not empty, each where it was; a tree whose style rules all have selectors loses nothing but
emptiness.
-/

namespace CriticalCss

--------------------------------------------------------------------------------
-- Induction over trees of rules
--------------------------------------------------------------------------------

/-- Does the rule have a block of rules? -/
def Node.holdsRules : Node → Bool
  | .ruleBlock .. => true
  | _ => false

/-- A statement about lists of rules holds for all of them if it holds for the empty one, passes
from a block and what follows it to both together, and passes over every other rule.
Witness: recursion on the size, since the body of a block is a part of the list.
-/
theorem Stylesheet.induction {motive : List Node → Prop} (nil : motive [])
    (block
      : ∀ name prelude body rest,
          motive body → motive rest → motive (.ruleBlock name prelude body :: rest))
    (leaf : ∀ node rest, node.holdsRules = false → motive rest → motive (node :: rest))
    (sheet : List Node)
    : motive sheet := by
  match sheet with
  | [] => exact nil
  | node :: rest =>
    have later := Stylesheet.induction nil block leaf rest
    cases node with
    | ruleBlock name prelude body =>
      exact block name prelude body rest (Stylesheet.induction nil block leaf body) later
    | _ => exact leaf _ rest rfl later
termination_by sizeOf sheet

--------------------------------------------------------------------------------
-- Rules in their places
--------------------------------------------------------------------------------

/-- A rule at some depth of a tree, and name and prelude of each block around it from the outermost
one on. -/
structure Placed where
  around : List (String × String)
  node : Node

/-- The rule with a further block around all others. -/
def Placed.under (name prelude : String) (item : Placed) : Placed :=
  ⟨(name, prelude) :: item.around, item.node⟩

mutual
/-- The rule and the rules in it at any depth. What was never read is not gone into. -/
def Node.placed : Node → List Placed
  | .ruleBlock name prelude body =>
    ⟨[], .ruleBlock name prelude body⟩ :: (Stylesheet.placed body).map (.under name prelude)
  | node => [⟨[], node⟩]

/-- The rules of a tree at any depth, each in front of those in it. -/
def Stylesheet.placed : List Node → List Placed
  | [] => []
  | node :: rest => node.placed ++ Stylesheet.placed rest
end

/-- Does the rule say nothing? That is so for a style rule without selectors or without declarations
and for a block that holds nothing or has no content at all. -/
def Node.isEmpty : Node → Bool
  | .style selectors declarations => selectors.isEmpty || declarations.isEmpty
  | .declarationBlock _ _ body => body.isEmpty
  | .ruleBlock _ _ body => body.isEmpty
  | .hollow .. => true
  | .verbatim .. | .statement .. | .foreign _ => false

/-- Is no rule of the tree empty, at any depth? -/
def Stylesheet.IsClean (sheet : List Node) : Prop :=
  ∀ item ∈ Stylesheet.placed sheet, item.node.isEmpty = false

theorem Node.placed_leaf {node : Node} (leaf : node.holdsRules = false)
    : node.placed = [⟨[], node⟩] := by
  cases node with
  | ruleBlock => simp [Node.holdsRules] at leaf
  | _ => rfl

theorem Stylesheet.placed_append (left right : List Node)
    : Stylesheet.placed (left ++ right)
      = Stylesheet.placed left ++ Stylesheet.placed right := by
  induction left with
  | nil => rfl
  | cons node rest ih => rw [List.cons_append, placed, placed, ih, List.append_assoc]

--------------------------------------------------------------------------------
-- Nothing empty is left
--------------------------------------------------------------------------------

/-- The rules after a first one are cleaned on their own. -/
theorem Stylesheet.withoutEmpty_cons (node : Node) (rest : List Node)
    : Stylesheet.withoutEmpty (node :: rest)
      = node.withoutEmpty.toList ++ Stylesheet.withoutEmpty rest := by
  cases h : node.withoutEmpty <;> simp [Stylesheet.withoutEmpty, h]

/-- A block is kept exactly if something in it is. -/
theorem Node.withoutEmpty_ruleBlock (name prelude : String) (body : List Node)
    : (Node.ruleBlock name prelude body).withoutEmpty
      = if Stylesheet.withoutEmpty body = [] then none
        else some (.ruleBlock name prelude (Stylesheet.withoutEmpty body)) := by
  simp [Node.withoutEmpty]

/-- A style rule is kept exactly if it has selectors and declarations. -/
theorem Node.withoutEmpty_style (selectors : List String) (declarations : List Declaration)
    : (Node.style selectors declarations).withoutEmpty
      = if selectors = [] ∨ declarations = [] then none
        else some (.style selectors declarations) := by
  simp [Node.withoutEmpty]

/-- A block of declarations is kept exactly if it has some. -/
theorem Node.withoutEmpty_declarationBlock (name prelude : String) (body : List Declaration)
    : (Node.declarationBlock name prelude body).withoutEmpty
      = if body = [] then none else some (.declarationBlock name prelude body) := by
  simp [Node.withoutEmpty]

/-- A rule without a block of rules is taken exactly if it is empty. -/
theorem Node.withoutEmpty_eq_of_leaf {node : Node} (leaf : node.holdsRules = false)
    : node.withoutEmpty = if node.isEmpty then none else some node := by
  cases node with
  | ruleBlock => simp [Node.holdsRules] at leaf
  | _ => rfl

/-- A rule without a block of rules is kept as it is or not at all. -/
theorem Node.withoutEmpty_leaf {node : Node} (leaf : node.holdsRules = false)
    : node.withoutEmpty = none ∨ node.withoutEmpty = some node := by
  rw [Node.withoutEmpty_eq_of_leaf leaf]
  split
  · exact Or.inl rfl
  · exact Or.inr rfl

/-- A block is clean if something is in it and all of it is clean. -/
theorem Stylesheet.isClean_block (name prelude : String) (body rest : List Node)
    : Stylesheet.IsClean (.ruleBlock name prelude body :: rest)
      ↔ body ≠ [] ∧ Stylesheet.IsClean body ∧ Stylesheet.IsClean rest := by
  simp only [Stylesheet.IsClean, Stylesheet.placed, Node.placed, List.cons_append,
    List.forall_mem_cons, List.forall_mem_append, List.forall_mem_map, Placed.under, Node.isEmpty]
  simp

theorem Stylesheet.isClean_leaf {node : Node} (leaf : node.holdsRules = false) (rest : List Node)
    : Stylesheet.IsClean (node :: rest) ↔ node.isEmpty = false ∧ Stylesheet.IsClean rest := by
  simp only [Stylesheet.IsClean, Stylesheet.placed, Node.placed_leaf leaf, List.singleton_append,
    List.forall_mem_cons]

/-- A cleaned tree is clean. -/
theorem Stylesheet.isClean_withoutEmpty (sheet : List Node)
    : Stylesheet.IsClean (Stylesheet.withoutEmpty sheet) := by
  induction sheet using Stylesheet.induction with
  | nil => exact List.forall_mem_nil _
  | block name prelude body rest inner later =>
    rw [Stylesheet.withoutEmpty_cons, Node.withoutEmpty_ruleBlock]
    split
    · exact later
    · rename_i filled
      exact (Stylesheet.isClean_block name prelude _ _).mpr ⟨filled, inner, later⟩
  | leaf node rest leaf later =>
    rw [Stylesheet.withoutEmpty_cons, Node.withoutEmpty_eq_of_leaf leaf]
    cases empty : node.isEmpty with
    | true => exact later
    | false => exact (Stylesheet.isClean_leaf leaf _).mpr ⟨empty, later⟩

/-- A clean tree stays as it is. -/
theorem Stylesheet.IsClean.withoutEmpty_eq_self {sheet : List Node}
    (clean : Stylesheet.IsClean sheet)
    : Stylesheet.withoutEmpty sheet = sheet := by
  induction sheet using Stylesheet.induction with
  | nil => rfl
  | block name prelude body rest inner later =>
    obtain ⟨filled, within, behind⟩ := (Stylesheet.isClean_block name prelude body rest).mp clean
    rw [Stylesheet.withoutEmpty_cons, Node.withoutEmpty_ruleBlock, inner within, if_neg filled,
      later behind]
    rfl
  | leaf node rest leaf later =>
    obtain ⟨filled, behind⟩ := (Stylesheet.isClean_leaf leaf rest).mp clean
    rw [Stylesheet.withoutEmpty_cons, Node.withoutEmpty_eq_of_leaf leaf, filled, later behind]
    rfl

/-- Cleaning a second time changes nothing. -/
theorem Stylesheet.withoutEmpty_withoutEmpty (sheet : List Node)
    : Stylesheet.withoutEmpty (Stylesheet.withoutEmpty sheet)
      = Stylesheet.withoutEmpty sheet :=
  (Stylesheet.isClean_withoutEmpty sheet).withoutEmpty_eq_self

--------------------------------------------------------------------------------
-- Leaves of a cleaned tree
--------------------------------------------------------------------------------

/-- Does the rule say something, and hold no rules? -/
def Node.isFilledLeaf (node : Node) : Bool :=
  !node.holdsRules && !node.isEmpty

/-- Rules other than a block itself are found in it as they are found in its body. -/
theorem Node.filter_placed_ruleBlock (wanted : Node → Bool) {name prelude : String}
    {body : List Node} (other : wanted (.ruleBlock name prelude body) = false)
    : (Node.ruleBlock name prelude body).placed.filter (wanted ·.node)
      = ((Stylesheet.placed body).filter (wanted ·.node)).map (.under name prelude) := by
  rw [Node.placed, List.filter_cons_of_neg (by simp [other]), List.filter_map]
  rfl

/-- Of the rules that hold no rules cleaning leaves those that are not empty, each in its place.
Witness: a block that is cleaned away has none of them in it.
-/
theorem Stylesheet.leaves_placed_withoutEmpty (sheet : List Node)
    : (Stylesheet.placed (Stylesheet.withoutEmpty sheet)).filter (!·.node.holdsRules)
      = (Stylesheet.placed sheet).filter (·.node.isFilledLeaf) := by
  induction sheet using Stylesheet.induction with
  | nil => rfl
  | block name prelude body rest inner later =>
    rw [Stylesheet.withoutEmpty_cons, Stylesheet.placed_append, Stylesheet.placed,
      List.filter_append, List.filter_append, later,
      Node.filter_placed_ruleBlock Node.isFilledLeaf rfl, ← inner, Node.withoutEmpty_ruleBlock,
      List.append_left_inj]
    split
    · rename_i empty
      rw [empty]
      rfl
    · rw [Option.toList_some, Stylesheet.placed, Stylesheet.placed, List.append_nil]
      exact Node.filter_placed_ruleBlock (!·.holdsRules) rfl
  | leaf node rest leaf later =>
    rw [Stylesheet.withoutEmpty_cons, Stylesheet.placed_append, Stylesheet.placed,
      List.filter_append, List.filter_append, later, Node.withoutEmpty_eq_of_leaf leaf,
      Node.placed_leaf leaf, List.append_left_inj]
    cases empty : node.isEmpty with
    | true => simp [Stylesheet.placed, Node.isFilledLeaf, empty]
    | false => simp [Stylesheet.placed, Node.placed_leaf leaf, Node.isFilledLeaf, leaf, empty]

/-- Is the rule an at-rule that is verbatim or ends with a semicolon? -/
def Node.isSealed : Node → Bool
  | .verbatim .. | .statement .. => true
  | _ => false

theorem Node.isFilledLeaf_of_isSealed {node : Node} (closed : node.isSealed = true)
    : node.isFilledLeaf = true := by
  cases node with
  | verbatim | statement => rfl
  | _ => cases closed

/-- Every at-rule that is verbatim or ends with a semicolon outlasts the cleaning in its place. -/
theorem Stylesheet.sealed_placed_withoutEmpty (sheet : List Node)
    : (Stylesheet.placed (Stylesheet.withoutEmpty sheet)).filter (·.node.isSealed)
      = (Stylesheet.placed sheet).filter (·.node.isSealed) := by
  have absorbs {test : Node → Bool} (passes : ∀ node, node.isSealed = true → test node = true)
      (items : List Placed)
      : (items.filter (test ·.node)).filter (·.node.isSealed)
        = items.filter (·.node.isSealed) := by
    rw [List.filter_filter]
    apply List.filter_congr
    intro item _
    cases closed : item.node.isSealed with
    | true => exact passes item.node closed
    | false => rfl
  have isLeaf (node : Node) (closed : node.isSealed = true) : (!node.holdsRules) = true :=
    (Bool.and_eq_true_iff.mp (Node.isFilledLeaf_of_isSealed closed)).1
  calc
    _ = ((Stylesheet.placed (Stylesheet.withoutEmpty sheet)).filter
          (!·.node.holdsRules)).filter (·.node.isSealed) := (absorbs isLeaf _).symm
    _ = ((Stylesheet.placed sheet).filter (·.node.isFilledLeaf)).filter (·.node.isSealed) := by
      rw [Stylesheet.leaves_placed_withoutEmpty]
    _ = _ := absorbs (fun _ => Node.isFilledLeaf_of_isSealed) _

--------------------------------------------------------------------------------
-- Declarations of a cleaned tree
--------------------------------------------------------------------------------

mutual
/-- Has every style rule in the rule a selector? -/
def Node.Selective : Node → Prop
  | .style selectors _ => selectors ≠ []
  | .ruleBlock _ _ body => Stylesheet.Selective body
  | _ => True

/-- Has every style rule in the tree a selector? -/
def Stylesheet.Selective : List Node → Prop
  | [] => True
  | node :: rest => node.Selective ∧ Stylesheet.Selective rest
end

/-- Cleaning leaves only style rules with selectors. -/
theorem Stylesheet.selective_withoutEmpty (sheet : List Node)
    : Stylesheet.Selective (Stylesheet.withoutEmpty sheet) := by
  induction sheet using Stylesheet.induction with
  | nil => trivial
  | block name prelude body rest inner later =>
    rw [Stylesheet.withoutEmpty_cons, Node.withoutEmpty_ruleBlock]
    by_cases empty : Stylesheet.withoutEmpty body = []
    · simpa [empty] using later
    · simpa [empty, Stylesheet.Selective, Node.Selective] using ⟨inner, later⟩
  | leaf node rest leaf later =>
    rw [Stylesheet.withoutEmpty_cons]
    rcases Node.withoutEmpty_leaf leaf with gone | kept
    · simpa [gone] using later
    · have selective : node.Selective := by
        cases node with
        | style selectors declarations =>
          intro bare
          simp [Node.withoutEmpty, bare] at kept
        | ruleBlock => simp [Node.holdsRules] at leaf
        | _ => trivial
      simpa [kept, Stylesheet.Selective] using ⟨selective, later⟩

/-- Cleaning takes no declaration from a tree whose style rules all have selectors. -/
theorem Stylesheet.declarations_withoutEmpty {sheet : List Node}
    (skip : String → Bool) (selective : Stylesheet.Selective sheet)
    : Stylesheet.declarations skip (Stylesheet.withoutEmpty sheet)
      = Stylesheet.declarations skip sheet := by
  induction sheet using Stylesheet.induction with
  | nil => rfl
  | block name prelude body rest inner later =>
    have same := inner selective.1
    rw [Stylesheet.withoutEmpty_cons, Node.withoutEmpty_ruleBlock]
    by_cases empty : Stylesheet.withoutEmpty body = []
    · have silent : Stylesheet.declarations skip body = [] := by
        rw [← same, empty]
        rfl
      simp [empty, Stylesheet.declarations, Node.declarations, silent, later selective.2]
    · simp [empty, Stylesheet.declarations, Node.declarations, same, later selective.2]
  | leaf node rest leaf later =>
    rw [Stylesheet.withoutEmpty_cons]
    rcases Node.withoutEmpty_leaf leaf with gone | kept
    · have silent : node.declarations skip = [] := by
        cases node with
        | style selectors declarations =>
          have bound : selectors ≠ [] := selective.1
          simpa [Node.withoutEmpty, Node.declarations, bound] using gone
        | declarationBlock name prelude body =>
          have empty : body = [] := by simpa [Node.withoutEmpty] using gone
          simp [Node.declarations, empty]
        | ruleBlock => simp [Node.holdsRules] at leaf
        | _ => rfl
      simp [gone, Stylesheet.declarations, silent, later selective.2]
    · simp [kept, Stylesheet.declarations, later selective.2]

/-- Cleaning makes no declaration up. -/
theorem Stylesheet.declarations_withoutEmpty_sublist (skip : String → Bool) (sheet : List Node)
    : (Stylesheet.declarations skip (Stylesheet.withoutEmpty sheet)).Sublist
        (Stylesheet.declarations skip sheet) := by
  induction sheet using Stylesheet.induction with
  | nil => exact List.Sublist.refl _
  | block name prelude body rest inner later =>
    rw [Stylesheet.withoutEmpty_cons, Node.withoutEmpty_ruleBlock]
    by_cases empty : Stylesheet.withoutEmpty body = []
    · simpa [empty, Stylesheet.declarations] using later.trans (List.sublist_append_right _ _)
    · simp only [empty, if_false, Option.toList_some, List.singleton_append,
        Stylesheet.declarations, Node.declarations]
      split
      · exact later
      · exact inner.append later
  | leaf node rest leaf later =>
    rw [Stylesheet.withoutEmpty_cons]
    rcases Node.withoutEmpty_leaf leaf with gone | kept
    · simpa [gone, Stylesheet.declarations] using later.trans (List.sublist_append_right _ _)
    · simpa [kept, Stylesheet.declarations] using later

end CriticalCss
