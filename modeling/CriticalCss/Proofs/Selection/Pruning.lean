import CriticalCss.Proofs.Stylesheet.Reading
import CriticalCss.Selection.Collect

/-! Collecting, choosing selectors, and dropping what is empty are together one recursion on the
tree: each rule is pruned on its own. The tree has to come from a text; a caller's tree can have
blocks without content, which stop the collecting.

Keyframes are neither dropped nor looked into, and yet they lose the blocks in them that hold
nothing. What is left is the tree with all keyframes whole just if there are no such blocks.
-/

namespace CriticalCss

mutual
/-- The rule without the blocks of rules in it that hold nothing; nothing if it is such a block. -/
def Node.withoutBareBlocks : Node → Option Node
  | .ruleBlock name prelude body =>
    if Stylesheet.withoutBareBlocks body = [] then none
    else some (.ruleBlock name prelude (Stylesheet.withoutBareBlocks body))
  | node => some node

/-- The rules without the blocks of rules that hold nothing. -/
def Stylesheet.withoutBareBlocks : List Node → List Node
  | [] => []
  | node :: rest => node.withoutBareBlocks.toList ++ Stylesheet.withoutBareBlocks rest
end

mutual
/-- Does every block of rules in the rule hold something, and the rule itself if it is one? -/
def Node.isFilled : Node → Bool
  | .ruleBlock _ _ body => !body.isEmpty && Stylesheet.isFilled body
  | _ => true

/-- Does every block of rules hold something? -/
def Stylesheet.isFilled : List Node → Bool
  | [] => true
  | node :: rest => node.isFilled && Stylesheet.isFilled rest
end

theorem Stylesheet.withoutBareBlocks_append (left right : List Node)
    : Stylesheet.withoutBareBlocks (left ++ right)
      = Stylesheet.withoutBareBlocks left ++ Stylesheet.withoutBareBlocks right := by
  induction left with
  | nil => rfl
  | cons node rest ih => simp [Stylesheet.withoutBareBlocks, ih]

theorem Stylesheet.length_withoutBareBlocks_le (sheet : List Node)
    : (Stylesheet.withoutBareBlocks sheet).length ≤ sheet.length := by
  induction sheet with
  | nil => exact Nat.le_refl _
  | cons node rest ih =>
    have one : node.withoutBareBlocks.toList.length ≤ 1 := by
      cases node.withoutBareBlocks <;> simp
    rw [Stylesheet.withoutBareBlocks, List.length_append, List.length_cons]
    omega

theorem Stylesheet.isFilled_append (left right : List Node)
    : Stylesheet.isFilled (left ++ right)
      = (Stylesheet.isFilled left && Stylesheet.isFilled right) := by
  induction left with
  | nil => rfl
  | cons node rest ih => simp [Stylesheet.isFilled, ih, Bool.and_assoc]

/-- Just a tree in which every block of rules holds something has nothing to lose. -/
theorem Stylesheet.withoutBareBlocks_eq_self_iff (sheet : List Node)
    : Stylesheet.withoutBareBlocks sheet = sheet ↔ Stylesheet.isFilled sheet = true := by
  induction sheet using Stylesheet.induction with
  | nil => exact iff_of_true rfl rfl
  | block name prelude body rest inner later =>
    rw [Stylesheet.withoutBareBlocks, Node.withoutBareBlocks, Stylesheet.isFilled, Node.isFilled]
    by_cases bare : Stylesheet.withoutBareBlocks body = []
    · have shorter := Stylesheet.length_withoutBareBlocks_le rest
      refine iff_of_false (fun same => ?_) fun filled => ?_
      · have long := congrArg List.length same
        simp [bare] at long
        omega
      · simp only [Bool.and_eq_true, Bool.not_eq_true', List.isEmpty_eq_false_iff] at filled
        exact filled.1.1 ((inner.mpr filled.1.2).symm.trans bare)
    · have some : body ≠ [] := by
        rintro rfl
        exact bare rfl
      simp [bare, some, inner, later]
  | leaf node rest leaf later =>
    have whole : node.withoutBareBlocks = some node ∧ node.isFilled = true := by
      cases node with
      | ruleBlock => simp [Node.holdsRules] at leaf
      | _ => exact ⟨rfl, rfl⟩
    rw [Stylesheet.withoutBareBlocks, Stylesheet.isFilled, whole.1, whole.2]
    simp [later]

namespace Selection

mutual
/-- What is left of a rule: nothing if it is dropped whatever the page shows; a style rule with the
selectors that are kept, if there are any; a container with what is left of its rules, if there
is anything. Other blocks of rules lose the blocks in them that hold nothing; every other rule
stays. -/
def pruneNode (scope : Scope) (keeps : List Declaration → String → Bool) (node : Node)
    : Option Node :=
  if scope.drops node then none
  else
    match node with
    | .style selectors declarations =>
      if selectors.filter (keeps declarations) = [] then none
      else some (.style (selectors.filter (keeps declarations)) declarations)
    | .ruleBlock name prelude body =>
      if scope.retention (.ruleBlock name prelude body) = .container then
        if pruneNodes scope keeps body = [] then none
        else some (.ruleBlock name prelude (pruneNodes scope keeps body))
      else (Node.ruleBlock name prelude body).withoutBareBlocks
    | other => some other

/-- What is left of rules in order. -/
def pruneNodes (scope : Scope) (keeps : List Declaration → String → Bool) : List Node → List Node
  | [] => []
  | node :: rest => (pruneNode scope keeps node).toList ++ pruneNodes scope keeps rest
end

mutual
/-- What would be left of a rule if everything stayed whole that is neither dropped nor looked into:
other blocks of rules stay as they are, whatever they hold. -/
def trimNode (scope : Scope) (keeps : List Declaration → String → Bool) (node : Node)
    : Option Node :=
  if scope.drops node then none
  else
    match node with
    | .style selectors declarations =>
      if selectors.filter (keeps declarations) = [] then none
      else some (.style (selectors.filter (keeps declarations)) declarations)
    | .ruleBlock name prelude body =>
      if scope.retention (.ruleBlock name prelude body) = .container then
        if trimNodes scope keeps body = [] then none
        else some (.ruleBlock name prelude (trimNodes scope keeps body))
      else some (.ruleBlock name prelude body)
    | other => some other

/-- What would be left of rules in order. -/
def trimNodes (scope : Scope) (keeps : List Declaration → String → Bool) : List Node → List Node
  | [] => []
  | node :: rest => (trimNode scope keeps node).toList ++ trimNodes scope keeps rest
end

mutual
/-- Is every block of rules filled that is neither dropped nor looked into, in the rule or the rule
itself? -/
def Scope.sparesFilled (scope : Scope) : Node → Bool
  | .ruleBlock name prelude body =>
    scope.drops (.ruleBlock name prelude body)
    || if scope.retention (.ruleBlock name prelude body) = .container then
        scope.allSpareFilled body
      else (Node.ruleBlock name prelude body).isFilled
  | _ => true

/-- Is every block of rules filled that is neither dropped nor looked into? -/
def Scope.allSpareFilled (scope : Scope) : List Node → Bool
  | [] => true
  | node :: rest => scope.sparesFilled node && scope.allSpareFilled rest
end

/-- The style rule stands in the sheet, or in a container in it that is looked into. -/
inductive Reaches (scope : Scope) (selectors : List String) (declarations : List Declaration)
    : Stylesheet → Prop where
  | here {sheet : Stylesheet} (member : Node.style selectors declarations ∈ sheet)
    : Reaches scope selectors declarations sheet
  | inside {sheet : Stylesheet} {name prelude : String} {body : List Node}
      (member : Node.ruleBlock name prelude body ∈ sheet)
      (container : scope.retention (.ruleBlock name prelude body) = .container)
      (within : Reaches scope selectors declarations body)
    : Reaches scope selectors declarations sheet

section Passes

variable {scope : Scope} {test : List Declaration → String → Bool} {sheet : Stylesheet}

--------------------------------------------------------------------------------
-- One rule after the other
--------------------------------------------------------------------------------

theorem drops_style (scope : Scope) (selectors : List String) (declarations : List Declaration)
    : scope.drops (.style selectors declarations) = false :=
  rfl

/-- A container is not dropped. -/
theorem drops_of_container {node : Node} (container : scope.retention node = .container)
    : scope.drops node = false := by
  simp [Scope.drops, container]

theorem dropEmptyNodes_cons (node : Node) (rest : List Node)
    : dropEmptyNodes (node :: rest) = (dropEmptyNode node).toList ++ dropEmptyNodes rest := by
  cases h : dropEmptyNode node <;> simp [dropEmptyNodes, h]

/-- As long as nothing stops it, collecting goes on with the rules behind. -/
theorem collectNodes_cons {node : Node} {rest : List Node}
    (first : (collectNode scope node).stopped = false)
    (others : (collectNodes scope rest).stopped = false)
    : (collectNodes scope (node :: rest)).stopped = false
      ∧ (collectNodes scope (node :: rest)).kept
        = (collectNode scope node).kept.toList ++ (collectNodes scope rest).kept := by
  simp [collectNodes, first, others]

/-- Of a rule without a block of rules collecting keeps all or nothing. -/
theorem collectNode_leaf {node : Node} (textual : node.Textual) (leaf : node.holdsRules = false)
    : (collectNode scope node).stopped = false
      ∧ (collectNode scope node).kept = if scope.drops node then none else some node := by
  unfold collectNode
  split
  · exact ⟨rfl, rfl⟩
  · cases node with
    | ruleBlock => simp [Node.holdsRules] at leaf
    | hollow => cases textual
    | _ => exact ⟨rfl, rfl⟩

--------------------------------------------------------------------------------
-- The three passes together
--------------------------------------------------------------------------------

/-- Dropping what is empty takes only bare blocks from a tree that comes from a text. -/
theorem dropEmptyNodes_of_textual (textual : Stylesheet.Textual sheet)
    : dropEmptyNodes sheet = Stylesheet.withoutBareBlocks sheet := by
  induction sheet using Stylesheet.induction with
  | nil => rfl
  | block name prelude body rest inner later =>
    rw [dropEmptyNodes_cons, Stylesheet.withoutBareBlocks, later textual.2]
    simp [dropEmptyNode, Node.withoutBareBlocks, inner textual.1.2]
  | leaf node rest leaf later =>
    rw [dropEmptyNodes_cons, Stylesheet.withoutBareBlocks, later textual.2, List.append_left_inj]
    refine congrArg Option.toList ?_
    cases node with
    | ruleBlock => simp [Node.holdsRules] at leaf
    | style selectors declarations =>
      have filled : selectors ≠ [] := textual.1
      simp [dropEmptyNode, Node.withoutBareBlocks, filled]
    | hollow => cases textual.1
    | _ => rfl

/-- Nothing in a tree that comes from a text stops the collecting. -/
theorem collectNodes_stopped (textual : Stylesheet.Textual sheet)
    : (collectNodes scope sheet).stopped = false := by
  induction sheet using Stylesheet.induction with
  | nil => rfl
  | block name prelude body rest inner later =>
    refine (collectNodes_cons ?_ (later textual.2)).1
    unfold collectNode
    split
    · rfl
    · dsimp only
      split
      · exact inner textual.1.2
      · rfl
  | leaf node rest leaf later =>
    exact (collectNodes_cons (collectNode_leaf textual.1 leaf).1 (later textual.2)).1

/-- Collecting keeps of a tree that comes from a text what it keeps of each rule. -/
theorem collectNodes_kept_cons {node : Node} {rest : List Node}
    (textual : Stylesheet.Textual (node :: rest))
    : (collectNodes scope (node :: rest)).kept
      = (collectNode scope node).kept.toList ++ (collectNodes scope rest).kept := by
  refine (collectNodes_cons ?_ (collectNodes_stopped textual.2)).2
  have alone : (collectNodes scope [node]).stopped = false :=
    collectNodes_stopped ⟨textual.1, trivial⟩
  cases first : (collectNode scope node).stopped with
  | false => rfl
  | true => simp [collectNodes, first] at alone

theorem filterNodes_append (left right : List Node)
    : filterNodes scope test (left ++ right)
      = filterNodes scope test left ++ filterNodes scope test right := by
  induction left with
  | nil => rfl
  | cons node rest ih => simp [filterNodes, ih]

theorem dropEmptyNodes_append (left right : List Node)
    : dropEmptyNodes (left ++ right) = dropEmptyNodes left ++ dropEmptyNodes right := by
  induction left with
  | nil => rfl
  | cons node rest ih => simp [dropEmptyNodes_cons, ih]

theorem styleRules_append (left right : List Node)
    : styleRules scope (left ++ right) = styleRules scope left ++ styleRules scope right := by
  induction left with
  | nil => rfl
  | cons node rest ih => simp [styleRules, ih]

/-- The passes prune every rule.
Witness: induction on the tree; the treatment of a block stays the same while its rules change.
-/
theorem dropEmptyNodes_filterNodes (test : List Declaration → String → Bool)
    (textual : Stylesheet.Textual sheet)
    : dropEmptyNodes (filterNodes scope test (collectNodes scope sheet).kept)
      = pruneNodes scope test sheet := by
  induction sheet using Stylesheet.induction with
  | nil => rfl
  | block name prelude body rest inner later =>
    rw [collectNodes_kept_cons textual, filterNodes_append, dropEmptyNodes_append,
      later textual.2, pruneNodes, List.append_left_inj]
    unfold collectNode pruneNode
    split
    · rfl
    · by_cases container : scope.retention (.ruleBlock name prelude body) = .container
      · have same : scope.retention (.ruleBlock name prelude (collectNodes scope body).kept)
            = .container := container
        simp [container, same, filterNodes, filterNode, dropEmptyNodes_cons, dropEmptyNodes,
          dropEmptyNode, inner textual.1.2]
      · have bare := dropEmptyNodes_of_textual textual.1.2
        simp [container, filterNodes, filterNode, dropEmptyNodes_cons, dropEmptyNodes,
          dropEmptyNode, Node.withoutBareBlocks, bare]
  | leaf node rest leaf later =>
    rw [collectNodes_kept_cons textual, filterNodes_append, dropEmptyNodes_append,
      later textual.2, pruneNodes, (collectNode_leaf textual.1 leaf).2, List.append_left_inj]
    unfold pruneNode
    split
    · rfl
    · cases node with
      | ruleBlock => simp [Node.holdsRules] at leaf
      | hollow => cases textual.1
      | style selectors declarations =>
        simp [filterNodes, filterNode, dropEmptyNodes_cons, dropEmptyNodes, dropEmptyNode]
      | _ => rfl

--------------------------------------------------------------------------------
-- What stays whole
--------------------------------------------------------------------------------

/-- Pruning is trimming, and then taking out the blocks of rules that hold nothing.
Witness: induction on the tree; a container that is left empty is such a block too.
-/
theorem withoutBareBlocks_trimNodes (sheet : Stylesheet)
    : Stylesheet.withoutBareBlocks (trimNodes scope test sheet) = pruneNodes scope test sheet := by
  induction sheet using Stylesheet.induction with
  | nil => rfl
  | block name prelude body rest inner later =>
    rw [trimNodes, Stylesheet.withoutBareBlocks_append, later, pruneNodes, List.append_left_inj]
    unfold trimNode pruneNode
    split
    · rfl
    · by_cases container : scope.retention (.ruleBlock name prelude body) = .container
      · dsimp only
        rw [if_pos container, if_pos container, ← inner]
        by_cases empty : trimNodes scope test body = []
        · simp [empty, Stylesheet.withoutBareBlocks]
        · simp [empty, Stylesheet.withoutBareBlocks, Node.withoutBareBlocks]
      · simp [container, Stylesheet.withoutBareBlocks]
  | leaf node rest leaf later =>
    rw [trimNodes, Stylesheet.withoutBareBlocks_append, later, pruneNodes, List.append_left_inj]
    unfold trimNode pruneNode
    split
    · rfl
    · cases node with
      | ruleBlock => simp [Node.holdsRules] at leaf
      | style selectors declarations =>
        dsimp only
        split <;> rfl
      | _ => rfl

/-- A trimmed tree is filled just if everything is that stays whole, since containers that are left
empty are gone. -/
theorem isFilled_trimNodes (sheet : Stylesheet)
    : Stylesheet.isFilled (trimNodes scope test sheet) = scope.allSpareFilled sheet := by
  induction sheet using Stylesheet.induction with
  | nil => rfl
  | block name prelude body rest inner later =>
    rw [trimNodes, Stylesheet.isFilled_append, later, Scope.allSpareFilled]
    refine congrFun (congrArg and ?_) _
    unfold trimNode Scope.sparesFilled
    cases scope.drops (.ruleBlock name prelude body) with
    | true => rfl
    | false =>
      by_cases container : scope.retention (.ruleBlock name prelude body) = .container
      · by_cases empty : trimNodes scope test body = []
        · rw [empty] at inner
          simp [container, empty, ← inner, Stylesheet.isFilled]
        · simp [container, empty, inner, Stylesheet.isFilled, Node.isFilled]
      · simp [container, Stylesheet.isFilled]
  | leaf node rest leaf later =>
    rw [trimNodes, Stylesheet.isFilled_append, later, Scope.allSpareFilled]
    refine congrFun (congrArg and ?_) _
    unfold trimNode
    split
    · cases node with
      | ruleBlock => simp [Node.holdsRules] at leaf
      | _ => rfl
    · cases node with
      | ruleBlock => simp [Node.holdsRules] at leaf
      | style selectors declarations =>
        dsimp only
        split <;> rfl
      | _ => rfl

/-- Everything stays whole that is neither dropped nor looked into just if it is filled. -/
theorem pruneNodes_eq_trimNodes_iff (sheet : Stylesheet)
    : pruneNodes scope test sheet = trimNodes scope test sheet
      ↔ scope.allSpareFilled sheet = true := by
  rw [← withoutBareBlocks_trimNodes, Stylesheet.withoutBareBlocks_eq_self_iff, isFilled_trimNodes]

--------------------------------------------------------------------------------
-- Style rules
--------------------------------------------------------------------------------

/-- A style rule is reached at the first rule or behind it. -/
theorem reaches_cons {selectors : List String} {declarations : List Declaration} {node : Node}
    {rest : List Node}
    : Reaches scope selectors declarations (node :: rest)
      ↔ (node = .style selectors declarations
          ∨ ∃ name prelude body,
              node = .ruleBlock name prelude body
              ∧ scope.retention (.ruleBlock name prelude body) = .container
              ∧ Reaches scope selectors declarations body)
        ∨ Reaches scope selectors declarations rest := by
  constructor
  · intro reached
    cases reached with
    | here member =>
      rcases List.mem_cons.mp member with first | behind
      · exact Or.inl (Or.inl first.symm)
      · exact Or.inr (.here behind)
    | inside member container within =>
      rcases List.mem_cons.mp member with first | behind
      · exact Or.inl (Or.inr ⟨_, _, _, first.symm, container, within⟩)
      · exact Or.inr (.inside behind container within)
  · rintro ((rfl | ⟨name, prelude, body, rfl, container, within⟩) | behind)
    · exact .here List.mem_cons_self
    · exact .inside List.mem_cons_self container within
    · cases behind with
      | here member => exact .here (List.mem_cons_of_mem _ member)
      | inside member container within =>
        exact .inside (List.mem_cons_of_mem _ member) container within

/-- The style rules whose selectors are decided are those that are reached. -/
theorem mem_styleRules {selectors : List String} {declarations : List Declaration}
    (textual : Stylesheet.Textual sheet)
    : (selectors, declarations) ∈ styleRules scope (collectNodes scope sheet).kept
      ↔ Reaches scope selectors declarations sheet := by
  induction sheet using Stylesheet.induction with
  | nil =>
    refine ⟨fun member => absurd member List.not_mem_nil, fun reached => ?_⟩
    cases reached with
    | here member => cases member
    | inside member => cases member
  | block name prelude body rest inner later =>
    rw [collectNodes_kept_cons textual, styleRules_append, List.mem_append, later textual.2,
      reaches_cons]
    refine or_congr_left ?_
    unfold collectNode
    by_cases container : scope.retention (.ruleBlock name prelude body) = .container
    · have same : scope.retention (.ruleBlock name prelude (collectNodes scope body).kept)
          = .container := container
      simp only [drops_of_container container, container, same, styleRules, styleRulesOf,
        inner textual.1.2, Bool.false_eq_true, if_false, if_true, beq_self_eq_true,
        Option.toList_some, List.append_nil, reduceCtorEq, false_or]
      constructor
      · exact fun within => ⟨name, prelude, body, rfl, container, within⟩
      · rintro ⟨_, _, _, same, _, within⟩
        cases same
        exact within
    · split <;> simp [container, styleRules, styleRulesOf]
  | leaf node rest leaf later =>
    rw [collectNodes_kept_cons textual, styleRules_append, List.mem_append, later textual.2,
      reaches_cons, (collectNode_leaf textual.1 leaf).2]
    refine or_congr_left ?_
    cases node with
    | ruleBlock => simp [Node.holdsRules] at leaf
    | style => simp [drops_style, styleRules, styleRulesOf, eq_comm]
    | _ => split <;> simp [styleRules, styleRulesOf]

/-- Two tests that agree on the selectors of the style rules choose the same. -/
theorem filterNodes_congr {other : List Declaration → String → Bool}
    (agree : ∀ rule ∈ styleRules scope sheet, ∀ selector ∈ rule.1,
      test rule.2 selector = other rule.2 selector)
    : filterNodes scope test sheet = filterNodes scope other sheet := by
  induction sheet using Stylesheet.induction with
  | nil => rfl
  | block name prelude body rest inner later =>
    simp only [styleRules, List.mem_append] at agree
    rw [filterNodes, filterNodes]
    refine List.cons_eq_cons.mpr ⟨?_, later fun rule member => agree rule (Or.inr member)⟩
    by_cases container : scope.retention (.ruleBlock name prelude body) = .container
    · have inside := inner fun rule member =>
        agree rule (Or.inl (by simpa [styleRulesOf, container] using member))
      simp [filterNode, container, inside]
    · simp [filterNode, container]
  | leaf node rest leaf later =>
    simp only [styleRules, List.mem_append] at agree
    rw [filterNodes, filterNodes]
    refine List.cons_eq_cons.mpr ⟨?_, later fun rule member => agree rule (Or.inr member)⟩
    cases node with
    | ruleBlock => simp [Node.holdsRules] at leaf
    | style selectors declarations =>
      have own := agree (selectors, declarations) (Or.inl List.mem_cons_self)
      simp only [filterNode, Node.style.injEq, and_true]
      exact List.filter_congr own
    | _ => rfl

end Passes

end Selection

end CriticalCss
