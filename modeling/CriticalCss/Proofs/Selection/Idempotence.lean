import CriticalCss.Proofs.Selection.Completion
import CriticalCss.Proofs.Selection.Interruption

/-! Selecting again from what was selected changes nothing. A selector that is kept for clearing
does not show in the viewport, so it is kept again only because the page is asked the same about
it: with the same clearing properties, for declarations are left alone, and with the same critical
queries, for every selector whose query is critical is kept itself.
-/

namespace CriticalCss

--------------------------------------------------------------------------------
-- Pruning twice
--------------------------------------------------------------------------------

/-- A tree without bare blocks stays as it is. -/
theorem Stylesheet.withoutBareBlocks_withoutBareBlocks (sheet : List Node)
    : Stylesheet.withoutBareBlocks (Stylesheet.withoutBareBlocks sheet)
      = Stylesheet.withoutBareBlocks sheet := by
  induction sheet using Stylesheet.induction with
  | nil => rfl
  | block name prelude body rest inner later =>
    rw [Stylesheet.withoutBareBlocks, Stylesheet.withoutBareBlocks_append, later,
      Node.withoutBareBlocks, List.append_left_inj]
    by_cases bare : Stylesheet.withoutBareBlocks body = []
    · simp [bare, Stylesheet.withoutBareBlocks]
    · simp [bare, Stylesheet.withoutBareBlocks, Node.withoutBareBlocks, inner]
  | leaf node rest leaf later =>
    rw [Stylesheet.withoutBareBlocks, Stylesheet.withoutBareBlocks_append, later,
      List.append_left_inj]
    cases node with
    | ruleBlock => simp [Node.holdsRules] at leaf
    | _ => rfl

theorem Stylesheet.textual_append {left right : List Node}
    : Stylesheet.Textual (left ++ right)
      ↔ Stylesheet.Textual left ∧ Stylesheet.Textual right := by
  simp [Stylesheet.textual_iff, or_imp, forall_and]

/-- Taking out bare blocks leaves what a text can give. -/
theorem Stylesheet.Textual.withoutBareBlocks {sheet : List Node}
    (textual : Stylesheet.Textual sheet)
    : Stylesheet.Textual (Stylesheet.withoutBareBlocks sheet) := by
  induction sheet using Stylesheet.induction with
  | nil => trivial
  | block name prelude body rest inner later =>
    rw [Stylesheet.withoutBareBlocks, Node.withoutBareBlocks, Stylesheet.textual_append]
    refine ⟨?_, later textual.2⟩
    split
    · trivial
    · exact ⟨⟨textual.1.1, inner textual.1.2⟩, trivial⟩
  | leaf node rest leaf later =>
    rw [Stylesheet.withoutBareBlocks, Stylesheet.textual_append]
    refine ⟨?_, later textual.2⟩
    cases node with
    | ruleBlock => simp [Node.holdsRules] at leaf
    | _ => exact ⟨textual.1, trivial⟩

namespace Selection

variable {ε : Type}

section Trees

variable {scope : Scope} {test : List Declaration → String → Bool} {sheet : Stylesheet}

theorem pruneNodes_append (left right : List Node)
    : pruneNodes scope test (left ++ right)
      = pruneNodes scope test left ++ pruneNodes scope test right := by
  induction left with
  | nil => rfl
  | cons node rest ih => simp [pruneNodes, ih]

/-- The treatment of a block does not depend on its rules. -/
theorem retention_ruleBlock (scope : Scope) (name prelude : String) (body other : List Node)
    : scope.retention (.ruleBlock name prelude body)
      = scope.retention (.ruleBlock name prelude other) :=
  rfl

theorem drops_ruleBlock (scope : Scope) (name prelude : String) (body other : List Node)
    : scope.drops (.ruleBlock name prelude body) = scope.drops (.ruleBlock name prelude other) :=
  rfl

/-- Pruning leaves what a text can give. -/
theorem textual_pruneNodes (test : List Declaration → String → Bool)
    (textual : Stylesheet.Textual sheet)
    : Stylesheet.Textual (pruneNodes scope test sheet) := by
  induction sheet using Stylesheet.induction with
  | nil => trivial
  | block name prelude body rest inner later =>
    rw [pruneNodes, pruneNode, Stylesheet.textual_append]
    refine ⟨?_, later textual.2⟩
    split
    · trivial
    · split
      · split
        · trivial
        · exact ⟨⟨textual.1.1, inner textual.1.2⟩, trivial⟩
      · have bare : Stylesheet.Textual
            (Stylesheet.withoutBareBlocks [.ruleBlock name prelude body]) :=
          Stylesheet.Textual.withoutBareBlocks ⟨textual.1, trivial⟩
        simpa [Stylesheet.withoutBareBlocks] using bare
  | leaf node rest leaf later =>
    rw [pruneNodes, Stylesheet.textual_append]
    refine ⟨?_, later textual.2⟩
    unfold pruneNode
    split
    · trivial
    · cases node with
      | ruleBlock => simp [Node.holdsRules] at leaf
      | style selectors declarations =>
        dsimp only
        split
        · trivial
        · rename_i filled
          exact ⟨filled, trivial⟩
      | _ => exact ⟨textual.1, trivial⟩

/-- What is left of a block is the block with what is left of its rules, if that is anything. -/
theorem pruneNode_ruleBlock (scope : Scope) (test : List Declaration → String → Bool)
    (name prelude : String) (body : List Node)
    : pruneNode scope test (.ruleBlock name prelude body) = none
      ∨ scope.drops (.ruleBlock name prelude body) = false
        ∧ ∃ left,
            left ≠ []
            ∧ pruneNode scope test (.ruleBlock name prelude body)
              = some (.ruleBlock name prelude left)
            ∧ (scope.retention (.ruleBlock name prelude body) = .container
                ∧ left = pruneNodes scope test body
              ∨ scope.retention (.ruleBlock name prelude body) ≠ .container
                ∧ left = Stylesheet.withoutBareBlocks body) := by
  unfold pruneNode
  split
  · exact Or.inl rfl
  · rename_i kept
    have kept := Bool.eq_false_iff.mpr kept
    by_cases container : scope.retention (.ruleBlock name prelude body) = .container
    · by_cases bare : pruneNodes scope test body = []
      · exact Or.inl (by simp [container, bare])
      · exact Or.inr ⟨kept, _, bare, by simp [container, bare], Or.inl ⟨container, rfl⟩⟩
    · by_cases bare : Stylesheet.withoutBareBlocks body = []
      · exact Or.inl (by simp [container, Node.withoutBareBlocks, bare])
      · exact Or.inr ⟨kept, _, bare, by simp [container, Node.withoutBareBlocks, bare],
          Or.inr ⟨container, rfl⟩⟩

/-- What is left of another rule is not dropped, and is left as it is the next time. -/
theorem pruneNode_leaf (scope : Scope) (test : List Declaration → String → Bool) {node : Node}
    (leaf : node.holdsRules = false)
    : pruneNode scope test node = none
      ∨ ∃ left,
          pruneNode scope test node = some left
          ∧ left.holdsRules = false
          ∧ scope.drops left = false
          ∧ pruneNode scope test left = some left := by
  cases dropped : scope.drops node with
  | true =>
    unfold pruneNode
    exact Or.inl (if_pos dropped)
  | false =>
    cases node with
    | ruleBlock => simp [Node.holdsRules] at leaf
    | style selectors declarations =>
      by_cases bare : selectors.filter (test declarations) = []
      · exact Or.inl (by simp [pruneNode, drops_style, bare])
      · exact Or.inr ⟨.style (selectors.filter (test declarations)) declarations,
          by simp [pruneNode, drops_style, bare], rfl, rfl,
          by simp [pruneNode, drops_style, bare]⟩
    | _ =>
      refine Or.inr ⟨_, ?_, ?_, dropped, ?_⟩
      · simp [pruneNode, dropped]
      · rfl
      · simp [pruneNode, dropped]

/-- Pruning a pruned tree with the same test leaves it as it is.
Witness: induction on the tree; what is left of a block is treated as the block was.
-/
theorem pruneNodes_pruneNodes (scope : Scope) (test : List Declaration → String → Bool)
    (sheet : Stylesheet)
    : pruneNodes scope test (pruneNodes scope test sheet) = pruneNodes scope test sheet := by
  induction sheet using Stylesheet.induction with
  | nil => rfl
  | block name prelude body rest inner later =>
    rw [pruneNodes, pruneNodes_append, later, List.append_left_inj]
    rcases pruneNode_ruleBlock scope test name prelude body with
      gone | ⟨kept, left, filled, found, ⟨container, rfl⟩ | ⟨closed, rfl⟩⟩
    · rw [gone]
      rfl
    · rw [retention_ruleBlock scope name prelude body (pruneNodes scope test body)] at container
      rw [drops_ruleBlock scope name prelude body (pruneNodes scope test body)] at kept
      rw [found]
      simp [pruneNodes, pruneNode, kept, container, inner, filled]
    · rw [retention_ruleBlock scope name prelude body (Stylesheet.withoutBareBlocks body)] at closed
      rw [drops_ruleBlock scope name prelude body (Stylesheet.withoutBareBlocks body)] at kept
      rw [found]
      simp [pruneNodes, pruneNode, kept, closed, Node.withoutBareBlocks, filled,
        Stylesheet.withoutBareBlocks_withoutBareBlocks]
  | leaf node rest leaf later =>
    rw [pruneNodes, pruneNodes_append, later, List.append_left_inj]
    rcases pruneNode_leaf scope test leaf with gone | ⟨left, found, _, _, again⟩
    · rw [gone]
      rfl
    · simp [found, pruneNodes, again]

/-- Nothing that is left of a tree is dropped from it. -/
theorem withoutDropped_pruneNodes (scope : Scope) (test : List Declaration → String → Bool)
    (sheet : Stylesheet)
    : withoutDropped scope (pruneNodes scope test sheet) = pruneNodes scope test sheet := by
  induction sheet using Stylesheet.induction with
  | nil => rfl
  | block name prelude body rest inner later =>
    rw [pruneNodes, withoutDropped_append, later, List.append_left_inj]
    rcases pruneNode_ruleBlock scope test name prelude body with
      gone | ⟨kept, left, _, found, ⟨container, rfl⟩ | ⟨closed, rfl⟩⟩
    · rw [gone]
      rfl
    · rw [retention_ruleBlock scope name prelude body (pruneNodes scope test body)] at container
      rw [drops_ruleBlock scope name prelude body (pruneNodes scope test body)] at kept
      rw [found]
      simp [withoutDropped, withoutDroppedOf, kept, container, inner]
    · rw [retention_ruleBlock scope name prelude body (Stylesheet.withoutBareBlocks body)] at closed
      rw [drops_ruleBlock scope name prelude body (Stylesheet.withoutBareBlocks body)] at kept
      rw [found]
      simp [withoutDropped, withoutDroppedOf, kept, closed]
  | leaf node rest leaf later =>
    rw [pruneNodes, withoutDropped_append, later, List.append_left_inj]
    rcases pruneNode_leaf scope test leaf with gone | ⟨left, found, leafLeft, kept, _⟩
    · rw [gone]
      rfl
    · simp [found, withoutDropped, withoutDroppedOf_leaf leafLeft, kept]

--------------------------------------------------------------------------------
-- Style rules of a pruned tree
--------------------------------------------------------------------------------

/-- The style rule with the selectors that satisfy a test, nothing if there are none. -/
def chooseRule (test : List Declaration → String → Bool)
    (rule : List String × List Declaration)
    : Option (List String × List Declaration) :=
  if rule.1.filter (test rule.2) = [] then none
  else some (rule.1.filter (test rule.2), rule.2)

/-- The style rules of a pruned tree are those of the tree, pruned one by one. -/
theorem styleRules_pruneNodes (scope : Scope) (test : List Declaration → String → Bool)
    (sheet : Stylesheet)
    : styleRules scope (pruneNodes scope test sheet)
      = (styleRules scope (withoutDropped scope sheet)).filterMap (chooseRule test) := by
  induction sheet using Stylesheet.induction with
  | nil => rfl
  | block name prelude body rest inner later =>
    rw [pruneNodes, withoutDropped, styleRules_append, styleRules_append,
      List.filterMap_append, later, List.append_left_inj]
    unfold pruneNode withoutDroppedOf
    by_cases dropped : scope.drops (.ruleBlock name prelude body) = true
    · simp [dropped, styleRules]
    · by_cases container : scope.retention (.ruleBlock name prelude body) = .container
      · have same (other : List Node)
            : scope.retention (.ruleBlock name prelude other) = .container :=
          container
        by_cases bare : pruneNodes scope test body = []
        · rw [bare] at inner
          simp [dropped, container, same, bare, styleRules, styleRulesOf, ← inner]
        · simp [dropped, container, same, bare, styleRules, styleRulesOf, inner]
      · have same (other : List Node)
            : scope.retention (.ruleBlock name prelude other) ≠ .container :=
          container
        by_cases bare : Stylesheet.withoutBareBlocks body = []
        · simp [dropped, container, Node.withoutBareBlocks, bare, styleRules, styleRulesOf]
        · simp [dropped, container, same, Node.withoutBareBlocks, bare, styleRules, styleRulesOf]
  | leaf node rest leaf later =>
    rw [pruneNodes, withoutDropped, styleRules_append, styleRules_append,
      List.filterMap_append, later, List.append_left_inj]
    unfold pruneNode withoutDroppedOf
    by_cases dropped : scope.drops node = true
    · simp [dropped, styleRules]
    · cases node with
      | ruleBlock => simp [Node.holdsRules] at leaf
      | style selectors declarations =>
        by_cases bare : selectors.filter (test declarations) = []
        · simp [drops_style, bare, styleRules, styleRulesOf, chooseRule]
        · simp [drops_style, bare, styleRules, styleRulesOf, chooseRule]
      | _ => simp [dropped, styleRules, styleRulesOf]

/-- The style rules that are reached in a pruned tree are those of the tree with the selectors that
satisfy the test. -/
theorem reaches_pruneNodes {selectors : List String} {declarations : List Declaration}
    (test : List Declaration → String → Bool) (textual : Stylesheet.Textual sheet)
    : Reaches scope selectors declarations (pruneNodes scope test sheet)
      ↔ ∃ all,
          Reaches scope all declarations sheet
          ∧ selectors = all.filter (test declarations)
          ∧ selectors ≠ [] := by
  rw [← mem_styleRules (textual_pruneNodes test textual),
    collectNodes_kept (collectNodes_stopped (textual_pruneNodes test textual)),
    withoutDropped_pruneNodes, styleRules_pruneNodes, List.mem_filterMap]
  constructor
  · rintro ⟨rule, member, chosen⟩
    unfold chooseRule at chosen
    split at chosen
    · cases chosen
    · rename_i filled
      cases chosen
      rw [← collectNodes_kept (collectNodes_stopped textual)] at member
      exact ⟨rule.1, (mem_styleRules textual).mp member, rfl, filled⟩
  · rintro ⟨all, reached, rfl, filled⟩
    have member := (mem_styleRules textual).mpr reached
    rw [collectNodes_kept (collectNodes_stopped textual)] at member
    exact ⟨_, member, if_neg filled⟩

end Trees

--------------------------------------------------------------------------------
-- Checks and rescues
--------------------------------------------------------------------------------

/-- Does undoing the clearing move something across the fold? -/
def Check.shifts (probe : Probe ε) (critical : List String) (check : Check) : Bool :=
  (probe.shiftsLayout check.query check.properties critical).isYes

/-- What an event tells of a selector that is kept for clearing: the selector and the clearing
properties of its rule. -/
def rescue? : Event → Option (String × List String)
  | .selectorRescued selector properties => some (selector, properties)
  | _ => none

/-- The selectors that are kept for clearing, by the events. -/
def rescues (events : List Event) : List (String × List String) :=
  events.filterMap rescue?

theorem rescues_append (left right : List Event)
    : rescues (left ++ right) = rescues left ++ rescues right :=
  List.filterMap_append

/-- Collecting keeps nothing for clearing. -/
theorem rescues_collectNodes (scope : Scope) (sheet : Stylesheet)
    : rescues (collectNodes scope sheet).events = [] := by
  have both {node : Node} {rest : List Node}
      (first : rescues (collectNode scope node).events = [])
      (others : rescues (collectNodes scope rest).events = [])
      : rescues (collectNodes scope (node :: rest)).events = [] := by
    unfold collectNodes
    dsimp only
    split
    · exact first
    · rw [rescues_append, first, others]
      rfl
  induction sheet using Stylesheet.induction with
  | nil => rfl
  | block name prelude body rest inner later =>
    refine both ?_ later
    unfold collectNode
    split
    · rfl
    · dsimp only
      split
      · exact inner
      · rfl
  | leaf node rest leaf later =>
    refine both ?_ later
    unfold collectNode
    split
    · rfl
    · cases node with
      | ruleBlock => simp [Node.holdsRules] at leaf
      | _ => rfl

theorem rescues_refusalEvents (refusals : List (String × String))
    : rescues (refusalEvents refusals) = [] := by
  induction refusals with
  | nil => rfl
  | cons refusal rest ih => exact ih

/-- On a page that answers them all checks are made, and those with a yes are told. -/
theorem runChecks_of_answers {probe : Probe ε} (answers : AnswersClearing probe)
    (critical : List String) (checks : List Check)
    : (runChecks probe critical checks).made = checks
      ∧ rescues (runChecks probe critical checks).events
        = (checks.filter (·.shifts probe critical)).map fun check =>
            (check.selector, check.properties) := by
  induction checks with
  | nil => exact ⟨rfl, rfl⟩
  | cons check rest ih =>
    obtain ⟨made, told⟩ := ih
    have unbroken := answers check.query check.properties critical
    unfold runChecks
    have shifts : check.shifts probe critical
        = (probe.shiftsLayout check.query check.properties critical).isYes :=
      rfl
    cases reply : probe.shiftsLayout check.query check.properties critical with
    | answer yes =>
      cases yes with
      | false =>
        rw [List.filter_cons_of_neg (by simp [shifts, reply, Reply.isYes])]
        exact ⟨congrArg _ made, told⟩
      | true =>
        rw [List.filter_cons_of_pos (by simp [shifts, reply, Reply.isYes])]
        exact ⟨congrArg _ made, congrArg _ told⟩
    | refused message =>
      rw [List.filter_cons_of_neg (by simp [shifts, reply, Reply.isYes])]
      exact ⟨congrArg _ made, told⟩
    | broken fault => simp [reply, Reply.isBroken] at unbroken

section Checks

variable {settings : Settings} {probe : Probe ε} {critical : List String}

theorem dueChecks_cons (visible : String → Bool) (rule : List String × List Declaration)
    (rules : List (List String × List Declaration))
    : dueChecks settings visible (rule :: rules)
      = dueChecks settings visible [rule] ++ dueChecks settings visible rules := by
  simp [dueChecks]

/-- The checks that are due depend on the answers to the queries of the rules only. -/
theorem dueChecks_congr {visible other : String → Bool}
    {rules : List (List String × List Declaration)}
    (agree : ∀ query ∈ distinctQueries settings rules, visible query = other query)
    : dueChecks settings visible rules = dueChecks settings other rules := by
  refine List.flatMap_congr fun rule inRules => ?_
  dsimp only
  split
  · rfl
  · refine List.filterMap_congr fun selector inRule => ?_
    cases found : settings.query? selector with
    | none => rfl
    | some query =>
      have asked : query ∈ distinctQueries settings rules :=
        mem_distinctQueries.mpr ⟨rule, inRules, selector, inRule, query?_eq_some.mp found⟩
      simp [agree query asked]

/-- A selector that is left to the page is kept if it shows, or shapes the fold by clearing. -/
theorem keeps_of_leaves {declarations : List Declaration} {selector query : String}
    (leaves : settings.LeavesToPage selector query)
    : settings.keeps probe critical declarations selector
      = ((probe.isVisible query).isYes
        || (!(settings.clearingAmong declarations).isEmpty
          && (probe.shiftsLayout query (settings.clearingAmong declarations) critical).isYes)) := by
  obtain ⟨noState, unforced, found⟩ := leaves
  simp [Settings.keeps, noState, unforced, found]

/-- Among the selectors that are checked, those are kept whose check has a yes. -/
theorem dueChecks_filter (selectors : List String) (declarations : List Declaration)
    : dueChecks settings (fun query => (probe.isVisible query).isYes)
          [(selectors.filter (settings.keeps probe critical declarations), declarations)]
      = (dueChecks settings (fun query => (probe.isVisible query).isYes)
          [(selectors, declarations)]).filter (·.shifts probe critical) := by
  simp only [dueChecks, List.flatMap_cons, List.flatMap_nil, List.append_nil]
  split
  · rfl
  · rename_i declared
    rw [List.filterMap_filter, List.filter_filterMap]
    refine List.filterMap_congr fun selector _ => ?_
    cases found : settings.query? selector with
    | none => simp
    | some query =>
      rw [keeps_of_leaves (query?_eq_some.mp found)]
      cases shown : (probe.isVisible query).isYes with
      | true => simp [shown]
      | false =>
        cases yes : (probe.shiftsLayout query (settings.clearingAmong declarations) critical).isYes
          <;> simp [shown, declared, Check.shifts, Option.filter, yes]

/-- The checks that are due for the chosen rules are those that had a yes. -/
theorem dueChecks_chooseRule (rules : List (List String × List Declaration))
    : dueChecks settings (fun query => (probe.isVisible query).isYes)
          (rules.filterMap (chooseRule (settings.keeps probe critical)))
      = (dueChecks settings (fun query => (probe.isVisible query).isYes) rules).filter
          (·.shifts probe critical) := by
  induction rules with
  | nil => rfl
  | cons rule rules ih =>
    rw [dueChecks_cons, List.filter_append, ← ih, ← dueChecks_filter, List.filterMap_cons]
    unfold chooseRule
    split
    · rename_i none
      split at none
      · rename_i bare
        simp [bare, dueChecks]
      · cases none
    · rename_i chosen some
      split at some
      · cases some
      · cases some
        rw [dueChecks_cons]

end Checks

--------------------------------------------------------------------------------
-- Outcomes
--------------------------------------------------------------------------------

/-- The style rules whose selectors are decided, as they stand in the sheet. -/
def decidedRules (settings : Settings) (sheet : Stylesheet)
    : List (List String × List Declaration) :=
  styleRules settings.scope (withoutDropped settings.scope sheet)

/-- The checks that are due on a page. -/
def checksOn (probe : Probe ε) (settings : Settings) (sheet : Stylesheet) : List Check :=
  dueChecks settings (fun query => (probe.isVisible query).isYes) (decidedRules settings sheet)

/-- What selection from a sheet comes to on a page that answers: the tree, what the page is asked
about clearing, and the selectors that are kept for it. -/
structure Selects (settings : Settings) (probe : Probe ε) (sheet : Stylesheet)
    (critical : List String) (result : Result ε)
    : Prop where
  isCritical : IsCritical settings probe sheet critical
  done : result.ending = .done
  pruned : result.sheet = pruneNodes settings.scope (settings.keeps probe critical) sheet
  clearing
    : result.trace.clearing
      = (checksOn probe settings sheet).map fun check =>
          (check.query, check.properties, critical)
  rescues
    : rescues result.events
      = ((checksOn probe settings sheet).filter (·.shifts probe critical)).map fun check =>
          (check.selector, check.properties)

section Outcomes

variable {settings : Settings} {probe again : Probe ε} {sheet : Stylesheet}
  {critical other : List String}

/-- The critical queries of a sheet are determined by the page. -/
theorem IsCritical.unique (first : IsCritical settings probe sheet critical)
    (second : IsCritical settings probe sheet other)
    : critical = other := by
  have same : critical.Perm other :=
    (List.perm_ext_iff_of_nodup (nodup_of_increasing first.ordered)
      (nodup_of_increasing second.ordered)).mpr fun query =>
        (first.mem_iff query).trans (second.mem_iff query).symm
  refine List.Perm.eq_of_pairwise (fun a b _ _ less greater => ?_) first.ordered second.ordered same
  exact absurd (String.lt_trans less greater) (String.lt_irrefl a)

/-- On a page that answers every question selection comes to what the page and the sheet say. -/
theorem exists_selects (settings : Settings) (clock : Nat) (textual : Stylesheet.Textual sheet)
    (answering : FanOut.Answering probe.isVisible) (clearing : AnswersClearing probe)
    : ∃ critical,
        Selects settings probe sheet critical (run settings probe clock none sheet) := by
  have unstopped : (collectNodes settings.scope sheet).stopped = false :=
    collectNodes_stopped textual
  have kept := collectNodes_kept unstopped
  have done : (run settings probe clock none sheet).ending = .done :=
    (run_ending clock none textual answering clearing).resolve_right fun late => late.2 rfl
  obtain ⟨critical, isCritical, pruned⟩ := exists_pruned_of_done textual done
  obtain ⟨asked, moment, answered, reached⟩ := exists_asked_of_done textual done
  have known := isVisible_of_answered moment answered
  -- What is critical by the collected answers is what the page says.
  have same := (isCritical_filter textual known).unique isCritical
  have rules : styleRules settings.scope (withoutDropped settings.scope sheet)
      = decidedRules settings sheet :=
    rfl
  rw [kept, rules] at same known
  rw [kept] at reached
  have due : dueChecks settings (isVisible asked.answers) (decidedRules settings sheet)
      = checksOn probe settings sheet :=
    dueChecks_congr known
  obtain ⟨made, told⟩ := runChecks_of_answers clearing critical (checksOn probe settings sheet)
  refine ⟨critical, isCritical, done, pruned, ?_, ?_⟩
  · rw [reached, Selection.decide]
    simp only [rules, same, due, runChecks_fault clearing, made]
  · rw [reached, Selection.decide]
    simp only [rules, same, due, runChecks_fault clearing]
    rw [rescues_append, rescues_append, rescues_append, rescues_collectNodes,
      rescues_refusalEvents, told]
    simp [rescues, rescue?]

/-- The second page answers every question as the first one does, if in another time. -/
structure Alike (probe again : Probe ε) : Prop where
  isVisible : ∀ query, (again.isVisible query).reply? = (probe.isVisible query).reply?
  shiftsLayout
    : ∀ query properties critical,
        again.shiftsLayout query properties critical
          = probe.shiftsLayout query properties critical

theorem Alike.isYes (alike : Alike probe again) (query : String)
    : (again.isVisible query).isYes = (probe.isVisible query).isYes := by
  rw [Response.isYes, alike.isVisible, Response.isYes]

theorem Alike.answering (alike : Alike probe again)
    (answering : FanOut.Answering probe.isVisible)
    : FanOut.Answering again.isVisible := by
  intro query
  obtain ⟨reply, own, unbroken⟩ := answering query
  exact ⟨reply, (alike.isVisible query).trans own, unbroken⟩

theorem Alike.answersClearing (alike : Alike probe again) (clearing : AnswersClearing probe)
    : AnswersClearing again := by
  intro query properties critical
  rw [alike.shiftsLayout]
  exact clearing query properties critical

/-- The test on selectors takes no notice of the time that a page takes. -/
theorem Alike.keeps (alike : Alike probe again) (settings : Settings) (critical : List String)
    : settings.keeps again critical = settings.keeps probe critical := by
  funext declarations selector
  simp only [Settings.keeps, alike.isYes, alike.shiftsLayout]

/-- What is critical stays critical when the sheet is pruned, and nothing else becomes so.
Witness: a selector whose query is critical passes the test.
-/
theorem IsCritical.pruneNodes (alike : Alike probe again) (textual : Stylesheet.Textual sheet)
    (isCritical : IsCritical settings probe sheet critical)
    : IsCritical settings again
        (pruneNodes settings.scope (settings.keeps probe critical) sheet) critical := by
  refine ⟨isCritical.ordered, fun query => ?_⟩
  rw [isCritical.mem_iff, alike.isYes]
  refine and_congr_right fun shown => ?_
  constructor
  · rintro ⟨all, declarations, reached, selector, inRule, leaves⟩
    have kept : selector ∈ all.filter (settings.keeps probe critical declarations) := by
      rw [List.mem_filter, keeps_of_leaves leaves, shown]
      exact ⟨inRule, Bool.true_or _⟩
    exact ⟨_, declarations,
      (reaches_pruneNodes _ textual).mpr ⟨all, reached, rfl, List.ne_nil_of_mem kept⟩,
      selector, kept, leaves⟩
  · rintro ⟨selectors, declarations, reached, selector, inRule, leaves⟩
    obtain ⟨all, before, rfl, _⟩ := (reaches_pruneNodes _ textual).mp reached
    exact ⟨all, declarations, before, selector, (List.mem_filter.mp inRule).1, leaves⟩

/-- On a pruned sheet the checks are due that had a yes before. -/
theorem checksOn_pruneNodes (alike : Alike probe again) (settings : Settings)
    (critical : List String) (sheet : Stylesheet)
    : checksOn again settings (pruneNodes settings.scope (settings.keeps probe critical) sheet)
      = (checksOn probe settings sheet).filter (·.shifts probe critical) := by
  have visible : (fun query => (again.isVisible query).isYes)
      = fun query => (probe.isVisible query).isYes :=
    funext alike.isYes
  rw [checksOn, decidedRules, withoutDropped_pruneNodes, styleRules_pruneNodes, visible,
    dueChecks_chooseRule]
  rfl

end Outcomes

--------------------------------------------------------------------------------
-- Selecting twice
--------------------------------------------------------------------------------

/-- The second of two selections, from what the first one leaves, finds nothing to do. -/
structure Repeats (settings : Settings) (probe : Probe ε) (sheet : Stylesheet)
    (critical : List String) (first second : Result ε)
    : Prop where
  done : first.ending = .done ∧ second.ending = .done
  unchanged : second.sheet = first.sheet
  isCritical : IsCritical settings probe sheet critical
  /-- Both times the page is handed what is critical with every question about clearing. -/
  handed
    : (∀ check ∈ first.trace.clearing, check.2.2 = critical)
      ∧ ∀ check ∈ second.trace.clearing, check.2.2 = critical
  /-- It is asked again, in the same order, what it said yes to. -/
  asked
    : second.trace.clearing
      = first.trace.clearing.filter fun check =>
          (probe.shiftsLayout check.1 check.2.1 check.2.2).isYes
  /-- The same selectors are kept for clearing. -/
  rescued : rescues second.events = rescues first.events

/-- Selecting again from what was selected from a sheet that was read changes nothing, on a page
that answers every question as it did, at whatever time. -/
theorem repeats_run {settings : Settings} {probe again : Probe ε} {css : String}
    {reading : Reading} (clock later : Nat) (read : Stylesheet.read css = .ok reading)
    (answering : FanOut.Answering probe.isVisible) (clearing : AnswersClearing probe)
    (alike : Alike probe again)
    : ∃ critical,
        Repeats settings probe reading.sheet critical
          (run settings probe clock none reading.sheet)
          (run settings again later none (run settings probe clock none reading.sheet).sheet) := by
  have textual := Stylesheet.textual_read read
  obtain ⟨critical, first⟩ := exists_selects settings clock textual answering clearing
  refine ⟨critical, ?_⟩
  rw [first.pruned]
  obtain ⟨other, second⟩ := exists_selects settings later
    (textual_pruneNodes (settings.keeps probe critical) textual) (alike.answering answering)
    (alike.answersClearing clearing)
  have same : other = critical :=
    second.isCritical.unique (first.isCritical.pruneNodes alike textual)
  subst same
  have due := checksOn_pruneNodes alike settings other reading.sheet
  have handed {result : Result ε} {sheet : Stylesheet} {probe : Probe ε}
      (selects : Selects settings probe sheet other result)
      : ∀ check ∈ result.trace.clearing, check.2.2 = other := by
    intro check member
    rw [selects.clearing] at member
    obtain ⟨made, _, rfl⟩ := List.mem_map.mp member
    rfl
  exact {
    done := ⟨first.done, second.done⟩
    unchanged := by
      rw [second.pruned, alike.keeps, pruneNodes_pruneNodes, first.pruned]
    isCritical := first.isCritical
    handed := ⟨handed first, handed second⟩
    asked := by
      rw [second.clearing, first.clearing, due, List.filter_map]
      rfl
    rescued := by
      rw [second.rescues, first.rescues, due, List.filter_filter]
      simp [Check.shifts, alike.shiftsLayout] }

/-- A page that shows `a`, and would show something else if `b` did not clear while just `a` is
critical. Each reply takes some time. -/
def shiftingPage (delay : Nat) : Probe Unit where
  isVisible query := .later delay (.answer (query == "a"))
  shiftsLayout query properties critical :=
    .answer (query == "b" && properties == ["clear"] && critical == ["a"])

theorem shiftingPage_answers (delay : Nat) : FanOut.Answering (shiftingPage delay).isVisible :=
  fun query => ⟨.answer (query == "a"), rfl, rfl⟩

/-- A sheet with a selector to keep for clearing, between others that go. -/
def clearedSheet : Stylesheet :=
  [.style ["c", "b", "b:hover"] [.set "clear" "both" false], .style ["a"] [.set "top" "0" false],
    .ruleBlock "media" "print" [.style ["a"] [.set "top" "0" false]]]

/-- Of the queries for the sheet the page shows one. -/
theorem isCritical_clearedSheet (delay : Nat)
    : IsCritical plainSettings (shiftingPage delay) clearedSheet ["a"] := by
  have found
      : (((styleRules plainSettings.scope
            (collectNodes plainSettings.scope clearedSheet).kept).flatMap (·.1)).filterMap
          plainSettings.query?).eraseDups = ["c", "b", "a"] := by
    decide +kernel
  have queries
      : distinctQueries plainSettings
          (styleRules plainSettings.scope (collectNodes plainSettings.scope clearedSheet).kept)
        = ["a", "b", "c"] := by
    rw [distinctQueries, found]
    exact sorted_eq (List.reverse_perm ["c", "b", "a"]) (by decide)
  have textual : Stylesheet.Textual clearedSheet := by
    simp [clearedSheet, Stylesheet.Textual, Node.Textual, ruleBlockNames]
  have isCritical
      : IsCritical plainSettings (shiftingPage delay) clearedSheet
          ((distinctQueries plainSettings
              (styleRules plainSettings.scope
                (collectNodes plainSettings.scope clearedSheet).kept)).filter
            fun query => ((shiftingPage delay).isVisible query).isYes) :=
    isCritical_filter textual fun _ _ => rfl
  rw [queries] at isCritical
  exact isCritical

/-- The shifting page keeps `b` for clearing, and a faster one like it keeps it again. -/
theorem repeats_run_shiftingPage
    : Stylesheet.read
          "c, b, b:hover { clear: both } a { top: 0 } @media print { a { top: 0 } }"
        = .ok ⟨clearedSheet, []⟩
      ∧ (∃ critical,
          Repeats plainSettings (shiftingPage 5) clearedSheet critical
            (run plainSettings (shiftingPage 5) 0 none clearedSheet)
            (run plainSettings (shiftingPage 1) 7 none
              (run plainSettings (shiftingPage 5) 0 none clearedSheet).sheet))
      ∧ (run plainSettings (shiftingPage 5) 0 none clearedSheet).sheet
        = [.style ["b"] [.set "clear" "both" false], .style ["a"] [.set "top" "0" false]]
      ∧ (run plainSettings (shiftingPage 5) 0 none clearedSheet).trace.clearing
        = [("c", ["clear"], ["a"]), ("b", ["clear"], ["a"])] := by
  have read : Stylesheet.read
      "c, b, b:hover { clear: both } a { top: 0 } @media print { a { top: 0 } }"
      = .ok ⟨clearedSheet, []⟩ :=
    Stylesheet.read_of_reads (by decide +kernel)
  obtain ⟨critical, selects⟩ := exists_selects plainSettings 0
    (Stylesheet.textual_read read) (shiftingPage_answers 5) fun _ _ _ => rfl
  obtain rfl : critical = ["a"] := selects.isCritical.unique (isCritical_clearedSheet 5)
  refine ⟨read,
    repeats_run 0 7 read (shiftingPage_answers 5) (fun _ _ _ => rfl)
      ⟨fun _ => rfl, fun _ _ _ => rfl⟩, ?_, ?_⟩
  · rw [selects.pruned]
    exact Stylesheet.eq_of_same (by decide +kernel)
  · rw [selects.clearing]
    decide +kernel

end Selection

end CriticalCss
