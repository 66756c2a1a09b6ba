import CriticalCss.Proofs.Media.Monotonicity
import CriticalCss.Proofs.Selection.Completion
import Mathlib.Data.List.Sort

/-! Looser options keep more. Asking about selectors with a vendor's pseudo as well, or looking into
media blocks for larger screens, adds queries and rules and takes none away. What is critical can
only grow with that, and so can what clearing keeps, on a page that moves something with more
critical elements whenever it does with fewer.
-/

namespace CriticalCss

--------------------------------------------------------------------------------
-- Trees within trees
--------------------------------------------------------------------------------

/-- The first list of rules comes from the second by taking out rules, selectors of style rules, and
the same inside of blocks. -/
inductive Stylesheet.Within : List Node → List Node → Prop where
  | nil : Within [] []
  | gone (node : Node) {less more : List Node} (later : Within less more)
    : Within less (node :: more)
  | same (node : Node) {less more : List Node} (later : Within less more)
    : Within (node :: less) (node :: more)
  | style {fewer selectors : List String} (declarations : List Declaration)
      {less more : List Node} (part : fewer.Sublist selectors) (later : Within less more)
    : Within (.style fewer declarations :: less) (.style selectors declarations :: more)
  | block (name prelude : String) {inner body less more : List Node} (part : Within inner body)
      (later : Within less more)
    : Within (.ruleBlock name prelude inner :: less) (.ruleBlock name prelude body :: more)

theorem Stylesheet.Within.refl (sheet : List Node) : Within sheet sheet := by
  induction sheet with
  | nil => exact .nil
  | cons node rest ih => exact .same node ih

theorem Stylesheet.Within.empty (sheet : List Node) : Within [] sheet := by
  induction sheet with
  | nil => exact .nil
  | cons node rest ih => exact .gone node ih

theorem Stylesheet.Within.append {less more left right : List Node} (first : Within less more)
    (second : Within left right)
    : Within (less ++ left) (more ++ right) := by
  induction first with
  | nil => exact second
  | gone node _ ih => exact .gone node ih
  | same node _ ih => exact .same node ih
  | style declarations part _ ih => exact .style declarations part ih
  | block name prelude part _ _ ih => exact .block name prelude part ih

/-- Nothing is within nothing but nothing. -/
theorem Stylesheet.Within.eq_nil {sheet : List Node} (within : Within sheet []) : sheet = [] := by
  cases within
  rfl

--------------------------------------------------------------------------------
-- Treatments
--------------------------------------------------------------------------------

namespace Selection

variable {ε : Type}

/-- The second options are at least as loose as the first: no stricter, with media queries for
larger screens if the first have them, and the same otherwise but for the number of questions. -/
structure Options.Looser (first second : Options) : Prop where
  strict : second.strict = true → first.strict = true
  keepLarger : first.keepLarger = true → second.keepLarger = true
  clearing : second.clearing = first.clearing

/-- The same settings with other options. -/
def Settings.under (settings : Settings) (options : Options) : Settings :=
  { settings with options := options }

section Scopes

variable {settings : Settings} {first second : Options} {node : Node}

/-- What may match for the first options may match for looser ones. -/
theorem mayMatch_of_looser {prelude : String} {viewport : Viewport} (looser : first.Looser second)
    (matching : Media.mayMatch prelude viewport first.keepLarger = true)
    : Media.mayMatch prelude viewport second.keepLarger = true :=
  Media.mayMatch_mono (Int.le_refl _) (Int.le_refl _) looser.keepLarger matching

variable (settings) in
/-- Looser options treat a rule in the same way, or look into a media block that was dropped. -/
theorem retention_of_looser (looser : first.Looser second) (node : Node)
    : (settings.under second).scope.retention node = (settings.under first).scope.retention node
      ∨ (settings.under first).scope.retention node = .unmatchedMedia
        ∧ (settings.under second).scope.retention node = .container := by
  have treated (name prelude : String) (holdsRules : Bool)
      : Retention.ofAtRule name prelude holdsRules (some settings.viewport) second.keepLarger
          = Retention.ofAtRule name prelude holdsRules (some settings.viewport) first.keepLarger
        ∨ Retention.ofAtRule name prelude holdsRules (some settings.viewport) first.keepLarger
            = .unmatchedMedia
          ∧ Retention.ofAtRule name prelude holdsRules (some settings.viewport) second.keepLarger
            = .container := by
    unfold Retention.ofAtRule
    dsimp only
    split
    · exact Or.inl rfl
    · split
      · exact Or.inl rfl
      · split
        · exact Or.inl rfl
        · split
          · by_cases named : Text.lowerString name = "media"
            · simp only [named, decide_true, Bool.true_and, Bool.not_eq_true']
              cases before : Media.mayMatch prelude settings.viewport first.keepLarger with
              | true => exact Or.inl (by rw [mayMatch_of_looser looser before])
              | false =>
                cases after : Media.mayMatch prelude settings.viewport second.keepLarger with
                | true => exact Or.inr ⟨rfl, rfl⟩
                | false => exact Or.inl rfl
            · exact Or.inl (by simp [named])
          · exact Or.inl rfl
  cases node with
  | style => exact Or.inl rfl
  | foreign => exact Or.inl rfl
  | _ => exact treated _ _ _

/-- Looser options drop nothing that was kept before. -/
theorem kept_of_looser (looser : first.Looser second)
    (kept : (settings.under first).scope.drops node = false)
    : (settings.under second).scope.drops node = false := by
  rcases retention_of_looser settings looser node with same | ⟨_, container⟩
  · simpa only [Scope.drops, same] using kept
  · exact drops_of_container container

/-- Looser options treat a rule that was not dropped in the same way. -/
theorem retention_of_kept (looser : first.Looser second)
    (kept : (settings.under first).scope.drops node = false)
    : (settings.under second).scope.retention node
      = (settings.under first).scope.retention node := by
  refine (retention_of_looser settings looser node).resolve_right fun ⟨dropped, _⟩ => ?_
  simp [Scope.drops, dropped] at kept

/-- Looser options go through the containers that were gone through before. -/
theorem container_of_looser (looser : first.Looser second)
    (container : (settings.under first).scope.retention node = .container)
    : (settings.under second).scope.retention node = .container := by
  rcases retention_of_looser settings looser node with same | ⟨dropped, _⟩
  · exact same.trans container
  · rw [container] at dropped
    cases dropped

/-- A style rule that was reached is reached under looser options. -/
theorem reaches_of_looser {selectors : List String} {declarations : List Declaration}
    {sheet : Stylesheet} (looser : first.Looser second)
    (reached : Reaches (settings.under first).scope selectors declarations sheet)
    : Reaches (settings.under second).scope selectors declarations sheet := by
  induction reached with
  | here member => exact .here member
  | inside member container _ ih => exact .inside member (container_of_looser looser container) ih

end Scopes

--------------------------------------------------------------------------------
-- Selectors
--------------------------------------------------------------------------------

/-- Clearing that moves something with some elements critical moves something with more, too. -/
def ClearingMonotone (probe : Probe ε) : Prop :=
  ∀ query properties, ∀ {fewer critical : List String},
    fewer.Sublist critical
      → (probe.shiftsLayout query properties fewer).isYes = true
        → (probe.shiftsLayout query properties critical).isYes = true

section Selectors

variable {settings : Settings} {first second : Options} {probe : Probe ε} {sheet : Stylesheet}
  {fewer critical : List String}

/-- The query of a selector does not depend on the strictness, if there is one. -/
theorem queryFor?_of_looser {selector query : String} (looser : first.Looser second)
    (found : Selector.queryFor? selector first.strict = some query)
    : Selector.queryFor? selector second.strict = some query := by
  unfold Selector.queryFor? at found ⊢
  dsimp only at found ⊢
  split
  · rename_i vendor
    cases strict : second.strict with
    | true => simp [vendor, looser.strict strict] at found
    | false =>
      cases before : first.strict with
      | true => simp [vendor, before] at found
      | false => simpa [vendor, before] using found
  · rename_i plain
    simpa [plain] using found

/-- What is critical under the first options is critical under looser ones, in the same order. -/
theorem critical_of_looser (looser : first.Looser second)
    (less : IsCritical (settings.under first) probe sheet fewer)
    (more : IsCritical (settings.under second) probe sheet critical)
    : fewer.Sublist critical := by
  have distinct : fewer.Nodup := nodup_of_increasing less.ordered
  refine List.sublist_of_subperm_of_pairwise (r := (· < ·)) (distinct.subperm ?_) less.ordered
    more.ordered
  intro query member
  obtain ⟨yes, selectors, declarations, reached, selector, inRule, noState, unforced, found⟩ :=
    (less.mem_iff query).mp member
  exact (more.mem_iff query).mpr ⟨yes, selectors, declarations, reaches_of_looser looser reached,
    selector, inRule, noState, unforced, queryFor?_of_looser looser found⟩

/-- A selector that passes the test under the first options passes it under looser ones, with more
critical queries. -/
theorem keeps_of_looser {declarations : List Declaration} {selector : String}
    (looser : first.Looser second) (monotone : ClearingMonotone probe)
    (part : fewer.Sublist critical)
    (kept : (settings.under first).keeps probe fewer declarations selector = true)
    : (settings.under second).keeps probe critical declarations selector = true := by
  have clearing : (settings.under second).clearingAmong declarations
      = (settings.under first).clearingAmong declarations := by
    simp [Settings.clearingAmong, Settings.under, looser.clearing]
  unfold Settings.keeps at kept ⊢
  rw [Bool.and_eq_true, Bool.or_eq_true] at kept ⊢
  refine ⟨kept.1, kept.2.imp_right fun asked => ?_⟩
  cases found : Selector.queryFor? selector (settings.under first).options.strict with
  | none => simp [found] at asked
  | some query =>
    have found' : Selector.queryFor? selector (settings.under second).options.strict = some query :=
      queryFor?_of_looser looser found
    rw [found, Option.any_some, Bool.or_eq_true, Bool.and_eq_true] at asked
    rw [found', Option.any_some, clearing, Bool.or_eq_true, Bool.and_eq_true]
    exact asked.imp_right fun shapes => ⟨shapes.1, monotone _ _ part shapes.2⟩

end Selectors

--------------------------------------------------------------------------------
-- Trees
--------------------------------------------------------------------------------

/-- Pruning with a looser test under looser options leaves a tree that the tree left before is
within.
Witness: induction on the tree; a block that is left before is not empty, so neither is the other.
-/
theorem within_pruneNodes {settings : Settings} {first second : Options}
    {few many : List Declaration → String → Bool} (looser : first.Looser second)
    (more
      : ∀ declarations selector,
          few declarations selector = true → many declarations selector = true)
    (sheet : Stylesheet)
    : Stylesheet.Within (pruneNodes (settings.under first).scope few sheet)
        (pruneNodes (settings.under second).scope many sheet) := by
  have filters (selectors : List String) (declarations : List Declaration)
      : (selectors.filter (few declarations)).Sublist (selectors.filter (many declarations)) :=
    List.monotone_filter_right selectors fun selector => by
      simpa using more declarations selector
  induction sheet using Stylesheet.induction with
  | nil => exact .nil
  | block name prelude body rest inner later =>
    refine .append ?_ later
    cases dropped : (settings.under first).scope.drops (.ruleBlock name prelude body) with
    | true =>
      simp only [pruneNode, dropped, if_true]
      exact .empty _
    | false =>
      have same := retention_of_kept looser dropped
      have kept := kept_of_looser looser dropped
      unfold pruneNode
      simp only [dropped, kept, same, Bool.false_eq_true, if_false]
      by_cases container
          : (settings.under first).scope.retention (.ruleBlock name prelude body) = .container
      · simp only [container, if_true]
        by_cases bare : pruneNodes (settings.under first).scope few body = []
        · simp only [bare, if_true]
          exact .empty _
        · have filled : pruneNodes (settings.under second).scope many body ≠ [] := fun none =>
            bare (none ▸ inner).eq_nil
          simp only [bare, filled, if_false]
          exact .block name prelude inner .nil
      · simp only [container, if_false]
        exact .refl _
  | leaf node rest leaf later =>
    refine .append ?_ later
    unfold pruneNode
    cases dropped : (settings.under first).scope.drops node with
    | true =>
      simp only [if_true]
      exact .empty _
    | false =>
      have kept := kept_of_looser looser dropped
      simp only [kept, Bool.false_eq_true, if_false]
      cases node with
      | ruleBlock => simp [Node.holdsRules] at leaf
      | style selectors declarations =>
        dsimp only
        by_cases bare : selectors.filter (few declarations) = []
        · simp only [bare, if_true]
          exact .empty _
        · have filled : selectors.filter (many declarations) ≠ [] := fun none =>
            bare (List.sublist_nil.mp (none ▸ filters selectors declarations))
          simp only [bare, filled, if_false]
          exact .style declarations (filters selectors declarations) .nil
      | _ => exact .refl _

--------------------------------------------------------------------------------
-- Runs
--------------------------------------------------------------------------------

/-- Two selections from one sheet that are both done, where the second keeps at least what the first
does: the sheet is pruned both times, each rule and each selector that is kept the first time
is kept the second time. -/
structure KeepsMore (sheet : Stylesheet) (firstScope secondScope : Scope) (first second : Result ε)
    (few many : List Declaration → String → Bool)
    : Prop where
  done : first.ending = .done ∧ second.ending = .done
  pruned
    : first.sheet = pruneNodes firstScope few sheet
      ∧ second.sheet = pruneNodes secondScope many sheet
  rules : ∀ node, firstScope.drops node = false → secondScope.drops node = false
  selectors
    : ∀ declarations selector,
        few declarations selector = true → many declarations selector = true
  within : Stylesheet.Within first.sheet second.sheet

/-- Looser options keep at least what the options before keep of a sheet that was read. -/
theorem keepsMore_run {settings : Settings} {first second : Options} {probe : Probe ε}
    {css : String} {reading : Reading} (clock : Nat) (read : Stylesheet.read css = .ok reading)
    (answering : FanOut.Answering probe.isVisible) (clearing : AnswersClearing probe)
    (monotone : ClearingMonotone probe) (looser : first.Looser second)
    : ∃ fewer critical,
        fewer.Sublist critical
        ∧ KeepsMore reading.sheet (settings.under first).scope (settings.under second).scope
            (run (settings.under first) probe clock none reading.sheet)
            (run (settings.under second) probe clock none reading.sheet)
            ((settings.under first).keeps probe fewer)
            ((settings.under second).keeps probe critical) := by
  have textual := Stylesheet.textual_read read
  have done (options : Options)
      : (run (settings.under options) probe clock none reading.sheet).ending = .done :=
    (run_ending clock none textual answering clearing).resolve_right fun late => late.2 rfl
  obtain ⟨fewer, less, before⟩ := exists_pruned_of_done textual (done first)
  obtain ⟨critical, more, after⟩ := exists_pruned_of_done textual (done second)
  have part := critical_of_looser looser less more
  have selectors (declarations : List Declaration) (selector : String)
      : (settings.under first).keeps probe fewer declarations selector = true
        → (settings.under second).keeps probe critical declarations selector = true :=
    keeps_of_looser looser monotone part
  refine ⟨fewer, critical, part, ⟨done first, done second⟩, ⟨before, after⟩,
    fun node => kept_of_looser looser, selectors, ?_⟩
  rw [before, after]
  exact within_pruneNodes looser selectors reading.sheet

/-- A sheet with a media block for large screens and a selector with a vendor's pseudo. -/
def largeSheet : Stylesheet :=
  [.ruleBlock "media" "(min-width: 5000px)" [.style ["a"] [.set "top" "0" false]],
    .style ["a:-moz-b", "a"] [.set "top" "0" false]]

/-- On the slow page strict options without larger screens keep one of the three selectors, loose
ones keep all. -/
theorem keepsMore_run_slowPage
    : Stylesheet.read
          "@media (min-width: 5000px) { a { top: 0 } } a:-moz-b, a { top: 0 }"
        = .ok ⟨largeSheet, []⟩
      ∧ Options.Looser { strict := true } { keepLarger := true }
      ∧ (∃ fewer critical,
          fewer.Sublist critical
          ∧ KeepsMore largeSheet (plainSettings.under { strict := true }).scope
              (plainSettings.under { keepLarger := true }).scope
              (run (plainSettings.under { strict := true }) slowPage 0 none largeSheet)
              (run (plainSettings.under { keepLarger := true }) slowPage 0 none largeSheet)
              ((plainSettings.under { strict := true }).keeps slowPage fewer)
              ((plainSettings.under { keepLarger := true }).keeps slowPage critical))
      ∧ (run (plainSettings.under { strict := true }) slowPage 0 none largeSheet).sheet
        = [.style ["a"] [.set "top" "0" false]]
      ∧ (run (plainSettings.under { keepLarger := true }) slowPage 0 none largeSheet).sheet
        = largeSheet := by
  have read : Stylesheet.read
      "@media (min-width: 5000px) { a { top: 0 } } a:-moz-b, a { top: 0 }"
      = .ok ⟨largeSheet, []⟩ :=
    Stylesheet.read_of_reads (by decide +kernel)
  have looser : Options.Looser { strict := true } { keepLarger := true } :=
    ⟨fun _ => rfl, fun _ => rfl, rfl⟩
  exact ⟨read, looser,
    keepsMore_run 0 read slowPage_answers (fun _ _ _ => rfl) (fun _ _ _ _ _ yes => yes) looser,
    Stylesheet.eq_of_same (by decide +kernel), Stylesheet.eq_of_same (by decide +kernel)⟩

end Selection

end CriticalCss
