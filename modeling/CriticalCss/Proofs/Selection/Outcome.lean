import CriticalCss.Proofs.Selection.FanOut
import CriticalCss.Proofs.Selection.Pruning
import CriticalCss.Selection

/-! The test by which selection prunes the tree on a page that answers every question. It is about
the page and the texts; nothing of the order of the questions, of the times of the replies, or of
what several selectors share is left in it.
-/

namespace CriticalCss.Selection

variable {ε : Type}

--------------------------------------------------------------------------------
-- The test
--------------------------------------------------------------------------------

/-- The page decides about a selector: its text neither excludes it nor keeps it, and there is a
query for it. -/
def Settings.LeavesToPage (settings : Settings) (selector query : String) : Prop :=
  Selector.isInteractive settings.interactive selector = false
  ∧ settings.matcher.keeps selector = false
  ∧ Selector.queryFor? selector settings.options.strict = some query

/-- Is a selector kept in a rule with the given declarations? It must not be interactive, and must
be force-included, or show in the viewport, or shape the fold by clearing, given what is
critical. -/
def Settings.keeps (settings : Settings) (probe : Probe ε) (critical : List String)
    (declarations : List Declaration) (selector : String)
    : Bool :=
  !Selector.isInteractive settings.interactive selector
    && (settings.matcher.keeps selector
      || (Selector.queryFor? selector settings.options.strict).any fun query =>
          (probe.isVisible query).isYes
            || (!(settings.clearingAmong declarations).isEmpty
              && (probe.shiftsLayout query (settings.clearingAmong declarations) critical).isYes))

/-- The critical queries of a sheet, each once and in order: those of the selectors left to the page
that show in the viewport. -/
structure IsCritical (settings : Settings) (probe : Probe ε) (sheet : Stylesheet)
    (critical : List String)
    : Prop where
  ordered : critical.Pairwise (· < ·)
  mem_iff
    : ∀ query,
        query ∈ critical
          ↔ (probe.isVisible query).isYes = true
            ∧ ∃ selectors declarations,
                Reaches settings.scope selectors declarations sheet
                ∧ ∃ selector ∈ selectors, settings.LeavesToPage selector query

/-- The page answers or refuses every question about clearing. -/
def AnswersClearing (probe : Probe ε) : Prop :=
  ∀ query properties critical, (probe.shiftsLayout query properties critical).isBroken = false

--------------------------------------------------------------------------------
-- Queries
--------------------------------------------------------------------------------

theorem query?_eq_some {settings : Settings} {selector query : String}
    : settings.query? selector = some query ↔ settings.LeavesToPage selector query := by
  unfold Settings.query? Settings.verdict Settings.LeavesToPage
  cases Selector.isInteractive settings.interactive selector <;>
    cases settings.matcher.keeps selector <;>
    cases Selector.queryFor? selector settings.options.strict <;> simp

/-- Leaving duplicates out leaves none.
Witness: recursion on the length, since equal elements behind the first one go with it.
-/
theorem nodup_eraseDups (texts : List String) : texts.eraseDups.Nodup := by
  match texts with
  | [] => exact List.nodup_nil
  | text :: rest =>
    rw [List.eraseDups_cons, List.nodup_cons]
    refine ⟨?_, nodup_eraseDups _⟩
    intro again
    simpa using List.mem_eraseDups.mp again
termination_by texts.length
decreasing_by exact Nat.lt_succ_of_le (List.length_filter_le _ _)

theorem mem_sorted {texts : List String} {text : String} : text ∈ sorted texts ↔ text ∈ texts :=
  List.mem_mergeSort

/-- Sorting distinct texts puts each before all greater ones. -/
theorem pairwise_sorted {texts : List String} (distinct : texts.Nodup)
    : (sorted texts).Pairwise (· < ·) := by
  have ordered : (sorted texts).Pairwise fun a b => (!Decidable.decide (b < a)) = true := by
    apply List.pairwise_mergeSort
    · intro a b c
      simp only [Bool.not_eq_true', decide_eq_false_iff_not, String.not_lt]
      exact String.le_trans
    · intro a b
      have total := String.le_total a b
      rw [Bool.or_eq_true, Bool.not_eq_true', Bool.not_eq_true', decide_eq_false_iff_not,
        decide_eq_false_iff_not, String.not_lt, String.not_lt]
      exact total
  have distinct := (List.mergeSort_perm texts fun a b => !Decidable.decide (b < a)).nodup_iff.mpr distinct
  refine (ordered.and distinct).imp fun {a b} both => ?_
  simp only [Bool.not_eq_true', decide_eq_false_iff_not] at both
  rcases Std.lt_trichotomy a b with less | same | greater
  · exact less
  · exact absurd same both.2
  · exact absurd greater both.1

theorem nodup_of_increasing {texts : List String} (increasing : texts.Pairwise (· < ·))
    : texts.Nodup := by
  refine increasing.imp fun {a b} less same => ?_
  rw [same] at less
  exact String.lt_irrefl b less

/-- Texts in which each stands before greater ones only are what sorting leads to. -/
theorem sorted_eq {texts ordered : List String} (same : ordered.Perm texts)
    (increasing : ordered.Pairwise (· < ·))
    : sorted texts = ordered := by
  have distinct : texts.Nodup := same.nodup_iff.mp (nodup_of_increasing increasing)
  refine List.Perm.eq_of_pairwise (fun a b _ _ less greater => ?_) (pairwise_sorted distinct)
    increasing ((List.mergeSort_perm texts _).trans same.symm)
  exact absurd (String.lt_trans less greater) (String.lt_irrefl a)

section Queries

variable {settings : Settings} {rules : List (List String × List Declaration)}

theorem pairwise_distinctQueries : (distinctQueries settings rules).Pairwise (· < ·) :=
  pairwise_sorted (nodup_eraseDups _)

variable (settings rules) in
theorem nodup_distinctQueries : (distinctQueries settings rules).Nodup :=
  nodup_of_increasing pairwise_distinctQueries

/-- There is a query for every selector that is left to the page, and there are no others. -/
theorem mem_distinctQueries {query : String}
    : query ∈ distinctQueries settings rules
      ↔ ∃ rule ∈ rules, ∃ selector ∈ rule.1, settings.LeavesToPage selector query := by
  simp only [distinctQueries, mem_sorted, List.mem_eraseDups, List.mem_filterMap,
    List.mem_flatMap, query?_eq_some]
  constructor
  · rintro ⟨selector, ⟨rule, inRules, inRule⟩, leaves⟩
    exact ⟨rule, inRules, selector, inRule, leaves⟩
  · rintro ⟨rule, inRules, selector, inRule, leaves⟩
    exact ⟨selector, ⟨rule, inRules, inRule⟩, leaves⟩

end Queries

--------------------------------------------------------------------------------
-- Answers
--------------------------------------------------------------------------------

/-- What is looked up in the collected answers is what the page answers. -/
theorem isVisible_of_collected {respond : String → Response ε} {queries : List String}
    {limit : Nat} {state : FanOut.State ε} (query : String)
    (collected : FanOut.State.Collected respond queries limit state) (member : query ∈ queries)
    : isVisible state.answers query = (respond query).isYes := by
  have known : query ∈ state.answers.map (·.1) := collected.complete.mem_iff.mpr member
  unfold isVisible
  cases found : state.answers.lookup query with
  | none =>
    obtain ⟨entry, inAnswers, rfl⟩ := List.mem_map.mp known
    have absent := List.lookup_eq_none_iff.mp found entry inAnswers
    simp at absent
  | some yes =>
    obtain ⟨before, behind, split, _⟩ := List.lookup_eq_some_iff.mp found
    have inAnswers : (query, yes) ∈ state.answers := by simp [split]
    exact collected.answers _ inAnswers

/-- Checks on a page that answers them do not break down. -/
theorem runChecks_fault {probe : Probe ε} (answers : AnswersClearing probe)
    (critical : List String) (checks : List Check)
    : (runChecks probe critical checks).fault = none := by
  induction checks with
  | nil => rfl
  | cons check rest ih =>
    have unbroken := answers check.query check.properties critical
    unfold runChecks
    cases reply : probe.shiftsLayout check.query check.properties critical with
    | answer yes => cases yes <;> exact ih
    | refused message => exact ih
    | broken fault => simp [reply, Reply.isBroken] at unbroken

/-- A selector is kept if it passes the test, as soon as the answer to its query is known. -/
theorem keepsSelector_eq_keeps {settings : Settings} {probe : Probe ε} {visible : String → Bool}
    {selector : String} (critical : List String) (declarations : List Declaration)
    (known
      : ∀ query,
          settings.LeavesToPage selector query → visible query = (probe.isVisible query).isYes)
    : keepsSelector settings probe visible critical declarations selector
      = settings.keeps probe critical declarations selector := by
  unfold keepsSelector Settings.keeps Settings.verdict
  unfold Settings.LeavesToPage at known
  cases interactive : Selector.isInteractive settings.interactive selector with
  | true => rfl
  | false =>
    cases forced : settings.matcher.keeps selector with
    | true => rfl
    | false =>
      cases asked : Selector.queryFor? selector settings.options.strict with
      | none => rfl
      | some query => simp [known query ⟨interactive, forced, asked⟩]

--------------------------------------------------------------------------------
-- What is critical
--------------------------------------------------------------------------------

theorem limit_pos (settings : Settings) : 0 < settings.limit := by
  unfold Settings.limit
  omega

/-- The queries with a yes are the critical ones of the sheet that was collected. -/
theorem isCritical_filter {settings : Settings} {probe : Probe ε} {sheet : Stylesheet}
    {visible : String → Bool} (textual : Stylesheet.Textual sheet)
    (known
      : ∀ query ∈
            distinctQueries settings
              (styleRules settings.scope (collectNodes settings.scope sheet).kept),
          visible query = (probe.isVisible query).isYes)
    : IsCritical settings probe sheet
        ((distinctQueries settings
          (styleRules settings.scope (collectNodes settings.scope sheet).kept)).filter visible) := by
  refine ⟨pairwise_distinctQueries.filter _, fun query => ?_⟩
  rw [List.mem_filter]
  constructor
  · rintro ⟨asked, yes⟩
    obtain ⟨rule, inRules, leaves⟩ := mem_distinctQueries.mp asked
    exact ⟨known query asked ▸ yes, rule.1, rule.2, (mem_styleRules textual).mp inRules, leaves⟩
  · rintro ⟨yes, selectors, declarations, reached, leaves⟩
    have asked := mem_distinctQueries.mpr ⟨_, (mem_styleRules textual).mpr reached, leaves⟩
    exact ⟨asked, known query asked ▸ yes⟩

/-- Settings of a usual screen without force-included selectors. -/
def plainSettings : Settings where
  viewport := ⟨1300, 900⟩
  matcher := ⟨[], [], []⟩

/-- A page that shows `a` and says so after a while; it refuses everything else. -/
def slowPage : Probe Unit where
  isVisible query := if query = "a" then .later 5 (.answer true) else .now (.refused "unknown")
  shiftsLayout _ _ _ := .refused "unknown"

theorem slowPage_answers : FanOut.Answering slowPage.isVisible := by
  intro query
  by_cases shown : query = "a"
  · exact ⟨.answer true, by simp [slowPage, shown, Response.reply?], rfl⟩
  · exact ⟨.refused "unknown", by simp [slowPage, shown, Response.reply?], rfl⟩

end CriticalCss.Selection
