import CriticalCss.Proofs.Selection.Concurrency

/-! How selection ends. Wherever it comes to an end of its own it has pruned the tree; a page that
answers every question leaves it no other end than that, unless the deadline comes first.
-/

namespace CriticalCss.Selection

variable {ε : Type} {settings : Settings} {probe : Probe ε} {sheet : Stylesheet}

/-- Selection that is done has come to the part behind the queries with all of them answered. -/
theorem exists_asked_of_done {clock : Nat} {deadline : Option Nat}
    (textual : Stylesheet.Textual sheet)
    (done : (run settings probe clock deadline sheet).ending = .done)
    : ∃ asked,
        FanOut.Moment probe.isVisible settings.limit
            (distinctQueries settings
              (styleRules settings.scope (collectNodes settings.scope sheet).kept)) asked
        ∧ asked.status = .answered
        ∧ run settings probe clock deadline sheet
          = Selection.decide settings probe (collectNodes settings.scope sheet).kept asked
              ((collectNodes settings.scope sheet).events ++ refusalEvents asked.refusals) := by
  have unstopped : (collectNodes settings.scope sheet).stopped = false :=
    collectNodes_stopped textual
  have distinct := nodup_distinctQueries settings
    (styleRules settings.scope (collectNodes settings.scope sheet).kept)
  unfold run at done ⊢
  simp only [unstopped, Bool.false_eq_true, if_false] at done ⊢
  generalize jobs : FanOut.run probe.isVisible clock settings.limit deadline
    (distinctQueries settings
      (styleRules settings.scope (collectNodes settings.scope sheet).kept)) = asked at done ⊢
  cases answered : asked.status with
  | running => simp [answered] at done
  | broken fault => simp [answered] at done
  | answered =>
    have moment := FanOut.moment_run distinct (jobs ▸ answered)
    rw [jobs] at moment
    exact ⟨asked, moment, answered, rfl⟩

/-- Once all queries are answered, the answers on record are those of the page. -/
theorem isVisible_of_answered {rules : List (List String × List Declaration)}
    {asked : FanOut.State ε}
    (moment : FanOut.Moment probe.isVisible settings.limit (distinctQueries settings rules) asked)
    (answered : asked.status = .answered)
    : ∀ query ∈ distinctQueries settings rules,
        isVisible asked.answers query = (probe.isVisible query).isYes := by
  have distinct := nodup_distinctQueries settings rules
  exact fun query => isVisible_of_collected query ((moment.going distinct).1.collected answered)

/-- The selectors that are kept are those that pass the test, once the answers are known. -/
theorem filterNodes_keepsSelector {visible : String → Bool} (critical : List String)
    (known
      : ∀ query ∈ distinctQueries settings (styleRules settings.scope sheet),
          visible query = (probe.isVisible query).isYes)
    : filterNodes settings.scope (keepsSelector settings probe visible critical) sheet
      = filterNodes settings.scope (settings.keeps probe critical) sheet := by
  apply filterNodes_congr
  intro rule inRules selector inRule
  apply keepsSelector_eq_keeps
  intro query leaves
  exact known query (mem_distinctQueries.mpr ⟨rule, inRules, selector, inRule, leaves⟩)

/-- Selection that is done has pruned the sheet, keeping the selectors that pass the test with what
is critical then.
Witness: it is done only if the queries are answered and no check breaks down.
-/
theorem exists_pruned_of_done {clock : Nat} {deadline : Option Nat}
    (textual : Stylesheet.Textual sheet)
    (done : (run settings probe clock deadline sheet).ending = .done)
    : ∃ critical,
        IsCritical settings probe sheet critical
        ∧ (run settings probe clock deadline sheet).sheet
          = pruneNodes settings.scope (settings.keeps probe critical) sheet := by
  obtain ⟨asked, moment, answered, reached⟩ := exists_asked_of_done textual done
  have known := isVisible_of_answered moment answered
  rw [reached] at done ⊢
  unfold Selection.decide at done ⊢
  dsimp only at done ⊢
  split at done
  · cases done
  · refine ⟨_, isCritical_filter textual known, ?_⟩
    rw [← dropEmptyNodes_filterNodes _ textual, filterNodes_keepsSelector _ known]

/-- On a page that answers every question selection is done, unless the deadline has passed. -/
theorem run_ending (clock : Nat) (deadline : Option Nat) (textual : Stylesheet.Textual sheet)
    (answering : FanOut.Answering probe.isVisible) (clearing : AnswersClearing probe)
    : (run settings probe clock deadline sheet).ending = .done
      ∨ (run settings probe clock deadline sheet).ending = .cutOff ∧ deadline ≠ none := by
  have unstopped : (collectNodes settings.scope sheet).stopped = false :=
    collectNodes_stopped textual
  have distinct := nodup_distinctQueries settings
    (styleRules settings.scope (collectNodes settings.scope sheet).kept)
  unfold run
  simp only [unstopped, Bool.false_eq_true, if_false]
  generalize jobs : FanOut.run probe.isVisible clock settings.limit deadline
    (distinctQueries settings
      (styleRules settings.scope (collectNodes settings.scope sheet).kept)) = asked
  cases status : asked.status with
  | answered => simp [Selection.decide, runChecks_fault clearing]
  | broken fault =>
    obtain ⟨query, _, broken⟩ := FanOut.exists_broken_of_run distinct (jobs ▸ status)
    obtain ⟨reply, own, unbroken⟩ := answering query
    rw [broken] at own
    cases own
    cases unbroken
  | running =>
    refine Or.inr ⟨rfl, fun unbounded => ?_⟩
    subst unbounded
    have collected := FanOut.run_collected answering clock (limit_pos settings) distinct
    rw [jobs] at collected
    cases status.symm.trans collected.status

/-- Selection prunes a sheet that was read, keeping the selectors that pass the test with what is
critical then, if the page answers or refuses every question. Everything else that is not dropped
stays whole just if no block of rules in it, or it itself, holds nothing. -/
theorem run_eq_pruneNodes {css : String} {reading : Reading} (clock : Nat)
    (read : Stylesheet.read css = .ok reading) (answering : FanOut.Answering probe.isVisible)
    (clearing : AnswersClearing probe)
    : (run settings probe clock none reading.sheet).ending = .done
      ∧ ∃ critical,
          IsCritical settings probe reading.sheet critical
          ∧ (run settings probe clock none reading.sheet).sheet
            = pruneNodes settings.scope (settings.keeps probe critical) reading.sheet
          ∧ ((run settings probe clock none reading.sheet).sheet
              = trimNodes settings.scope (settings.keeps probe critical) reading.sheet
            ↔ settings.scope.allSpareFilled reading.sheet = true) := by
  have textual := Stylesheet.textual_read read
  have done : (run settings probe clock none reading.sheet).ending = .done :=
    (run_ending clock none textual answering clearing).resolve_right fun cut => cut.2 rfl
  obtain ⟨critical, isCritical, pruned⟩ := exists_pruned_of_done textual done
  refine ⟨done, critical, isCritical, pruned, ?_⟩
  rw [pruned]
  exact pruneNodes_eq_trimNodes_iff reading.sheet

/-- The slow page is asked about one of two selectors, and the other is interactive. -/
theorem run_eq_pruneNodes_slowPage
    : Stylesheet.read "a:after, b:hover \x7b clear: both \x7d"
          = .ok ⟨[.style ["a:after", "b:hover"] [.set "clear" "both" false]], []⟩
      ∧ ((run plainSettings slowPage 0 none
            [.style ["a:after", "b:hover"] [.set "clear" "both" false]]).ending = .done
        ∧ ∃ critical,
            IsCritical plainSettings slowPage
              [.style ["a:after", "b:hover"] [.set "clear" "both" false]] critical
            ∧ (run plainSettings slowPage 0 none
                [.style ["a:after", "b:hover"] [.set "clear" "both" false]]).sheet
              = pruneNodes plainSettings.scope (plainSettings.keeps slowPage critical)
                  [.style ["a:after", "b:hover"] [.set "clear" "both" false]]
            ∧ ((run plainSettings slowPage 0 none
                  [.style ["a:after", "b:hover"] [.set "clear" "both" false]]).sheet
                = trimNodes plainSettings.scope (plainSettings.keeps slowPage critical)
                    [.style ["a:after", "b:hover"] [.set "clear" "both" false]]
              ↔ plainSettings.scope.allSpareFilled
                  [.style ["a:after", "b:hover"] [.set "clear" "both" false]] = true))
      ∧ (run plainSettings slowPage 0 none
            [.style ["a:after", "b:hover"] [.set "clear" "both" false]]).sheet
          = [.style ["a:after"] [.set "clear" "both" false]] := by
  have read : Stylesheet.read "a:after, b:hover \x7b clear: both \x7d"
      = .ok ⟨[.style ["a:after", "b:hover"] [.set "clear" "both" false]], []⟩ :=
    Stylesheet.read_of_reads (by decide +kernel)
  exact ⟨read, run_eq_pruneNodes 0 read slowPage_answers fun _ _ _ => rfl,
    Stylesheet.eq_of_same (by decide +kernel)⟩

/-- Keyframes that hold nothing do not stay, though they are neither dropped nor looked into. -/
theorem run_bareKeyframes
    : Stylesheet.read "@keyframes a \x7b\x7d" = .ok ⟨[.ruleBlock "keyframes" "a" []], []⟩
      ∧ plainSettings.scope.retention (.ruleBlock "keyframes" "a" []) = .definition
      ∧ (∀ keeps,
          trimNodes plainSettings.scope keeps [.ruleBlock "keyframes" "a" []]
            = [.ruleBlock "keyframes" "a" []])
      ∧ (run plainSettings slowPage 0 none [.ruleBlock "keyframes" "a" []]).ending = .done
      ∧ (run plainSettings slowPage 0 none [.ruleBlock "keyframes" "a" []]).sheet = [] := by
  have read : Stylesheet.read "@keyframes a \x7b\x7d" = .ok ⟨[.ruleBlock "keyframes" "a" []], []⟩ :=
    Stylesheet.read_of_reads (by decide +kernel)
  have definition : plainSettings.scope.retention (.ruleBlock "keyframes" "a" []) = .definition := by
    decide +kernel
  refine ⟨read, definition, fun keeps => ?_, ?_, Stylesheet.eq_of_same (by decide +kernel)⟩
  · simp [trimNodes, trimNode, Scope.drops, definition]
  · exact (run_ending 0 none (Stylesheet.textual_read read) slowPage_answers
      fun _ _ _ => rfl).resolve_right fun cut => cut.2 rfl

/-- A deadline that is late enough makes no difference to selection. -/
theorem exists_late (settings : Settings) (probe : Probe ε) (clock : Nat) (sheet : Stylesheet)
    : ∃ bound,
        ∀ deadline,
          bound < deadline
            → run settings probe clock (some deadline) sheet
              = run settings probe clock none sheet := by
  obtain ⟨bound, late⟩ := FanOut.exists_late probe.isVisible
    (distinctQueries settings
      (styleRules settings.scope (collectNodes settings.scope sheet).kept)).length
    (distinctQueries settings
      (styleRules settings.scope (collectNodes settings.scope sheet).kept)).length
    (.initial clock settings.limit
      (distinctQueries settings
        (styleRules settings.scope (collectNodes settings.scope sheet).kept)))
  refine ⟨bound, fun deadline later => ?_⟩
  simp only [run, FanOut.run, late deadline later]

end CriticalCss.Selection
