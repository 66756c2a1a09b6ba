import CriticalCss.Proofs.Extraction.Verbatim
import CriticalCss.Proofs.Selection.Idempotence
import CriticalCss.Proofs.Selection.Refusals
import CriticalCss.Proofs.Text.Lowered

/-! The counters of a finished selection are those of the trees and of the questions. They are put
together from three phases: the rules that are gone through, the queries with their refusals, and
the checks one after the other. Everything is counted by occurrence, a selector in front of its
declarations; one that is kept shows or is kept for clearing, never both. Rules of keyframes are
not gone through, so they are in none of the counters.
-/

namespace CriticalCss

mutual
/-- The selectors in a rule, each with the declarations behind it, those in at-rules whose name is
to be skipped left out. -/
def Node.occurrences (skip : String → Bool) : Node → List (String × List Declaration)
  | .style selectors declarations => selectors.map fun selector => (selector, declarations)
  | .ruleBlock name _ body => if skip name then [] else Stylesheet.occurrences skip body
  | .verbatim .. | .statement .. | .declarationBlock .. | .hollow .. | .foreign _ => []

/-- The selectors in several rules in the order they stand in. -/
def Stylesheet.occurrences (skip : String → Bool) : List Node → List (String × List Declaration)
  | [] => []
  | node :: rest => node.occurrences skip ++ Stylesheet.occurrences skip rest
end

theorem Stylesheet.occurrences_append (skip : String → Bool) (left right : List Node)
    : occurrences skip (left ++ right) = occurrences skip left ++ occurrences skip right := by
  induction left with
  | nil => rfl
  | cons node rest ih => simp [occurrences, ih]

/-- A name that ends like one of keyframes does so in lower case as well. -/
theorem isKeyframes_lowerString {name : String} (frames : isKeyframes name = true)
    : isKeyframes (Text.lowerString name) = true := by
  obtain ⟨before, ends⟩ : "keyframes".toList <:+ Text.lower name.toList := by
    simpa [isKeyframes] using frames
  obtain ⟨first, later, whole, -, last⟩ := Text.Lowered.exists_append
    (ends ▸ Text.lowered_lower (Text.lower name.toList))
  have ascii : Text.IsAscii "keyframes".toList := by simp [Text.IsAscii]
  have kept : later = "keyframes".toList := (last.eq_of_isAscii ascii).trans (by decide)
  have written : (Text.lowerString name).toList = Text.lower name.toList := String.toList_ofList
  rw [isKeyframes, List.isSuffixOf_iff_suffix, written, ← ends, whole, kept]
  exact List.suffix_append first _

namespace Selection

variable {ε : Type}

--------------------------------------------------------------------------------
-- Occurrences
--------------------------------------------------------------------------------

/-- The selectors of style rules, each with the declarations behind it. -/
def occurrencesIn (rules : List (List String × List Declaration))
    : List (String × List Declaration) :=
  rules.flatMap fun rule => rule.1.map fun selector => (selector, rule.2)

@[simp] theorem occurrencesIn_nil : occurrencesIn [] = [] :=
  rfl

@[simp] theorem occurrencesIn_singleton (rule : List String × List Declaration)
    : occurrencesIn [rule] = rule.1.map fun selector => (selector, rule.2) :=
  List.flatMap_singleton _ rule

theorem occurrencesIn_append (left right : List (List String × List Declaration))
    : occurrencesIn (left ++ right) = occurrencesIn left ++ occurrencesIn right :=
  List.flatMap_append

theorem countSelectors_eq (rules : List (List String × List Declaration))
    : countSelectors rules = (occurrencesIn rules).length := by
  have counted (count : Nat)
      : rules.foldl (fun count rule => count + rule.1.length) count
        = count + (occurrencesIn rules).length := by
    induction rules generalizing count with
    | nil => rfl
    | cons rule rest ih =>
      rw [List.foldl_cons, ih]
      simp [occurrencesIn, Nat.add_assoc]
  exact (counted 0).trans (Nat.zero_add _)

/-- The selectors that are not dropped with a rule around them, keyframes aside. -/
def undropped (scope : Scope) (sheet : Stylesheet) : List (String × List Declaration) :=
  Stylesheet.occurrences isKeyframes (withoutDropped scope sheet)

section Trees

variable {scope : Scope} {sheet : Stylesheet}

/-- Keyframes are not gone through, in whatever case their name is written. -/
theorem retention_keyframes {name : String} (frames : isKeyframes name = true) (scope : Scope)
    (prelude : String) (body : List Node)
    : scope.retention (.ruleBlock name prelude body) = .definition := by
  have lower := isKeyframes_lowerString frames
  have others : ∀ name ∈ untouchedNames, isKeyframes name = false := by decide
  have treated : Text.lowerString name ∉ untouchedNames := fun untouched =>
    Bool.noConfusion (lower.symm.trans (others _ untouched))
  simp [Scope.retention, Retention.of, Retention.ofAtRule, treated, lower]

/-- What is decided about in a tree that comes from a text is every selector that is not dropped,
keyframes aside.
Witness: induction on the tree; a block that is neither dropped nor one of keyframes is gone
through.
-/
theorem undropped_eq (textual : Stylesheet.Textual sheet)
    : undropped scope sheet = occurrencesIn (styleRules scope (withoutDropped scope sheet)) := by
  unfold undropped
  induction sheet using Stylesheet.induction with
  | nil => rfl
  | block name prelude body rest inner later =>
    rw [withoutDropped, Stylesheet.occurrences_append, styleRules_append, occurrencesIn_append,
      later textual.2, List.append_left_inj]
    cases closed : isKeyframes name with
    | true =>
      have treated := retention_keyframes closed scope prelude body
      simp [withoutDroppedOf, Scope.drops, treated, Stylesheet.occurrences, Node.occurrences,
        closed, styleRules, styleRulesOf]
    | false =>
      have known : name ∈ ruleBlockNames :=
        textual.1.1.resolve_right fun frames => Bool.noConfusion (closed.symm.trans frames)
      have treated (body : List Node) := retention_of_mem_ruleBlockNames known scope prelude body
      cases fits : scope.admits (name, prelude) with
      | true =>
        simp [withoutDroppedOf, Scope.drops, treated, fits, Stylesheet.occurrences,
          Node.occurrences, closed, styleRules, styleRulesOf, inner textual.1.2]
      | false =>
        simp [withoutDroppedOf, Scope.drops, treated, fits, Stylesheet.occurrences, styleRules]
  | leaf node rest leaf later =>
    rw [withoutDropped, Stylesheet.occurrences_append, styleRules_append, occurrencesIn_append,
      later textual.2, withoutDroppedOf_leaf leaf, List.append_left_inj]
    split
    · rfl
    · cases node with
      | ruleBlock => simp [Node.holdsRules] at leaf
      | _ => simp [Stylesheet.occurrences, Node.occurrences, styleRules, styleRulesOf]

/-- Choosing from the rules one by one is choosing from the occurrences. -/
theorem occurrencesIn_chooseRule (test : List Declaration → String → Bool)
    (rules : List (List String × List Declaration))
    : occurrencesIn (rules.filterMap (chooseRule test))
      = (occurrencesIn rules).filter fun pair => test pair.2 pair.1 := by
  induction rules with
  | nil => rfl
  | cons rule rest ih =>
    have own : (rule.1.map fun selector => (selector, rule.2)).filter
          (fun pair => test pair.2 pair.1)
        = (rule.1.filter (test rule.2)).map fun selector => (selector, rule.2) :=
      List.filter_map
    rw [← List.singleton_append, occurrencesIn_append, List.filterMap_append, occurrencesIn_append,
      List.filter_append, ih, List.append_left_inj]
    by_cases bare : rule.1.filter (test rule.2) = []
    · simp [chooseRule, bare, own]
    · simp [chooseRule, bare, own]

/-- What is left of a tree holds the selectors that satisfy the test, keyframes aside. -/
theorem occurrences_pruneNodes (test : List Declaration → String → Bool)
    (textual : Stylesheet.Textual sheet)
    : Stylesheet.occurrences isKeyframes (pruneNodes scope test sheet)
      = (undropped scope sheet).filter fun pair => test pair.2 pair.1 := by
  have pruned
      : undropped scope (pruneNodes scope test sheet)
        = occurrencesIn (styleRules scope (withoutDropped scope (pruneNodes scope test sheet))) :=
    undropped_eq (textual_pruneNodes test textual)
  rw [undropped, withoutDropped_pruneNodes, styleRules_pruneNodes, occurrencesIn_chooseRule,
    ← undropped_eq textual] at pruned
  exact pruned

/-- Before the empty rules are dropped, the style rules hold what is left of them. -/
theorem occurrencesIn_filterNodes (test : List Declaration → String → Bool)
    : occurrencesIn (styleRules scope (filterNodes scope test sheet))
      = (occurrencesIn (styleRules scope sheet)).filter fun pair => test pair.2 pair.1 := by
  induction sheet using Stylesheet.induction with
  | nil => rfl
  | block name prelude body rest inner later =>
    rw [filterNodes, styleRules, styleRules, occurrencesIn_append, occurrencesIn_append,
      List.filter_append, later, List.append_left_inj]
    by_cases container : scope.retention (.ruleBlock name prelude body) = .container
    · have same (other : List Node)
          : scope.retention (.ruleBlock name prelude other) = .container :=
        container
      simp [filterNode, styleRulesOf, same, inner]
    · simp [filterNode, styleRulesOf, container]
  | leaf node rest leaf later =>
    rw [filterNodes, styleRules, styleRules, occurrencesIn_append, occurrencesIn_append,
      List.filter_append, later, List.append_left_inj]
    cases node with
    | ruleBlock => simp [Node.holdsRules] at leaf
    | style selectors declarations =>
      simp [filterNode, styleRulesOf, List.filter_map, Function.comp_def]
    | _ => rfl

/-- The selectors that are gone through are counted. -/
theorem countSelectors_withoutDropped (textual : Stylesheet.Textual sheet)
    : countSelectors (styleRules scope (withoutDropped scope sheet))
      = (undropped scope sheet).length := by
  rw [countSelectors_eq, undropped_eq textual]

/-- The selectors that are left are counted while the empty rules still stand. -/
theorem countSelectors_filterNodes (test : List Declaration → String → Bool)
    (textual : Stylesheet.Textual sheet)
    : countSelectors (styleRules scope (filterNodes scope test (withoutDropped scope sheet)))
      = (Stylesheet.occurrences isKeyframes (pruneNodes scope test sheet)).length := by
  rw [countSelectors_eq, occurrencesIn_filterNodes, occurrences_pruneNodes test textual,
    undropped_eq textual]

end Trees

--------------------------------------------------------------------------------
-- Checks
--------------------------------------------------------------------------------

section Checks

variable {settings : Settings} {probe : Probe ε} {critical : List String}

/-- Is the check refused? -/
def Check.isRefused (probe : Probe ε) (critical : List String) (check : Check) : Bool :=
  (probe.shiftsLayout check.query check.properties critical).isRefused

/-- Checks of which none breaks down are all made, and are counted by their replies. -/
theorem runChecks_of_unbroken {checks : List Check}
    (unbroken : (runChecks probe critical checks).fault = none)
    : (runChecks probe critical checks).made = checks
      ∧ (runChecks probe critical checks).rescued = checks.countP (·.shifts probe critical)
      ∧ (runChecks probe critical checks).refused = checks.countP (·.isRefused probe critical) := by
  induction checks with
  | nil => exact ⟨rfl, rfl, rfl⟩
  | cons check rest ih =>
    unfold runChecks at unbroken ⊢
    have shifts : check.shifts probe critical
        = (probe.shiftsLayout check.query check.properties critical).isYes :=
      rfl
    have refuses : check.isRefused probe critical
        = (probe.shiftsLayout check.query check.properties critical).isRefused :=
      rfl
    rw [List.countP_cons, List.countP_cons, shifts, refuses]
    cases reply : probe.shiftsLayout check.query check.properties critical with
    | broken fault => simp [reply] at unbroken
    | refused message =>
      obtain ⟨made, rescued, refused⟩ := ih (by simpa [reply] using unbroken)
      simp [made, rescued, refused, Reply.isYes, Reply.isRefused]
    | answer yes =>
      obtain ⟨made, rescued, refused⟩ := ih (by cases yes <;> simpa [reply] using unbroken)
      cases yes <;> simp [made, rescued, refused, Reply.isYes, Reply.isRefused]

/-- The check that is due for a selector in front of declarations, if there is one. -/
def Settings.check? (settings : Settings) (visible : String → Bool)
    (pair : String × List Declaration)
    : Option Check :=
  if (settings.clearingAmong pair.2).isEmpty then none
  else
    (settings.query? pair.1).bind fun query =>
      if visible query then none else some ⟨pair.1, query, settings.clearingAmong pair.2⟩

theorem dueChecks_eq (visible : String → Bool) (rules : List (List String × List Declaration))
    : dueChecks settings visible rules
      = (occurrencesIn rules).filterMap (settings.check? visible) := by
  rw [occurrencesIn, List.filterMap_flatMap]
  refine List.flatMap_congr fun rule _ => ?_
  rw [List.filterMap_map]
  dsimp only
  split
  · rename_i bare
    simp [Settings.check?, Function.comp_def, bare]
  · rename_i due
    simp [Settings.check?, Function.comp_def, due]

/-- Is a selector force-included, or does it show in the viewport, and is it not interactive? -/
def Settings.sees (settings : Settings) (probe : Probe ε) (selector : String) : Bool :=
  !Selector.isInteractive settings.interactive selector
    && (settings.matcher.keeps selector
      || (Selector.queryFor? selector settings.options.strict).any fun query =>
          (probe.isVisible query).isYes)

/-- An occurrence that is kept is seen or its check has a yes, and there is no check of one that is
seen. -/
theorem keeps_toNat (settings : Settings) (probe : Probe ε) (critical : List String)
    (pair : String × List Declaration)
    : (settings.keeps probe critical pair.2 pair.1).toNat
      = ((settings.check? (fun query => (probe.isVisible query).isYes) pair).any
            (·.shifts probe critical)).toNat
        + (settings.sees probe pair.1).toNat := by
  unfold Settings.keeps Settings.sees Settings.check? Settings.query? Settings.verdict
  cases Selector.isInteractive settings.interactive pair.1 with
  | true => simp
  | false =>
    cases settings.matcher.keeps pair.1 with
    | true => simp
    | false =>
      cases Selector.queryFor? pair.1 settings.options.strict with
      | none => simp
      | some query =>
        cases shown : (probe.isVisible query).isYes <;>
          cases (settings.clearingAmong pair.2).isEmpty <;> simp [Check.shifts, shown]

/-- Of the occurrences those are kept that are seen, and as many more as there are checks with a
yes. -/
theorem countP_keeps (pairs : List (String × List Declaration))
    : pairs.countP (fun pair => settings.keeps probe critical pair.2 pair.1)
      = (pairs.filterMap (settings.check? fun query => (probe.isVisible query).isYes)).countP
          (·.shifts probe critical)
        + pairs.countP fun pair => settings.sees probe pair.1 := by
  induction pairs with
  | nil => rfl
  | cons pair rest ih =>
    have own := keeps_toNat settings probe critical pair
    rw [countP_cons_toNat, countP_cons_toNat, ih, own]
    cases due : settings.check? (fun query => (probe.isVisible query).isYes) pair with
    | none =>
      rw [List.filterMap_cons_none due, Option.any_none, Bool.toNat_false]
      omega
    | some check =>
      rw [List.filterMap_cons_some due, countP_cons_toNat, Option.any_some]
      omega

/-- The selectors that are left are seen, or kept by a check with a yes. -/
theorem length_occurrences_pruneNodes {sheet : Stylesheet} (textual : Stylesheet.Textual sheet)
    : (Stylesheet.occurrences isKeyframes
          (pruneNodes settings.scope (settings.keeps probe critical) sheet)).length
      = (checksOn probe settings sheet).countP (·.shifts probe critical)
        + (undropped settings.scope sheet).countP fun pair => settings.sees probe pair.1 := by
  rw [occurrences_pruneNodes _ textual, ← List.countP_eq_length_filter, countP_keeps, checksOn,
    dueChecks_eq, decidedRules, undropped_eq textual]

end Checks

--------------------------------------------------------------------------------
-- Counters
--------------------------------------------------------------------------------

/-- What selection reports when it is done. -/
structure Counters where
  selectors : Nat
  kept : Nat
  queried : Nat
  failed : Nat
  rescued : Nat
  deriving DecidableEq, Repr

/-- The event of a selection that is done. -/
def Counters.event (counters : Counters) : Event :=
  .selectionCompleted counters.selectors counters.kept counters.queried counters.failed
    counters.rescued

/-- The counters are those of the trees before and behind selection, and of the questions. -/
structure Counters.Exact (settings : Settings) (probe : Probe ε) (sheet : Stylesheet)
    (result : Result ε) (counters : Counters)
    : Prop where
  /-- Every selector is counted that is not dropped with the rule around it, keyframes aside. -/
  selectors
    : counters.selectors = (undropped settings.scope sheet).length
  /-- Every selector in the tree is counted, keyframes aside. -/
  kept : counters.kept = (Stylesheet.occurrences isKeyframes result.sheet).length
  /-- Those that are not kept for clearing are force-included, or show in the viewport. -/
  seen
    : counters.kept
      = counters.rescued
        + (undropped settings.scope sheet).countP fun pair => settings.sees probe pair.1
  queried : counters.queried = result.trace.queries.length
  failed
    : counters.failed
      = result.trace.queries.countP (fun query => (probe.isVisible query).isRefused)
        + result.trace.clearing.countP fun check =>
            (probe.shiftsLayout check.1 check.2.1 check.2.2).isRefused
  rescued
    : counters.rescued
      = result.trace.clearing.countP fun check =>
          (probe.shiftsLayout check.1 check.2.1 check.2.2).isYes

section Counted

variable {settings : Settings} {probe : Probe ε} {sheet : Stylesheet} {clock : Nat}
  {deadline : Option Nat}

/-- The part behind the queries counts exactly.
Witness: the answers are those of the page, so the rules are left with the selectors that are kept,
and the checks that are made are those that are due for them.
-/
theorem exact_decide {asked : FanOut.State ε} (before : List Event)
    (textual : Stylesheet.Textual sheet)
    (moment
      : FanOut.Moment probe.isVisible settings.limit
          (distinctQueries settings (decidedRules settings sheet)) asked)
    (answered : asked.status = .answered)
    (done
      : (Selection.decide settings probe (withoutDropped settings.scope sheet) asked before).ending
        = .done)
    : ∃ earlier counters,
        (Selection.decide settings probe (withoutDropped settings.scope sheet) asked before).events
          = earlier ++ [Counters.event counters]
        ∧ counters.Exact settings probe sheet
            (Selection.decide settings probe (withoutDropped settings.scope sheet) asked
              before) := by
  have distinct := nodup_distinctQueries settings (decidedRules settings sheet)
  have collected := (moment.going distinct).1.collected answered
  have known := isVisible_of_answered moment answered
  have due : dueChecks settings (isVisible asked.answers) (decidedRules settings sheet)
      = checksOn probe settings sheet :=
    dueChecks_congr known
  have rules : styleRules settings.scope (withoutDropped settings.scope sheet)
      = decidedRules settings sheet :=
    rfl
  unfold Selection.decide at done ⊢
  simp only [rules, due] at done ⊢
  generalize (distinctQueries settings (decidedRules settings sheet)).filter
    (isVisible asked.answers) = critical at done ⊢
  have same := filterNodes_keepsSelector critical known
  have pruned
      : dropEmptyNodes
            (filterNodes settings.scope (settings.keeps probe critical)
              (withoutDropped settings.scope sheet))
        = pruneNodes settings.scope (settings.keeps probe critical) sheet := by
    rw [← collectNodes_kept (collectNodes_stopped textual), dropEmptyNodes_filterNodes _ textual]
  have unbroken : (runChecks probe critical (checksOn probe settings sheet)).fault = none := by
    split at done
    · cases done
    · assumption
  obtain ⟨made, rescued, refused⟩ := runChecks_of_unbroken unbroken
  generalize runChecks probe critical _ = checks at made rescued refused unbroken ⊢
  rw [unbroken, same, pruned, countSelectors_filterNodes _ textual, ← rules,
    countSelectors_withoutDropped textual]
  refine ⟨_, ⟨_, _, _, _, checks.rescued⟩, rfl, ?_⟩
  exact {
    selectors := rfl
    kept := rfl
    seen := by
      dsimp only
      rw [length_occurrences_pruneNodes textual, rescued]
    queried := collected.asked.length_eq.symm
    failed := by
      dsimp only
      rw [FanOut.refusals_of_answered distinct moment answered, refused, made, List.countP_map]
      rfl
    rescued := by
      dsimp only
      rw [rescued, made, List.countP_map]
      rfl }

/-- The counters that a finished selection reports of a text are exact. -/
theorem exact_run {css : String} {reading : Reading} (read : Stylesheet.read css = .ok reading)
    (done : (run settings probe clock deadline reading.sheet).ending = .done)
    : ∃ earlier counters,
        (run settings probe clock deadline reading.sheet).events
          = earlier ++ [Counters.event counters]
        ∧ counters.Exact settings probe reading.sheet
            (run settings probe clock deadline reading.sheet) := by
  have textual := Stylesheet.textual_read read
  obtain ⟨asked, moment, answered, reached⟩ := exists_asked_of_done textual done
  rw [collectNodes_kept (collectNodes_stopped textual)] at moment reached
  rw [reached] at done ⊢
  exact exact_decide _ textual moment answered done

/-- A sheet with a selector twice in a rule, one in two rules, one that is dropped, and one of
keyframes. -/
def repeatedSheet : Stylesheet :=
  [.style ["c", "b", "b", "b:hover"] [.set "clear" "both" false],
    .style ["a", "c"] [.set "top" "0" false],
    .ruleBlock "media" "print" [.style ["a"] [.set "top" "0" false]],
    .ruleBlock "keyframes" "k" [.style ["from"] [.set "top" "0" false]]]

/-- Six of the selectors are counted on the shifting page, which shows one of them. -/
theorem exact_run_repeatedSheet
    : Stylesheet.read
          ("c, b, b, b:hover \x7b clear: both \x7d a, c \x7b top: 0 \x7d"
            ++ "@media print \x7b a \x7b top: 0 \x7d \x7d"
            ++ "@keyframes k \x7b from \x7b top: 0 \x7d \x7d")
        = .ok ⟨repeatedSheet, []⟩
      ∧ (run plainSettings (shiftingPage 5) 0 none repeatedSheet).ending = .done
      ∧ (∃ earlier counters,
          (run plainSettings (shiftingPage 5) 0 none repeatedSheet).events
            = earlier ++ [Counters.event counters]
          ∧ counters.Exact plainSettings (shiftingPage 5) repeatedSheet
              (run plainSettings (shiftingPage 5) 0 none repeatedSheet))
      ∧ (undropped plainSettings.scope repeatedSheet).map (·.1)
        = ["c", "b", "b", "b:hover", "a", "c"]
      ∧ ((undropped plainSettings.scope repeatedSheet).map (·.1)).filter
          (plainSettings.sees (shiftingPage 5)) = ["a"] := by
  have read : Stylesheet.read
      ("c, b, b, b:hover \x7b clear: both \x7d a, c \x7b top: 0 \x7d"
        ++ "@media print \x7b a \x7b top: 0 \x7d \x7d"
        ++ "@keyframes k \x7b from \x7b top: 0 \x7d \x7d")
      = .ok ⟨repeatedSheet, []⟩ :=
    Stylesheet.read_of_reads (by decide +kernel)
  have done : (run plainSettings (shiftingPage 5) 0 none repeatedSheet).ending = .done :=
    (run_ending 0 none (Stylesheet.textual_read read) (shiftingPage_answers 5)
      fun _ _ _ => rfl).resolve_right fun late => late.2 rfl
  exact ⟨read, done, exact_run read done, by decide +kernel, by decide +kernel⟩

/-- A sheet with nothing but keyframes. -/
def framesSheet : Stylesheet :=
  [.ruleBlock "keyframes" "a" [.style ["from"] [.set "top" "0" false]]]

/-- A selector of keyframes is not counted, though nothing is dropped. -/
theorem run_framesSheet
    : Stylesheet.read "@keyframes a\x7bfrom\x7btop:0\x7d\x7d" = .ok ⟨framesSheet, []⟩
      ∧ (run plainSettings slowPage 0 none framesSheet).ending = .done
      ∧ ((Stylesheet.occurrences (fun _ => false)
            (withoutDropped plainSettings.scope framesSheet)).map (·.1)) = ["from"]
      ∧ (run plainSettings slowPage 0 none framesSheet).events
        = [Counters.event ⟨0, 0, 0, 0, 0⟩] := by
  have frames : isKeyframes "keyframes" = true := by decide
  have definition (body : List Node) :=
    retention_keyframes frames plainSettings.scope "a" body
  have kept
      : collectNodes plainSettings.scope framesSheet = ⟨framesSheet, false, []⟩ := by
    simp [framesSheet, collectNodes, collectNode, Scope.drops, definition]
  have rules : styleRules plainSettings.scope framesSheet = [] := by
    simp [framesSheet, styleRules, styleRulesOf, definition]
  have same (test : List Declaration → String → Bool)
      : filterNodes plainSettings.scope test framesSheet = framesSheet := by
    simp [framesSheet, filterNodes, filterNode, definition]
  have ended
      : (run plainSettings slowPage 0 none framesSheet).ending = .done
        ∧ (run plainSettings slowPage 0 none framesSheet).events
          = [Counters.event ⟨0, 0, 0, 0, 0⟩] := by
    simp [run, kept, rules, same, distinctQueries, sorted, FanOut.run, FanOut.State.advance,
      FanOut.State.drain, FanOut.State.initial, FanOut.State.roundsFor, FanOut.State.step,
      FanOut.State.found, FanOut.Status.isOver, FanOut.Status.isAnswered, Selection.decide,
      dueChecks, runChecks, countSelectors, refusalEvents, Counters.event]
  exact ⟨Stylesheet.read_of_reads (by decide +kernel), ended.1, by decide +kernel, ended.2⟩

end Counted

end Selection

end CriticalCss
