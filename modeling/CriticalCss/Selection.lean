import CriticalCss.Selection.Collect
import CriticalCss.Selection.FanOut
import CriticalCss.Selector.ForceInclude
import CriticalCss.Selector.Query
/-! Choosing the critical part of a style sheet: the selectors that style something in the viewport.

First every selector is judged by its text: interactive ones are out, those that are always kept are
in, for the others there is a query. Then the page is asked about all queries. Last, a selector
below the fold is kept after all if its rule clears or floats and undoing that would move
something across the fold; these checks compare with what is critical by then, so they wait for
all queries. The tree is changed only when every question has been answered.
-/

namespace CriticalCss.Selection

--------------------------------------------------------------------------------
-- Judging selectors
--------------------------------------------------------------------------------

/-- What decides about a selector. -/
structure Options where
  strict : Bool := false
  keepLarger : Bool := false
  /-- The properties that can shape the fold from below it. -/
  clearing : List String := ["clear", "float", "overflow", "overflow-x", "overflow-y"]
  /-- The number of questions that may be open at once, at least one. -/
  concurrency : Int := 8

/-- Everything that selection goes by, apart from the page. -/
structure Settings where
  viewport : Viewport
  matcher : ForceInclude.Matcher
  interactive : List String := Selector.interactivePseudoClasses
  options : Options := {}

/-- The judgement on a selector by its text. -/
inductive Verdict where
  | excluded
  | kept
  | ask (query : String)
  deriving DecidableEq, Repr

namespace Settings

/-- The conditions under which containers are looked into. -/
def scope (settings : Settings) : Scope :=
  ⟨settings.viewport, settings.options.keepLarger⟩

/-- Judges a selector by its text. -/
def verdict (settings : Settings) (selector : String) : Verdict :=
  if Selector.isInteractive settings.interactive selector then .excluded
  else if settings.matcher.keeps selector then .kept
  else
    match Selector.queryFor? selector settings.options.strict with
    | some query => .ask query
    | none => .excluded

/-- The query for a selector, if the page has to be asked. -/
def query? (settings : Settings) (selector : String) : Option String :=
  match settings.verdict selector with
  | .ask query => some query
  | _ => none

/-- The number of questions that may be open at once. -/
def limit (settings : Settings) : Nat :=
  (max settings.options.concurrency 1).toNat

/-- The clearing properties among declarations, in order. -/
def clearingAmong (settings : Settings) (declarations : List Declaration) : List String :=
  let names := settings.options.clearing.map Text.lowerString
  (declarations.map Declaration.property).filter names.contains

end Settings

/-- Texts in the order of their characters. -/
def sorted (texts : List String) : List String :=
  texts.mergeSort fun a b => !decide (b < a)

/-- The queries for the selectors of style rules, each once, in order. -/
def distinctQueries (settings : Settings) (rules : List (List String × List Declaration))
    : List String :=
  sorted ((rules.flatMap (·.1)).filterMap settings.query?).eraseDups

--------------------------------------------------------------------------------
-- Clearing checks
--------------------------------------------------------------------------------

/-- A check whether clearing shapes the fold. -/
structure Check where
  selector : String
  query : String
  properties : List String

/-- The checks that are due, given which queries show something in the viewport. -/
def dueChecks (settings : Settings) (visible : String → Bool)
    (rules : List (List String × List Declaration))
    : List Check :=
  rules.flatMap fun rule =>
    let properties := settings.clearingAmong rule.2
    if properties.isEmpty then []
    else
      rule.1.filterMap fun selector =>
        (settings.query? selector).bind fun query =>
          if visible query then none else some ⟨selector, query, properties⟩

/-- What is known after some checks. -/
structure Checked (ε : Type) where
  /-- The checks that were made. -/
  made : List Check
  rescued : Nat
  refused : Nat
  events : List Event
  fault : Option ε

/-- Makes checks one after the other until one breaks down. -/
def runChecks {ε : Type} (probe : Probe ε) (critical : List String) : List Check → Checked ε
  | [] => ⟨[], 0, 0, [], none⟩
  | check :: rest =>
    match probe.shiftsLayout check.query check.properties critical with
    | .broken fault => ⟨[check], 0, 0, [], some fault⟩
    | .answer false =>
      let others := runChecks probe critical rest
      { others with made := check :: others.made }
    | .answer true =>
      let others := runChecks probe critical rest
      { others with
        made := check :: others.made
        rescued := others.rescued + 1
        events := .selectorRescued check.selector check.properties :: others.events }
    | .refused message =>
      let others := runChecks probe critical rest
      { others with
        made := check :: others.made
        refused := others.refused + 1
        events :=
          .clearingCheckFailed check.selector (refusalText check.query message) :: others.events }

/-- Is the selector of a rule with the given declarations kept, once the visible queries are
known? -/
def keepsSelector {ε : Type} (settings : Settings) (probe : Probe ε) (visible : String → Bool)
    (critical : List String) (declarations : List Declaration) (selector : String)
    : Bool :=
  match settings.verdict selector with
  | .excluded => false
  | .kept => true
  | .ask query =>
    visible query
      || (let properties := settings.clearingAmong declarations
          !properties.isEmpty && (probe.shiftsLayout query properties critical).isYes)

--------------------------------------------------------------------------------
-- Selection
--------------------------------------------------------------------------------

/-- What a page was asked. -/
structure Trace where
  /-- Queries in the order in which they were asked. -/
  queries : List String := []
  /-- Clearing checks: query, properties, and what was critical. -/
  clearing : List (String × List String × List String) := []
  /-- The greatest number of questions that were open at once. -/
  peak : Nat := 0
  /-- Queries whose reply was not awaited to the end, in order. -/
  cancelled : List String := []

/-- How selection ends. -/
inductive Ending (ε : Type) where
  | done
  | broken (fault : ε)
  /-- The deadline has passed. -/
  | cutOff
  /-- A container has no content to look into. -/
  | hollowContainer

/-- The result of selection: the tree, its end, and what happened. -/
structure Result (ε : Type) where
  sheet : Stylesheet
  ending : Ending ε
  trace : Trace
  events : List Event
  clock : Nat

/-- The number of selectors in style rules. -/
def countSelectors (rules : List (List String × List Declaration)) : Nat :=
  rules.foldl (fun count rule => count + rule.1.length) 0

/-- Was the query answered with a yes? -/
def isVisible (answers : List (String × Bool)) (query : String) : Bool :=
  (answers.lookup query).getD false

/-- The events of queries that were refused. -/
def refusalEvents (refusals : List (String × String)) : List Event :=
  refusals.map fun refusal => .queryFailed refusal.1 (refusalText refusal.1 refusal.2)

/-- The part of selection behind the queries. -/
def decide {ε : Type} (settings : Settings) (probe : Probe ε) (sheet : Stylesheet)
    (asked : FanOut.State ε) (before : List Event)
    : Result ε :=
  let scope := settings.scope
  let rules := styleRules scope sheet
  let queries := distinctQueries settings rules
  let visible := isVisible asked.answers
  let critical := queries.filter visible
  let checks := runChecks probe critical (dueChecks settings visible rules)
  let trace : Trace :=
    { queries := asked.asked
      clearing := checks.made.map fun check => (check.query, check.properties, critical)
      peak := asked.peak }
  let events := before ++ checks.events
  match checks.fault with
  | some fault => ⟨sheet, .broken fault, trace, events, asked.clock⟩
  | none =>
    let chosen := filterNodes scope (keepsSelector settings probe visible critical) sheet
    let completed : Event :=
      .selectionCompleted (countSelectors rules) (countSelectors (styleRules scope chosen))
        queries.length (asked.refusals.length + checks.refused) checks.rescued
    ⟨dropEmptyNodes chosen, .done, trace, events ++ [completed], asked.clock⟩

/-- Chooses the critical part of a sheet, from a time on and up to a deadline. -/
def run {ε : Type} (settings : Settings) (probe : Probe ε) (clock : Nat) (deadline : Option Nat)
    (sheet : Stylesheet)
    : Result ε :=
  let collected := collectNodes settings.scope sheet
  if collected.stopped then ⟨collected.kept, .hollowContainer, {}, collected.events, clock⟩
  else
    let queries := distinctQueries settings (styleRules settings.scope collected.kept)
    let asked := FanOut.run probe.isVisible clock settings.limit deadline queries
    let events := collected.events ++ refusalEvents asked.refusals
    let trace : Trace :=
      { queries := asked.asked
        peak := asked.peak
        cancelled := sorted asked.cancelled }
    match asked.status with
    | .answered => decide settings probe collected.kept asked events
    | .broken fault => ⟨collected.kept, .broken fault, trace, events, asked.clock⟩
    | .running => ⟨collected.kept, .cutOff, trace, events, asked.clock⟩

end CriticalCss.Selection
