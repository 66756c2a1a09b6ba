import CriticalCss.Proofs.Selection.Schedule

/-! What the fan-out guarantees while it goes on and when it ends, whatever the map of selectors to
queries, the number of questions allowed, and the order and the times of the replies. Clearing is
not asked about before all of that is over.
-/

namespace CriticalCss

variable {ε : Type}

namespace FanOut

/-- The jobs are collected with an answer each if the status says so. -/
theorem Status.isAnswered_iff {status : Status ε}
    : status.isAnswered = true ↔ status = .answered := by
  cases status <;> simp [Status.isAnswered]

/-- A run follows a schedule, and stops all jobs unless every query is answered. -/
theorem exists_moment_run {queries : List String} (respond : String → Response ε)
    (clock limit : Nat) (deadline : Option Nat) (distinct : queries.Nodup)
    : ∃ reached,
        Moment respond limit queries reached
        ∧ (reached.status = .answered ∧ run respond clock limit deadline queries = reached
          ∨ reached.status ≠ .answered
            ∧ run respond clock limit deadline queries = reached.stopAll) := by
  refine ⟨_, (Moment.initial clock).advance distinct deadline queries.length, ?_⟩
  unfold run
  dsimp only
  split
  · rename_i answered
    exact Or.inl ⟨Status.isAnswered_iff.mp answered, rfl⟩
  · rename_i unanswered
    exact Or.inr ⟨fun answered => unanswered (Status.isAnswered_iff.mpr answered), rfl⟩

/-- A run that ends with all queries answered is at the end of a schedule. -/
theorem moment_run {respond : String → Response ε} {clock limit : Nat} {deadline : Option Nat}
    {queries : List String} (distinct : queries.Nodup)
    (answered : (run respond clock limit deadline queries).status = .answered)
    : Moment respond limit queries (run respond clock limit deadline queries) := by
  obtain ⟨reached, moment, ⟨_, same⟩ | ⟨unanswered, same⟩⟩ :=
    exists_moment_run respond clock limit deadline distinct
  · exact same ▸ moment
  · obtain ⟨going, _⟩ := moment.going distinct
    exact absurd ((going.stopAll distinct).status.symm.trans (same ▸ answered)) unanswered

/-- A run breaks down only if the page does at one of the queries. -/
theorem exists_broken_of_run {respond : String → Response ε} {clock limit : Nat}
    {deadline : Option Nat} {queries : List String} {fault : ε} (distinct : queries.Nodup)
    (broken : (run respond clock limit deadline queries).status = .broken fault)
    : ∃ query ∈ (run respond clock limit deadline queries).asked,
        (respond query).reply? = some (.broken fault) := by
  obtain ⟨reached, moment, ⟨answered, same⟩ | ⟨_, same⟩⟩ :=
    exists_moment_run respond clock limit deadline distinct
  · rw [same, answered] at broken
    cases broken
  · obtain ⟨going, _⟩ := moment.going distinct
    have stopped := going.stopAll distinct
    rw [same, stopped.status] at broken
    rw [same, stopped.asked]
    have found := going.finished (by rw [broken]; rfl)
    rw [broken, State.found] at found
    cases noted : reached.fault with
    | none =>
      rw [noted] at found
      cases found
    | some other =>
      rw [noted] at found
      cases found
      exact going.crash fault noted

/-- A deadline that is late enough makes no difference.
Witness: induction on the replies that are still to come, each of which has its time.
-/
theorem exists_late (respond : String → Response ε) (jobs replies : Nat) (state : State ε)
    : ∃ bound,
        ∀ deadline,
          bound < deadline
            → state.advance respond jobs (some deadline) replies
              = state.advance respond jobs none replies := by
  induction replies generalizing state with
  | zero => exact ⟨0, fun _ _ => rfl⟩
  | succ replies ih =>
    unfold State.advance
    dsimp only
    split
    · exact ⟨0, fun _ _ => rfl⟩
    · split
      · exact ⟨0, fun _ _ => rfl⟩
      · rename_i time _
        obtain ⟨bound, late⟩ := ih
          { state.drain respond (State.roundsFor jobs) with
            clock := time
            agenda := (state.drain respond (State.roundsFor jobs)).arrivals time }
        refine ⟨max time bound, fun deadline later => ?_⟩
        have before : ¬ deadline ≤ time := by omega
        simpa [before] using late deadline (by omega)

end FanOut

namespace Selection

open FanOut (Moment Step Answering)

--------------------------------------------------------------------------------
-- Guarantees
--------------------------------------------------------------------------------

/-- The queries that a map has for selectors, each once, in order. -/
def queriesFor (query? : String → Option String) (selectors : List String) : List String :=
  sorted (selectors.filterMap query?).eraseDups

theorem nodup_queriesFor (query? : String → Option String) (selectors : List String)
    : (queriesFor query? selectors).Nodup :=
  (List.mergeSort_perm _ _).nodup_iff.mpr (nodup_eraseDups _)

theorem mem_queriesFor {query? : String → Option String} {selectors : List String} {query : String}
    : query ∈ queriesFor query? selectors
      ↔ ∃ selector ∈ selectors, query? selector = some query := by
  rw [queriesFor, mem_sorted, List.mem_eraseDups, List.mem_filterMap]

/-- What holds of a fan-out for the queries of some selectors at a moment. -/
structure Orderly (respond : String → Response ε) (query? : String → Option String)
    (selectors : List String) (concurrency : Int) (state : FanOut.State ε)
    : Prop where
  /-- No more questions are open than are allowed; one always is allowed. -/
  bounded : (state.inFlight.length : Int) ≤ max concurrency 1
  /-- Neither were there more at any time before. -/
  peak : (state.peak : Int) ≤ max concurrency 1
  /-- No slot is lost, and none is given back twice. -/
  slots
    : ((state.free + state.woken.length + state.inFlight.length : Nat) : Int) = max concurrency 1
  /-- Only queries of the selectors are asked, however many selectors share one. -/
  wanted : ∀ query ∈ state.asked, ∃ selector ∈ selectors, query? selector = some query
  once : state.asked.Nodup
  /-- When all is over the queries are answered, unless the page broke down at one of them. -/
  ended
    : state.status.isOver = true
      → state.status = .answered
        ∨ ∃ fault,
            state.status = .broken fault
            ∧ ∃ query ∈ state.asked, (respond query).reply? = some (.broken fault)
  /-- When they are answered, no question is open. -/
  landed : state.status = .answered → state.inFlight = []
  /-- Then the query of every selector was asked exactly once. -/
  complete
    : state.status = .answered
      → ∀ selector ∈ selectors,
          ∀ query, query? selector = some query → state.asked.count query = 1
  /-- Then every selector finds the page's answer to its own query. -/
  own
    : state.status = .answered
      → ∀ selector ∈ selectors,
          ∀ query,
            query? selector = some query
              → isVisible state.answers query = (respond query).isYes
  /-- On a page that answers, the jobs never get stuck. -/
  goesOn
    : Answering respond → state.status.isOver = false → ∃ next, Step respond state next

/-- The fan-out is orderly at every moment of every schedule. -/
theorem Orderly.of_moment {respond : String → Response ε} {query? : String → Option String}
    {selectors : List String} {concurrency : Int} {state : FanOut.State ε}
    (moment
      : Moment respond (max concurrency 1).toNat (queriesFor query? selectors) state)
    : Orderly respond query? selectors concurrency state := by
  have distinct := nodup_queriesFor query? selectors
  obtain ⟨going, _⟩ := moment.going distinct
  have slots : state.free + state.woken.length + state.inFlight.length
      = (max concurrency 1).toNat := by
    simpa using going.slots
  have atMost (query : String)
      : state.asked.count query ≤ (queriesFor query? selectors).count query := by
    have := going.unasked query
    omega
  have collected := going.collected
  exact {
    bounded := by omega
    peak := by
      have := going.peak
      omega
    slots := by omega
    wanted := by
      intro query asked
      have member := List.count_pos_iff.mpr asked
      exact mem_queriesFor.mp (List.count_pos_iff.mp (Nat.lt_of_lt_of_le member (atMost query)))
    once := List.nodup_iff_count.mpr fun query =>
      Nat.le_trans (atMost query) (List.nodup_iff_count.mp distinct query)
    ended := by
      intro finished
      have found := going.finished finished
      cases fault : state.fault with
      | none => exact Or.inl (by rw [found, FanOut.State.found, fault])
      | some fault' =>
        exact Or.inr ⟨fault', by rw [found, FanOut.State.found, fault], going.crash fault' fault⟩
    landed := fun answered => (collected answered).ended.inFlight
    complete := by
      intro answered selector inSelectors query found
      rw [(collected answered).asked.count_eq]
      exact List.count_eq_one_of_mem distinct (mem_queriesFor.mpr ⟨selector, inSelectors, found⟩)
    own := by
      intro answered selector inSelectors query found
      exact isVisible_of_collected query (collected answered)
        (mem_queriesFor.mpr ⟨selector, inSelectors, found⟩)
    goesOn := fun answering ongoing => moment.exists_step answering distinct (by omega) ongoing }

--------------------------------------------------------------------------------
-- Selection
--------------------------------------------------------------------------------

/-- The selectors that selection decides about. -/
def decidedSelectors (settings : Settings) (sheet : Stylesheet) : List String :=
  (styleRules settings.scope (collectNodes settings.scope sheet).kept).flatMap (·.1)

/-- What the part of selection behind the queries reports of the page. -/
theorem decide_trace (settings : Settings) (probe : Probe ε) (sheet : Stylesheet)
    (asked : FanOut.State ε) (before : List Event)
    : ∃ checks : List Check,
        (Selection.decide settings probe sheet asked before).trace
          = { queries := asked.asked
              clearing := checks.map fun check =>
                (check.query, check.properties,
                  (distinctQueries settings (styleRules settings.scope sheet)).filter
                    (isVisible asked.answers))
              peak := asked.peak } := by
  unfold Selection.decide
  dsimp only
  split <;> exact ⟨_, rfl⟩

/-- For every map of selectors to queries and every number of questions, the fan-out is orderly at
every moment of every schedule. Selection follows one of the schedules, and clearing is asked
about only when that has come to its end, with what is critical then by all its answers. -/
theorem orderly_fanOut (probe : Probe ε) (concurrency : Int)
    : (∀ (query? : String → Option String) (selectors : List String) (state : FanOut.State ε),
          Moment probe.isVisible (max concurrency 1).toNat (queriesFor query? selectors) state
            → Orderly probe.isVisible query? selectors concurrency state)
      ∧ ∀ (settings : Settings) (clock : Nat) (deadline : Option Nat) (sheet : Stylesheet),
          settings.options.concurrency = concurrency
            → ∃ state,
                Moment probe.isVisible (max concurrency 1).toNat
                    (queriesFor settings.query? (decidedSelectors settings sheet)) state
                ∧ (run settings probe clock deadline sheet).trace.queries = state.asked
                ∧ (run settings probe clock deadline sheet).trace.peak = state.peak
                ∧ ∀ check ∈ (run settings probe clock deadline sheet).trace.clearing,
                    state.status = .answered
                    ∧ check.2.2
                      = (queriesFor settings.query? (decidedSelectors settings sheet)).filter
                          fun query => (probe.isVisible query).isYes := by
  refine ⟨fun query? selectors state moment => .of_moment moment, ?_⟩
  rintro settings clock deadline sheet rfl
  have distinct := nodup_queriesFor settings.query? (decidedSelectors settings sheet)
  obtain ⟨reached, moment, ended⟩ :=
    FanOut.exists_moment_run probe.isVisible clock settings.limit deadline distinct
  unfold run
  dsimp only
  split
  · exact ⟨_, .initial clock, rfl, rfl, fun check absurd => nomatch absurd⟩
  · have queries
        : distinctQueries settings
            (styleRules settings.scope (collectNodes settings.scope sheet).kept)
          = queriesFor settings.query? (decidedSelectors settings sheet) :=
      rfl
    rw [queries]
    refine ⟨reached, moment, ?_⟩
    obtain ⟨going, _⟩ := moment.going distinct
    rcases ended with ⟨answered, same⟩ | ⟨unanswered, same⟩
    · rw [same]
      simp only [answered]
      obtain ⟨checks, trace⟩ := decide_trace settings probe (collectNodes settings.scope sheet).kept
        reached ((collectNodes settings.scope sheet).events ++ refusalEvents reached.refusals)
      rw [trace, queries]
      refine ⟨rfl, rfl, fun check member => ⟨trivial, ?_⟩⟩
      obtain ⟨made, _, rfl⟩ := List.mem_map.mp member
      exact List.filter_congr fun query asked =>
        isVisible_of_collected query (going.collected answered) asked
    · have stopped := going.stopAll distinct
      rw [same]
      split
      · rename_i answered
        exact absurd (stopped.status.symm.trans answered) unanswered
      · exact ⟨stopped.asked, stopped.peak, fun check absurd => nomatch absurd⟩
      · exact ⟨stopped.asked, stopped.peak, fun check absurd => nomatch absurd⟩

/-- A map under which two of three selectors share a query. -/
def sharingQuery? (selector : String) : Option String :=
  if selector = "b" then some "b" else some "a"

/-- With no question allowed the slow page is asked one after the other about two queries of three
selectors, and selection asks it about clearing behind its own. -/
theorem orderly_fanOut_slowPage
    : queriesFor sharingQuery? ["b", "a:after", "a"] = ["a", "b"]
      ∧ ((FanOut.run slowPage.isVisible 0 1 none ["a", "b"]).asked = ["a", "b"]
        ∧ (FanOut.run slowPage.isVisible 0 1 none ["a", "b"]).status.isAnswered = true)
      ∧ Orderly slowPage.isVisible sharingQuery? ["b", "a:after", "a"] 0
          (FanOut.run slowPage.isVisible 0 1 none ["a", "b"])
      ∧ ∃ state,
          Moment slowPage.isVisible 8
              (queriesFor plainSettings.query?
                (decidedSelectors plainSettings [.style ["b"] [.set "clear" "both" false]]))
              state
          ∧ (run plainSettings slowPage 0 none
                [.style ["b"] [.set "clear" "both" false]]).trace.clearing
            = [("b", ["clear"], [])]
          ∧ state.status = .answered := by
  have found : (["b", "a:after", "a"].filterMap sharingQuery?).eraseDups = ["b", "a"] := by decide
  have queries : queriesFor sharingQuery? ["b", "a:after", "a"] = ["a", "b"] := by
    rw [queriesFor, found]
    exact sorted_eq (.swap "b" "a" []) (by decide)
  have answered : (FanOut.run slowPage.isVisible 0 1 none ["a", "b"]).status.isAnswered = true := by
    decide +kernel
  have moment : Moment slowPage.isVisible (max (0 : Int) 1).toNat
      (queriesFor sharingQuery? ["b", "a:after", "a"])
      (FanOut.run slowPage.isVisible 0 1 none ["a", "b"]) := by
    rw [queries]
    exact FanOut.moment_run (by decide) (FanOut.Status.isAnswered_iff.mp answered)
  refine ⟨queries, ⟨by decide +kernel, answered⟩,
    (orderly_fanOut slowPage 0).1 sharingQuery? _ _ moment, ?_⟩
  have clearing : (run plainSettings slowPage 0 none
      [.style ["b"] [.set "clear" "both" false]]).trace.clearing = [("b", ["clear"], [])] := by
    decide +kernel
  obtain ⟨state, moment, _, _, checks⟩ :=
    (orderly_fanOut slowPage 8).2 plainSettings 0 none
      [.style ["b"] [.set "clear" "both" false]] rfl
  exact ⟨state, moment, clearing, (checks _ (by rw [clearing]; exact List.mem_cons_self)).1⟩

end Selection

end CriticalCss
