import CriticalCss.Proofs.Selection.Concurrency

/-! What is left when selection is broken off, because the page breaks down or because the time is
up. The verdicts are applied to the tree in one go behind the last question, so until then the tree
only lacks what is dropped whatever the page shows. The jobs are told to stop wherever they stand,
and none of them is left to ask anything.
-/

namespace CriticalCss.Selection

open FanOut (Moment Step)

variable {ε : Type}

--------------------------------------------------------------------------------
-- The tree
--------------------------------------------------------------------------------

mutual
/-- The rule without the rules in it that are dropped whatever the page shows; nothing if it is one
of them. Only containers are gone through. -/
def withoutDroppedOf (scope : Scope) (node : Node) : Option Node :=
  if scope.drops node then none
  else
    match node with
    | .ruleBlock name prelude body =>
      if scope.retention (.ruleBlock name prelude body) = .container then
        some (.ruleBlock name prelude (withoutDropped scope body))
      else some (.ruleBlock name prelude body)
    | other => some other

/-- The rules without those that are dropped whatever the page shows. -/
def withoutDropped (scope : Scope) : List Node → List Node
  | [] => []
  | node :: rest => (withoutDroppedOf scope node).toList ++ withoutDropped scope rest
end

theorem withoutDropped_append (scope : Scope) (left right : List Node)
    : withoutDropped scope (left ++ right)
      = withoutDropped scope left ++ withoutDropped scope right := by
  induction left with
  | nil => rfl
  | cons node rest ih => simp [withoutDropped, ih]

/-- Of a rule without a block of rules all stays unless it is dropped. -/
theorem withoutDroppedOf_leaf {scope : Scope} {node : Node} (leaf : node.holdsRules = false)
    : withoutDroppedOf scope node = if scope.drops node then none else some node := by
  unfold withoutDroppedOf
  cases node with
  | ruleBlock => simp [Node.holdsRules] at leaf
  | _ => rfl

/-- Collecting takes out what is dropped whatever the page shows and nothing else, unless it is
stopped. -/
theorem collectNodes_kept {scope : Scope} {sheet : Stylesheet}
    (unstopped : (collectNodes scope sheet).stopped = false)
    : (collectNodes scope sheet).kept = withoutDropped scope sheet := by
  -- Going on with the rules behind means that nothing stopped it before.
  have apart {node : Node} {rest : List Node}
      (unstopped : (collectNodes scope (node :: rest)).stopped = false)
      : (collectNode scope node).stopped = false ∧ (collectNodes scope rest).stopped = false := by
    cases first : (collectNode scope node).stopped with
    | true => simp [collectNodes, first] at unstopped
    | false => simpa [collectNodes, first] using unstopped
  induction sheet using Stylesheet.induction with
  | nil => rfl
  | block name prelude body rest inner later =>
    obtain ⟨first, others⟩ := apart unstopped
    rw [(collectNodes_cons first others).2, withoutDropped, later others, List.append_left_inj]
    refine congrArg Option.toList ?_
    unfold collectNode at first ⊢
    unfold withoutDroppedOf
    split
    · rfl
    · by_cases container : scope.retention (.ruleBlock name prelude body) = .container
      · simp only [container, drops_of_container container, Bool.false_eq_true, if_false,
          beq_self_eq_true, if_true] at first ⊢
        rw [inner first]
      · simp [container]
  | leaf node rest leaf later =>
    obtain ⟨first, others⟩ := apart unstopped
    rw [(collectNodes_cons first others).2, withoutDropped, later others, List.append_left_inj]
    refine congrArg Option.toList ?_
    unfold collectNode withoutDroppedOf
    split
    · rfl
    · cases node with
      | ruleBlock => simp [Node.holdsRules] at leaf
      | _ => rfl

--------------------------------------------------------------------------------
-- The jobs
--------------------------------------------------------------------------------

/-- The jobs do nothing any more: nothing is left of them, no schedule goes on, and every question
that was asked has had its reply or was given up. -/
structure Quiet (respond : String → Response ε) (state : FanOut.State ε) : Prop where
  ended : state.Ended
  still : ∀ next, ¬ Step respond state next
  replied
    : ∀ query ∈ state.asked,
        (respond query).reply?.isSome = true ∨ query ∈ state.cancelled

section Jobs

variable {respond : String → Response ε} {queries : List String} {limit : Nat}
  {state : FanOut.State ε}

/-- When all is answered, every question that was asked has had its reply. -/
theorem replied_of_answered {query : String} (distinct : queries.Nodup)
    (moment : Moment respond limit queries state) (answered : state.status = .answered)
    (asked : query ∈ state.asked)
    : (respond query).reply?.isSome = true := by
  obtain ⟨going, _⟩ := moment.going distinct
  refine (going.landed query asked).resolve_left fun flying => ?_
  rw [(going.collected answered).ended.inFlight] at flying
  cases flying

/-- Jobs that are answered are quiet. -/
theorem quiet_of_answered (distinct : queries.Nodup)
    (moment : Moment respond limit queries state) (answered : state.status = .answered)
    : Quiet respond state := by
  have ended := ((moment.going distinct).1.collected answered).ended
  exact ⟨ended, fun _ => ended.not_step, fun query asked =>
    Or.inl (replied_of_answered distinct moment answered asked)⟩

/-- Jobs that are told to stop are quiet, at whatever moment that is. -/
theorem quiet_stopAll (distinct : queries.Nodup) (moment : Moment respond limit queries state)
    : Quiet respond state.stopAll := by
  obtain ⟨going, _⟩ := moment.going distinct
  have stopped := going.stopAll distinct
  refine ⟨stopped.ended, fun _ => stopped.ended.not_step, fun query asked => ?_⟩
  rw [stopped.asked] at asked
  rcases going.landed query asked with flying | replied
  · have given := (stopped.cancelled query).mpr (Or.inr flying)
    rw [stopped.ended.inFlight] at given
    exact Or.inr (given.resolve_right List.not_mem_nil)
  · exact Or.inl replied

/-- However a run ends, its jobs are quiet then. -/
theorem quiet_run (respond : String → Response ε) (clock limit : Nat) (deadline : Option Nat)
    (distinct : queries.Nodup)
    : Quiet respond (FanOut.run respond clock limit deadline queries) := by
  obtain ⟨reached, moment, ⟨answered, same⟩ | ⟨_, same⟩⟩ :=
    FanOut.exists_moment_run respond clock limit deadline distinct
  · exact same ▸ quiet_of_answered distinct moment answered
  · exact same ▸ quiet_stopAll distinct moment

/-- Checks break down only if the page does at the last one made. -/
theorem exists_broken_of_runChecks {probe : Probe ε} {critical : List String} {checks : List Check}
    {fault : ε} (broken : (runChecks probe critical checks).fault = some fault)
    : ∃ check ∈ (runChecks probe critical checks).made,
        probe.shiftsLayout check.query check.properties critical = .broken fault := by
  induction checks with
  | nil => cases broken
  | cons check rest ih =>
    unfold runChecks at broken ⊢
    cases reply : probe.shiftsLayout check.query check.properties critical with
    | broken other =>
      simp only [reply] at broken ⊢
      cases broken
      exact ⟨check, List.mem_cons_self, reply⟩
    | refused message =>
      simp only [reply] at broken ⊢
      obtain ⟨other, made, breaks⟩ := ih broken
      exact ⟨other, List.mem_cons_of_mem _ made, breaks⟩
    | answer yes =>
      cases yes <;>
        · simp only [reply] at broken ⊢
          obtain ⟨other, made, breaks⟩ := ih broken
          exact ⟨other, List.mem_cons_of_mem _ made, breaks⟩

end Jobs

--------------------------------------------------------------------------------
-- Interrupted runs
--------------------------------------------------------------------------------

/-- The fan-out of a selection. -/
def fanOut (settings : Settings) (probe : Probe ε) (clock : Nat) (deadline : Option Nat)
    (sheet : Stylesheet)
    : FanOut.State ε :=
  FanOut.run probe.isVisible clock settings.limit deadline
    (queriesFor settings.query? (decidedSelectors settings sheet))

/-- The ending tells that selection was broken off. -/
def Ending.IsInterrupted : Ending ε → Prop
  | .broken _ => True
  | .cutOff => True
  | _ => False

/-- Selection breaks down with its fan-out. -/
theorem run_ending_of_broken {settings : Settings} {probe : Probe ε} {clock : Nat}
    {deadline : Option Nat} {sheet : Stylesheet} {fault : ε}
    (unstopped : (collectNodes settings.scope sheet).stopped = false)
    (broken : (fanOut settings probe clock deadline sheet).status = .broken fault)
    : (run settings probe clock deadline sheet).ending = .broken fault := by
  have broken
      : (FanOut.run probe.isVisible clock settings.limit deadline
          (distinctQueries settings
            (styleRules settings.scope (collectNodes settings.scope sheet).kept))).status
        = .broken fault :=
    broken
  simp [run, unstopped, broken]

/-- What an interrupted selection leaves behind. -/
structure Abandoned (settings : Settings) (probe : Probe ε) (sheet : Stylesheet)
    (jobs : FanOut.State ε) (result : Result ε)
    : Prop where
  /-- No verdict is applied to the tree. -/
  sheet : result.sheet = withoutDropped settings.scope sheet
  quiet : Quiet probe.isVisible jobs
  queries : result.trace.queries = jobs.asked
  /-- Every question on record has had its reply or is on record as given up. -/
  replied
    : ∀ query ∈ result.trace.queries,
        (probe.isVisible query).reply?.isSome = true ∨ query ∈ result.trace.cancelled
  /-- A breakdown is the page's own, at a query or at a clearing check. -/
  cause
    : ∀ fault,
        result.ending = .broken fault
          → (∃ query ∈ result.trace.queries,
              (probe.isVisible query).reply? = some (.broken fault))
            ∨ ∃ check ∈ result.trace.clearing,
              probe.shiftsLayout check.1 check.2.1 check.2.2 = .broken fault

/-- The part of selection behind the queries applies no verdict if it breaks down. -/
theorem decide_interrupted {settings : Settings} {probe : Probe ε} {sheet : Stylesheet}
    {asked : FanOut.State ε} {before : List Event}
    (interrupted : (Selection.decide settings probe sheet asked before).ending.IsInterrupted)
    : (Selection.decide settings probe sheet asked before).sheet = sheet
      ∧ ∀ fault,
          (Selection.decide settings probe sheet asked before).ending = .broken fault
            → ∃ check ∈ (Selection.decide settings probe sheet asked before).trace.clearing,
                probe.shiftsLayout check.1 check.2.1 check.2.2 = .broken fault := by
  unfold Selection.decide at interrupted ⊢
  dsimp only at interrupted ⊢
  split
  · rename_i fault broken
    refine ⟨rfl, fun other same => ?_⟩
    cases same
    obtain ⟨check, made, breaks⟩ := exists_broken_of_runChecks broken
    exact ⟨_, List.mem_map_of_mem made, breaks⟩
  · rename_i unbroken
    simp [unbroken, Ending.IsInterrupted] at interrupted

/-- An interrupted selection leaves the tree without any verdict and no job behind. At whatever
moment of whatever schedule the jobs are told to stop, they ask nothing any more. -/
theorem abandoned_run (settings : Settings) (probe : Probe ε) (clock : Nat)
    (deadline : Option Nat) (sheet : Stylesheet)
    (interrupted : (run settings probe clock deadline sheet).ending.IsInterrupted)
    : Abandoned settings probe sheet (fanOut settings probe clock deadline sheet)
          (run settings probe clock deadline sheet)
      ∧ ∀ state,
          Moment probe.isVisible settings.limit
              (queriesFor settings.query? (decidedSelectors settings sheet)) state
            → Quiet probe.isVisible state.stopAll ∧ state.stopAll.asked = state.asked := by
  have distinct := nodup_queriesFor settings.query? (decidedSelectors settings sheet)
  refine ⟨?_, fun state moment => ⟨quiet_stopAll distinct moment,
    ((moment.going distinct).1.stopAll distinct).asked⟩⟩
  have quiet : Quiet probe.isVisible (fanOut settings probe clock deadline sheet) :=
    quiet_run probe.isVisible clock settings.limit deadline distinct
  have jobs
      : FanOut.run probe.isVisible clock settings.limit deadline
          (distinctQueries settings
            (styleRules settings.scope (collectNodes settings.scope sheet).kept))
        = fanOut settings probe clock deadline sheet :=
    rfl
  unfold run at interrupted ⊢
  dsimp only at interrupted ⊢
  rw [jobs] at interrupted ⊢
  cases stopped : (collectNodes settings.scope sheet).stopped with
  | true => simp [stopped, Ending.IsInterrupted] at interrupted
  | false =>
    have kept := collectNodes_kept stopped
    have replied (query : String)
        (asked : query ∈ (fanOut settings probe clock deadline sheet).asked)
        : (probe.isVisible query).reply?.isSome = true
          ∨ query ∈ sorted (fanOut settings probe clock deadline sheet).cancelled :=
      (quiet.replied query asked).imp_right mem_sorted.mpr
    simp only [stopped, Bool.false_eq_true, if_false] at interrupted ⊢
    cases status : (fanOut settings probe clock deadline sheet).status with
    | answered =>
      simp only [status] at interrupted ⊢
      obtain ⟨same, cause⟩ := decide_interrupted interrupted
      obtain ⟨checks, trace⟩ := decide_trace settings probe (collectNodes settings.scope sheet).kept
        (fanOut settings probe clock deadline sheet)
        ((collectNodes settings.scope sheet).events
          ++ refusalEvents (fanOut settings probe clock deadline sheet).refusals)
      refine ⟨same.trans kept, quiet, by rw [trace], fun query asked => Or.inl ?_,
        fun fault broken => Or.inr (cause fault broken)⟩
      rw [trace] at asked
      exact replied_of_answered distinct (FanOut.moment_run distinct status) status asked
    | broken fault =>
      refine ⟨kept, quiet, rfl, replied, fun other same => Or.inl ?_⟩
      cases same
      exact FanOut.exists_broken_of_run distinct status
    | running =>
      exact ⟨kept, quiet, rfl, replied, fun fault absurd => nomatch absurd⟩

/-- A sheet with two style rules for a screen and one for pages of paper. -/
def paperSheet : Stylesheet :=
  [.declarationBlock "page" "" [], .style ["b", "a:hover", "a"] [.set "clear" "both" false],
    .ruleBlock "media" "print" [.style ["b"] []]]

/-- A page that breaks down at `b` while it still thinks about `a`. -/
def fragilePage : Probe Unit where
  isVisible query :=
    if query = "a" then .later 5 (.answer true)
    else if query = "b" then .later 3 (.broken ())
    else .now (.refused "unknown")
  shiftsLayout _ _ _ := .refused "unknown"

/-- The fragile page breaks down with two questions open. The one about `a` is given up, and the
rule keeps the selectors that are decided by their texts alone. -/
theorem abandoned_run_fragilePage
    : ((fanOut plainSettings fragilePage 0 none paperSheet).asked = ["a", "b"]
        ∧ (fanOut plainSettings fragilePage 0 none paperSheet).cancelled = ["a"])
      ∧ withoutDropped plainSettings.scope paperSheet
        = [.style ["b", "a:hover", "a"] [.set "clear" "both" false]]
      ∧ (run plainSettings fragilePage 0 none paperSheet).ending = .broken ()
      ∧ Abandoned plainSettings fragilePage paperSheet
          (fanOut plainSettings fragilePage 0 none paperSheet)
          (run plainSettings fragilePage 0 none paperSheet) := by
  have selectors : decidedSelectors plainSettings paperSheet = ["b", "a:hover", "a"] := by
    decide +kernel
  have found : (["b", "a:hover", "a"].filterMap plainSettings.query?).eraseDups = ["b", "a"] := by
    decide +kernel
  have queries : queriesFor plainSettings.query? ["b", "a:hover", "a"] = ["a", "b"] := by
    rw [queriesFor, found]
    exact sorted_eq (.swap "b" "a" []) (by decide)
  have jobs
      : fanOut plainSettings fragilePage 0 none paperSheet
        = FanOut.run fragilePage.isVisible 0 8 none ["a", "b"] := by
    rw [fanOut, selectors, queries]
    rfl
  have broken : (run plainSettings fragilePage 0 none paperSheet).ending = .broken () := by
    refine run_ending_of_broken (by decide +kernel) ?_
    rw [jobs]
    rfl
  have abandoned := abandoned_run plainSettings fragilePage 0 none paperSheet (by
    rw [broken]
    trivial)
  refine ⟨?_, Stylesheet.eq_of_same (by decide +kernel), broken, abandoned.1⟩
  rw [jobs]
  exact ⟨by decide +kernel, by decide +kernel⟩

end CriticalCss.Selection
