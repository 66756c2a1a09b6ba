import CriticalCss.Proofs.Selection.Outcome
import Mathlib.Data.List.Induction
import Mathlib.Data.List.Nodup

/-! The fan-out under every order and timing of the replies.

A schedule takes the turns on the agenda in order; in between, the reply to any question that is
open can come, however long the others take. The page and the clock of a run settle on one schedule.
What the invariant says is kept by every step, so it holds at every moment of every schedule: the
slots are never exceeded and none is lost, no query is asked twice, and when all is answered every
selector finds the page's answer to its own query.
-/

namespace CriticalCss

variable {ε : Type}

namespace FanOut

--------------------------------------------------------------------------------
-- Schedules
--------------------------------------------------------------------------------

/-- What can happen next: the first turn on the agenda is taken, or the reply to a question in
flight comes at some time. -/
inductive Step (respond : String → Response ε) (state : State ε) : State ε → Prop where
  | turn {turn : Turn ε} {rest : List (Turn ε)} (found : state.agenda = turn :: rest)
      : Step respond state (State.step respond turn { state with agenda := rest })
  | reply {query : String} {reply : Reply ε} (time : Nat)
      (flying : query ∈ state.inFlight.map (·.query))
      (unnoticed : query ∉ arriving state.agenda)
      (own : (respond query).reply? = some reply)
      : Step respond state
          { state with clock := time, agenda := state.agenda ++ [.arrive query reply] }

/-- The states that the jobs for some queries can come to. -/
inductive Moment (respond : String → Response ε) (limit : Nat) (queries : List String)
    : State ε → Prop where
  | initial (clock : Nat) : Moment respond limit queries (State.initial clock limit queries)
  | next {state next : State ε} (moment : Moment respond limit queries state)
      (step : Step respond state next)
      : Moment respond limit queries next

section Schedules

variable {respond : String → Response ε} {queries : List String} {limit : Nat}
  {state next : State ε}

attribute [local simp] starting resuming arriving settling collects State.turnsLeft State.pending
  State.isDue List.count_cons

/-- A reply that comes to a question in flight is put on the agenda. -/
theorem State.Going.reply {rounds replies : Nat} {query : String} {reply : Reply ε} (time : Nat)
    (going : Going respond queries limit rounds replies {} state)
    (flying : query ∈ state.inFlight.map (·.query))
    (unnoticed : query ∉ FanOut.arriving state.agenda) (own : (respond query).reply? = some reply)
    : Going respond queries limit rounds replies {}
        { state with clock := time, agenda := state.agenda ++ [.arrive query reply] } := by
  refine { going with
    unasked := ?unasked, asked := ?asked, noticed := ?noticed, resuming := ?resuming
    arriving := ?arriving, arrivals := ?arrivals, ends := ?ends, collecting := ?collecting
    turns := ?turns, waiting := ?waiting }
  case unasked =>
    intro other
    simpa using going.unasked other
  case asked =>
    intro other
    simpa using going.asked other
  case noticed => simpa using going.noticed
  case resuming => simpa using going.resuming
  case arriving =>
    intro other
    by_cases same : query = other
    · subst other
      have come : FanOut.arriving (state.agenda ++ [Turn.arrive query reply])
          = FanOut.arriving state.agenda ++ [query] := by simp
      rw [come, List.count_append, List.count_eq_zero_of_not_mem unnoticed,
        List.count_singleton_self]
      exact List.count_pos_iff.mpr flying
    · simpa [same] using going.arriving other
  case arrivals =>
    intro other found member
    rcases List.mem_append.mp member with earlier | last
    · exact going.arrivals other found earlier
    · obtain ⟨rfl, rfl⟩ : other = query ∧ found = reply := by simpa using last
      exact own
  case ends =>
    intro other result member
    exact going.ends other result (by simpa using member)
  case collecting => simpa using going.collecting
  case turns => simpa using going.turns
  case waiting =>
    have before := going.waiting
    simp at before ⊢
    omega

/-- A step keeps the jobs in order. -/
theorem Step.going (distinct : queries.Nodup)
    (going : State.Going respond queries limit (State.roundsFor queries.length) queries.length {}
      state)
    (noIdle : state.NoIdleSlot) (step : Step respond state next)
    : State.Going respond queries limit (State.roundsFor queries.length) queries.length {} next
      ∧ next.NoIdleSlot := by
  cases step with
  | @turn turn rest found =>
    by_cases called : turn = .collect
    · subst called
      exact ⟨going.collect found, noIdle⟩
    · obtain ⟨going, noIdle⟩ := State.Going.step distinct going noIdle found called
      exact ⟨going.renew, noIdle⟩
  | reply time flying unnoticed own => exact ⟨going.reply time flying unnoticed own, noIdle⟩

/-- At every moment the jobs are in order.
Witness: induction on the schedule.
-/
theorem Moment.going (distinct : queries.Nodup) (moment : Moment respond limit queries state)
    : State.Going respond queries limit (State.roundsFor queries.length) queries.length {} state
      ∧ state.NoIdleSlot := by
  induction moment with
  | initial clock =>
    exact ⟨State.Going.initial respond clock limit queries, fun queued => absurd rfl queued⟩
  | next _ step ih => exact step.going distinct ih.1 ih.2

/-- On a page that answers, something can happen as long as the jobs are not collected. -/
theorem Moment.exists_step (answering : Answering respond) (distinct : queries.Nodup)
    (positive : 0 < limit) (moment : Moment respond limit queries state)
    (ongoing : state.status.isOver = false)
    : ∃ next, Step respond state next := by
  obtain ⟨going, noIdle⟩ := moment.going distinct
  cases found : state.agenda with
  | cons turn rest => exact ⟨_, .turn found⟩
  | nil =>
    obtain ⟨flight, others, flights⟩ :=
      List.exists_cons_of_ne_nil (going.flying_of_idle noIdle positive ongoing found)
    obtain ⟨reply, own, _⟩ := answering flight.query
    exact ⟨_, .reply state.clock (by simp [flights]) (by simp [found]) own⟩

--------------------------------------------------------------------------------
-- Runs as schedules
--------------------------------------------------------------------------------

/-- Draining the agenda takes steps of a schedule. -/
theorem Moment.drain (rounds : Nat) (moment : Moment respond limit queries state)
    : Moment respond limit queries (state.drain respond rounds) := by
  induction rounds generalizing state with
  | zero => exact moment
  | succ rounds ih =>
    unfold State.drain
    split
    · exact moment
    · split
      · exact moment
      · rename_i turn rest found
        exact ih (moment.next (.turn found))

/-- Replies that come at the same time come one after the other.
Witness: induction on their turns from the last one on.
-/
theorem Moment.replies {turns : List (Turn ε)} (time : Nat)
    (moment : Moment respond limit queries state) (idle : state.agenda = [])
    (some : turns ≠ []) (once : (arriving turns).Nodup)
    (comes
      : ∀ turn ∈ turns,
          ∃ query reply,
            turn = .arrive query reply
            ∧ query ∈ state.inFlight.map (·.query)
            ∧ (respond query).reply? = .some reply)
    : Moment respond limit queries { state with clock := time, agenda := turns } := by
  induction turns using List.reverseRecOn with
  | nil => exact absurd rfl some
  | append_singleton earlier last ih =>
    obtain ⟨query, reply, rfl, flying, own⟩ := comes last (by simp)
    have others
        : arriving (earlier ++ [Turn.arrive query reply]) = arriving earlier ++ [query] := by
      simp
    rw [others, List.nodup_append] at once
    obtain ⟨onceEarlier, _, apart⟩ := once
    have unnoticed : query ∉ arriving earlier := fun again =>
      apart query again query List.mem_cons_self rfl
    by_cases first : earlier = []
    · subst first
      have come := moment.next (.reply time flying (by simp [idle]) own)
      rw [idle] at come
      exact come
    · have before := ih first onceEarlier fun turn member =>
        comes turn (List.mem_append_left _ member)
      exact before.next (.reply time flying unnoticed own)

/-- Going from reply to reply follows a schedule. -/
theorem Moment.advance (distinct : queries.Nodup) (deadline : Option Nat) (replies : Nat)
    (moment : Moment respond limit queries state)
    : Moment respond limit queries
        (state.advance respond queries.length deadline replies) := by
  induction replies generalizing state with
  | zero => exact moment.drain _
  | succ replies ih =>
    have idle := moment.drain (State.roundsFor queries.length)
    obtain ⟨going, noIdle⟩ := moment.going distinct
    obtain ⟨going, _, ended⟩ := going.drain distinct noIdle
    unfold State.advance
    dsimp only
    split
    · exact idle
    · rename_i ongoing
      have done := ended.resolve_left ongoing
      split
      · exact idle
      · rename_i time due
        split
        · exact idle
        · refine ih (idle.replies time done ?_ ?_ ?_)
          · obtain ⟨flight, inFlight, first⟩ := List.mem_filterMap.mp (List.min?_mem due)
            obtain ⟨entry, found, rfl⟩ := Option.map_eq_some_iff.mp first
            exact List.ne_nil_of_mem (State.mem_arrivals.mpr ⟨flight, inFlight, _, found, rfl⟩)
          · refine (State.arriving_arrivals_sublist _ time).nodup ?_
            apply List.nodup_iff_count.mpr
            intro query
            have noTwice := List.nodup_iff_count.mp distinct query
            have before := going.unasked query
            have behind := going.asked query
            omega
          · intro turn member
            obtain ⟨flight, inFlight, reply, comes, rfl⟩ := State.mem_arrivals.mp member
            refine ⟨_, _, rfl, List.mem_map_of_mem inFlight, ?_⟩
            rw [← going.flights flight inFlight, comes]
            rfl

end Schedules

--------------------------------------------------------------------------------
-- Stopping
--------------------------------------------------------------------------------

namespace State

/-- The jobs that have a place in the queue or a slot. -/
def holding (state : State ε) : List String :=
  state.queue ++ state.woken ++ state.inFlight.map (·.query)

/-- The state while jobs are told to stop one after the other: only those of `rest` still hold
something, no slot is lost, and the questions that were open are given up or are open still. -/
structure Stopping (before : State ε) (limit : Nat) (rest : List String) (left : State ε)
    : Prop where
  agenda : left.agenda = []
  distinct : left.holding.Nodup
  told : ∀ query ∈ left.holding, query ∈ rest
  slots : left.free + left.woken.length + left.inFlight.length = limit
  cancelled
    : ∀ query,
        query ∈ left.cancelled ∨ query ∈ left.inFlight.map (·.query)
          ↔ query ∈ before.cancelled ∨ query ∈ before.inFlight.map (·.query)
  asked : left.asked = before.asked
  peak : left.peak = before.peak
  status : left.status = before.status

section Stops

variable {respond : String → Response ε} {queries rest told : List String} {limit : Nat}
  {before left state next : State ε} {query : String}

/-- Jobs that have ended do nothing any more. -/
theorem Ended.not_step (ended : state.Ended) : ¬ Step respond state next := by
  intro step
  cases step with
  | turn found =>
    rw [ended.agenda] at found
    cases found
  | reply time flying =>
    rw [ended.inFlight] at flying
    cases flying

/-- A slot that is given back while all jobs in the queue are told to stop stays free. -/
theorem releaseBeside_eq (all : ∀ query ∈ state.queue, query ∈ told)
    : state.releaseBeside told = { state with free := state.free + 1 } := by
  have none : state.queue.find? (!told.contains ·) = none := by
    apply List.find?_eq_none.mpr
    intro query queued
    simpa using all query queued
  rw [releaseBeside, none]

/-- A job that is told to stop holds nothing afterwards. -/
theorem Stopping.stop (stopping : Stopping before limit (query :: rest) left)
    (covered : ∀ other ∈ query :: rest, other ∈ told)
    : Stopping before limit rest (left.stop told query) := by
  have distinct := stopping.distinct
  have covers (other : String) (queued : other ∈ left.queue) : other ∈ told :=
    covered other (stopping.told other (by simp [holding, queued]))
  -- What is held less the job itself is held by jobs behind it.
  have behind {held : List String} (fewer : held.Sublist left.holding) (gone : query ∉ held)
      (other : String) (holds : other ∈ held)
      : other ∈ rest :=
    (List.mem_cons.mp (stopping.told other (fewer.subset holds))).resolve_left fun same =>
      gone (same ▸ holds)
  unfold State.stop
  split
  · rename_i queued
    have queued : query ∈ left.queue := by simpa using queued
    have erased
        : ({ left with queue := left.queue.erase query } : State ε).holding
          = left.holding.erase query := by
      rw [holding, holding, List.erase_append_left _ (List.mem_append_left _ queued),
        List.erase_append_left _ queued]
    have fewer : (left.holding.erase query).Sublist left.holding := List.erase_sublist
    exact { stopping with
      distinct := erased ▸ fewer.nodup distinct
      told := behind (erased ▸ fewer) (erased ▸ distinct.not_mem_erase) }
  · rename_i notQueued
    have notQueued : query ∉ left.queue := by simpa using notQueued
    split
    · rename_i woken
      have woken : query ∈ left.woken := by simpa using woken
      have erased
          : ({ left with woken := left.woken.erase query } : State ε).holding
            = left.holding.erase query := by
        rw [holding, holding, List.erase_append_left _ (List.mem_append_right _ woken),
          List.erase_append_right _ notQueued]
      have fewer : (left.holding.erase query).Sublist left.holding := List.erase_sublist
      rw [releaseBeside_eq (by exact covers)]
      refine { stopping with
        distinct := erased ▸ fewer.nodup distinct
        told := behind (erased ▸ fewer) (erased ▸ distinct.not_mem_erase), slots := ?slots }
      case slots =>
        have slots := stopping.slots
        have := List.length_erase_add_one woken
        dsimp only
        omega
    · rename_i notWoken
      have notWoken : query ∉ left.woken := by simpa using notWoken
      split
      · rename_i flying
        have flying : query ∈ left.inFlight.map (·.query) := by
          obtain ⟨flight, member, same⟩ := List.any_eq_true.mp flying
          exact List.mem_map.mpr ⟨flight, member, by simpa using same⟩
        have once : (left.inFlight.map (·.query)).count query = 1 :=
          List.count_eq_one_of_mem (List.nodup_append.mp distinct).2.1 flying
        have fewer
            : (left.queue ++ left.woken
                ++ (left.inFlight.filter (·.query != query)).map (·.query)).Sublist
              left.holding := by
          rw [map_filter_flights]
          exact List.Sublist.append (List.Sublist.refl _) List.filter_sublist
        rw [releaseBeside_eq (by exact covers)]
        refine { stopping with
          distinct := fewer.nodup distinct, told := behind fewer ?gone, slots := ?slots
          cancelled := ?cancelled }
        case gone => simp [holding, notQueued, notWoken]
        case slots =>
          have slots := stopping.slots
          have := length_filter_flights once
          dsimp only
          omega
        case cancelled =>
          intro other
          rw [← stopping.cancelled other, map_filter_flights]
          by_cases same : other = query
          · simp [same, flying]
          · simp [same]
      · rename_i grounded
        have gone : query ∉ left.holding := by
          intro held
          rcases List.mem_append.mp held with held | flying
          · rcases List.mem_append.mp held with queued | woken
            · exact notQueued queued
            · exact notWoken woken
          · obtain ⟨flight, member, rfl⟩ := List.mem_map.mp flying
            exact grounded (List.any_eq_true.mpr ⟨flight, member, by simp⟩)
        exact { stopping with told := behind (List.Sublist.refl _) gone }

/-- When all jobs that hold something have been told to stop none holds anything.
Witness: induction on the jobs that are told.
-/
theorem Stopping.foldl (stopping : Stopping before limit rest left)
    (covered : ∀ query ∈ rest, query ∈ told)
    : Stopping before limit [] (rest.foldl (fun left query => left.stop told query) left) := by
  induction rest generalizing left with
  | nil => exact stopping
  | cons query rest ih =>
    exact ih (stopping.stop covered) fun other member =>
      covered other (List.mem_cons_of_mem _ member)

/-- At any time, stopping all jobs leaves nothing of them; what was asked stays on record. -/
theorem Going.stopAll {rounds replies : Nat} (distinct : queries.Nodup)
    (going : Going respond queries limit rounds replies {} state)
    : Stopping state limit [] state.stopAll := by
  have stopping : Stopping state limit state.unfinished { state with agenda := [] } := {
    agenda := rfl
    distinct := by
      apply List.nodup_iff_count.mpr
      intro query
      have noTwice := List.nodup_iff_count.mp distinct query
      have before := going.unasked query
      have behind := going.asked query
      simp only [holding, List.count_append]
      omega
    told := by
      intro query held
      rcases List.mem_append.mp held with held | flying
      · rcases List.mem_append.mp held with queued | woken
        · exact List.mem_append_right _ queued
        · exact List.mem_append_left _ (List.mem_append_left _ (List.mem_append_right _ woken))
      · exact List.mem_append_left _ (List.mem_append_right _ flying)
    slots := by simpa using going.slots
    cancelled := fun _ => Iff.rfl
    asked := rfl
    peak := rfl
    status := rfl }
  exact stopping.foldl fun _ member => member

/-- Jobs that hold nothing have ended. -/
theorem Stopping.ended (stopping : Stopping before limit [] left) : left.Ended := by
  have none : left.holding = [] :=
    List.eq_nil_iff_forall_not_mem.mpr fun query held => absurd (stopping.told query held)
      List.not_mem_nil
  simp only [holding, List.append_eq_nil_iff, List.map_eq_nil_iff] at none
  exact ⟨stopping.agenda, none.1.1, none.1.2, none.2⟩

end Stops

end State

end FanOut

end CriticalCss
