import CriticalCss.Proofs.Selection.Turns

/-! The jobs of a fan-out come to an end. The turns that are allowed are enough, and as long as jobs
are going on without a turn to take a question is in flight. So on a page that answers or refuses
every question sooner or later, every query has the page's own answer in the end.
-/

namespace CriticalCss

variable {ε : Type}

namespace FanOut

namespace State

section Runs

variable {respond : String → Response ε} {queries : List String} {limit rounds replies : Nat}
  {hand : Hand} {state : State ε} {query : String}

attribute [local simp] starting resuming arriving settling collects turnsLeft pending isDue
  List.count_cons List.countP_cons

/-- Nothing is left of the jobs: no turn is due, no job waits for a slot or has been given one, and
no question is open. -/
structure Ended (state : State ε) : Prop where
  agenda : state.agenda = []
  queue : state.queue = []
  woken : state.woken = []
  inFlight : state.inFlight = []

/-- The jobs are collected: every query has been asked about once, never more of them at a time
than the limit allows, nothing is left of the jobs, and every query has the page's answer. -/
structure Collected (respond : String → Response ε) (queries : List String) (limit : Nat)
    (state : State ε)
    : Prop where
  status : state.status = .answered
  asked : state.asked.Perm queries
  peak : state.peak ≤ limit
  ended : state.Ended
  complete : (state.answers.map (·.1)).Perm queries
  answers : ∀ entry ∈ state.answers, entry.2 = (respond entry.1).isYes

/-- Jobs that are collected with an answer each have nothing left to do. -/
theorem Going.collected (going : Going respond queries limit rounds replies {} state)
    (answered : state.status = .answered)
    : Collected respond queries limit state := by
  have ended : state.status.isOver = true := by
    rw [answered]
    rfl
  have sound : state.fault = none := by
    have found := (going.finished ended).symm.trans answered
    unfold State.found at found
    cases fault : state.fault with
    | none => rfl
    | some fault =>
      rw [fault] at found
      cases found
  have collecting := going.collecting
  have atMost := Bool.toNat_le state.isDue
  rw [ended, Bool.toNat_true] at collecting
  have due : state.isDue = true := by
    cases due : state.isDue with
    | true => rfl
    | false =>
      rw [due] at collecting
      cases collecting
  have noted : state.unsettled = 0 := by simpa [sound] using due
  obtain ⟨before, _⟩ := going.lengths
  have noticed := going.noticed sound
  have unsettled := going.unsettled sound
  simp only [List.length_nil] at before noticed
  have empty {α : Type} (list : List α) (zero : list.length = 0) : list = [] :=
    List.length_eq_zero_iff.mp zero
  have notStarting := empty (starting state.agenda) (by omega)
  have notQueued := empty state.queue (by omega)
  have notWoken := empty state.woken (by omega)
  have notFlying := empty state.inFlight (by omega)
  have notSettling := empty (settling state.agenda) (by omega)
  have asked : state.asked.Perm queries := by
    apply List.perm_iff_count.mpr
    intro other
    have before := going.unasked other
    rw [notStarting, notQueued, notWoken] at before
    simpa only [List.count_nil, Nat.zero_add] using before
  have complete : (state.answers.map (·.1)).Perm state.asked := by
    have all : (state.answers.map (·.1)).Subperm state.asked := by
      apply List.subperm_iff_count.mpr
      intro other
      exact Nat.le_trans (Nat.le_add_left _ _) (going.asked other)
    refine all.perm_of_length_le ?_
    rw [List.length_map]
    omega
  have idle : state.agenda = [] := by
    have resuming := going.resuming
    have arriving := going.arriving
    have uncalled : collects state.agenda = 0 := by omega
    cases found : state.agenda with
    | nil => rfl
    | cons turn rest =>
      rw [found] at notStarting notSettling resuming arriving uncalled
      cases turn with
      | start query => simp at notStarting
      | resume query => simp [notWoken] at resuming
      | arrive query reply =>
        have here := arriving query
        simp [notFlying] at here
      | settle query result => simp at notSettling
      | collect => simp at uncalled
  exact ⟨answered, asked, going.peak, ⟨idle, notQueued, notWoken, notFlying⟩,
    complete.trans asked, going.answers⟩

/-- Collected jobs take no further turns. -/
theorem drain_of_isOver (respond : String → Response ε) (rounds : Nat)
    (ended : state.status.isOver = true)
    : state.drain respond rounds = state := by
  cases rounds with
  | zero => rfl
  | succ rounds => simp [State.drain, ended]

/-- Draining the agenda ends with the jobs collected or with an empty agenda.
Witness: induction on the turns that are left, of which every turn uses up one.
-/
theorem Going.drain (distinct : queries.Nodup)
    (going : Going respond queries limit rounds replies {} state) (noIdle : state.NoIdleSlot)
    : Going respond queries limit rounds replies {} (state.drain respond rounds)
      ∧ (state.drain respond rounds).NoIdleSlot
      ∧ ((state.drain respond rounds).status.isOver = true
        ∨ (state.drain respond rounds).agenda = []) := by
  induction rounds generalizing state with
  | zero =>
    have turns := going.turns
    simp at turns
  | succ rounds ih =>
    unfold State.drain
    cases ended : state.status.isOver with
    | true => exact ⟨by simpa using going, by simpa using noIdle, by simp [ended]⟩
    | false =>
      simp only [Bool.false_eq_true, if_false]
      cases found : state.agenda with
      | nil => exact ⟨going, noIdle, Or.inr found⟩
      | cons turn rest =>
        dsimp only
        by_cases called : turn = .collect
        · subst called
          have going := going.collect found
          rw [drain_of_isOver respond rounds (isOver_found _)]
          exact ⟨going, noIdle, Or.inl (isOver_found _)⟩
        · obtain ⟨going, noIdle⟩ := going.step distinct noIdle found called
          obtain ⟨going, rest⟩ := ih going noIdle
          exact ⟨going.weaken (Nat.le_succ _), rest⟩

/-- While jobs are going on and nothing is on the agenda, a question is in flight.
Witness: a job that queues up means that all slots are held, and only flights hold slots then.
-/
theorem Going.flying_of_idle (going : Going respond queries limit rounds replies {} state)
    (noIdle : state.NoIdleSlot) (positive : 0 < limit) (ongoing : state.status.isOver = false)
    (done : state.agenda = [])
    : state.inFlight ≠ [] := by
  intro bare
  have undue : state.isDue = false := by
    have collecting := going.collecting
    rw [done, ongoing] at collecting
    simpa using collecting.symm
  obtain ⟨some, sound⟩ : state.unsettled ≠ 0 ∧ state.fault = none := by simpa using undue
  have before := going.lengths.1
  have noticed := going.noticed sound
  have unsettled := going.unsettled sound
  have slots := going.slots
  have calm : state.woken = [] := by
    rw [← going.resuming, done]
    rfl
  simp [done, bare, calm] at before noticed slots
  by_cases queued : state.queue = []
  · simp [queued] at before
    omega
  · rcases noIdle queued with none | woken
    · omega
    · exact woken calm

/-- The turns that are planned for all jobs are enough at any time. -/
theorem Going.renew (going : Going respond queries limit rounds replies {} state)
    : Going respond queries limit (roundsFor queries.length) replies {} state := by
  obtain ⟨before, behind⟩ := going.lengths
  refine { going with turns := ?_ }
  simp [roundsFor] at before behind ⊢
  omega

/-- Only replies come at a time, and only those of questions in flight. -/
theorem mem_arrivals {time : Nat} {turn : Turn ε}
    : turn ∈ state.arrivals time
      ↔ ∃ flight ∈ state.inFlight,
          ∃ reply, flight.due = some (time, reply) ∧ turn = .arrive flight.query reply := by
  unfold arrivals
  constructor
  · intro member
    obtain ⟨flight, inFlight, comes⟩ := List.mem_filterMap.mp member
    split at comes
    · rename_i due reply found
      split at comes
      · rename_i now
        exact ⟨flight, inFlight, reply, now ▸ found, (Option.some.inj comes).symm⟩
      · cases comes
    · cases comes
  · rintro ⟨flight, inFlight, reply, found, rfl⟩
    exact List.mem_filterMap.mpr ⟨flight, inFlight, by simp [found]⟩

/-- No question in flight is replied to twice. -/
theorem arriving_arrivals_sublist (state : State ε) (time : Nat)
    : (FanOut.arriving (state.arrivals time)).Sublist (state.inFlight.map (·.query)) := by
  unfold arrivals
  induction state.inFlight with
  | nil => exact List.Sublist.refl _
  | cons flight rest ih =>
    simp only [List.filterMap_cons, List.map_cons]
    split
    · exact ih.cons _
    · rename_i turn comes
      split at comes
      · split at comes
        · cases comes
          exact ih.cons_cons _
        · cases comes
      · cases comes

/-- The replies that come next are put on the agenda; there is one at least. -/
theorem Going.next {time : Nat}
    (going : Going respond queries limit rounds (replies + 1) {} state)
    (done : state.agenda = []) (due : state.nextDue = some time)
    : Going respond queries limit rounds replies {}
        { state with clock := time, agenda := state.arrivals time } := by
  obtain ⟨flight, inFlight, reply, comes⟩
      : ∃ flight ∈ state.inFlight, ∃ reply, flight.due = some (time, reply) := by
    obtain ⟨flight, inFlight, first⟩ := List.mem_filterMap.mp (List.min?_mem due)
    obtain ⟨entry, found, rfl⟩ := Option.map_eq_some_iff.mp first
    exact ⟨flight, inFlight, entry.2, found⟩
  have arrives : Turn.arrive flight.query reply ∈ state.arrivals time :=
    mem_arrivals.mpr ⟨flight, inFlight, reply, comes, rfl⟩
  have only {turn : Turn ε} (member : turn ∈ state.arrivals time)
      : ∃ query reply, turn = .arrive query reply := by
    obtain ⟨flight, _, reply, _, rfl⟩ := mem_arrivals.mp member
    exact ⟨flight.query, reply, rfl⟩
  have nothing {pick : Turn ε → Option String}
      (passes : ∀ query reply, pick (.arrive query reply) = none)
      : (state.arrivals time).filterMap pick = [] := by
    apply List.filterMap_eq_nil_iff.mpr
    intro turn member
    obtain ⟨query, reply, rfl⟩ := only member
    exact passes query reply
  have noStart : starting (state.arrivals time) = [] := nothing fun _ _ => rfl
  have noResume : FanOut.resuming (state.arrivals time) = [] := nothing fun _ _ => rfl
  have noSettle : settling (state.arrivals time) = [] := nothing fun _ _ => rfl
  have noCollect : collects (state.arrivals time) = 0 := by
    apply List.countP_eq_zero.mpr
    intro turn member
    obtain ⟨_, _, rfl⟩ := only member
    exact Bool.false_ne_true
  have some : 0 < (FanOut.arriving (state.arrivals time)).length :=
    List.length_pos_of_mem (List.mem_filterMap.mpr ⟨_, arrives, rfl⟩)
  refine { going with
    unasked := ?unasked, asked := ?asked, noticed := ?noticed, resuming := ?resuming
    arriving := fun other => (arriving_arrivals_sublist state time).count_le other
    arrivals := ?arrivals, ends := ?ends, collecting := ?collecting, turns := ?turns
    waiting := ?waiting }
  case unasked =>
    have before := going.unasked
    rw [done] at before
    rw [noStart]
    exact before
  case asked =>
    have before := going.asked
    rw [done] at before
    rw [noSettle]
    exact before
  case noticed =>
    have before := going.noticed
    rw [done] at before
    rw [noSettle]
    exact before
  case resuming =>
    rw [noResume, ← going.resuming, done]
    rfl
  case arrivals =>
    intro other reply member
    obtain ⟨flight, inFlight, _, comes, same⟩ := mem_arrivals.mp member
    cases same
    rw [← going.flights flight inFlight, comes]
    rfl
  case ends =>
    intro other result member
    obtain ⟨_, _, absurd⟩ := only member
    cases absurd
  case collecting =>
    have before := going.collecting
    rw [done] at before
    rw [noCollect]
    exact before
  case turns =>
    have before := going.turns
    simp only [turnsLeft, done, noStart, noSettle] at before ⊢
    exact before
  case waiting =>
    have silent : (FanOut.arriving ([] : List (Turn ε))).length = 0 := rfl
    have before := going.waiting
    simp only [pending, done, noStart, silent, List.length_nil] at before ⊢
    omega

/-- On a page that answers, some reply comes next while a question is in flight. -/
theorem Going.exists_nextDue (answering : Answering respond)
    (going : Going respond queries limit rounds replies {} state) (flying : state.inFlight ≠ [])
    : ∃ time, state.nextDue = some time := by
  obtain ⟨flight, others, found⟩ := List.exists_cons_of_ne_nil flying
  obtain ⟨reply, own, _⟩ := answering flight.query
  have comes := going.flights flight (by simp [found])
  rw [own] at comes
  obtain ⟨due, comes, _⟩ := Option.map_eq_some_iff.mp comes
  cases none : state.nextDue with
  | some time => exact ⟨time, rfl⟩
  | none => simp [State.nextDue, found, comes] at none

/-- On a page that answers, the jobs are not broken down. -/
theorem Going.sound (answering : Answering respond)
    (going : Going respond queries limit rounds replies hand state)
    : state.fault = none := by
  cases found : state.fault with
  | none => rfl
  | some fault =>
    obtain ⟨query, _, broken⟩ := going.crash fault found
    obtain ⟨reply, own, unbroken⟩ := answering query
    rw [broken] at own
    cases own
    cases unbroken

/-- On a page that answers, going from reply to reply ends with the jobs collected.
Witness: induction on the replies that are still to come.
-/
theorem Going.advance (answering : Answering respond) (distinct : queries.Nodup)
    (positive : 0 < limit)
    (going : Going respond queries limit (roundsFor queries.length) replies {} state)
    (noIdle : state.NoIdleSlot)
    : Collected respond queries limit
        (state.advance respond queries.length none replies) := by
  have collected {state : State ε} {replies : Nat}
      (going : Going respond queries limit (roundsFor queries.length) replies {} state)
      (ended : state.status.isOver = true)
      : Collected respond queries limit state := by
    apply going.collected
    rw [going.finished ended, State.found, going.sound answering]
  induction replies generalizing state with
  | zero =>
    unfold State.advance
    obtain ⟨going, noIdle, ended⟩ := going.drain distinct noIdle
    cases finished : (state.drain respond (roundsFor queries.length)).status.isOver with
    | true => exact collected going finished
    | false =>
      have done := ended.resolve_left (by simp [finished])
      have flying := List.length_pos_iff.mpr (going.flying_of_idle noIdle positive finished done)
      have silent : (FanOut.arriving ([] : List (Turn ε))).length = 0 := rfl
      have waiting := going.waiting
      rw [done, silent] at waiting
      simp only [pending] at waiting
      omega
  | succ replies ih =>
    unfold State.advance
    obtain ⟨going, noIdle, ended⟩ := going.drain distinct noIdle
    cases finished : (state.drain respond (roundsFor queries.length)).status.isOver with
    | true => simpa [finished] using collected going finished
    | false =>
      have done := ended.resolve_left (by simp [finished])
      have flying := going.flying_of_idle noIdle positive finished done
      obtain ⟨time, due⟩ := going.exists_nextDue answering flying
      simp only [finished, Bool.false_eq_true, if_false, due, Option.any_none]
      exact ih (going.next done due).renew noIdle

end Runs

/-- Before the first turn every job is still to start. -/
theorem Going.initial (respond : String → Response ε) (clock limit : Nat) (queries : List String)
    : Going respond queries limit (roundsFor queries.length) queries.length {}
        (State.initial clock limit queries) := by
  have started : starting (State.initial (ε := ε) clock limit queries).agenda = queries := by
    cases queries with
    | nil => rfl
    | cons first others =>
      show ((first :: others).map Turn.start).filterMap _ = first :: others
      rw [List.filterMap_map]
      exact List.filterMap_some
  have only {turn : Turn ε} (member : turn ∈ (State.initial clock limit queries).agenda)
      : turn = .collect ∧ queries = [] ∨ (∃ query, turn = .start query) ∧ queries ≠ [] := by
    cases queries with
    | nil => exact Or.inl ⟨by simpa [State.initial] using member, rfl⟩
    | cons first others =>
      obtain ⟨query, _, rfl⟩ := List.mem_map.mp member
      exact Or.inr ⟨⟨query, rfl⟩, List.cons_ne_nil _ _⟩
  have nothing {pick : Turn ε → Option String}
      (passes : pick .collect = none ∧ ∀ query, pick (.start query) = none)
      : (State.initial clock limit queries).agenda.filterMap pick = [] := by
    apply List.filterMap_eq_nil_iff.mpr
    intro turn member
    rcases only member with ⟨rfl, _⟩ | ⟨⟨query, rfl⟩, _⟩
    · exact passes.1
    · exact passes.2 query
  have noResume : FanOut.resuming (State.initial (ε := ε) clock limit queries).agenda = [] :=
    nothing ⟨rfl, fun _ => rfl⟩
  have noArrive : FanOut.arriving (State.initial (ε := ε) clock limit queries).agenda = [] :=
    nothing ⟨rfl, fun _ => rfl⟩
  have noSettle : settling (State.initial (ε := ε) clock limit queries).agenda = [] :=
    nothing ⟨rfl, fun _ => rfl⟩
  exact {
    unasked := by
      intro query
      rw [started]
      simp [State.initial]
    asked := by
      intro query
      rw [noSettle]
      simp [State.initial]
    noticed := by
      rw [noSettle]
      simp [State.initial]
    landed := by
      intro query member
      cases member
    slots := rfl
    peak := Nat.zero_le _
    resuming := noResume
    arriving := by
      intro query
      rw [noArrive]
      exact Nat.zero_le _
    arrivals := by
      intro query reply member
      rcases only member with ⟨absurd, _⟩ | ⟨⟨_, absurd⟩, _⟩ <;> cases absurd
    flights := by
      intro flight member
      cases member
    ends := by
      intro query result member
      rcases only member with ⟨absurd, _⟩ | ⟨⟨_, absurd⟩, _⟩ <;> cases absurd
    answers := by
      intro entry member
      cases member
    crash := by
      intro fault absurd
      cases absurd
    unsettled := fun _ => rfl
    collecting := by
      cases queries with
      | nil => rfl
      | cons first others =>
        have uncalled
            : collects (State.initial (ε := ε) clock limit (first :: others)).agenda = 0 := by
          apply List.countP_eq_zero.mpr
          intro turn member
          rcases only member with ⟨_, absurd⟩ | ⟨⟨query, rfl⟩, _⟩
          · cases absurd
          · exact Bool.false_ne_true
        rw [uncalled]
        rfl
    finished := by
      intro absurd
      cases absurd
    turns := by
      rw [turnsLeft, started, noSettle]
      simp [State.initial, roundsFor]
    waiting := by
      rw [pending, started, noArrive]
      simp [State.initial] }

end State

/-- On a page that answers, all queries are collected.
Witness: at the beginning every job is still to start, and no job queues up.
-/
theorem run_collected {respond : String → Response ε} {limit : Nat} {queries : List String}
    (answering : Answering respond) (clock : Nat) (positive : 0 < limit)
    (distinct : queries.Nodup)
    : State.Collected respond queries limit (run respond clock limit none queries) := by
  have collected := State.Going.advance answering distinct positive
    (State.Going.initial respond clock limit queries) fun queued => absurd rfl queued
  unfold run
  rw [if_pos (by rw [collected.status]; rfl)]
  exact collected

end FanOut

end CriticalCss
