import CriticalCss.Selection.FanOut
import Mathlib.Data.List.Perm.Subperm

/-! The jobs of a fan-out are in order whatever the page replies and when.

The invariant says where the job of each query is: it has not started, queues up, has been woken, is
in flight, waits for its end to be noticed, or is done. It counts slots and turns with the jobs, so
no slot is lost and no job waits without reason. A breakdown of the page is noticed once; what ends
behind it is not noticed any more. Every kind of turn keeps the invariant.
-/

namespace CriticalCss

variable {ε : Type}

/-- Does the reply end the whole run? -/
def Reply.isBroken : Reply ε → Bool
  | broken _ => true
  | _ => false

/-- What a job makes of a reply. -/
def Reply.outcome : Reply ε → Except ε Bool
  | answer yes => .ok yes
  | refused _ => .ok false
  | broken fault => .error fault

/-- The reply that comes in the end, if one does. -/
def Response.reply? : Response ε → Option (Reply ε)
  | now reply => some reply
  | later _ reply => some reply
  | never => none

/-- Is the answer in the end a yes? -/
def Response.isYes (response : Response ε) : Bool :=
  response.reply?.any Reply.isYes

/-- The end of a job, unless the page broke down, is the page's answer. -/
theorem Response.isYes_of_outcome {response : Response ε} {reply : Reply ε} {yes : Bool}
    (own : response.reply? = some reply) (outcome : reply.outcome = .ok yes)
    : yes = response.isYes := by
  rw [Response.isYes, own]
  cases reply with
  | broken fault => cases outcome
  | _ =>
    cases outcome
    rfl

namespace FanOut

/-- A page that answers or refuses every question sooner or later. -/
def Answering (respond : String → Response ε) : Prop :=
  ∀ query, ∃ reply, (respond query).reply? = some reply ∧ reply.isBroken = false

--------------------------------------------------------------------------------
-- Agendas
--------------------------------------------------------------------------------

/-- The queries whose jobs are to go on with the slot they were given. -/
def resuming (agenda : List (Turn ε)) : List String :=
  agenda.filterMap fun
    | .resume query => some query
    | _ => none

/-- The queries whose replies have come. -/
def arriving (agenda : List (Turn ε)) : List String :=
  agenda.filterMap fun
    | .arrive query _ => some query
    | _ => none

/-- The queries whose jobs have ended unnoticed. -/
def settling (agenda : List (Turn ε)) : List String :=
  agenda.filterMap fun
    | .settle query _ => some query
    | _ => none

/-- How often collecting is on the agenda. -/
def collects (agenda : List (Turn ε)) : Nat :=
  agenda.countP fun
    | .collect => true
    | _ => false

namespace State

/-- Are the jobs to be collected, or are they collected? -/
def isDue (state : State ε) : Bool :=
  state.unsettled == 0 || state.fault.isSome

/-- An upper bound of the turns that are still to be taken before the jobs are collected: four for
a job that has not started, one less for each stage behind it, and one for collecting. -/
def turnsLeft (state : State ε) : Nat :=
  4 * (starting state.agenda).length + 3 * state.queue.length + 3 * state.woken.length
    + 2 * state.inFlight.length + (settling state.agenda).length + 1

/-- The number of jobs whose question has no reply yet. -/
def pending (state : State ε) : Nat :=
  (starting state.agenda).length + state.queue.length + state.woken.length
    + state.inFlight.length

/-- No job queues up while a slot is free that nobody has been woken for. -/
def NoIdleSlot (state : State ε) : Prop :=
  state.queue ≠ [] → state.free = 0 ∨ state.woken ≠ []

/-- Jobs that a turn has in hand. -/
structure Hand where
  /-- Jobs that hold a slot and are about to ask. -/
  toAsk : List String := []
  /-- Jobs that have got their reply and are about to give their slot back. -/
  replied : List String := []
  /-- Jobs that have given their slot back and whose end is about to be put on the agenda. -/
  ended : List String := []

/-- The state of the jobs, apart from those in hand. There are at most `rounds` turns left, and at
most `replies` jobs will be without reply once the replies on the agenda are noticed.
-/
structure Going (respond : String → Response ε) (queries : List String)
    (limit rounds replies : Nat) (hand : Hand) (state : State ε)
    : Prop where
  /-- Every job has been asked for or is at one of the stages before. -/
  unasked
    : ∀ query,
        (starting state.agenda).count query + state.queue.count query
            + state.woken.count query + hand.toAsk.count query + state.asked.count query
          = queries.count query
  /-- A job at one of the stages behind has been asked for. -/
  asked
    : ∀ query,
        (state.inFlight.map (·.query)).count query + hand.replied.count query
            + hand.ended.count query + (settling state.agenda).count query
            + (state.answers.map (·.1)).count query
          ≤ state.asked.count query
  /-- Unless the page broke down, every job that has been asked for is at one of them. -/
  noticed
    : state.fault = none
      → state.inFlight.length + hand.replied.length + hand.ended.length
            + (settling state.agenda).length + state.answers.length
          = state.asked.length
  /-- A question that is not open any more has had a reply. -/
  landed
    : ∀ query ∈ state.asked,
        query ∈ state.inFlight.map (·.query) ∨ (respond query).reply?.isSome = true
  slots
    : state.free + state.woken.length + state.inFlight.length + hand.toAsk.length
          + hand.replied.length
        = limit
  peak : state.peak ≤ limit
  resuming : FanOut.resuming state.agenda = state.woken
  arriving
    : ∀ query,
        (FanOut.arriving state.agenda).count query
          ≤ (state.inFlight.map (·.query)).count query
  arrivals
    : ∀ query reply,
        Turn.arrive query reply ∈ state.agenda → (respond query).reply? = some reply
  flights
    : ∀ flight ∈ state.inFlight, flight.due.map (·.2) = (respond flight.query).reply?
  ends
    : ∀ query result,
        Turn.settle query result ∈ state.agenda
          → ∃ reply, (respond query).reply? = some reply ∧ reply.outcome = result
  answers : ∀ entry ∈ state.answers, entry.2 = (respond entry.1).isYes
  crash
    : ∀ fault,
        state.fault = some fault
          → ∃ query ∈ state.asked, (respond query).reply? = some (.broken fault)
  unsettled
    : state.fault = none → state.unsettled + state.answers.length = queries.length
  /-- The jobs are collected once. -/
  collecting : collects state.agenda + state.status.isOver.toNat = state.isDue.toNat
  finished : state.status.isOver = true → state.status = state.found
  turns
    : state.turnsLeft + 2 * hand.toAsk.length + hand.replied.length + hand.ended.length ≤ rounds
  waiting : state.pending + hand.toAsk.length ≤ replies + (FanOut.arriving state.agenda).length

section Turns

variable {respond : String → Response ε} {queries : List String} {limit rounds replies : Nat}
  {hand : Hand} {state : State ε} {query : String}

attribute [local simp] starting resuming arriving settling collects turnsLeft pending isDue
  List.count_cons List.countP_cons

/-- A bound for the turns can be raised. -/
theorem Going.weaken {more : Nat} (going : Going respond queries limit rounds replies hand state)
    (le : rounds ≤ more)
    : Going respond queries limit more replies hand state :=
  { going with turns := Nat.le_trans going.turns le }

/-- Every job is at one stage only. -/
theorem Going.lengths (going : Going respond queries limit rounds replies hand state)
    : (starting state.agenda).length + state.queue.length + state.woken.length
          + hand.toAsk.length + state.asked.length
        = queries.length
      ∧ state.inFlight.length + hand.replied.length + hand.ended.length
          + (settling state.agenda).length + state.answers.length
        ≤ state.asked.length := by
  have before
      : (starting state.agenda ++ state.queue ++ state.woken ++ hand.toAsk ++ state.asked).Perm
          queries := by
    apply List.perm_iff_count.mpr
    intro other
    simpa only [List.count_append] using going.unasked other
  have behind
      : (state.inFlight.map (·.query) ++ hand.replied ++ hand.ended ++ settling state.agenda
            ++ state.answers.map (·.1)).Subperm state.asked := by
    apply List.subperm_iff_count.mpr
    intro other
    simpa only [List.count_append] using going.asked other
  exact ⟨by simpa only [List.length_append] using before.length_eq,
    by simpa only [List.length_append, List.length_map] using behind.length_le⟩

/-- While an end is being noticed the jobs are not complete, unless the page broke down. -/
theorem Going.unfinished (going : Going respond queries limit rounds replies hand state)
    (sound : state.fault = none) (ends : hand.ended ≠ [])
    : state.unsettled ≠ 0 ∧ collects state.agenda = 0 ∧ state.status.isOver = false := by
  have some : state.unsettled ≠ 0 := by
    have lengths := going.lengths.1
    have noticed := going.noticed sound
    have unsettled := going.unsettled sound
    have := List.length_pos_iff.mpr ends
    omega
  have undue : state.isDue = false := by simp [some, sound]
  have collecting := going.collecting
  rw [undue, Bool.toNat_false, Nat.add_eq_zero_iff] at collecting
  exact ⟨some, collecting.1, by simpa using collecting.2⟩

/-- A free slot is given to the first job in the queue, and then no slot is idle. -/
theorem Going.wakeNext (going : Going respond queries limit rounds replies hand state)
    (free : 0 < state.free)
    : Going respond queries limit rounds replies hand state.wakeNext
      ∧ state.wakeNext.NoIdleSlot := by
  unfold State.wakeNext
  split
  · rename_i bare
    exact ⟨going, fun filled => absurd bare filled⟩
  · rename_i next rest found
    refine ⟨?_, fun _ => Or.inr (by simp)⟩
    refine { going with
      unasked := ?unasked, asked := ?asked, noticed := ?noticed, slots := ?slots
      resuming := ?resuming, arriving := ?arriving, arrivals := ?arrivals, ends := ?ends
      collecting := ?collecting, turns := ?turns, waiting := ?waiting }
    case unasked =>
      intro other
      have := going.unasked other
      simp [found] at this ⊢
      omega
    case asked =>
      intro other
      simpa using going.asked other
    case noticed => simpa using going.noticed
    case slots =>
      have := going.slots
      simp
      omega
    case resuming =>
      have := going.resuming
      simp_all
    case arriving =>
      intro other
      simpa using going.arriving other
    case arrivals =>
      intro other reply member
      exact going.arrivals other reply (by simpa using member)
    case ends =>
      intro other result member
      exact going.ends other result (by simpa using member)
    case collecting => simpa using going.collecting
    case turns =>
      have := going.turns
      simp [found] at this ⊢
      omega
    case waiting =>
      have := going.waiting
      simp [found] at this ⊢
      omega

/-- A job in hand that has its reply gives its slot back, and its end is put on the agenda. -/
theorem Going.finish
    (going : Going respond queries limit rounds replies { replied := [query] } state)
    {reply : Reply ε} (own : (respond query).reply? = some reply)
    : Going respond queries limit rounds replies {} (finish query reply state)
      ∧ (finish query reply state).NoIdleSlot := by
  -- Giving the slot back and noting a refusal leave the stages of all other jobs alone.
  have released (noted : List (String × String))
      : Going respond queries limit rounds replies { ended := [query] }
          ({ state with refusals := noted } : State ε).release
        ∧ ({ state with refusals := noted } : State ε).release.NoIdleSlot := by
    apply Going.wakeNext _ (Nat.succ_pos _)
    refine { going with asked := ?asked, noticed := ?noticed, slots := ?slots }
    case asked =>
      intro other
      have := going.asked other
      simp at this ⊢
      omega
    case noticed =>
      intro sound
      have := going.noticed sound
      simp at this ⊢
      omega
    case slots =>
      have := going.slots
      simp at this ⊢
      omega
  have settled {result : Except ε Bool} (outcome : reply.outcome = result) {after : State ε}
      (going : Going respond queries limit rounds replies { ended := [query] } after
        ∧ after.NoIdleSlot)
      : Going respond queries limit rounds replies {} (after.push (.settle query result))
        ∧ (after.push (.settle query result)).NoIdleSlot := by
    obtain ⟨going, noIdle⟩ := going
    refine ⟨?_, noIdle⟩
    refine { going with
      unasked := ?unasked, asked := ?asked, noticed := ?noticed, resuming := ?resuming
      arriving := ?arriving, arrivals := ?arrivals, ends := ?ends, collecting := ?collecting
      turns := ?turns, waiting := ?waiting }
    case unasked =>
      intro other
      simpa [push] using going.unasked other
    case asked =>
      intro other
      have := going.asked other
      simp [push] at this ⊢
      omega
    case noticed =>
      intro sound
      have := going.noticed sound
      simp [push] at this ⊢
      omega
    case resuming => simpa [push] using going.resuming
    case arriving =>
      intro other
      simpa [push] using going.arriving other
    case arrivals =>
      intro other reply member
      exact going.arrivals other reply (by simpa [push] using member)
    case ends =>
      intro other result member
      rcases List.mem_append.mp member with earlier | last
      · exact going.ends other result earlier
      · obtain ⟨rfl, rfl⟩ : other = query ∧ result = _ := by simpa using last
        exact ⟨reply, own, outcome⟩
    case collecting => simpa [push] using going.collecting
    case turns =>
      have := going.turns
      simp [push] at this ⊢
      omega
    case waiting => simpa [push] using going.waiting
  cases reply with
  | answer yes => exact settled rfl (released state.refusals)
  | refused message => exact settled rfl (released (state.refusals ++ [(query, message)]))
  | broken fault => exact settled rfl (released state.refusals)

/-- A job in hand that holds a slot asks its question. -/
theorem Going.ask
    (going : Going respond queries limit rounds replies { toAsk := [query] } state)
    (noIdle : state.NoIdleSlot)
    : Going respond queries limit rounds replies {} (ask respond query state)
      ∧ (ask respond query state).NoIdleSlot := by
  have room : max state.peak (state.inFlight.length + 1) ≤ limit := by
    have peak := going.peak
    have slots := going.slots
    simp at slots
    omega
  have unasked (other : String)
      : (starting state.agenda).count other + state.queue.count other + state.woken.count other
          + (state.asked ++ [query]).count other
        = queries.count other := by
    have := going.unasked other
    simp at this ⊢
    omega
  have crash (fault : ε) (found : state.fault = some fault)
      : ∃ other ∈ state.asked ++ [query], (respond other).reply? = some (.broken fault) := by
    obtain ⟨other, before, broken⟩ := going.crash fault found
    exact ⟨other, List.mem_append_left _ before, broken⟩
  -- A question without a reply at once is in flight.
  have flown (due : Option (Nat × Reply ε)) (own : due.map (·.2) = (respond query).reply?)
      : Going respond queries limit rounds replies {}
          { state with
            asked := state.asked ++ [query]
            peak := max state.peak (state.inFlight.length + 1)
            inFlight := state.inFlight ++ [⟨query, due⟩] } := by
    refine { going with
      unasked, asked := ?asked, noticed := ?noticed, landed := ?landed, slots := ?slots
      peak := room, arriving := ?arriving, flights := ?flights, crash, turns := ?turns
      waiting := ?waiting }
    case asked =>
      intro other
      have := going.asked other
      simp at this ⊢
      omega
    case noticed =>
      intro sound
      have := going.noticed sound
      simp at this ⊢
      omega
    case landed =>
      intro other member
      rcases List.mem_append.mp member with earlier | last
      · rcases going.landed other earlier with flying | replied
        · exact Or.inl (by simp [List.mem_map.mp flying])
        · exact Or.inr replied
      · obtain rfl := List.mem_singleton.mp last
        exact Or.inl (by simp)
    case slots =>
      have := going.slots
      simp at this ⊢
      omega
    case arriving =>
      intro other
      have := going.arriving other
      simp at this ⊢
      omega
    case flights =>
      intro flight member
      rcases List.mem_append.mp member with earlier | last
      · exact going.flights flight earlier
      · obtain rfl := List.mem_singleton.mp last
        exact own
    case turns =>
      have := going.turns
      simp at this ⊢
      omega
    case waiting =>
      have := going.waiting
      simp at this ⊢
      omega
  unfold State.ask
  cases reached : respond query with
  | now found =>
    apply Going.finish _ (by rw [reached]; rfl)
    refine { going with
      unasked, asked := ?asked, noticed := ?noticed, landed := ?landed, slots := ?slots
      peak := room, crash, turns := ?turns, waiting := ?waiting }
    case asked =>
      intro other
      have := going.asked other
      simp at this ⊢
      omega
    case noticed =>
      intro sound
      have := going.noticed sound
      simp at this ⊢
      omega
    case landed =>
      intro other member
      rcases List.mem_append.mp member with earlier | last
      · exact going.landed other earlier
      · obtain rfl := List.mem_singleton.mp last
        exact Or.inr (by rw [reached]; rfl)
    case slots =>
      have := going.slots
      simp at this ⊢
      omega
    case turns =>
      have := going.turns
      simp at this ⊢
      omega
    case waiting =>
      have := going.waiting
      simp at this ⊢
      omega
  | later delay found => exact ⟨flown _ (by rw [reached]; rfl), noIdle⟩
  | never => exact ⟨flown _ (by rw [reached]; rfl), noIdle⟩

/-- The replies behind the first turn on the agenda are the page's own. -/
theorem Going.arrivals_tail {turn : Turn ε} {rest : List (Turn ε)}
    (going : Going respond queries limit rounds replies hand state)
    (found : state.agenda = turn :: rest)
    : ∀ query reply, Turn.arrive query reply ∈ rest → (respond query).reply? = some reply := by
  intro query reply member
  apply going.arrivals query reply
  rw [found]
  exact List.mem_cons_of_mem _ member

/-- The ends behind the first turn on the agenda are due to the page's own replies. -/
theorem Going.ends_tail {turn : Turn ε} {rest : List (Turn ε)}
    (going : Going respond queries limit rounds replies hand state)
    (found : state.agenda = turn :: rest)
    : ∀ query result,
        Turn.settle query result ∈ rest
          → ∃ reply, (respond query).reply? = some reply ∧ reply.outcome = result := by
  intro query result member
  apply going.ends query result
  rw [found]
  exact List.mem_cons_of_mem _ member

/-- A job that starts takes a free slot or queues up. -/
theorem Going.start {rest : List (Turn ε)}
    (going : Going respond queries limit (rounds + 1) replies {} state)
    (noIdle : state.NoIdleSlot) (found : state.agenda = .start query :: rest)
    : Going respond queries limit rounds replies {}
          (step respond (.start query) { state with agenda := rest })
      ∧ (step respond (.start query) { state with agenda := rest }).NoIdleSlot := by
  -- Another job's stage is the same whether this turn is on the agenda or not.
  have asked := going.asked
  have noticed := going.noticed
  have resuming := going.resuming
  have arriving := going.arriving
  have collecting := going.collecting
  rw [found] at asked noticed resuming arriving collecting
  unfold State.step
  dsimp only
  split
  · rename_i full
    constructor
    · refine { going with
        unasked := ?unasked, asked, noticed, resuming, arriving
        arrivals := going.arrivals_tail found, ends := going.ends_tail found
        collecting := by simpa using collecting, turns := ?turns, waiting := ?waiting }
      case unasked =>
        intro other
        have := going.unasked other
        simp [found] at this ⊢
        omega
      case turns =>
        have := going.turns
        simp [found] at this ⊢
        omega
      case waiting =>
        have := going.waiting
        simp [found] at this ⊢
        omega
    · intro _
      simp only [isFull, Bool.or_eq_true, beq_iff_eq, Bool.not_eq_eq_eq_not, Bool.not_true,
        List.isEmpty_eq_false_iff] at full
      rcases full with (none | queued) | woken
      · exact Or.inl none
      · exact noIdle queued
      · exact Or.inr woken
  · rename_i room
    obtain ⟨⟨free, bare⟩, calm⟩
        : (state.free ≠ 0 ∧ state.queue = []) ∧ state.woken = [] := by
      simpa [isFull] using room
    refine Going.ask ?_ fun queued => absurd bare queued
    refine { going with
      unasked := ?unasked, asked, noticed, slots := ?slots, resuming, arriving
      arrivals := going.arrivals_tail found, ends := going.ends_tail found
      collecting := by simpa using collecting, turns := ?turns, waiting := ?waiting }
    case unasked =>
      intro other
      have := going.unasked other
      simp [found] at this ⊢
      omega
    case slots =>
      have := going.slots
      simp at this ⊢
      omega
    case turns =>
      have := going.turns
      simp [found] at this ⊢
      omega
    case waiting =>
      have := going.waiting
      simp [found] at this ⊢
      omega

/-- A job that was woken goes on with its slot; if there are more free slots it wakes the next. -/
theorem Going.resume {rest : List (Turn ε)}
    (going : Going respond queries limit (rounds + 1) replies {} state)
    (found : state.agenda = .resume query :: rest)
    : Going respond queries limit rounds replies {}
          (step respond (.resume query) { state with agenda := rest })
      ∧ (step respond (.resume query) { state with agenda := rest }).NoIdleSlot := by
  have asked := going.asked
  have noticed := going.noticed
  have resuming := going.resuming
  have arriving := going.arriving
  have collecting := going.collecting
  rw [found] at asked noticed resuming arriving collecting
  obtain ⟨others, woken⟩ : ∃ others, state.woken = query :: others := ⟨_, resuming.symm⟩
  have going : Going respond queries limit rounds replies { toAsk := [query] }
      { state with agenda := rest, woken := state.woken.erase query } := by
    rw [woken, List.erase_cons_head]
    refine { going with
      unasked := ?unasked, asked, noticed, slots := ?slots
      resuming := by simpa [woken] using resuming, arriving
      arrivals := going.arrivals_tail found, ends := going.ends_tail found
      collecting := by simpa using collecting, turns := ?turns, waiting := ?waiting }
    case unasked =>
      intro other
      have := going.unasked other
      simp [found, woken] at this ⊢
      omega
    case slots =>
      have := going.slots
      simp [woken] at this ⊢
      omega
    case turns =>
      have := going.turns
      simp [found, woken] at this ⊢
      omega
    case waiting =>
      have := going.waiting
      simp [found, woken] at this ⊢
      omega
  unfold State.step
  dsimp only
  split
  · rename_i free
    obtain ⟨going, noIdle⟩ := going.wakeNext free
    exact going.ask noIdle
  · rename_i full
    exact going.ask fun _ => Or.inl (Nat.eq_zero_of_not_pos full)

theorem map_filter_flights (flights : List (Flight ε)) (query : String)
    : (flights.filter (·.query != query)).map (·.query)
      = (flights.map (·.query)).filter (· != query) := by
  rw [List.filter_map]
  rfl

/-- Without the one question of a query every other question is in flight as before. -/
theorem count_filter_flights {flights : List (Flight ε)}
    (once : (flights.map (·.query)).count query = 1) (other : String)
    : ((flights.filter (·.query != query)).map (·.query)).count other + [query].count other
      = (flights.map (·.query)).count other := by
  rw [map_filter_flights]
  by_cases same : other = query
  · subst other
    have gone : query ∉ (flights.map (·.query)).filter (· != query) := by simp
    rw [List.count_eq_zero_of_not_mem gone, once]
    simp
  · rw [List.count_filter (by simpa using same)]
    simp [Ne.symm same]

/-- The one question of a query and the other questions in flight are all of them. -/
theorem perm_filter_flights {flights : List (Flight ε)}
    (once : (flights.map (·.query)).count query = 1)
    : ((flights.filter (·.query != query)).map (·.query) ++ [query]).Perm
        (flights.map (·.query)) := by
  apply List.perm_iff_count.mpr
  intro other
  simpa only [List.count_append] using count_filter_flights once other

/-- Without the one question of a query there is one question less in flight. -/
theorem length_filter_flights {flights : List (Flight ε)}
    (once : (flights.map (·.query)).count query = 1)
    : (flights.filter (·.query != query)).length + 1 = flights.length := by
  simpa using (perm_filter_flights once).length_eq

/-- A question in flight is there once. -/
theorem Going.count_inFlight (distinct : queries.Nodup)
    (going : Going respond queries limit rounds replies hand state)
    (flying : query ∈ state.inFlight.map (·.query))
    : (state.inFlight.map (·.query)).count query = 1 := by
  have noTwice := List.nodup_iff_count.mp distinct query
  have before := going.unasked query
  have behind := going.asked query
  have here := List.count_pos_iff.mpr flying
  omega

/-- A reply that has come ends the flight of its question. -/
theorem Going.arrive {rest : List (Turn ε)} {reply : Reply ε} (distinct : queries.Nodup)
    (going : Going respond queries limit (rounds + 1) replies {} state)
    (found : state.agenda = .arrive query reply :: rest)
    : Going respond queries limit rounds replies {}
          (step respond (.arrive query reply) { state with agenda := rest })
      ∧ (step respond (.arrive query reply) { state with agenda := rest }).NoIdleSlot := by
  have flying : query ∈ state.inFlight.map (·.query) := by
    have here := going.arriving query
    rw [found] at here
    apply List.count_pos_iff.mp
    simp at here
    omega
  have once := going.count_inFlight distinct flying
  have others := count_filter_flights once
  have fewer := length_filter_flights once
  have own : (respond query).reply? = some reply := by
    apply going.arrivals query reply
    rw [found]
    exact List.mem_cons_self
  have unasked := going.unasked
  have resuming := going.resuming
  have collecting := going.collecting
  rw [found] at unasked resuming collecting
  unfold State.step
  apply Going.finish _ own
  refine { going with
    unasked, asked := ?asked, noticed := ?noticed, landed := ?landed, slots := ?slots, resuming
    arriving := ?arriving, arrivals := going.arrivals_tail found
    flights := fun flight member => going.flights flight (List.mem_filter.mp member).1
    ends := going.ends_tail found, collecting := by simpa using collecting, turns := ?turns
    waiting := ?waiting }
  case asked =>
    intro other
    have before := going.asked other
    have here := others other
    simp [found] at before here ⊢
    omega
  case noticed =>
    intro sound
    have := going.noticed sound
    simp [found] at this ⊢
    omega
  case landed =>
    intro other member
    by_cases same : other = query
    · exact Or.inr (by rw [same, own]; rfl)
    · refine (going.landed other member).imp_left fun flying => ?_
      obtain ⟨flight, inFlight, rfl⟩ := List.mem_map.mp flying
      exact List.mem_map_of_mem (List.mem_filter.mpr ⟨inFlight, by simpa using same⟩)
  case slots =>
    have := going.slots
    simp at this ⊢
    omega
  case arriving =>
    intro other
    have before := going.arriving other
    have here := others other
    simp [found] at before here ⊢
    omega
  case turns =>
    have := going.turns
    simp [found] at this ⊢
    omega
  case waiting =>
    have := going.waiting
    simp [found] at this ⊢
    omega

/-- The end of a job is taken from the agenda. -/
theorem Going.takeEnd {rest : List (Turn ε)} {result : Except ε Bool}
    (going : Going respond queries limit rounds replies {} state)
    (found : state.agenda = .settle query result :: rest)
    : Going respond queries limit rounds replies { ended := [query] }
        { state with agenda := rest } := by
  have unasked := going.unasked
  have resuming := going.resuming
  have arriving := going.arriving
  have collecting := going.collecting
  rw [found] at unasked resuming arriving collecting
  refine { going with
    unasked, asked := ?asked, noticed := ?noticed, resuming, arriving
    arrivals := going.arrivals_tail found, ends := going.ends_tail found
    collecting := by simpa using collecting, turns := ?turns, waiting := ?waiting }
  case asked =>
    intro other
    have := going.asked other
    simp [found] at this ⊢
    omega
  case noticed =>
    intro sound
    have := going.noticed sound
    simp [found] at this ⊢
    omega
  case turns =>
    have := going.turns
    simp [found] at this ⊢
    omega
  case waiting => simpa [found] using going.waiting

/-- Behind a breakdown the end of a job is not noticed. -/
theorem Going.dismiss
    (going : Going respond queries limit (rounds + 1) replies { ended := [query] } state)
    (broken : state.fault.isSome = true)
    : Going respond queries limit rounds replies {} state := by
  refine { going with asked := ?asked, noticed := ?noticed, turns := ?turns }
  case asked =>
    intro other
    have := going.asked other
    simp at this ⊢
    omega
  case noticed => exact fun sound => absurd sound (Option.ne_none_iff_isSome.mpr broken)
  case turns => simpa using going.turns

/-- The first breakdown calls for collecting. -/
theorem Going.breakDown {fault : ε}
    (going : Going respond queries limit (rounds + 1) replies { ended := [query] } state)
    (sound : state.fault = none) (own : (respond query).reply? = some (.broken fault))
    : Going respond queries limit rounds replies {}
        (push { state with fault := some fault } .collect) := by
  obtain ⟨_, uncalled, ongoing⟩ := going.unfinished sound (List.cons_ne_nil _ _)
  have wasAsked : query ∈ state.asked := by
    apply List.count_pos_iff.mp
    have := going.asked query
    simp at this
    omega
  refine { going with
    unasked := ?unasked, asked := ?asked, noticed := ?noticed, resuming := ?resuming
    arriving := ?arriving, arrivals := ?arrivals, ends := ?ends, crash := ?crash
    unsettled := ?unsettled, collecting := ?collecting, finished := ?finished
    turns := ?turns, waiting := ?waiting }
  case unasked => simpa [push] using going.unasked
  case asked =>
    intro other
    have := going.asked other
    simp [push] at this ⊢
    omega
  case noticed => simp [push]
  case resuming => simpa [push] using going.resuming
  case arriving => simpa [push] using going.arriving
  case arrivals =>
    exact fun other reply member => going.arrivals other reply (by simpa [push] using member)
  case ends =>
    exact fun other result member => going.ends other result (by simpa [push] using member)
  case crash =>
    intro other same
    cases same
    exact ⟨query, wasAsked, own⟩
  case unsettled => simp [push]
  case collecting => simpa [push, ongoing] using uncalled
  case finished => simp [push, ongoing]
  case turns => simpa [push] using going.turns
  case waiting => simpa [push] using going.waiting

/-- An answer is noted; the last one calls for collecting. -/
theorem Going.note {yes : Bool}
    (going : Going respond queries limit (rounds + 1) replies { ended := [query] } state)
    (sound : state.fault = none) (own : yes = (respond query).isYes)
    : let noted :=
        { state with
          answers := state.answers ++ [(query, yes)]
          unsettled := state.unsettled - 1 }
      Going respond queries limit rounds replies {}
        (if noted.unsettled = 0 then noted.push .collect else noted) := by
  obtain ⟨some, uncalled, ongoing⟩ := going.unfinished sound (List.cons_ne_nil _ _)
  have asked (other : String)
      : (state.inFlight.map (·.query)).count other + 0 + 0
            + (settling state.agenda).count other
            + ((state.answers ++ [(query, yes)]).map (·.1)).count other
          ≤ state.asked.count other := by
    have := going.asked other
    simp at this ⊢
    omega
  have noticed (sound : state.fault = none)
      : state.inFlight.length + 0 + 0 + (settling state.agenda).length
            + (state.answers ++ [(query, yes)]).length
          = state.asked.length := by
    have := going.noticed sound
    simp at this ⊢
    omega
  have answers (entry : String × Bool) (member : entry ∈ state.answers ++ [(query, yes)])
      : entry.2 = (respond entry.1).isYes := by
    rcases List.mem_append.mp member with earlier | last
    · exact going.answers entry earlier
    · obtain rfl := List.mem_singleton.mp last
      exact own
  have unsettled (sound : state.fault = none)
      : state.unsettled - 1 + (state.answers ++ [(query, yes)]).length = queries.length := by
    have := going.unsettled sound
    simp
    omega
  dsimp only
  split
  · rename_i none
    refine { going with
      unasked := ?unasked, asked := ?asked, noticed := ?noticed, resuming := ?resuming
      arriving := ?arriving, arrivals := ?arrivals, ends := ?ends, answers, unsettled
      collecting := ?collecting, finished := ?finished, turns := ?turns, waiting := ?waiting }
    case unasked => simpa [push] using going.unasked
    case asked =>
      intro other
      simpa [push] using asked other
    case noticed => simpa [push] using noticed
    case resuming => simpa [push] using going.resuming
    case arriving => simpa [push] using going.arriving
    case arrivals =>
      exact fun other reply member => going.arrivals other reply (by simpa [push] using member)
    case ends =>
      exact fun other result member => going.ends other result (by simpa [push] using member)
    case collecting => simpa [push, none, ongoing] using uncalled
    case finished => simp [push, ongoing]
    case turns => simpa [push] using going.turns
    case waiting => simpa [push] using going.waiting
  · rename_i more
    refine { going with
      asked, noticed, answers, unsettled, collecting := ?collecting, turns := ?turns }
    case collecting =>
      have undue : (state.unsettled - 1 == 0) = false := beq_eq_false_iff_ne.mpr more
      show collects state.agenda + state.status.isOver.toNat
        = (state.unsettled - 1 == 0 || state.fault.isSome).toNat
      rw [uncalled, ongoing, undue, sound]
      rfl
    case turns => simpa using going.turns

/-- The end of a job is noticed, unless the page broke down before. That of the last one, or a
breakdown, calls for collecting. -/
theorem Going.settle {rest : List (Turn ε)} {result : Except ε Bool}
    (going : Going respond queries limit (rounds + 1) replies {} state)
    (noIdle : state.NoIdleSlot) (found : state.agenda = .settle query result :: rest)
    : Going respond queries limit rounds replies {}
          (step respond (.settle query result) { state with agenda := rest })
      ∧ (step respond (.settle query result) { state with agenda := rest }).NoIdleSlot := by
  obtain ⟨reply, own, outcome⟩ : ∃ reply, (respond query).reply? = some reply
      ∧ reply.outcome = result := by
    apply going.ends query result
    rw [found]
    exact List.mem_cons_self
  have going := going.takeEnd found
  unfold State.step State.settle
  dsimp only
  by_cases broken : state.fault.isSome = true
  · simp only [broken, if_true]
    exact ⟨going.dismiss broken, noIdle⟩
  · have sound : state.fault = none := by simpa using broken
    simp only [broken, Bool.false_eq_true, if_false]
    cases result with
    | error fault =>
      obtain rfl : reply = .broken fault := by
        cases reply with
        | broken other =>
          cases outcome
          rfl
        | _ => cases outcome
      exact ⟨going.breakDown sound own, noIdle⟩
    | ok yes =>
      refine ⟨going.note sound (Response.isYes_of_outcome own outcome), ?_⟩
      dsimp only
      split <;> exact noIdle

/-- What collecting finds is an end. -/
theorem isOver_found (state : State ε) : state.found.isOver = true := by
  unfold State.found
  cases state.fault <;> rfl

/-- Collecting finds how the jobs ended. -/
theorem Going.collect {rest : List (Turn ε)}
    (going : Going respond queries limit rounds replies {} state)
    (found : state.agenda = .collect :: rest)
    : Going respond queries limit rounds replies {}
        (step respond .collect { state with agenda := rest }) := by
  have once : collects (Turn.collect :: rest) = collects rest + 1 := by simp
  have unasked := going.unasked
  have asked := going.asked
  have noticed := going.noticed
  have resuming := going.resuming
  have arriving := going.arriving
  have collecting := going.collecting
  rw [found] at unasked asked noticed resuming arriving collecting
  refine { going with
    unasked, asked, noticed, resuming, arriving, arrivals := going.arrivals_tail found
    ends := going.ends_tail found, collecting := ?collecting, finished := fun _ => rfl
    turns := ?turns, waiting := ?waiting }
  case collecting =>
    have atMost := Bool.toNat_le state.isDue
    show collects rest + state.found.isOver.toNat = state.isDue.toNat
    rw [isOver_found, Bool.toNat_true]
    rw [once] at collecting
    omega
  case turns => simpa [found, State.step] using going.turns
  case waiting => simpa [found, State.step] using going.waiting

/-- A turn other than collecting keeps everything in order and uses one turn up. -/
theorem Going.step {turn : Turn ε} {rest : List (Turn ε)} (distinct : queries.Nodup)
    (going : Going respond queries limit (rounds + 1) replies {} state)
    (noIdle : state.NoIdleSlot) (found : state.agenda = turn :: rest)
    (ordinary : turn ≠ .collect)
    : Going respond queries limit rounds replies {}
          (step respond turn { state with agenda := rest })
      ∧ (step respond turn { state with agenda := rest }).NoIdleSlot := by
  cases turn with
  | start query => exact going.start noIdle found
  | resume query => exact going.resume found
  | arrive query reply => exact going.arrive distinct found
  | settle query result => exact going.settle noIdle found
  | collect => exact absurd rfl ordinary

end Turns

end State

end FanOut

end CriticalCss
