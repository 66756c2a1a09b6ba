import CriticalCss.Proofs.Selection.Concurrency

/-! Refusals on record. A refused question is noted when its reply has come, once for each question
that was asked, so nothing is counted twice and nothing is lost however the jobs take turns.
-/

namespace CriticalCss

variable {ε : Type}

/-- Is the reply a refusal? -/
def Reply.isRefused : Reply ε → Bool
  | refused _ => true
  | _ => false

/-- Is the question refused in the end? -/
def Response.isRefused (response : Response ε) : Bool :=
  response.reply?.any Reply.isRefused

theorem countP_cons_toNat {α : Type} (test : α → Bool) (first : α) (rest : List α)
    : (first :: rest).countP test = rest.countP test + (test first).toNat := by
  rw [List.countP_cons]
  cases test first <;> rfl

namespace FanOut

section Refusals

variable {respond : String → Response ε} {queries : List String} {limit : Nat}
  {state next : State ε} {query : String}

/-- Of the questions that are refused those are on record that are not open any more. -/
def State.Tallied (respond : String → Response ε) (state : State ε) : Prop :=
  state.refusals.length
      + (state.inFlight.map (·.query)).countP (fun query => (respond query).isRefused)
    = state.asked.countP fun query => (respond query).isRefused

--------------------------------------------------------------------------------
-- Turns
--------------------------------------------------------------------------------

/-- Two states with the same record of questions and replies. -/
structure State.SameRecord (state next : State ε) : Prop where
  refusals : next.refusals = state.refusals
  inFlight : next.inFlight = state.inFlight
  asked : next.asked = state.asked

theorem State.SameRecord.tallied (same : state.SameRecord next) (tallied : state.Tallied respond)
    : next.Tallied respond := by
  rw [State.Tallied, same.refusals, same.inFlight, same.asked]
  exact tallied

theorem sameRecord_wakeNext (state : State ε) : state.SameRecord state.wakeNext := by
  unfold State.wakeNext
  split <;> exact ⟨rfl, rfl, rfl⟩

/-- The end of a job notes a refusal, and nothing else of questions and replies. -/
theorem finish_record (query : String) (reply : Reply ε) (state : State ε)
    : (State.finish query reply state).refusals.length
        = state.refusals.length + reply.isRefused.toNat
      ∧ (State.finish query reply state).inFlight = state.inFlight
      ∧ (State.finish query reply state).asked = state.asked := by
  have woken (noted : State ε) := sameRecord_wakeNext { noted with free := noted.free + 1 }
  cases reply with
  | answer yes =>
    exact ⟨congrArg List.length (woken state).refusals, (woken state).inFlight,
      (woken state).asked⟩
  | refused message =>
    let noted := { state with refusals := state.refusals ++ [(query, message)] }
    refine ⟨?_, (woken noted).inFlight, (woken noted).asked⟩
    exact (congrArg List.length (woken noted).refusals).trans List.length_append
  | broken fault =>
    exact ⟨congrArg List.length (woken state).refusals, (woken state).inFlight,
      (woken state).asked⟩

theorem countP_concat (test : String → Bool) (texts : List String) (text : String)
    : (texts ++ [text]).countP test = texts.countP test + (test text).toNat := by
  rw [List.countP_append, countP_cons_toNat, List.countP_nil, Nat.zero_add]

/-- A question that is asked is open then, or its refusal is on record. -/
theorem State.Tallied.ask (tallied : state.Tallied respond) (query : String)
    : (State.ask respond query state).Tallied respond := by
  have opened (due : Option (Nat × Reply ε))
      : State.Tallied respond
          { state with
            asked := state.asked ++ [query]
            peak := max state.peak (state.inFlight.length + 1)
            inFlight := state.inFlight ++ [⟨query, due⟩] } := by
    unfold State.Tallied at tallied ⊢
    rw [List.map_append, List.map_singleton, countP_concat, countP_concat]
    dsimp only
    omega
  unfold State.ask
  cases response : respond query with
  | now reply =>
    dsimp only
    obtain ⟨refusals, inFlight, asked⟩ := finish_record query reply
      { state with
        asked := state.asked ++ [query]
        peak := max state.peak (state.inFlight.length + 1) }
    have own : (respond query).isRefused = reply.isRefused := by
      rw [Response.isRefused, response]
      rfl
    unfold State.Tallied at tallied ⊢
    rw [refusals, inFlight, asked, countP_concat, own]
    dsimp only
    omega
  | later delay reply => exact opened _
  | never => exact opened none

/-- A reply that comes closes its question and is on record if it is a refusal. -/
theorem State.Tallied.arrive {reply : Reply ε} (tallied : state.Tallied respond)
    (own : (respond query).reply? = some reply)
    (once : (state.inFlight.map (·.query)).count query = 1)
    : (State.finish query reply
        { state with inFlight := state.inFlight.filter (·.query != query) }).Tallied respond := by
  obtain ⟨refusals, inFlight, asked⟩ := finish_record query reply
    { state with inFlight := state.inFlight.filter (·.query != query) }
  have closed := (State.perm_filter_flights once).countP_eq fun query => (respond query).isRefused
  have refused : (respond query).isRefused = reply.isRefused := by
    rw [Response.isRefused, own]
    rfl
  rw [countP_concat, refused] at closed
  unfold State.Tallied at tallied ⊢
  rw [refusals, inFlight, asked]
  dsimp only
  omega

/-- Noticing the end of a job leaves the record alone. -/
theorem sameRecord_settle (query : String) (result : Except ε Bool) (state : State ε)
    : state.SameRecord (state.settle query result) := by
  unfold State.settle
  split
  · exact ⟨rfl, rfl, rfl⟩
  · cases result with
    | error fault => exact ⟨rfl, rfl, rfl⟩
    | ok yes =>
      dsimp only
      split <;> exact ⟨rfl, rfl, rfl⟩

--------------------------------------------------------------------------------
-- Schedules
--------------------------------------------------------------------------------

/-- A step keeps the record complete. By the cases of the turn that is taken; only asking and a
reply change anything. -/
theorem Step.tallied (distinct : queries.Nodup) (moment : Moment respond limit queries state)
    (tallied : state.Tallied respond) (step : Step respond state next)
    : next.Tallied respond := by
  obtain ⟨going, -⟩ := moment.going distinct
  cases step with
  | reply => exact tallied
  | @turn turn rest found =>
    have left : State.Tallied respond { state with agenda := rest } := tallied
    cases turn with
    | start query =>
      unfold State.step
      dsimp only
      split
      · exact left
      · have begun
            : State.Tallied respond { state with agenda := rest, free := state.free - 1 } :=
          tallied
        exact begun.ask query
    | resume query =>
      refine State.Tallied.ask ?_ query
      dsimp only
      split
      · exact (sameRecord_wakeNext _).tallied left
      · exact left
    | arrive query reply =>
      have own := going.arrivals query reply (by rw [found]; exact List.mem_cons_self)
      have flying : query ∈ state.inFlight.map (·.query) := by
        have come := going.arriving query
        rw [found] at come
        refine List.count_pos_iff.mp (Nat.lt_of_lt_of_le ?_ come)
        simp [arriving]
      have once : (state.inFlight.map (·.query)).count query = 1 :=
        going.count_inFlight distinct flying
      exact left.arrive own once
    | settle query result => exact (sameRecord_settle query result _).tallied left
    | collect => exact left

/-- At every moment of every schedule the record is complete, by induction on the schedule. -/
theorem Moment.tallied (distinct : queries.Nodup) (moment : Moment respond limit queries state)
    : state.Tallied respond := by
  induction moment with
  | initial clock => rfl
  | next before step ih => exact step.tallied distinct before ih

/-- When all is answered, every refusal of a question that was asked is on record. -/
theorem refusals_of_answered (distinct : queries.Nodup)
    (moment : Moment respond limit queries state) (answered : state.status = .answered)
    : state.refusals.length = state.asked.countP fun query => (respond query).isRefused := by
  have tallied := moment.tallied distinct
  have closed := ((moment.going distinct).1.collected answered).ended.inFlight
  rwa [State.Tallied, closed, List.map_nil, List.countP_nil, Nat.add_zero] at tallied

end Refusals

end FanOut

end CriticalCss
