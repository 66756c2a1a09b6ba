import CriticalCss.Proofs.Selection.Interruption

/-! The clock of a selection. Turns take no time; the clock goes from reply to reply and never back,
and with a deadline it stands before the deadline whenever a turn is taken. Whatever happens, no
question is open any more when selection ends.
-/

namespace CriticalCss

variable {ε : Type}

namespace FanOut.State

variable {respond : String → Response ε} {state : State ε}

--------------------------------------------------------------------------------
-- Turns
--------------------------------------------------------------------------------

section Turns

variable (state : State ε) (query : String) (reply : Reply ε) (result : Except ε Bool)

@[simp]
theorem wakeNext_clock : state.wakeNext.clock = state.clock := by
  unfold wakeNext
  split <;> rfl

@[simp]
theorem wakeNext_inFlight : state.wakeNext.inFlight = state.inFlight := by
  unfold wakeNext
  split <;> rfl

@[simp]
theorem finish_clock : (state.finish query reply).clock = state.clock := by
  cases reply <;> simp [finish, release, push]

@[simp]
theorem finish_inFlight : (state.finish query reply).inFlight = state.inFlight := by
  cases reply <;> simp [finish, release, push]

@[simp]
theorem settle_clock : (state.settle query result).clock = state.clock := by
  unfold settle
  split
  · rfl
  · split
    · rfl
    · dsimp only
      split <;> rfl

@[simp]
theorem settle_inFlight : (state.settle query result).inFlight = state.inFlight := by
  unfold settle
  split
  · rfl
  · split
    · rfl
    · dsimp only
      split <;> rfl

theorem ask_clock : (ask respond query state).clock = state.clock := by
  unfold ask
  dsimp only
  split <;> simp

/-- Turns take no time. -/
theorem step_clock (turn : Turn ε) : (step respond turn state).clock = state.clock := by
  cases turn with
  | start query =>
    rw [step]
    split
    · rfl
    · exact ask_clock _ query
  | resume query =>
    rw [step, ask_clock]
    split <;> simp
  | arrive | settle | collect => simp [step]

end Turns

/-- No reply that is still to come has its time behind it. -/
def Ahead (state : State ε) : Prop :=
  ∀ flight ∈ state.inFlight, ∀ entry, flight.due = some entry → state.clock ≤ entry.1

theorem Ahead.of_subset {next : State ε} (ahead : state.Ahead) (clock : next.clock = state.clock)
    (fewer : next.inFlight ⊆ state.inFlight)
    : next.Ahead :=
  fun flight member entry due => clock ▸ ahead flight (fewer member) entry due

/-- The reply to a question that is asked now comes now or later. -/
theorem Ahead.ask (ahead : state.Ahead) (query : String)
    : (FanOut.State.ask respond query state).Ahead := by
  have further {due : Option (Nat × Reply ε)}
      (later : ∀ entry, due = some entry → state.clock ≤ entry.1)
      : ∀ flight ∈ state.inFlight ++ [⟨query, due⟩], ∀ entry,
          flight.due = some entry → state.clock ≤ entry.1 := by
    intro flight member entry comes
    rcases List.mem_append.mp member with before | asked
    · exact ahead flight before entry comes
    · cases List.mem_singleton.mp asked
      exact later entry comes
  unfold FanOut.State.ask
  dsimp only
  split
  · exact ahead.of_subset (by simp) (by simp)
  · exact further fun entry comes => by
      cases comes
      exact Nat.le_add_right _ _
  · exact further nofun

/-- A turn lets no reply fall behind. -/
theorem Ahead.step (ahead : state.Ahead) (turn : Turn ε)
    : (FanOut.State.step respond turn state).Ahead := by
  cases turn with
  | start query =>
    rw [FanOut.State.step]
    split
    · exact ahead
    · exact Ahead.ask (show Ahead { state with free := state.free - 1 } from ahead) query
  | resume query =>
    rw [FanOut.State.step]
    refine Ahead.ask ?_ query
    split
    · exact ahead.of_subset (by simp) (by simp)
    · exact ahead
  | arrive query reply =>
    rw [FanOut.State.step]
    exact ahead.of_subset (by simp) (by simp)
  | settle query result =>
    rw [FanOut.State.step]
    exact ahead.of_subset (by simp) (by simp)
  | collect => exact ahead

theorem drain_clock (respond : String → Response ε) (state : State ε) (rounds : Nat)
    : (state.drain respond rounds).clock = state.clock := by
  induction rounds generalizing state with
  | zero => rfl
  | succ rounds ih =>
    unfold drain
    split
    · rfl
    · split
      · rfl
      · rw [ih, step_clock]

theorem Ahead.drain (ahead : state.Ahead) (respond : String → Response ε) (rounds : Nat)
    : (state.drain respond rounds).Ahead := by
  induction rounds generalizing state with
  | zero => exact ahead
  | succ rounds ih =>
    unfold FanOut.State.drain
    split
    · exact ahead
    · split
      · exact ahead
      · rename_i turn rest found
        exact ih (Ahead.step (show Ahead { state with agenda := rest } from ahead) turn)

--------------------------------------------------------------------------------
-- Visits
--------------------------------------------------------------------------------

/-- The states in which the jobs wait for the next reply, and the one they end in. -/
def visits (respond : String → Response ε) (jobs : Nat) (deadline : Option Nat) (replies : Nat)
    (state : State ε)
    : List (State ε) :=
  let idle := state.drain respond (roundsFor jobs)
  match replies with
  | 0 => [idle]
  | replies + 1 =>
    if idle.status.isOver then [idle]
    else
      match idle.nextDue with
      | none => [idle]
      | some time =>
        if deadline.any (· ≤ time) then [idle]
        else
          idle :: visits respond jobs deadline replies
            { idle with clock := time, agenda := idle.arrivals time }

/-- The next reply comes now or later, and no other one before it. -/
theorem Ahead.of_nextDue {time : Nat} (ahead : state.Ahead) (next : state.nextDue = some time)
    : state.clock ≤ time
      ∧ Ahead { state with clock := time, agenda := state.arrivals time } := by
  obtain ⟨first, least⟩ := List.min?_eq_some_iff.mp next
  constructor
  · obtain ⟨flight, member, comes⟩ := List.mem_filterMap.mp first
    obtain ⟨entry, due, rfl⟩ := Option.map_eq_some_iff.mp comes
    exact ahead flight member entry due
  · intro flight member entry due
    exact least entry.1 (List.mem_filterMap.mpr ⟨flight, member, by rw [due]; rfl⟩)

/-- The last visit is the state that the jobs come to. -/
theorem getLast?_visits (jobs : Nat) (deadline : Option Nat) (replies : Nat)
    : (state.visits respond jobs deadline replies).getLast?
      = some (state.advance respond jobs deadline replies) := by
  induction replies generalizing state with
  | zero => rfl
  | succ replies ih =>
    unfold visits advance
    dsimp only
    split
    · rfl
    · cases (state.drain respond (roundsFor jobs)).nextDue with
      | none => rfl
      | some time =>
        dsimp only
        split
        · rfl
        · rw [List.getLast?_cons, ih]
          rfl

/-- From a time before the deadline on, the clock goes forward and stays before the deadline.
Witness: induction on the replies; the clock is put to the time of a reply, which is not behind, and
only if the deadline is not reached by then.
-/
theorem Ahead.visits (ahead : state.Ahead) {deadline : Nat} (inTime : state.clock < deadline)
    (jobs replies : Nat)
    : ∀ visit ∈ state.visits respond jobs (some deadline) replies,
        state.clock ≤ visit.clock ∧ visit.clock < deadline := by
  induction replies generalizing state with
  | zero =>
    intro visit member
    obtain rfl := List.mem_singleton.mp member
    rw [drain_clock]
    exact ⟨Nat.le_refl _, inTime⟩
  | succ replies ih =>
    have now := drain_clock respond state (roundsFor jobs)
    have idle := ahead.drain respond (roundsFor jobs)
    have first
        : state.clock ≤ (state.drain respond (roundsFor jobs)).clock
          ∧ (state.drain respond (roundsFor jobs)).clock < deadline := by
      omega
    have last {visit : State ε} (member : visit ∈ [state.drain respond (roundsFor jobs)])
        : state.clock ≤ visit.clock ∧ visit.clock < deadline :=
      List.mem_singleton.mp member ▸ first
    unfold FanOut.State.visits
    dsimp only
    split
    · exact fun visit => last
    · split
      · exact fun visit => last
      · rename_i time next
        obtain ⟨later, ahead⟩ := idle.of_nextDue next
        split
        · exact fun visit => last
        · rename_i early
          have early : time < deadline := by simpa using early
          intro visit member
          rcases List.mem_cons.mp member with rfl | member
          · exact first
          · have behind := ih ahead early visit member
            dsimp only at behind
            omega

end FanOut.State

--------------------------------------------------------------------------------
-- Selection
--------------------------------------------------------------------------------

namespace FanOut

/-- The visits of a run. -/
def visits (respond : String → Response ε) (clock limit : Nat) (deadline : Option Nat)
    (queries : List String)
    : List (State ε) :=
  (State.initial clock limit queries).visits respond queries.length deadline queries.length

theorem ahead_initial (clock limit : Nat) (queries : List String)
    : (State.initial (ε := ε) clock limit queries).Ahead :=
  fun _ member => absurd member List.not_mem_nil

theorem stopAll_clock (state : State ε) : state.stopAll.clock = state.clock := by
  have stop (told : List String) (query : String) (left : State ε)
      : (left.stop told query).clock = left.clock := by
    have beside (left : State ε) : (left.releaseBeside told).clock = left.clock := by
      unfold State.releaseBeside
      split <;> rfl
    unfold State.stop
    split
    · rfl
    · split
      · exact beside _
      · split
        · exact beside _
        · rfl
  have all (told rest : List String) (left : State ε)
      : (rest.foldl (fun left query => left.stop told query) left).clock = left.clock := by
    induction rest generalizing left with
    | nil => rfl
    | cons query rest ih => exact (ih _).trans (stop told query left)
  exact all _ _ _

/-- A run ends at the time of its last visit. -/
theorem exists_visit_run (respond : String → Response ε) (clock limit : Nat)
    (deadline : Option Nat) (queries : List String)
    : ∃ visit ∈ visits respond clock limit deadline queries,
        (run respond clock limit deadline queries).clock = visit.clock := by
  refine ⟨_, List.mem_of_getLast? (State.getLast?_visits _ deadline queries.length), ?_⟩
  unfold run
  dsimp only
  split
  · rfl
  · exact stopAll_clock _

end FanOut

namespace Selection

/-- The visits of the fan-out of a selection. -/
def visits (settings : Settings) (probe : Probe ε) (clock : Nat) (deadline : Option Nat)
    (sheet : Stylesheet)
    : List (FanOut.State ε) :=
  FanOut.visits probe.isVisible clock settings.limit deadline
    (queriesFor settings.query? (decidedSelectors settings sheet))

/-- A selection does all it does before the deadline, and no question is open behind it. -/
structure InTime (settings : Settings) (probe : Probe ε) (clock deadline : Nat)
    (sheet : Stylesheet) : Prop where
  /-- Turns are taken, and thus questions asked, before the deadline. -/
  visits
    : ∀ visit ∈ visits settings probe clock (some deadline) sheet,
        clock ≤ visit.clock ∧ visit.clock < deadline
  quiet : Quiet probe.isVisible (fanOut settings probe clock (some deadline) sheet)
  started : clock ≤ (run settings probe clock (some deadline) sheet).clock
  ended : (run settings probe clock (some deadline) sheet).clock < deadline

theorem decide_clock (settings : Settings) (probe : Probe ε) (sheet : Stylesheet)
    (asked : FanOut.State ε) (before : List Event)
    : (Selection.decide settings probe sheet asked before).clock = asked.clock := by
  unfold Selection.decide
  dsimp only
  split <;> rfl

/-- Selection ends with its fan-out, or at once. -/
theorem run_clock (settings : Settings) (probe : Probe ε) (clock : Nat) (deadline : Option Nat)
    (sheet : Stylesheet)
    : (run settings probe clock deadline sheet).clock = clock
      ∨ (run settings probe clock deadline sheet).clock
        = (fanOut settings probe clock deadline sheet).clock := by
  unfold run
  dsimp only
  split
  · exact .inl rfl
  · right
    split
    · exact decide_clock settings probe _ _ _
    · rfl
    · rfl

/-- Selection that starts before its deadline is in time. -/
theorem inTime_of_lt (settings : Settings) (probe : Probe ε) {clock deadline : Nat}
    (sheet : Stylesheet) (inTime : clock < deadline)
    : InTime settings probe clock deadline sheet := by
  have visits : ∀ visit ∈ visits settings probe clock (some deadline) sheet,
      clock ≤ visit.clock ∧ visit.clock < deadline :=
    (FanOut.ahead_initial clock _ _).visits inTime _ _
  have within
      : clock ≤ (run settings probe clock (some deadline) sheet).clock
        ∧ (run settings probe clock (some deadline) sheet).clock < deadline := by
    rcases run_clock settings probe clock (some deadline) sheet with same | same
    · rw [same]
      exact ⟨Nat.le_refl _, inTime⟩
    · obtain ⟨visit, member, last⟩ := FanOut.exists_visit_run probe.isVisible clock settings.limit
        (some deadline) (queriesFor settings.query? (decidedSelectors settings sheet))
      rw [same.trans last]
      exact visits visit member
  exact {
    visits := visits
    quiet := quiet_run probe.isVisible clock settings.limit (some deadline)
      (nodup_queriesFor settings.query? (decidedSelectors settings sheet))
    started := within.1
    ended := within.2 }

end Selection

end CriticalCss
