import CriticalCss.Proofs.Browser.Waiting
import CriticalCss.Proofs.Extraction.Retry
import CriticalCss.Proofs.Extraction.Work

/-! One deadline for both attempts. An attempt that starts before the deadline is over by the
deadline, whatever it waits for; one that would start behind it does nothing. A restart is not
bounded, but it neither opens nor loads nor asks anything. So a result is there by the deadline, and
the time is never said to be up before that, unless loading or the page says so.
-/

namespace CriticalCss.Extraction

open Browser (Pool)

--------------------------------------------------------------------------------
-- Attempts
--------------------------------------------------------------------------------

section Attempts

variable {conditions : Conditions} {request : Request} {css : String} {deadline : Nat}
  {before : Progress}

@[simp]
theorem loseBrowser_clock (progress : Progress) : progress.loseBrowser.clock = progress.clock := by
  unfold Progress.loseBrowser
  split <;> rfl

@[simp]
theorem loseBrowser_inquiries (progress : Progress)
    : progress.loseBrowser.inquiries = progress.inquiries := by
  unfold Progress.loseBrowser
  split <;> rfl

@[simp]
theorem approach_inquiries (opening : Opening) (progress : Progress)
    : (progress.approach opening).inquiries = progress.inquiries := by
  unfold Progress.approach
  dsimp only
  split <;> simp

/-- Asking for a page fails for other reasons than time. -/
theorem tellsTime_of_refused {pool : Pool} {failure : Failure}
    (got : before.acquire conditions request = (pool, .failed failure))
    : failure.tellsTime = false := by
  have hosted :=
    Pool.hosted_acquire conditions.setup (some request.viewport) (some request.userAgent)
      request.headers before.pool
  have got
      : before.pool.acquire conditions.setup (some request.viewport) (some request.userAgent)
          request.headers = (pool, .failed failure) :=
    got
  rw [got] at hosted
  obtain rfl | rfl | rfl := hosted <;> rfl

/-- What ends while nothing is asked. -/
theorem timely_of_unasked {ended : Progress × Ending} (forward : before.clock ≤ ended.1.clock)
    (notLate : ended.1.clock ≤ deadline) (unasked : ended.1.inquiries = before.inquiries)
    (cutOff : ended.2 = .cutOff → ended.1.clock = deadline)
    (failed : ∀ failure, ended.2 = .failed failure → failure.tellsTime = false)
    : Timely conditions deadline before ended :=
  ⟨⟨forward, notLate, .inl unasked⟩, cutOff, fun _ => failed⟩

/-- What starts before the deadline with asking for a page is over by the deadline. -/
theorem timely_onPage (conditions : Conditions) (request : Request) (css : String)
    (inTime : before.clock < deadline)
    : Timely conditions deadline before (onPage conditions request css deadline before) := by
  have asking := asking_askForPage conditions request inTime
  unfold onPage
  split
  · rename_i found
    rw [found] at asking
    cases asking with
    | overdue =>
      exact timely_of_unasked (Nat.le_of_lt inTime) (Nat.le_refl _) rfl (fun _ => rfl) nofun
    | refused got forward notLate left =>
      have failed := tellsTime_of_refused got
      obtain rfl | rfl := left
      · exact timely_of_unasked forward notLate rfl nofun fun _ same =>
          Ending.failed.inj same ▸ failed
      · exact timely_of_unasked (by simpa using forward) (by simpa using notLate) (by simp) nofun
          fun _ same => Ending.failed.inj same ▸ failed
  · rename_i page found
    rw [found] at asking
    cases asking with
    | @opened pool _ got opened =>
      let asked :=
        { before with pool := pool, clock := before.clock + conditions.opening.delay }
      have worked :=
        worked_generate conditions request css page (show asked.clock < deadline from opened)
      have timely :=
        worked.toTimely.behind (show before.clock ≤ asked.clock from Nat.le_add_right _ _) rfl
      exact { timely with }

/-- What starts before the deadline is over by the deadline. -/
theorem timely_onBrowser (conditions : Conditions) (request : Request) (css : String)
    (inTime : before.clock < deadline)
    : Timely conditions deadline before (onBrowser conditions request css deadline before) := by
  unfold onBrowser
  dsimp only
  split
  · exact timely_of_unasked (Nat.le_of_lt inTime) (Nat.le_refl _) (by simp) (fun _ => rfl) nofun
  · rename_i early
    refine Timely.behind ?_ ?_ (timely_onPage conditions request css (Nat.lt_of_not_le early))
    · exact Nat.le_add_right _ _
    · exact approach_inquiries conditions.opening before

/-- What a deed has to do with the deadline. -/
def Deed.OnTime (conditions : Conditions) (request : Request) (deadline : Nat) : Deed → Prop
  /- An attempt that would start behind the deadline does nothing; another one is over by then. -/
  | attempt before after found =>
    (deadline ≤ before.clock
      ∧ after = before.note (.timedOut request.timeout)
      ∧ found = .error (.timedOut request.timeout))
    ∨ (before.clock < deadline ∧ ∃ retried, Spent (conditions.on retried) deadline before after)
  /- A restart neither opens nor loads nor asks anything. -/
  | restart before after _ =>
    before.clock ≤ after.clock
    ∧ after.loads = before.loads
    ∧ after.inquiries = before.inquiries
    ∧ after.pool.handedOut = before.pool.handedOut

end Attempts

section Runs

variable {conditions : Conditions} {request : Request} {css : String} {deadline : Nat}

theorem tellsTime_of_kind {failure : Failure} (timeout : failure.kind? = some .timeout)
    : failure.tellsTime = true := by
  cases failure <;> first | rfl | exact beq_iff_eq.mpr timeout

/-- An attempt is on time. One that succeeds is over by the deadline, and one that fails for want of
time fails at the deadline or behind it. -/
theorem onTime_attempt {retried : Bool} {before after : Progress}
    {found : Except Failure String}
    (made : attempt (conditions.on retried) request css deadline before = (after, found))
    : (Deed.attempt before after found).OnTime conditions request deadline
      ∧ (∀ text, found = .ok text → after.clock ≤ deadline)
      ∧ ((conditions.on retried).Punctual → ∀ failure, found = .error failure →
          failure.kind? = some .timeout → deadline ≤ after.clock) := by
  unfold attempt at made
  split at made
  · rename_i late
    obtain ⟨rfl, rfl⟩ := Prod.mk.inj made
    exact ⟨.inl ⟨late, rfl, rfl⟩, nofun, fun _ _ _ _ => late⟩
  · rename_i early
    have early := Nat.lt_of_not_le early
    have timely := timely_onBrowser (conditions.on retried) request css early
    rcases ended : onBrowser (conditions.on retried) request css deadline before
      with ⟨left, ending⟩
    rw [ended] at made timely
    have spent : Spent (conditions.on retried) deadline before left := timely.toSpent
    cases ending with
    | css text =>
      obtain ⟨rfl, rfl⟩ := Prod.mk.inj made
      exact ⟨.inr ⟨early, retried, spent⟩, fun _ _ => spent.notLate, nofun⟩
    | cutOff =>
      obtain ⟨rfl, rfl⟩ := Prod.mk.inj made
      refine ⟨.inr ⟨early, retried, { spent with }⟩, nofun, fun _ _ _ _ => ?_⟩
      exact Nat.le_of_eq (timely.cutOff rfl).symm
    | failed failure =>
      have other (punctual : (conditions.on retried).Punctual) : failure.tellsTime = false :=
        timely.failed punctual failure rfl
      split at made
      · rename_i same
        cases same
      · rename_i same
        cases same
      · rename_i same
        cases same
        obtain ⟨rfl, rfl⟩ := Prod.mk.inj made
        refine ⟨.inr ⟨early, retried, { spent with }⟩, nofun, fun punctual _ _ _ => ?_⟩
        cases other punctual
      · rename_i same
        cases same
        obtain ⟨rfl, rfl⟩ := Prod.mk.inj made
        refine ⟨.inr ⟨early, retried, spent⟩, nofun, fun punctual _ same timeout => ?_⟩
        cases same
        cases (other punctual).symm.trans (tellsTime_of_kind timeout)

/-- A restart is on time whenever it comes. -/
theorem onTime_restart {before after : Progress} {failure : Option Failure}
    (made : restart conditions request before = (after, failure))
    : (Deed.restart before after failure).OnTime conditions request deadline := by
  obtain ⟨rfl, -⟩ := Prod.mk.inj made
  refine ⟨Nat.le_add_right _ _, rfl, rfl, ?_⟩
  exact (Pool.handedOut_launchIfNeeded _ _ _).trans (Pool.handedOut_close _ _)

/-- What a whole run has to do with the deadline, from an attempt on. -/
structure Course.Timed (conditions : Conditions) (request : Request) (deadline : Nat)
    (before : Progress) (deeds : List Deed)
    (run : Progress × Except Failure (String × Nat)) : Prop where
  onTime : ∀ deed ∈ deeds, deed.OnTime conditions request deadline
  /-- An attempt that has failed for want of time is the last deed. -/
  last : deeds.Pairwise fun deed _ => deed.failure?.bind Failure.kind? ≠ some .timeout
  succeeds
    : ∀ text attempts, run.2 = .ok (text, attempts) →
        before.clock < deadline ∧ run.1.clock ≤ deadline
  fails
    : (∀ retried, (conditions.on retried).Punctual) →
        ∀ failure, run.2 = .error failure → failure.kind? = some .timeout →
          deadline ≤ run.1.clock

/-- A restart fails only because a launch does. -/
theorem eq_launchFailed_of_restart {before after : Progress} {failure : Failure}
    (made : restart conditions request before = (after, some failure))
    : failure = .launchFailed := by
  obtain ⟨-, failed⟩ := Prod.mk.inj made
  have launching := Browser.Pool.launching_launchIfNeeded conditions.setup
    request.viewport ((before.pool.note .browserRestarting).close conditions.setup)
  generalize reached : Pool.launchIfNeeded _ _ _ = launched at launching
  have failed : launched.2 = some failure := reached ▸ failed
  rw [failed] at launching
  cases launching
  rfl

theorem kind_of_died {after : Progress} {failure : Failure}
    (died : (failure.isFinal || after.pool.isAlive) = false)
    : failure.kind? ≠ some .timeout := by
  intro timeout
  simp [Failure.isFinal, timeout] at died

/-- A run keeps to the deadline.
Witness: induction on its course.
-/
theorem Course.timed {retried : Bool} {before : Progress} {deeds : List Deed}
    {run : Progress × Except Failure (String × Nat)}
    (course : Course conditions request css deadline retried before deeds run)
    : Course.Timed conditions request deadline before deeds run := by
  induction course with
  | @returns retried before after text made =>
    obtain ⟨onTime, notLate, -⟩ := onTime_attempt made
    exact {
      onTime := List.forall_mem_singleton.mpr onTime
      last := List.pairwise_singleton _ _
      succeeds := fun _ _ _ =>
        ⟨of_decide_eq_true (runsPipeline_of_attempt made nofun), notLate text rfl⟩
      fails := fun _ => nofun }
  | @raises retried before after failure made stands =>
    obtain ⟨onTime, -, late⟩ := onTime_attempt made
    exact {
      onTime := List.forall_mem_singleton.mpr onTime
      last := List.pairwise_singleton _ _
      succeeds := nofun
      fails := fun punctual other same =>
        late (punctual retried) other (congrArg Except.error (Except.error.inj same)) }
  | givesUp made died =>
    obtain ⟨onTime, -⟩ := onTime_attempt made
    exact {
      onTime := List.forall_mem_singleton.mpr onTime
      last := List.pairwise_singleton _ _
      succeeds := nofun
      fails := fun _ _ same timeout => by cases same; cases timeout }
  | restartFails made died restarted =>
    obtain ⟨onTime, -⟩ := onTime_attempt made
    exact {
      onTime := List.forall_mem_cons.mpr
        ⟨onTime, List.forall_mem_singleton.mpr (onTime_restart restarted)⟩
      last := List.pairwise_pair.mpr (kind_of_died died)
      succeeds := nofun
      fails := fun _ _ same timeout => by
        cases same
        cases eq_launchFailed_of_restart restarted
        cases timeout }
  | repeats made died restarted rest ih =>
    obtain ⟨onTime, -⟩ := onTime_attempt made
    exact {
      onTime := List.forall_mem_cons.mpr
        ⟨onTime, List.forall_mem_cons.mpr ⟨onTime_restart restarted, ih.onTime⟩⟩
      last := List.pairwise_cons.mpr
        ⟨fun _ _ => kind_of_died died, List.pairwise_cons.mpr ⟨fun _ _ => nofun, ih.last⟩⟩
      succeeds := fun text attempts ended =>
        ⟨of_decide_eq_true (runsPipeline_of_died made died),
          (ih.succeeds text attempts ended).2⟩
      fails := ih.fails }

end Runs

--------------------------------------------------------------------------------
-- The deadline
--------------------------------------------------------------------------------

/-- **One deadline for a run.** A result is there by the deadline, whatever is waited for on the
way. If neither loading nor the pages break off for want of time by themselves, the time is said to
be up at the deadline at the earliest. Whatever they do, nothing follows an attempt that has failed
for want of time. Attempts are over by the deadline, and behind it no page is opened or loaded,
nothing is asked, and no question is open, however long a restart takes. (A time that cannot be
measured has no deadline; then the run fails at once.)
-/
theorem timed_generateWithRetry (conditions : Conditions) (request : Request) (css : String)
    (progress : Progress)
    : let ended := generateWithRetry conditions request css progress
      (∀ text attempts, ended.2 = .ok (text, attempts) →
        (ended.1.clock : Int) ≤ progress.clock + request.timeout)
      ∧ ((∀ retried, (conditions.on retried).Punctual) →
          ∀ failure, ended.2 = .error failure → failure.kind? = some .timeout →
            progress.clock + request.timeout ≤ (ended.1.clock : Int))
      ∧ (ended = (progress, .error .endlessTimeout)
          ∨ ∃ deeds,
              Course conditions request css (progress.clock + request.timeout.toNat) false progress
                deeds ended
              ∧ (∀ deed ∈ deeds,
                  deed.OnTime conditions request (progress.clock + request.timeout.toNat))
              ∧ deeds.Pairwise fun deed _ => deed.failure?.bind Failure.kind? ≠ some .timeout) := by
  intro ended
  by_cases measured : (timeoutBound : Int) ≤ request.timeout
  · have endless : ended = (progress, .error .endlessTimeout) := if_pos measured
    rw [endless]
    refine ⟨fun _ _ => nofun, fun _ failure failed timeout => ?_, .inl rfl⟩
    cases failed
    cases timeout
  · have same : ended = generateInTime conditions request css progress := if_neg measured
    obtain ⟨deeds, course⟩ := exists_course conditions request css progress
    rw [← same] at course
    have timed := course.timed
    refine ⟨fun text attempts done => ?_, fun punctual failure failed timeout => ?_,
      .inr ⟨deeds, course, timed.onTime, timed.last⟩⟩
    · have inTime := timed.succeeds text attempts done
      omega
    · have late := timed.fails punctual failure failed timeout
      omega

/-- Loading that breaks off for want of time by itself, with the error that the deadline has, ends
the run before the deadline. -/
theorem early_of_reportedTimeout
    : let conditions : Conditions :=
        { calmConditions {} with
          load := fun _ => { delay := 5, failure := some (.reported .timeout "early") } }
      let ended := generateWithRetry conditions (bareRequest {} "a") "a" { pool := .fresh {} {} [] }
      (∀ n message, (conditions.load n).failure ≠ some (.gaveUp message))
      ∧ ended.2 = .error (.reported .timeout "early")
      ∧ (Failure.reported .timeout "early").kind? = some .timeout
      ∧ ended.1.clock = 5
      ∧ (bareRequest {} "a").timeout = 30000 := by
  refine ⟨fun _ _ => nofun, rfl, rfl, rfl, rfl⟩

/-- The first load breaks down with the browser, restarting takes a while, and the second load does
not end in time. -/
def stalling : Conditions :=
  { calmConditions {} with
    setup := { config := {}, conduct := { delay := fun n => 20 * n } }
    load := fun n =>
      if n = 0 then { delay := 7, crashes := true, failure := some (.foreign "Error" "gone") }
      else { delay := 1000000 } }

theorem punctual_stalling (retried : Bool) : (stalling.on retried).Punctual := by
  have probe : Extraction.Punctual stalling.probe := {
    query := fun query breakdown broken => by
      by_cases own : query = "a" <;> simp [stalling, calmConditions, own, Response.reply?] at broken
    clearing := nofun }
  have load (n : Nat) (failure : Failure) (failed : (stalling.load n).failure = some failure)
      : failure.tellsTime = false := by
    by_cases first : n = 0
    · obtain rfl : .foreign "Error" "gone" = failure := by simpa [stalling, first] using failed
      rfl
    · simp [stalling, first] at failed
  cases retried <;> exact ⟨load, probe⟩

theorem timed_generateWithRetry_stalling
    : (∀ retried, (stalling.on retried).Punctual)
      ∧ (generateWithRetry stalling (bareRequest {} "a") "a"
          { pool := .fresh {} {} [] }).2 = .error (.timedOut 30000)
      ∧ 30000
        ≤ (generateWithRetry stalling (bareRequest {} "a") "a"
            { pool := .fresh {} {} [] }).1.clock := by
  have timed :=
    timed_generateWithRetry stalling (bareRequest {} "a") "a" { pool := .fresh {} {} [] }
  have failed
      : (generateWithRetry stalling (bareRequest {} "a") "a"
          { pool := .fresh {} {} [] }).2 = .error (.timedOut 30000) :=
    rfl
  refine ⟨punctual_stalling, failed, ?_⟩
  have late := timed.2.1 punctual_stalling _ failed rfl
  exact Int.ofNat_le.mp late

end CriticalCss.Extraction
