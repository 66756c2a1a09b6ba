import CriticalCss.Proofs.Browser.Loans
import CriticalCss.Proofs.Extraction.Deadline

/-! What a run leaves of the browser. Every attempt gives back the page it has asked for, whatever
it ends with; a restart takes back all pages that are still open, which are those of others. A run
with a browser of its own shuts down all it has started.
-/

namespace CriticalCss

namespace Browser.Pool.Used

variable {browser : Nat} {pool next : Pool}

theorem sameSlots (used : pool.Used browser next) : pool.SameSlots next := by
  induction used with
  | unused => exact ⟨rfl, rfl, rfl, rfl⟩
  | noted _ _ ih => exact ⟨ih.free, ih.queue, ih.woken, ih.openPages⟩
  | lost _ ih => exact ⟨ih.free, ih.queue, ih.woken, ih.openPages⟩

theorem sameHold (used : pool.Used browser next) : pool.SameHold next := by
  induction used with
  | unused => exact .refl pool
  | noted _ _ ih => exact ih.trans ⟨rfl, rfl, .refl _⟩
  | lost _ ih =>
    exact ih.trans ⟨rfl, rfl, Engine.quiet_changeBrowser _ browser fun _ none => by cases none⟩

end Browser.Pool.Used

namespace Extraction

open Browser (Pool)

--------------------------------------------------------------------------------
-- Attempts
--------------------------------------------------------------------------------

section Attempts

variable {conditions : Conditions} {request : Request} {css : String} {deadline : Nat}
  {before : Progress}

theorem served_note (pool : Pool) (event : Event) : pool.Served (pool.note event) :=
  ⟨Pool.SameSlots.sameUse ⟨rfl, rfl, rfl, rfl⟩, rfl, rfl, .refl _⟩

theorem served_loseBrowser (progress : Progress)
    : progress.pool.Served progress.loseBrowser.pool := by
  unfold Progress.loseBrowser
  split
  · rename_i browser _
    have lost : progress.pool.Used browser _ := .lost .unused
    exact ⟨lost.sameSlots.sameUse, lost.sameHold⟩
  · exact .refl _

/-- However an attempt ends that asks for a page of a browser that lives, it leaves the pool as it
was. -/
theorem served_onPage (conditions : Conditions) (request : Request) (css : String)
    (alive : before.pool.isAlive = true) (inTime : before.clock < deadline)
    : before.pool.Served (onPage conditions request css deadline before).1.pool := by
  have asking := asking_askForPage conditions request inTime
  unfold onPage
  split
  · rename_i found
    rw [found] at asking
    cases asking with
    | overdue => exact (Pool.served_launchIfNeeded _ alive _).1
    | @refused pool _ time _ got _ _ left =>
      have served := (Pool.lending_acquire _ alive got).2 _ rfl
      obtain rfl | rfl := left
      · exact served
      · exact served.trans (served_loseBrowser { before with pool := pool, clock := time })
  · rename_i page found
    rw [found] at asking
    cases asking with
    | @opened pool _ got opened =>
      let asked :=
        { before with pool := pool, clock := before.clock + conditions.opening.delay }
      have worked :=
        worked_generate conditions request css page (show asked.clock < deadline from opened)
      have lent := (Pool.lending_acquire _ alive got).1 page rfl
      exact (lent.same worked.used.sameSlots worked.used.sameHold).release _ _

/-- An attempt leaves the pool as it was, if the browser lives when it starts and is not lost before
a page is asked for. -/
theorem served_attempt (conditions : Conditions) (request : Request) (css : String)
    (deadline : Nat) (steady : conditions.opening.lost = false)
    (alive : before.pool.isAlive = true)
    : before.pool.Served (attempt conditions request css deadline before).1.pool := by
  unfold attempt
  split
  · exact served_note _ _
  · rename_i early
    have approached : before.pool.Served (before.approach conditions.opening).pool := by
      simp only [Progress.approach, steady, Bool.false_eq_true, if_false]
      exact ⟨Pool.SameSlots.sameUse ⟨rfl, rfl, rfl, rfl⟩, rfl, rfl, rfl, fun _ same => same⟩
    have alive : (before.approach conditions.opening).pool.isAlive = true := by
      simp only [Progress.approach, steady, Bool.false_eq_true, if_false]
      exact alive
    let now : Progress := { before.approach conditions.opening with clock := before.clock }
    have onPage :=
      served_onPage conditions request css (show now.pool.isAlive = true from alive)
        (show now.clock < deadline from Nat.lt_of_not_le early)
    have served
        : before.pool.Served (onBrowser conditions request css deadline before).1.pool := by
      unfold onBrowser
      simp only [Pool.launchTime, alive, if_true, Nat.add_zero, early, if_false]
      exact approached.trans onPage
    split <;> rename_i ended <;> rw [ended] at served
    · exact served
    · exact served.trans (served_note _ _)
    · exact served.trans (served_note _ _)
    · exact served

end Attempts

--------------------------------------------------------------------------------
-- Runs
--------------------------------------------------------------------------------

section Runs

variable {conditions : Conditions} {request : Request} {css : String} {deadline : Nat}

/-- What a course makes of the pool: it is as it was, or it was so until the browser was restarted
and has been since. -/
theorem Course.served (steady : ∀ retried, (conditions.on retried).opening.lost = false)
    {retried : Bool} {before : Progress} {deeds : List Deed}
    {run : Progress × Except Failure (String × Nat)}
    (course : Course conditions request css deadline retried before deeds run)
    (alive : before.pool.isAlive = true)
    : (deeds.countP Deed.isRestart = 0 ∧ before.pool.Served run.1.pool)
      ∨ (deeds.countP Deed.isRestart = 1
        ∧ ∃ left : Pool,
            before.pool.Served left
            ∧ (left.restart conditions.setup (some request.viewport) 0).1.Served run.1.pool) := by
  have first {retried : Bool} {before after : Progress} {found : Except Failure String}
      (alive : before.pool.isAlive = true)
      (made : attempt (conditions.on retried) request css deadline before = (after, found))
      : before.pool.Served after.pool := by
    have served :=
      served_attempt (conditions.on retried) request css deadline (steady retried) alive
    rwa [made] at served
  induction course with
  | returns made => exact .inl ⟨rfl, first alive made⟩
  | raises made stands => exact .inl ⟨rfl, first alive made⟩
  | givesUp made died => exact .inl ⟨rfl, (first alive made).trans (served_note _ _)⟩
  | restartFails made died restarted =>
    obtain ⟨rfl, -⟩ := Prod.mk.inj restarted
    exact .inr ⟨rfl, _, (first alive made).trans (served_note _ _), .refl _⟩
  | @repeats before after left failure deeds run made died restarted rest ih =>
    obtain ⟨rfl, launched⟩ := Prod.mk.inj restarted
    have once : deeds.countP Deed.isRestart = 0 := by
      have := rest.protocol.restarts
      simp only [Bool.toNat_true] at this
      omega
    have again := ih (Pool.isAlive_of_launchIfNeeded conditions.setup (Prod.ext rfl launched))
    obtain ⟨-, served⟩ := again.resolve_right fun more => by omega
    refine .inr ⟨?_, _, (first alive made).trans (served_note _ _), served⟩
    rw [List.countP_cons_of_neg (by simp), List.countP_cons_of_pos rfl, once]

end Runs

--------------------------------------------------------------------------------
-- Releasing
--------------------------------------------------------------------------------

section Releasing

variable {conditions : Conditions} {request : Request} {css : String} {progress : Progress}

/-- Is the browser restarted while a critical style sheet is generated? -/
def Restarts (conditions : Conditions) (request : Request) (css : String) (progress : Progress)
    : Prop :=
  request.timeout < timeoutBound
  ∧ ∃ deeds run,
      Course conditions request css (progress.clock + request.timeout.toNat) false progress deeds
        run
      ∧ deeds.countP Deed.isRestart = 1

/-- What generating makes of a pool whose browser lives. -/
theorem served_generateWithRetry
    (steady : ∀ retried, (conditions.on retried).opening.lost = false)
    (alive : progress.pool.isAlive = true)
    : (¬ Restarts conditions request css progress
        ∧ progress.pool.Served (generateWithRetry conditions request css progress).1.pool)
      ∨ (Restarts conditions request css progress
        ∧ ∃ left : Pool,
            progress.pool.Served left
            ∧ (left.restart conditions.setup (some request.viewport) 0).1.Served
                (generateWithRetry conditions request css progress).1.pool) := by
  unfold generateWithRetry
  split
  · rename_i endless
    exact .inl ⟨fun restarts => Int.not_le.mpr restarts.1 endless, .refl _⟩
  · rename_i measured
    obtain ⟨deeds, course⟩ := exists_course conditions request css progress
    rcases course.served steady alive with ⟨none, served⟩ | ⟨once, left, before, after⟩
    · refine .inl ⟨?_, served⟩
      rintro ⟨-, others, run, other, once⟩
      obtain ⟨rfl, -⟩ := course.unique other
      omega
    · exact .inr ⟨⟨Int.not_le.mp measured, deeds, _, course, once⟩, left, before, after⟩

/-- Is the browser restarted in a run that has found its style sheet? -/
def RunRestarts (conditions : Conditions) (request : Request) (css : String) (progress : Progress)
    : Prop :=
  (launch conditions request progress).2 = none
  ∧ Restarts conditions request css (launch conditions request progress).1

/-- The browser lives behind a launch that goes through. -/
theorem isAlive_of_launch {launched : Progress}
    (found : launch conditions request progress = (launched, none))
    : launched.pool.isAlive = true := by
  obtain ⟨rfl, none⟩ := Prod.mk.inj found
  exact Pool.isAlive_of_launchIfNeeded conditions.setup (Prod.ext rfl none)

/-- A run leaves the slots of its pool as they were, or as a restart leaves them. -/
theorem sameUse_launchAndGenerate (request : Request) (css : String) (progress : Progress)
    (steady : ∀ retried, (conditions.on retried).opening.lost = false)
    : (¬ RunRestarts conditions request css progress
        ∧ progress.pool.SameUse (launchAndGenerate conditions request css progress).1.pool)
      ∨ (RunRestarts conditions request css progress
        ∧ progress.pool.dropPages.SameUse
            (launchAndGenerate conditions request css progress).1.pool) := by
  have slots : progress.pool.SameSlots (launch conditions request progress).1.pool :=
    Pool.sameSlots_launchIfNeeded conditions.setup request.viewport progress.pool
  unfold RunRestarts launchAndGenerate
  split
  · rename_i failed
    rw [failed] at slots ⊢
    exact .inl ⟨nofun, slots.sameUse⟩
  · rename_i launched found
    rw [found] at slots ⊢
    rcases served_generateWithRetry steady (isAlive_of_launch found) with
      ⟨stays, served⟩ | ⟨restarts, left, before, after⟩
    · exact .inl ⟨fun restarts => stays restarts.2, slots.sameUse.trans served.use⟩
    · exact .inr ⟨⟨rfl, restarts⟩, ((slots.sameUse.trans before.use).restart _ _).trans after.use⟩

/-- What a run has started is what its pool holds then, if the pool held nothing before. -/
theorem owns_launchAndGenerate (steady : ∀ retried, (conditions.on retried).opening.lost = false)
    {since : Browser.Engine} (owns : progress.pool.Owns conditions.setup since)
    (empty : progress.pool.IsEmpty)
    : (launchAndGenerate conditions request css progress).1.pool.Owns conditions.setup since := by
  have owns : (launch conditions request progress).1.pool.Owns conditions.setup since :=
    owns.launchIfNeeded empty request.viewport
  unfold launchAndGenerate
  split
  · rename_i failed
    rwa [failed] at owns
  · rename_i launched found
    rw [found] at owns
    rcases served_generateWithRetry steady (isAlive_of_launch found) with
      ⟨-, served⟩ | ⟨-, left, before, after⟩
    · exact owns.same served.hold
    · exact ((owns.same before.hold).restart _ _).same after.hold

/-- A run with a browser of its own shuts it down. -/
theorem shutDown_inSession (request : Request) (css : String) (progress : Progress)
    (steady : ∀ retried, (conditions.on retried).opening.lost = false)
    : (inSession conditions request css progress).1.pool.ShutDown conditions.setup
        progress.pool.engine := by
  let own : Progress :=
    { progress with
      pool := Pool.fresh conditions.setup.config progress.pool.engine progress.pool.log }
  have used : own.pool.SameUse (launchAndGenerate conditions request css own).1.pool := by
    -- A new pool has no pages that a restart could take back.
    rcases sameUse_launchAndGenerate request css own steady with ⟨-, used⟩ | ⟨-, used⟩
    · exact used
    · exact used
  have owns
      : (launchAndGenerate conditions request css own).1.pool.Owns conditions.setup
          progress.pool.engine :=
    owns_launchAndGenerate steady (Pool.owns_fresh _ _ _) ⟨rfl, rfl⟩
  exact owns.shutDown { used with }

/-- Concluding notes what has come out, and the notes are handed over in the end: nothing else
happens to the pool behind the generation. -/
theorem pool_run (found : (Source.of conditions.files request).text = .ok css) (shared : Bool)
    : (run conditions shared request progress).1.pool
      = { (if shared then launchAndGenerate conditions request css progress
            else inSession conditions request css progress).1.pool with log := [] } := by
  unfold run
  dsimp only
  rw [found]
  dsimp only
  generalize (if shared then _ else _ : Progress × Except Failure (String × Nat)) = generated
  rcases generated with ⟨left, failure | ⟨text, attempts⟩⟩ <;> rfl

theorem run_of_failed {failure : Failure}
    (failed : (Source.of conditions.files request).text = .error failure) (shared : Bool)
    : (run conditions shared request progress).1 = progress := by
  unfold run
  dsimp only
  rw [failed]

end Releasing

/-- **A run releases what it has taken**, however it ends, if a browser loses its connection only
while a page loads or is asked. On the pool of its caller the same pages are open and the same slots
are free as if it had opened none: as at its start, or as a restart at its start would have left
them if there was one on the way. A browser of its own is shut down: nothing of what the run has
started goes on. (A run without a style sheet does not get so far as to take anything. Closing is
taken to fail only where there is no connection left, and stopping a driver never.)
-/
theorem released_run (conditions : Conditions) (request : Request) (progress : Progress)
    (steady : ∀ retried, (conditions.on retried).opening.lost = false)
    : let shared := (run conditions true request progress).1
      let own := (run conditions false request progress).1
      match (Source.of conditions.files request).text with
      | .error _ => shared = progress ∧ own = progress
      | .ok css =>
        (¬ RunRestarts conditions request css progress → progress.pool.SameUse shared.pool)
        ∧ (RunRestarts conditions request css progress →
            progress.pool.dropPages.SameUse shared.pool)
        ∧ own.pool.ShutDown conditions.setup progress.pool.engine := by
  intro shared own
  split
  · rename_i found
    exact ⟨run_of_failed found true, run_of_failed found false⟩
  · rename_i css found
    have used := sameUse_launchAndGenerate request css progress steady
    have shutDown := shutDown_inSession request css progress steady
    rw [show shared.pool = _ from pool_run found true, show own.pool = _ from pool_run found false]
    refine ⟨fun stays => ?_, fun restarts => ?_, { shutDown with use := { shutDown.use with } }⟩
    · obtain ⟨-, used⟩ := used.resolve_right fun restarts => stays restarts.1
      exact { used with }
    · obtain ⟨-, used⟩ := used.resolve_left fun stays => stays.1 restarts
      exact { used with }

/-- The browser is lost with the first page, and the time runs out on the second, which is that of
another browser. Both are shut down. -/
theorem released_run_stalling
    : let ended := run stalling false (bareRequest {} "a") { pool := .fresh {} {} [] }
      (∀ retried, (stalling.on retried).opening.lost = false)
      ∧ ended.1.pool.handedOut = [⟨0, 0⟩, ⟨1, 0⟩]
      ∧ ended.1.pool.ShutDown stalling.setup {} := by
  have steady (retried : Bool) : (stalling.on retried).opening.lost = false := by
    cases retried <;> rfl
  have released := released_run stalling (bareRequest {} "a") { pool := .fresh {} {} [] } steady
  have found : (Source.of stalling.files (bareRequest {} "a")).text = .ok "a" := by rfl
  rw [found] at released
  exact ⟨steady, rfl, released.2.2⟩

end Extraction

end CriticalCss
