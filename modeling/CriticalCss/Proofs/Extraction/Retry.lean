import CriticalCss.Extraction
import CriticalCss.Proofs.Extraction.Unfailing

/-! What a run does on the way to its outcome: attempts, and restarts of the browser.

An attempt that fails because the browser has died is followed by a restart and another attempt,
unless there has been one before. The course of a run is told here branch by branch, and every run
is shown to take exactly one course. What holds of every course is then proved by induction on it,
with the number of attempts that came before as the only thing carried along.
-/

namespace CriticalCss.Extraction

open Browser

--------------------------------------------------------------------------------
-- Courses
--------------------------------------------------------------------------------

/-- Something a run does, with what runs had done before and have done after. -/
inductive Deed where
  | attempt (before after : Progress) (found : Except Failure String)
  | restart (before after : Progress) (failure : Option Failure)

namespace Deed

/-- The failure of a deed. -/
def failure? : Deed → Option Failure
  | attempt _ _ (.error failure) => some failure
  | attempt _ _ (.ok _) => none
  | restart _ _ failure => failure

/-- An attempt behind the deadline does not even ask for a page. -/
def runsPipeline (deadline : Nat) : Deed → Bool
  | attempt before _ _ => decide (before.clock < deadline)
  | restart .. => false

def isRestart : Deed → Bool
  | attempt .. => false
  | restart .. => true

/-- Has an attempt failed, in a way that another attempt could mend, with the browser dead? -/
def crashed : Deed → Bool
  | attempt _ after (.error failure) => !failure.isFinal && !after.pool.isAlive
  | _ => false

section Members

variable (deadline : Nat) (before after : Progress) (found : Except Failure String)
  (failure : Option Failure)

@[simp]
theorem runsPipeline_restart : (restart before after failure).runsPipeline deadline = false :=
  rfl

@[simp]
theorem isRestart_attempt : (attempt before after found).isRestart = false :=
  rfl

@[simp]
theorem isRestart_restart : (restart before after failure).isRestart = true :=
  rfl

@[simp]
theorem crashed_ok (text : String) : (attempt before after (.ok text)).crashed = false :=
  rfl

@[simp]
theorem crashed_restart : (restart before after failure).crashed = false :=
  rfl

end Members

end Deed

/-- What an attempt meets, the first one or the second. -/
def Conditions.on (conditions : Conditions) (retried : Bool) : Conditions :=
  if retried then conditions.again else conditions

/-- The course of a run from an attempt on, which is the second one if there has been one before:
what the run does in order, and where it ends. -/
inductive Course (conditions : Conditions) (request : Request) (css : String) (deadline : Nat)
    : Bool → Progress → List Deed → Progress × Except Failure (String × Nat) → Prop where
  /-- The attempt succeeds. -/
  | returns {retried before after text}
      (made : attempt (conditions.on retried) request css deadline before = (after, .ok text))
      : Course conditions request css deadline retried before [.attempt before after (.ok text)]
          (after, .ok (text, if retried then 2 else 1))
  /-- The attempt fails, and another one would not help. -/
  | raises {retried before after failure}
      (made
        : attempt (conditions.on retried) request css deadline before = (after, .error failure))
      (stands : (failure.isFinal || after.pool.isAlive) = true)
      : Course conditions request css deadline retried before
          [.attempt before after (.error failure)] (after, .error failure)
  /-- The browser has died again. -/
  | givesUp {before after failure}
      (made : attempt (conditions.on true) request css deadline before = (after, .error failure))
      (died : (failure.isFinal || after.pool.isAlive) = false)
      : Course conditions request css deadline true before
          [.attempt before after (.error failure)]
          (after.note (.browserCrashedAgain failure.message), .error (.crashedTwice request.url))
  /-- The browser has died and cannot be restarted. -/
  | restartFails {before after left failure other}
      (made : attempt (conditions.on false) request css deadline before = (after, .error failure))
      (died : (failure.isFinal || after.pool.isAlive) = false)
      (restarted
        : restart conditions request (after.note (.browserCrashed failure.message css.length))
          = (left, some other))
      : Course conditions request css deadline false before
          [.attempt before after (.error failure),
            .restart (after.note (.browserCrashed failure.message css.length)) left (some other)]
          (left, .error other)
  /-- The browser has died and is restarted. -/
  | repeats {before after left failure deeds run}
      (made : attempt (conditions.on false) request css deadline before = (after, .error failure))
      (died : (failure.isFinal || after.pool.isAlive) = false)
      (restarted
        : restart conditions request (after.note (.browserCrashed failure.message css.length))
          = (left, none))
      (rest : Course conditions request css deadline true left deeds run)
      : Course conditions request css deadline false before
          (.attempt before after (.error failure)
            :: .restart (after.note (.browserCrashed failure.message css.length)) left none
            :: deeds)
          run

section Courses

variable {conditions : Conditions} {request : Request} {css : String} {deadline : Nat}

/-- The second attempt takes a course. -/
theorem exists_course_secondAttempt (conditions : Conditions) (request : Request) (css : String)
    (deadline : Nat) (progress : Progress)
    : ∃ deeds,
        Course conditions request css deadline true progress deeds
          (secondAttempt conditions.again request css deadline progress) := by
  rcases made : attempt conditions.again request css deadline progress with ⟨after, failure | text⟩
  · refine ⟨[.attempt progress after (.error failure)], ?_⟩
    simp only [secondAttempt, made]
    split
    · rename_i stands
      exact .raises (by exact made) stands
    · rename_i died
      exact .givesUp (by exact made) (Bool.eq_false_iff.mpr died)
  · refine ⟨[.attempt progress after (.ok text)], ?_⟩
    simp only [secondAttempt, made]
    exact .returns (by exact made)

/-- Every run within a time that can be measured takes a course. -/
theorem exists_course (conditions : Conditions) (request : Request) (css : String)
    (progress : Progress)
    : ∃ deeds,
        Course conditions request css (progress.clock + request.timeout.toNat) false progress deeds
          (generateInTime conditions request css progress) := by
  generalize reached : progress.clock + request.timeout.toNat = deadline
  rcases made : attempt conditions request css deadline progress with ⟨after, failure | text⟩
  · simp only [generateInTime, reached, made]
    split
    · rename_i stands
      exact ⟨_, .raises (by exact made) stands⟩
    · rename_i died
      have died := Bool.eq_false_iff.mpr died
      split <;> rename_i restarted
      · exact ⟨_, .restartFails (by exact made) died restarted⟩
      · rename_i left
        obtain ⟨deeds, rest⟩ :=
          exists_course_secondAttempt conditions request css deadline left
        exact ⟨_, .repeats (by exact made) died restarted rest⟩
  · simp only [generateInTime, reached, made]
    exact ⟨_, .returns (by exact made)⟩

/-- No run takes two courses.
Witness: induction on one of the courses.
-/
theorem Course.unique {retried : Bool} {before : Progress} {deeds others : List Deed}
    {run otherRun : Progress × Except Failure (String × Nat)}
    (course : Course conditions request css deadline retried before deeds run)
    (other : Course conditions request css deadline retried before others otherRun)
    : others = deeds ∧ otherRun = run := by
  induction course generalizing others otherRun with
  | returns made => cases other <;> simp_all
  | raises made stands => cases other <;> simp_all
  | givesUp made died => cases other <;> simp_all
  | restartFails made died restarted => cases other <;> simp_all
  | repeats made died restarted rest ih =>
    cases other with
    | repeats made' died' restarted' rest' =>
      obtain ⟨rfl, same⟩ := Prod.mk.inj (made.symm.trans made')
      obtain rfl := Except.error.inj same
      obtain ⟨rfl, -⟩ := Prod.mk.inj (restarted.symm.trans restarted')
      obtain ⟨rfl, rfl⟩ := ih rest'
      exact ⟨rfl, rfl⟩
    | _ => simp_all

end Courses

--------------------------------------------------------------------------------
-- The protocol
--------------------------------------------------------------------------------

/-- The protocol of attempts and restarts, for deeds that come after so many attempts and restarts.
-/
structure Protocol (request : Request) (deadline earlier : Nat) (deeds : List Deed)
    (outcome : Except Failure (String × Nat)) : Prop where
  /-- There are at most two attempts on a page, and at most one restart. -/
  pipelines : earlier + deeds.countP (·.runsPipeline deadline) ≤ 2
  restarts : earlier + deeds.countP Deed.isRestart ≤ 1
  /-- There is a restart just if the first attempt of all has died with the browser. -/
  restarted
    : deeds.countP Deed.isRestart = 1 ↔ earlier = 0 ∧ deeds.head?.any Deed.crashed = true
  /-- The number that is returned is that of the attempts, the last of which has succeeded. -/
  counted
    : ∀ text attempts, outcome = .ok (text, attempts) →
        attempts = earlier + deeds.countP (·.runsPipeline deadline)
        ∧ ∃ before after, deeds.getLast? = some (.attempt before after (.ok text))
  /-- Two attempts that have died with the browser are reported as such. -/
  crashedTwice
    : earlier + deeds.countP Deed.crashed = 2 → outcome = .error (.crashedTwice request.url)
  /-- In every other failing run the failure is that of the last deed. -/
  surfaces
    : earlier + deeds.countP Deed.crashed ≠ 2 → ∀ failure, outcome = .error failure →
        ∃ last, deeds.getLast? = some last ∧ last.failure? = some failure

section Protocol

variable {conditions : Conditions} {request : Request} {css : String} {deadline : Nat}

/-- Behind the deadline an attempt fails for good. -/
theorem attempt_of_late {before : Progress} (late : deadline ≤ before.clock)
    : attempt conditions request css deadline before = timeOut request before :=
  if_pos late

/-- An attempt that does not end for want of time runs on a page. -/
theorem runsPipeline_of_attempt {before after : Progress} {found : Except Failure String}
    (made : attempt conditions request css deadline before = (after, found))
    (inTime : found ≠ .error (.timedOut request.timeout))
    : (Deed.attempt before after found).runsPipeline deadline = true := by
  refine decide_eq_true (Nat.lt_of_not_le fun late => inTime ?_)
  rw [attempt_of_late late] at made
  exact (Prod.mk.inj made).2.symm

/-- An attempt with which the browser has died has run on a page, so there was time left. -/
theorem runsPipeline_of_died {before after : Progress} {failure : Failure}
    (made : attempt conditions request css deadline before = (after, .error failure))
    (died : (failure.isFinal || after.pool.isAlive) = false)
    : (Deed.attempt before after (.error failure)).runsPipeline deadline = true := by
  refine runsPipeline_of_attempt made fun late => ?_
  cases Except.error.inj late
  cases died

theorem crashed_of_died (before : Progress) {after : Progress} {failure : Failure}
    (died : (failure.isFinal || after.pool.isAlive) = false)
    : (Deed.attempt before after (.error failure)).crashed = true := by
  rw [Deed.crashed, ← Bool.not_or, died, Bool.not_false]

/-- What a second attempt keeps to, the whole run keeps to, where the first attempt has died with
the browser. -/
theorem Protocol.behind {deeds : List Deed} {outcome : Except Failure (String × Nat)}
    (protocol : Protocol request deadline 1 deeds outcome) {before after : Progress}
    {found : Except Failure String}
    (ran : (Deed.attempt before after found).runsPipeline deadline = true)
    (crashed : (Deed.attempt before after found).crashed = true) (left right : Progress)
    : Protocol request deadline 0 (.attempt before after found :: .restart left right none :: deeds)
        outcome := by
  have unrestarted : deeds.countP Deed.isRestart = 0 := by
    have := protocol.restarts
    omega
  have behind {last : Deed} (ends : deeds.getLast? = some last)
      : (Deed.attempt before after found :: .restart left right none :: deeds).getLast?
        = some last := by
    simp [List.getLast?_cons, ends]
  have more (p : Deed → Bool) (one : p (.attempt before after found) = true)
      (other : p (.restart left right none) = false)
      : (Deed.attempt before after found :: .restart left right none :: deeds).countP p
        = deeds.countP p + 1 := by
    rw [List.countP_cons_of_pos one, List.countP_cons_of_neg (by simp [other])]
  have pipelines := more (·.runsPipeline deadline) ran rfl
  have crashes := more Deed.crashed crashed rfl
  have restarts
      : (Deed.attempt before after found :: .restart left right none :: deeds).countP
          Deed.isRestart = 1 := by
    rw [List.countP_cons_of_neg (by simp), List.countP_cons_of_pos rfl, unrestarted]
  constructor
  case pipelines =>
    have := protocol.pipelines
    omega
  case restarts => omega
  case restarted => simp [restarts, crashed]
  case counted =>
    intro text attempts ended
    obtain ⟨count, start, finish, last⟩ := protocol.counted text attempts ended
    exact ⟨by omega, start, finish, behind last⟩
  case crashedTwice => exact fun twice => protocol.crashedTwice (by omega)
  case surfaces =>
    intro once failure ended
    obtain ⟨last, ends, same⟩ := protocol.surfaces (by omega) failure ended
    exact ⟨last, behind ends, same⟩

/-- A run keeps to the protocol.
Witness: induction on its course; the second attempt is counted as one that comes behind another.
-/
theorem Course.protocol {retried : Bool} {before : Progress} {deeds : List Deed}
    {run : Progress × Except Failure (String × Nat)}
    (course : Course conditions request css deadline retried before deeds run)
    : Protocol request deadline retried.toNat deeds run.2 := by
  induction course with
  | @returns retried before after text made =>
    have ran := runsPipeline_of_attempt made nofun
    cases retried <;> constructor <;> simp [ran]
  | @raises retried before after failure made stands =>
    have lived : (Deed.attempt before after (.error failure)).crashed = false := by
      rw [Deed.crashed, ← Bool.not_or, stands, Bool.not_true]
    have once : [Deed.attempt before after (.error failure)].countP (·.runsPipeline deadline) ≤ 1 :=
      List.countP_le_length
    have earlier := retried.toNat_le
    constructor
    case pipelines => omega
    case surfaces => exact fun _ other same => ⟨_, rfl, congrArg some (Except.error.inj same)⟩
    all_goals simp [lived]
    all_goals omega
  | @givesUp before after failure made died =>
    have ran := runsPipeline_of_died made died
    have crashed := crashed_of_died before died
    constructor <;> simp [ran, crashed]
  | @restartFails before after left failure other made died restarted =>
    have ran := runsPipeline_of_died made died
    have crashed := crashed_of_died before died
    constructor <;> simp [ran, crashed, Deed.failure?]
  | repeats made died restarted rest ih =>
    exact ih.behind (runsPipeline_of_died made died) (crashed_of_died _ died) _ _

end Protocol

/-- **The protocol of a run.** A time that cannot be measured ends the run before its first attempt.
Every other run takes exactly one course of attempts and restarts, and keeps to the protocol.
-/
theorem protocol_generateWithRetry (conditions : Conditions) (request : Request) (css : String)
    (progress : Progress)
    : if (timeoutBound : Int) ≤ request.timeout then
        generateWithRetry conditions request css progress = (progress, .error .endlessTimeout)
      else
        ∃ deeds,
          (∀ others run,
            Course conditions request css (progress.clock + request.timeout.toNat) false progress
                others run
              ↔ others = deeds ∧ run = generateWithRetry conditions request css progress)
          ∧ Protocol request (progress.clock + request.timeout.toNat) 0 deeds
              (generateWithRetry conditions request css progress).2 := by
  split <;> rename_i measured
  · exact if_pos measured
  · obtain ⟨deeds, course⟩ := exists_course conditions request css progress
    rw [show generateWithRetry conditions request css progress
        = generateInTime conditions request css progress from if_neg measured]
    refine ⟨deeds, fun others run => ⟨course.unique, ?_⟩, course.protocol⟩
    rintro ⟨rfl, rfl⟩
    exact course

/-- A run that could not but fail with the error of the page takes no course if its time cannot be
measured: it fails before the first attempt. -/
theorem not_course_of_endlessTimeout
    : let conditions : Conditions :=
        { calmConditions {} with load := fun _ => { failure := some (.foreign "Error" "refused") } }
      let request := { bareRequest {} "a" with timeout := (timeoutBound : Int) }
      let start : Progress := { pool := .fresh {} {} [] }
      (generateWithRetry conditions request "a" start).2 = .error .endlessTimeout
        ∧ ∀ deeds,
            ¬ Course conditions request "a" request.timeout.toNat false start deeds
                (generateWithRetry conditions request "a" start) := by
  intro conditions request start
  have ended : generateWithRetry conditions request "a" start = (start, .error .endlessTimeout) :=
    if_pos (Int.le_refl timeoutBound)
  have failed
      : (attempt conditions request "a" request.timeout.toNat start).2
        = .error (.foreign "Error" "refused") := by
    rfl
  have alive
      : (attempt conditions request "a" request.timeout.toNat start).1.pool.isAlive = true := by
    rfl
  refine ⟨congrArg Prod.snd ended, fun deeds course => ?_⟩
  rw [ended] at course
  -- The browser lives, so the run would have to end as its attempt does.
  have lived {after : Progress} {failure : Failure}
      (made : attempt conditions request "a" request.timeout.toNat start = (after, .error failure))
      (died : (failure.isFinal || after.pool.isAlive) = false)
      : False := by
    rw [made] at alive
    simp [alive] at died
  cases course with
  | raises made => cases (congrArg Prod.snd made).symm.trans failed
  | restartFails made died => exact lived made died
  | repeats made died => exact lived made died

end CriticalCss.Extraction
