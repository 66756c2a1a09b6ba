import CriticalCss.Proofs.Service.Jobs
import CriticalCss.Service

/-! What the record of a job tells after any calls. A mark replaces some members of the record and
leaves the others, so that a record tells the last result and the last error that it ever got,
whatever came between. Hence the members fit the status just if the marks since the creation of the
job agree.
-/

namespace CriticalCss

/-- The members of a record that tell an end are those that its status asks for. -/
def Job.isConsistent (job : Job) : Bool :=
  match job.status with
  | .completed => job.result.isSome && job.error.isNone && job.errorKind.isNone
  | .failed => job.error.isSome && job.result.isNone
  | .queued | .processing => job.result.isNone && job.error.isNone && job.errorKind.isNone

--------------------------------------------------------------------------------
-- Marks
--------------------------------------------------------------------------------

/-- What can be noted about a job. A result is a table of members. -/
inductive Job.Mark where
  | processing
  | completed (result : List (String × Json))
  | failed (message : String) (kind : Option String)

namespace Job.Mark

/-- The status that a mark sets. -/
def status : Mark → Status
  | processing => .processing
  | completed _ => .completed
  | failed _ _ => .failed

/-- The result that a mark brings. -/
def result? : Mark → Option Json
  | completed result => some (.obj result)
  | _ => none

/-- The error that a mark brings, with its kind. -/
def error? : Mark → Option (String × Option String)
  | failed message kind => some (message, kind)
  | _ => none

/-- The record with a mark on it. -/
def on (job : Job) : Mark → Job
  | processing => job.withStatus .processing
  | completed result => job.withResult (some (.obj result))
  | failed message kind => job.withError message kind

/-- The status of a job that was queued and then marked. -/
def lastStatus (marks : List Mark) : Status :=
  (marks.getLast?.map status).getD .queued

/-- Every mark that tells an end tells the one that the last mark tells. -/
def Agree (marks : List Mark) : Prop :=
  ∀ mark ∈ marks, mark.status = .processing ∨ mark.status = lastStatus marks

theorem eq_nil_of_lastStatus {marks : List Mark} (queued : lastStatus marks = .queued)
    : marks = [] := by
  cases last : marks.getLast? with
  | none => exact List.getLast?_eq_none_iff.mp last
  | some mark =>
    rw [lastStatus, last] at queued
    cases mark <;> exact nomatch queued

end Job.Mark

/-- The record tells the status of the last of the marks, and of result and error the last one
that any of the marks has brought. -/
structure Job.Tells (job : Job) (marks : List Mark) : Prop where
  status : job.status = Mark.lastStatus marks
  result : job.result = (marks.filterMap Mark.result?).getLast?
  error : job.error = (marks.filterMap Mark.error?).getLast?.map (·.1)
  errorKind : job.errorKind = (marks.filterMap Mark.error?).getLast?.bind (·.2)

namespace Job.Tells

variable {job : Job} {marks : List Mark}

theorem queue (id type : String) (payload : List (String × Json))
    : (Job.queue id type payload).Tells [] :=
  ⟨rfl, rfl, rfl, rfl⟩

/-- A mark is told along with those before it. Witness: what the mark does not bring stays. -/
theorem step (tells : job.Tells marks) (mark : Mark)
    : (mark.on job).Tells (marks ++ [mark]) := by
  obtain ⟨status, result, error, errorKind⟩ := tells
  cases mark with
  | processing =>
    constructor <;> simp [Mark.on, withStatus, Mark.lastStatus, Mark.status, Mark.result?,
      Mark.error?, result, error, errorKind]
  | completed members =>
    constructor <;> simp [Mark.on, withResult, Mark.lastStatus, Mark.status, Mark.result?,
      Mark.error?, error, errorKind]
  | failed message kind =>
    constructor <;> simp [Mark.on, withError, Mark.lastStatus, Mark.status, Mark.result?,
      Mark.error?, result]

/-- Marks one after the other are told, by induction on them. -/
theorem run (tells : job.Tells marks) (more : List Mark)
    : (more.foldl Mark.on job).Tells (marks ++ more) := by
  induction more generalizing job marks with
  | nil => simpa using tells
  | cons mark rest ih => simpa using ih (tells.step mark)

theorem result_isSome_iff (tells : job.Tells marks)
    : job.result.isSome ↔ ∃ mark ∈ marks, mark.status = .completed := by
  have brings (mark : Mark) : mark.result?.isSome ↔ mark.status = .completed := by
    cases mark <;> simp [Mark.result?, Mark.status]
  simp [tells.result, ← brings]

theorem error_isSome_iff (tells : job.Tells marks)
    : job.error.isSome ↔ ∃ mark ∈ marks, mark.status = .failed := by
  have brings (mark : Mark) : mark.error?.isSome ↔ mark.status = .failed := by
    cases mark <;> simp [Mark.error?, Mark.status]
  simp [tells.error, ← brings]

/-- A kind of error stands beside an error only. -/
theorem errorKind_isNone (tells : job.Tells marks) (noError : job.error.isNone)
    : job.errorKind.isNone := by
  have nothing : (marks.filterMap Mark.error?).getLast? = none := by
    simpa only [tells.error, Option.isNone_map, Option.isNone_iff_eq_none] using noError
  rw [tells.errorKind, nothing, Option.bind_none, Option.isNone_none]

/-- Who tells an end tells the end of some mark. -/
theorem exists_of_status {status : Status} (tells : job.Tells marks) (is : job.status = status)
    (notQueued : status ≠ .queued)
    : ∃ mark ∈ marks, mark.status = status := by
  rw [tells.status, Mark.lastStatus] at is
  cases last : marks.getLast? with
  | none =>
    rw [last] at is
    exact absurd is.symm notQueued
  | some mark =>
    rw [last] at is
    exact ⟨mark, List.mem_of_getLast? last, is⟩

/-- The members fit the status just if no end but that of the status has left any. -/
theorem isConsistent_iff_ends (tells : job.Tells marks)
    : job.isConsistent
      ↔ (job.result.isSome → job.status = .completed)
        ∧ (job.error.isSome → job.status = .failed) := by
  have noKind := tells.errorKind_isNone
  cases is : job.status with
  | completed =>
    have result := tells.result_isSome_iff.mpr (tells.exists_of_status is nofun)
    cases bears : job.error <;> simp_all [isConsistent]
  | failed =>
    have error := tells.error_isSome_iff.mpr (tells.exists_of_status is nofun)
    cases bears : job.result <;> simp_all [isConsistent]
  | queued | processing =>
    cases bears : job.result <;> cases fails : job.error <;> simp_all [isConsistent]

/-- The members of a record fit its status just if the marks on it agree. -/
theorem isConsistent_iff (tells : job.Tells marks)
    : job.isConsistent ↔ Mark.Agree marks := by
  have agrees (mark : Mark)
      : (mark.status = .processing ∨ mark.status = job.status)
        ↔ (mark.status = .completed → job.status = .completed)
          ∧ (mark.status = .failed → job.status = .failed) := by
    cases mark <;> simp [Mark.status, eq_comm]
  rw [tells.isConsistent_iff_ends, tells.result_isSome_iff, tells.error_isSome_iff, Mark.Agree,
    ← tells.status]
  constructor
  · rintro ⟨completed, failed⟩ mark isMark
    exact (agrees mark).mpr
      ⟨fun is => completed ⟨mark, isMark, is⟩, fun is => failed ⟨mark, isMark, is⟩⟩
  · intro agree
    exact ⟨fun ⟨mark, isMark, is⟩ => ((agrees mark).mp (agree mark isMark)).1 is,
      fun ⟨mark, isMark, is⟩ => ((agrees mark).mp (agree mark isMark)).2 is⟩

end Job.Tells

--------------------------------------------------------------------------------
-- Updates
--------------------------------------------------------------------------------

namespace JobStore

/-- A call that makes a job or marks one. -/
inductive Update where
  | create (id type : String) (payload : List (String × Json))
  | note (id : String) (mark : Job.Mark)

/-- Marks the job under a name. -/
def markAs (store : JobStore) (id : String) : Job.Mark → Except MissingJob (JobStore × Job)
  | .processing => store.markProcessing id
  | .completed result => store.markCompleted id (some (.obj result))
  | .failed message kind => store.markFailed id message kind

theorem markAs_eq_change (store : JobStore) (id : String) (mark : Job.Mark)
    : store.markAs id mark = store.change id (mark.on ·) := by
  cases mark <;> rfl

/-- The store after an update. A mark for a job that is not there raises, and changes nothing. -/
def Update.run (store : JobStore) : Update → JobStore
  | create id type payload => store.add (.queue id type payload)
  | note id mark => Service.changed store (store.markAs id mark)

/-- The store after updates one after the other. -/
def runAll (store : JobStore) (updates : List Update) : JobStore :=
  updates.foldl Update.run store

/-- What became of a job: how it was made and the marks that it got since. -/
structure History where
  type : String
  payload : List (String × Json)
  marks : List Job.Mark := []

/-- The history of the job under a name after an update. A job that is made anew starts over. -/
def Update.continue (id : String) (history : Option History) : Update → Option History
  | create other type payload => if other = id then some { type, payload } else history
  | note other mark =>
    if other = id then
      history.map fun history => { history with marks := history.marks ++ [mark] }
    else history

/-- The history of the job under a name after updates one after the other. -/
def historyOf (id : String) (updates : List Update) : Option History :=
  updates.foldl (Update.continue id) none

/-- The record that a history comes to. -/
def History.record (id : String) (history : History) : Job :=
  history.marks.foldl Job.Mark.on (.queue id history.type history.payload)

/-- An update continues the history of every job, and what is stored follows it. -/
theorem get?_run {store : JobStore} {id : String} {history : Option History}
    (follows : store.get? id = history.map (·.record id)) (update : Update)
    : (update.run store).get? id = (update.continue id history).map (·.record id) := by
  cases update with
  | create other type payload =>
    by_cases same : other = id
    · subst same
      simp [Update.run, Update.continue, add, Job.queue, History.record]
    · have made : (Update.create other type payload).run store
          = store.put other (some (.queue other type payload)) := rfl
      rw [made, get?_put_of_ne _ _ (Ne.symm same), follows, Update.continue, if_neg same]
  | note other mark =>
    rw [Update.run, markAs_eq_change, Update.continue]
    by_cases same : other = id
    · subst same
      rw [if_pos rfl]
      cases history with
      | none => simp [change, follows, Service.changed]
      | some history => simp [change, follows, Service.changed, History.record]
    · rw [if_neg same, ← follows]
      cases found : store.get? other with
      | none => simp [change, found, Service.changed]
      | some job => simp [change, found, Service.changed, get?_put_of_ne _ _ (Ne.symm same)]

/-- Marks under the name of a job are added to its history. -/
theorem continue_notes (id : String) (history : History) (marks : List Job.Mark)
    : (marks.map (.note id)).foldl (Update.continue id) (some history)
      = some { history with marks := history.marks ++ marks } := by
  induction marks generalizing history with
  | nil => simp
  | cons mark rest ih => simp [Update.continue, ih]

/-- Updates continue the history of every job, by induction on them. -/
theorem get?_runAll_of_follows {store : JobStore} {id : String} {history : Option History}
    (follows : store.get? id = history.map (·.record id)) (updates : List Update)
    : (runAll store updates).get? id
      = (updates.foldl (Update.continue id) history).map (·.record id) := by
  induction updates generalizing store history with
  | nil => exact follows
  | cons update rest ih => exact ih (get?_run follows update)

/-- What is stored under a name is what its history comes to. -/
theorem get?_runAll (updates : List Update) (id : String)
    : (runAll {} updates).get? id = (historyOf id updates).map (·.record id) :=
  get?_runAll_of_follows rfl updates

/-- The record that a history comes to tells its marks. -/
theorem History.tells_record (id : String) (history : History)
    : (history.record id).Tells history.marks :=
  (Job.Tells.queue id history.type history.payload).run history.marks

/-- What is stored after any updates: a job that was completed has a result, one that failed has an
error, and one that is queued has neither. Beyond that the members fit the status just if the marks
since the creation of the job agree, since a mark leaves the ends before it in the record.
Witness: the record tells the last end of each sort. -/
theorem isConsistent_runAll_iff (updates : List Update) (id : String)
    : (∀ job ∈ (runAll {} updates).get? id,
        (job.status = .completed → job.result.isSome)
          ∧ (job.status = .failed → job.error.isSome)
          ∧ (job.status = .queued → job.isConsistent))
      ∧ ((∀ job ∈ (runAll {} updates).get? id, job.isConsistent)
        ↔ ∀ history ∈ historyOf id updates, Job.Mark.Agree history.marks) := by
  rw [get?_runAll]
  cases historyOf id updates with
  | none => simp
  | some history =>
    have tells := history.tells_record id
    simp only [Option.map_some, Option.mem_some_iff, forall_eq']
    refine ⟨⟨fun is => ?_, fun is => ?_, fun is => ?_⟩, tells.isConsistent_iff⟩
    · exact tells.result_isSome_iff.mpr (tells.exists_of_status is nofun)
    · exact tells.error_isSome_iff.mpr (tells.exists_of_status is nofun)
    · have noMarks : history.marks = [] := Job.Mark.eq_nil_of_lastStatus (tells.status ▸ is)
      exact tells.isConsistent_iff.mpr (by simp [noMarks, Job.Mark.Agree])

/-- The work on a job that first failed completes it, and its record keeps the error. -/
theorem not_isConsistent_rerun
    : let updates : List Update :=
        [.create "a" "critical_css" [],
          .note "a" .processing, .note "a" (.failed "too slow" (some "timeout")),
          .note "a" .processing, .note "a" (.completed [("critical_css", .str "")])]
      ∃ job, (runAll {} updates).get? "a" = some job
        ∧ job.status = .completed ∧ job.error = some "too slow" ∧ ¬ job.isConsistent := by
  exact ⟨_, rfl, rfl, rfl, nofun⟩

end JobStore

--------------------------------------------------------------------------------
-- Work
--------------------------------------------------------------------------------

namespace Service

open JobStore

/-- The mark that the work on a job ends with. -/
def ending (means : Means) (payload : Json) (service : Service) : Job.Mark :=
  match Request.read means.config payload with
  | .error refusal => .failed (refusalAccount payload refusal) none
  | .ok request =>
    match (means.run request service.progress).2 with
    | .ok result => .completed (membersOf (resultJson result))
    | .error failure => .failed failure.message (failure.kind?.map (·.word))

/-- The marks of work on a job. -/
def marksOfWork (ending : Job.Mark) : List Job.Mark :=
  [.processing, ending]

/-- Work on a job is two updates of the store. -/
theorem jobs_work (means : Means) (id : String) (payload : Json) (service : Service)
    : (work means id payload service).jobs
      = runAll service.jobs ((marksOfWork (ending means payload service)).map (.note id)) := by
  unfold work ending
  cases Request.read means.config payload with
  | error refusal => rfl
  | ok request =>
    simp only [runRequest]
    cases (means.run request service.progress).2 <;> rfl

/-- Work on one job again and again, each time with some payload. -/
def rework (means : Means) (id : String) (payloads : List Json) (service : Service) : Service :=
  payloads.foldl (fun service payload => work means id payload service) service

/-- The marks that the works on one job end with. -/
def endings (means : Means) (id : String) (payloads : List Json) (service : Service)
    : List Job.Mark :=
  match payloads with
  | [] => []
  | payload :: rest =>
    ending means payload service :: endings means id rest (work means id payload service)

theorem jobs_rework (means : Means) (id : String) (payloads : List Json) (service : Service)
    : (rework means id payloads service).jobs
      = runAll service.jobs
          (((endings means id payloads service).flatMap marksOfWork).map (.note id)) := by
  induction payloads generalizing service with
  | nil => rfl
  | cons payload rest ih =>
    have later := ih (work means id payload service)
    rw [rework] at later
    rw [rework, List.foldl_cons, later, jobs_work]
    simp [runAll, endings]

/-- The marks of some works agree just if the marks that these end with do. -/
theorem agree_flatMap_marksOfWork (ends : List Job.Mark)
    : Job.Mark.Agree (ends.flatMap marksOfWork) ↔ Job.Mark.Agree ends := by
  have last : Job.Mark.lastStatus (ends.flatMap marksOfWork) = Job.Mark.lastStatus ends := by
    rcases ends.eq_nil_or_concat with rfl | ⟨before, final, rfl⟩
    · rfl
    · simp [Job.Mark.lastStatus, marksOfWork]
  rw [Job.Mark.Agree, Job.Mark.Agree, last]
  constructor
  · intro agree mark isEnd
    exact agree mark (List.mem_flatMap.mpr ⟨mark, isEnd, by simp [marksOfWork]⟩)
  · intro agree mark isMark
    obtain ⟨final, isEnd, own⟩ := List.mem_flatMap.mp isMark
    have isOne : mark = .processing ∨ mark = final := by simpa [marksOfWork] using own
    rcases isOne with rfl | rfl
    · exact .inl rfl
    · exact agree mark isEnd

/-- A job that is worked on again and again is recorded consistently just if all its works have
come to the same end. -/
theorem isConsistent_rework_iff (means : Means) (id type : String)
    (made : List (String × Json)) (payloads : List Json) (service : Service)
    : let queued := { service with jobs := service.jobs.add (.queue id type made) }
      ∃ job, (rework means id payloads queued).jobs.get? id = some job
        ∧ (job.isConsistent ↔ Job.Mark.Agree (endings means id payloads queued)) := by
  intro queued
  have start : queued.jobs.get? id
      = (some { type, payload := made : History }).map (·.record id) :=
    get?_put service.jobs id (some (.queue id type made))
  have stored := get?_runAll_of_follows start
    (((endings means id payloads queued).flatMap marksOfWork).map (.note id))
  rw [← jobs_rework, continue_notes, Option.map_some] at stored
  refine ⟨_, stored, ?_⟩
  rw [(History.tells_record id _).isConsistent_iff]
  exact agree_flatMap_marksOfWork _

end Service

end CriticalCss
