import CriticalCss.Input.Field
/-! Jobs: runs that are asked for now and looked up later. A job is changed by copying its record
and replacing what is new; everything else stays as it was.
-/

namespace CriticalCss

/-- How far a job has got. -/
inductive Job.Status where
  | queued
  | processing
  | completed
  | failed
  deriving DecidableEq, Repr

/-- The word for a status. -/
def Job.Status.word : Status → String
  | queued => "queued"
  | processing => "processing"
  | completed => "completed"
  | failed => "failed"

/-- A job. -/
structure Job where
  id : String
  type : String
  status : Job.Status
  error : Option String
  errorKind : Option String
  /-- What the job is to be done with. -/
  payload : List (String × Json)
  result : Option Json

namespace Job

/-- A new job. -/
def queue (id type : String) (payload : List (String × Json)) : Job :=
  ⟨id, type, .queued, none, none, payload, none⟩

/-- The job with another status. -/
def withStatus (job : Job) (status : Status) : Job :=
  { job with status := status }

/-- The job with a result. -/
def withResult (job : Job) (result : Option Json) : Job :=
  { job with result := result, status := .completed }

/-- The job with an error. -/
def withError (job : Job) (message : String) (kind : Option String) : Job :=
  { job with error := some message, errorKind := kind, status := .failed }

/-- Reads the members of an object. -/
def readPayload : Json → Input.Checked (List (String × Json))
  | .obj members => .ok members
  | _ => .fail .noTable

/-- Reads what a job is made of. -/
def read (id type payload : Json) : Input.Checked Job :=
  queue
    <$> (Input.text id).inside (.field "job_id")
    <*> (Input.text type).inside (.field "job_type")
    <*> (readPayload payload).inside (.field "payload")

end Job

--------------------------------------------------------------------------------
-- Stores
--------------------------------------------------------------------------------

/-- A store of jobs, each under a name, in the order in which the names first came. A name stays
known when nothing is put under it. -/
structure JobStore where
  jobs : List (String × Option Job) := []

/-- There is no job under a name. -/
structure MissingJob where
  id : String
  deriving DecidableEq, Repr

/-- The wording of a missing job. -/
def MissingJob.message (missing : MissingJob) : String :=
  Text.quoted ("Job " ++ missing.id ++ " not found")

namespace JobStore

/-- Is the name known? -/
def knows (store : JobStore) (id : String) : Bool :=
  (store.jobs.lookup id).isSome

/-- The job under a name. -/
def get? (store : JobStore) (id : String) : Option Job :=
  (store.jobs.lookup id).join

/-- Puts a job or nothing under a name, at the place of what is there. -/
def putIn (jobs : List (String × Option Job)) (id : String) (job : Option Job)
    : List (String × Option Job) :=
  match jobs with
  | [] => [(id, job)]
  | (known, old) :: rest =>
    if known = id then (known, job) :: rest else (known, old) :: putIn rest id job

/-- Puts a job or nothing under a name. -/
def put (store : JobStore) (id : String) (job : Option Job) : JobStore :=
  ⟨putIn store.jobs id job⟩

/-- Adds a job under its own name. -/
def add (store : JobStore) (job : Job) : JobStore :=
  store.put job.id job

/-- Replaces what is under a known name. -/
def replace (store : JobStore) (id : String) (job : Option Job) : Except MissingJob JobStore :=
  if store.knows id then .ok (store.put id job) else .error ⟨id⟩

/-- Changes the job under a name; gives the store and the changed job. -/
def change (store : JobStore) (id : String) (f : Job → Job) : Except MissingJob (JobStore × Job) :=
  match store.get? id with
  | some job => .ok (store.put id (some (f job)), f job)
  | none => .error ⟨id⟩

/-- Notes that a job is under way. -/
def markProcessing (store : JobStore) (id : String) : Except MissingJob (JobStore × Job) :=
  store.change id (·.withStatus .processing)

/-- Notes the result of a job. -/
def markCompleted (store : JobStore) (id : String) (result : Option Json)
    : Except MissingJob (JobStore × Job) :=
  store.change id (·.withResult result)

/-- Notes that a job has failed. -/
def markFailed (store : JobStore) (id message : String) (kind : Option String)
    : Except MissingJob (JobStore × Job) :=
  store.change id (·.withError message kind)

end JobStore

end CriticalCss
