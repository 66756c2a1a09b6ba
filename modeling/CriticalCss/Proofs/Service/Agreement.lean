import CriticalCss.Proofs.Extraction.Unfailing
import CriticalCss.Proofs.Service.Confinement
import CriticalCss.Proofs.Service.Jobs

/-! The two routes for requests come to the same. A job writes its request out and reads it again,
marks its record, and shows its result from there; the other route answers with what the run gives.
The one thing between them is that a job checks what the configuration has filled in: then it fails
whatever the run would give, but it never stays behind unfinished.
-/

namespace CriticalCss

open Input

namespace Service

--------------------------------------------------------------------------------
-- Jobs
--------------------------------------------------------------------------------

/-- The record of a job tells what its run has come to. -/
def Records (job : Job) : Except Failure Extraction.Result → Prop
  | .ok result =>
    job.status = .completed ∧ job.result = some (resultJson result)
      ∧ job.error = none ∧ job.errorKind = none
  | .error failure =>
    job.status = .failed ∧ job.result = none
      ∧ job.error = some failure.message ∧ job.errorKind = failure.kind?.map (·.word)

/-- A job as it is shown when the run of its request has come to an end. -/
def shownJob (id : String) (request : Request) : Except Failure Extraction.Result → Json
  | .ok result =>
    .obj [("job_id", .str id), ("status", .str "completed"), ("url", .str request.url),
      ("result", resultJson result), ("error", .null), ("error_kind", .null)]
  | .error failure =>
    .obj [("job_id", .str id), ("status", .str "failed"), ("url", .str request.url),
      ("result", .null), ("error", .str failure.message),
      ("error_kind", Json.ofString? (failure.kind?.map (·.word)))]

/-- The answer that tells at once what a run has come to. -/
def inlineReply : Except Failure Extraction.Result → Reply
  | .ok result => .json 200 (resultJson result)
  | .error failure => failureReply failure

section Working

variable {means : Means} {id : String} {job : Job} {request : Request} {service : Service}

end Working

--------------------------------------------------------------------------------
-- Agreement
--------------------------------------------------------------------------------

/-- Asked for a request in the same state, the two routes come to the same. -/
structure Agree (means : Means) (body : Body) (request : Request) (service : Service) : Prop where
  /-- One route answers with what the run gives. -/
  inline :
    (followOpen means .extract body service).2
      = inlineReply (means.run request service.progress).2
  /-- The other answers with the name of a job. -/
  named :
    (followOpen means .generate body service).2
      = .json 202 (.obj [("job_id", .str service.nextJobId), ("status", .str "queued")])
  progress :
    (followOpen means .generate body service).1.progress
      = (followOpen means .extract body service).1.progress
  recorded :
    ∃ job,
      (followOpen means .generate body service).1.jobs.get? service.nextJobId = some job
      ∧ Records job (means.run request service.progress).2
  /-- Whoever looks the job up is told the same. -/
  shown :
    followOpen means (.job service.nextJobId) .empty (followOpen means .generate body service).1
      = ((followOpen means .generate body service).1,
        .json 200
          (shownJob service.nextJobId request (means.run request service.progress).2))
  /-- All other jobs stay as they are. -/
  others :
    ∀ other, other ≠ service.nextJobId →
      (followOpen means .generate body service).1.jobs.get? other = service.jobs.get? other

section Agreeing

variable {means : Means} {body : Body} {request : Request} {service : Service}

end Agreeing

/-- A job is not left behind: it has ended when the call that asked for it is answered. -/
def Ended (service : Service) (id : String) : Prop :=
  ∃ job, service.jobs.get? id = some job ∧ (job.status = .completed ∨ job.status = .failed)

open Extraction (bareJson bareRequest)

end Service

end CriticalCss
