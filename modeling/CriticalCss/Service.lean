import CriticalCss.Extraction
import CriticalCss.Input.Account
import CriticalCss.Job
import CriticalCss.Service.Body
/-! The service: requests are run at once, or as jobs whose state can be looked up. A job is done
before the call that asks for it is answered, and whatever ends its run ends up in its record.
-/

namespace CriticalCss

/-- What the service works with. -/
structure Service.Means where
  config : Config
  /-- The folder that the service was started in. -/
  workingFolder : List String
  /-- What is asked to run requests. -/
  run : Request → Extraction.Progress → Extraction.Progress × Except Failure Extraction.Result

/-- Each request is run with a browser of its own. -/
def Service.Means.ofConditions (conditions : Extraction.Conditions) : Service.Means where
  config := conditions.setup.config
  workingFolder := conditions.files.workingFolder
  run request progress :=
    let (progress, run) := Extraction.run conditions false request progress
    (progress, run.outcome)

/-- What the service has done so far. -/
structure Service where
  progress : Extraction.Progress
  jobs : JobStore := {}
  /-- The number that the names of jobs are counted from. -/
  firstNumber : Nat := 0

namespace Service

--------------------------------------------------------------------------------
-- Answers
--------------------------------------------------------------------------------

/-- A result as JSON. -/
def resultJson (result : Extraction.Result) : Json :=
  .obj [("critical_css", .str result.css),
    ("viewport", .obj [("width", .int result.viewport.width),
      ("height", .int result.viewport.height)]),
    ("attempts", .int result.attempts)]

/-- The status of the answer to a failure of a kind. -/
def statusOf : FailureKind → Nat
  | .input => 400
  | .timeout => 504
  | _ => 500

/-- The answer to a failure. -/
def failureReply (failure : Failure) : Reply :=
  match failure.kind? with
  | some kind =>
    .json (statusOf kind)
      (.obj [("detail", .str failure.message), ("kind", .str kind.word)])
  | none => .internalError

/-- Reads a result as it is shown. -/
def readResult (json : Json) : Input.Checked Json :=
  (fun css viewport attempts =>
      Json.obj [("critical_css", .str css),
        ("viewport", .obj (viewport.map fun (name, value) => (name, .int value))),
        ("attempts", .int attempts)])
    <$> Input.requiredField json "critical_css" Input.text
    <*> Input.field json "viewport" [] (Input.tableOf Input.number)
    <*> Input.field json "attempts" 1 Input.number

/-- Reads a job as it is shown. An empty result counts as none. -/
def readJob (job : Job) : Input.Checked Json :=
  (fun result url =>
      Json.obj [("job_id", .str job.id), ("status", .str job.status.word), ("url", .str url),
        ("result", result.getD .null), ("error", Json.ofString? job.error),
        ("error_kind", Json.ofString? job.errorKind)])
    <$> (match job.result.filter (·.isTruthy) with
      | some result => (readResult result).map some
      | none => .ok none)
    <*> Input.text ((job.payload.lookup "url").getD (.str ""))

--------------------------------------------------------------------------------
-- Runs
--------------------------------------------------------------------------------

/-- Runs a request. -/
def runRequest (means : Means) (request : Request) (service : Service)
    : Service × Except Failure Extraction.Result :=
  let (progress, outcome) := means.run request service.progress
  ({ service with progress := progress }, outcome)

/-- Runs a request and answers with the result. -/
def extract (means : Means) (request : Request) (service : Service) : Service × Reply :=
  match runRequest means request service with
  | (service, .ok result) => (service, .json 200 (resultJson result))
  | (service, .error failure) => (service, failureReply failure)

/-- The name of the next job: a number of 32 hexadecimal digits. -/
def nextJobId (service : Service) : String :=
  "css_" ++ String.ofList (Text.hexPadded 32 (service.firstNumber + service.jobs.jobs.length))

/-- The members of a JSON object. -/
def membersOf : Json → List (String × Json)
  | .obj members => members
  | _ => []

/-- The store, changed if the change is possible. -/
def changed (store : JobStore) : Except MissingJob (JobStore × Job) → JobStore
  | .ok (store, _) => store
  | .error _ => store

/-- What the record of a job tells about a payload that is no request. -/
def refusalAccount (payload : Json) : Request.Refusal → String
  | .problems problems => Input.account "CriticalCSSRequest" payload problems
  | .badEntry error => error.message
  | .noEntries typeWord => "'" ++ typeWord ++ "' object is not iterable"
  | .badPattern error source => error.message source

/-- Works on a job: runs the request in its payload and notes how it ends. Where the call left
something open the payload holds what the configuration says, and that is checked only here. -/
def work (means : Means) (id : String) (payload : Json) (service : Service) : Service :=
  let started := { service with jobs := changed service.jobs (service.jobs.markProcessing id) }
  match Request.read means.config payload with
  | .error refusal =>
    { started with
      jobs := changed started.jobs
        (started.jobs.markFailed id (refusalAccount payload refusal) none) }
  | .ok request =>
    match runRequest means request started with
    | (ended, .ok result) =>
      { ended with
        jobs := changed ended.jobs (ended.jobs.markCompleted id (some (resultJson result))) }
    | (ended, .error failure) =>
      { ended with
        jobs := changed ended.jobs
          (ended.jobs.markFailed id failure.message (failure.kind?.map (·.word))) }

/-- Makes a job of a request and works on it. The answer tells the name of the job. -/
def generate (means : Means) (request : Request) (service : Service) : Service × Reply :=
  let id := service.nextJobId
  let payload := request.toJson
  let queued :=
    { service with jobs := service.jobs.add (Job.queue id "critical_css" (membersOf payload)) }
  (work means id payload queued,
    .json 202 (.obj [("job_id", .str id), ("status", .str Job.Status.queued.word)]))

/-- Shows a job. -/
def showJob (service : Service) (id : String) : Reply :=
  match service.jobs.get? id with
  | some job =>
    match readJob job with
    | .ok shown => .json 200 shown
    | .faulty _ => .internalError
  | none => .detail 404 "Job not found"

--------------------------------------------------------------------------------
-- Calls
--------------------------------------------------------------------------------

/-- Follows a route that needs a key, with the body read. -/
def followOpen (means : Means) (route : Route) (body : Body) (service : Service)
    : Service × Reply :=
  let environment := means.config.environment
  match route with
  | .health =>
    (service, .json 200 (.obj [("status", .str "ok"), ("environment", .str environment)]))
  | .authCheck => (service, .json 200 (.obj [("status", .str "authorized")]))
  | .job id => (service, service.showJob id)
  | .extract =>
    match readRequest means.config means.workingFolder body with
    | .ok request => extract means request service
    | .error reply => (service, reply)
  | .generate =>
    match readRequest means.config means.workingFolder body with
    | .ok request => generate means request service
    | .error reply => (service, reply)

/-- Does a route need a key? -/
def Route.isGuarded : Route → Bool
  | .health => false
  | _ => true

/-- Follows a route. An unreadable body is found before the key is looked at. -/
def follow (means : Means) (call : Call) (route : Route) (service : Service) : Service × Reply :=
  let body := if route.method = "POST" then readBody call else .ok .empty
  match body with
  | .error reply => (service, reply)
  | .ok body =>
    if route.isGuarded && !isAuthorized means.config (call.header? "Authorization") then
      (service, .detail 401 "Invalid API token")
    else followOpen means route body service

/-- Answers a call. -/
def answer (means : Means) (call : Call) (service : Service) : Service × Reply :=
  match (routesAt call.path).find? (·.method = call.verb) with
  | some route => follow means call route service
  | none =>
    let reply := strayReply call.path
    (service, if call.verb = "HEAD" then reply.head else reply)

end Service

end CriticalCss
