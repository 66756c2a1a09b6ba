import CriticalCss.Selection.Probe
/-! Asking a page about many queries, a limited number at a time.

Every query has a job. The jobs take turns in the order in which they get ready: at first in the
order of the queries, later when a slot is free or a reply has come. A job that finds no free slot
queues up; one that ends gives its slot to the first in the queue. The jobs are collected when all
have ended, or as soon as one has broken down; then the others are told to stop, and each of them
takes a last turn in which it gives up what it holds.

Main definitions: `FanOut.State.step` is one turn, `FanOut.State.stopAll` ends all jobs, and
`FanOut.run` lets the clock go from reply to reply until the jobs are collected or a deadline
passes.
-/

namespace CriticalCss.FanOut

variable {ε : Type}

--------------------------------------------------------------------------------
-- States
--------------------------------------------------------------------------------

/-- A question that has no reply yet, and the reply with its time if there will be one. -/
structure Flight (ε : Type) where
  query : String
  due : Option (Nat × Reply ε)

/-- What is to happen next. -/
inductive Turn (ε : Type) where
  /-- A job starts. -/
  | start (query : String)
  /-- A job from the queue has got a slot. -/
  | resume (query : String)
  /-- A reply has come. -/
  | arrive (query : String) (reply : Reply ε)
  /-- The end of a job is noticed. -/
  | settle (query : String) (result : Except ε Bool)
  /-- The jobs are collected. -/
  | collect

/-- The queries whose jobs are still to start. -/
def starting (agenda : List (Turn ε)) : List String :=
  agenda.filterMap fun
    | .start query => some query
    | _ => none

/-- How the jobs stand as a whole. -/
inductive Status (ε : Type) where
  | running
  | answered
  | broken (fault : ε)

/-- Are the jobs collected? -/
def Status.isOver : Status ε → Bool
  | running => false
  | _ => true

/-- Are the jobs collected with an answer each? -/
def Status.isAnswered : Status ε → Bool
  | answered => true
  | _ => false

/-- All that is known of the jobs at some moment. -/
structure State (ε : Type) where
  clock : Nat
  /-- Slots that no job holds. -/
  free : Nat
  /-- Jobs that wait for a slot. -/
  queue : List String
  /-- Jobs that have been given a slot and have not gone on yet. -/
  woken : List String
  inFlight : List (Flight ε)
  agenda : List (Turn ε)
  /-- Queries in the order in which they were asked. -/
  asked : List String
  /-- The greatest number of questions that were open at once. -/
  peak : Nat
  /-- Queries that were refused, and why. -/
  refusals : List (String × String)
  answers : List (String × Bool)
  /-- Queries whose job was stopped while it waited for the reply. -/
  cancelled : List String
  /-- The number of jobs whose end has not been noticed. -/
  unsettled : Nat
  /-- The first breakdown noticed. -/
  fault : Option ε
  status : Status ε

/-- The jobs for the given queries before the first turn. -/
def State.initial (clock limit : Nat) (queries : List String) : State ε where
  clock := clock
  free := limit
  queue := []
  woken := []
  inFlight := []
  agenda := if queries.isEmpty then [.collect] else queries.map .start
  asked := []
  peak := 0
  refusals := []
  answers := []
  cancelled := []
  unsettled := queries.length
  fault := none
  status := .running

namespace State

--------------------------------------------------------------------------------
-- Turns
--------------------------------------------------------------------------------

/-- Puts a turn at the end of the agenda. -/
def push (state : State ε) (turn : Turn ε) : State ε :=
  { state with agenda := state.agenda ++ [turn] }

/-- Gives a slot to the first job in the queue, if there is one. -/
def wakeNext (state : State ε) : State ε :=
  match state.queue with
  | [] => state
  | query :: rest =>
    { state with
      free := state.free - 1
      queue := rest
      woken := state.woken ++ [query]
      agenda := state.agenda ++ [.resume query] }

/-- Gives a slot back. -/
def release (state : State ε) : State ε :=
  wakeNext { state with free := state.free + 1 }

/-- Ends a job whose question has got a reply. A refusal counts as a no. -/
def finish (query : String) (reply : Reply ε) (state : State ε) : State ε :=
  match reply with
  | .answer yes => state.release.push (.settle query (.ok yes))
  | .refused message =>
    let noted := { state with refusals := state.refusals ++ [(query, message)] }
    noted.release.push (.settle query (.ok false))
  | .broken fault => state.release.push (.settle query (.error fault))

/-- Asks a question for a job that holds a slot. -/
def ask (respond : String → Response ε) (query : String) (state : State ε) : State ε :=
  let asked :=
    { state with
      asked := state.asked ++ [query]
      peak := max state.peak (state.inFlight.length + 1) }
  match respond query with
  | .now reply => asked.finish query reply
  | .later delay reply =>
    { asked with inFlight := asked.inFlight ++ [⟨query, some (asked.clock + delay, reply)⟩] }
  | .never => { asked with inFlight := asked.inFlight ++ [⟨query, none⟩] }

/-- Does a job that starts have to queue up? -/
def isFull (state : State ε) : Bool :=
  state.free == 0 || !state.queue.isEmpty || !state.woken.isEmpty

/-- The outcome that collecting the jobs finds. -/
def found (state : State ε) : Status ε :=
  match state.fault with
  | some fault => .broken fault
  | none => .answered

/-- Notices the end of a job. Only the first breakdown counts, and what ends behind it does not. -/
def settle (query : String) (result : Except ε Bool) (state : State ε) : State ε :=
  if state.fault.isSome then state
  else
    match result with
    | .error fault => { state with fault := some fault }.push .collect
    | .ok yes =>
      let noted :=
        { state with
          answers := state.answers ++ [(query, yes)]
          unsettled := state.unsettled - 1 }
      if noted.unsettled = 0 then noted.push .collect else noted

/-- One turn. -/
def step (respond : String → Response ε) (turn : Turn ε) (state : State ε) : State ε :=
  match turn with
  | .start query =>
    if state.isFull then { state with queue := state.queue ++ [query] }
    else ask respond query { state with free := state.free - 1 }
  | .resume query =>
    let going := { state with woken := state.woken.erase query }
    ask respond query (if 0 < going.free then going.wakeNext else going)
  | .arrive query reply =>
    finish query reply { state with inFlight := state.inFlight.filter (·.query != query) }
  | .settle query result => state.settle query result
  | .collect => { state with status := state.found }

/-- Takes turns until the agenda is empty or the jobs are collected, at most `rounds` of them. -/
def drain (respond : String → Response ε) (rounds : Nat) (state : State ε) : State ε :=
  match rounds with
  | 0 => state
  | rounds + 1 =>
    if state.status.isOver then state
    else
      match state.agenda with
      | [] => state
      | turn :: rest => drain respond rounds (step respond turn { state with agenda := rest })

--------------------------------------------------------------------------------
-- Stopping
--------------------------------------------------------------------------------

/-- The jobs that have not ended: those still to start, those that were given a slot, those whose
question has no reply yet, and those in the queue. -/
def unfinished (state : State ε) : List String :=
  starting state.agenda ++ state.woken ++ state.inFlight.map (·.query) ++ state.queue

/-- Gives a slot back while jobs are told to stop. It goes to the first job in the queue that is not
one of them. -/
def releaseBeside (told : List String) (state : State ε) : State ε :=
  match state.queue.find? (!told.contains ·) with
  | none => { state with free := state.free + 1 }
  | some query =>
    { state with
      queue := state.queue.erase query
      woken := state.woken ++ [query]
      agenda := state.agenda ++ [.resume query] }

/-- The last turn of a job that is told to stop together with others. It gives up its place in the
queue, or its slot and the reply it waits for. -/
def stop (told : List String) (query : String) (state : State ε) : State ε :=
  if state.queue.contains query then { state with queue := state.queue.erase query }
  else if state.woken.contains query then
    releaseBeside told { state with woken := state.woken.erase query }
  else if state.inFlight.any (·.query == query) then
    releaseBeside told
      { state with
        inFlight := state.inFlight.filter (·.query != query)
        cancelled := state.cancelled ++ [query] }
  else state

/-- Tells all jobs to stop that have not ended, and lets each take its last turn instead of those on
the agenda. -/
def stopAll (state : State ε) : State ε :=
  state.unfinished.foldl (fun left query => left.stop state.unfinished query)
    { state with agenda := [] }

--------------------------------------------------------------------------------
-- Time
--------------------------------------------------------------------------------

/-- The time of the next reply. -/
def nextDue (state : State ε) : Option Nat :=
  (state.inFlight.filterMap fun flight => flight.due.map (·.1)).min?

/-- The turns of the replies that come at a time. -/
def arrivals (state : State ε) (time : Nat) : List (Turn ε) :=
  state.inFlight.filterMap fun flight =>
    match flight.due with
    | some (due, reply) => if due = time then some (.arrive flight.query reply) else none
    | none => none

/-- The most turns that so many jobs can take between two replies, and some. -/
def roundsFor (jobs : Nat) : Nat :=
  4 * jobs + 2

/-- Goes from reply to reply, at most `replies` of them, until the jobs are collected, or no reply
comes before the deadline. -/
def advance (respond : String → Response ε) (jobs : Nat) (deadline : Option Nat) (replies : Nat)
    (state : State ε)
    : State ε :=
  let idle := state.drain respond (roundsFor jobs)
  match replies with
  | 0 => idle
  | replies + 1 =>
    if idle.status.isOver then idle
    else
      match idle.nextDue with
      | none => idle
      | some time =>
        if deadline.any (· ≤ time) then idle
        else
          advance respond jobs deadline replies
            { idle with clock := time, agenda := idle.arrivals time }

end State

/-- Asks about the queries, so many at a time, from a time on, and stops all jobs unless every query
is answered. The state it ends in is still running if the deadline has passed, or if no reply will
ever come. -/
def run (respond : String → Response ε) (clock limit : Nat) (deadline : Option Nat)
    (queries : List String)
    : State ε :=
  let reached :=
    (State.initial clock limit queries).advance respond queries.length deadline queries.length
  if reached.status.isAnswered then reached else reached.stopAll

end CriticalCss.FanOut
