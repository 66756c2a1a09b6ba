import CriticalCss.Extraction.Attempt
import CriticalCss.Extraction.Source
/-! Runs: a request is answered with its critical style sheet.

If an attempt fails because the browser has died there is a second one with a new browser; both
share one deadline. A run without a browser of its caller launches one and always shuts it down.
-/

namespace CriticalCss.Extraction

open Browser

/-- The critical style sheet for a request. -/
structure Result where
  css : String
  viewport : Viewport
  /-- The number of attempts that were made. -/
  attempts : Nat

/-- Replaces the browser. The time this takes is not bounded by any deadline. Others who wait for a
page of the same pool stand still meanwhile, as they do during a whole run. -/
def restart (conditions : Conditions) (request : Request) (progress : Progress)
    : Progress × Option Failure :=
  let time := conditions.setup.conduct.delay progress.pool.engine.launches
  let restarted := progress.pool.restart conditions.setup (some request.viewport) 0
  ({ progress with pool := restarted.1, clock := progress.clock + time }, restarted.2)

/-- Makes the second attempt. -/
def secondAttempt (conditions : Conditions) (request : Request) (css : String) (deadline : Nat)
    (progress : Progress)
    : Progress × Except Failure (String × Nat) :=
  match attempt conditions request css deadline progress with
  | (progress, .ok text) => (progress, .ok (text, 2))
  | (progress, .error failure) =>
    if failure.isFinal || progress.pool.isAlive then (progress, .error failure)
    else
      (progress.note (.browserCrashedAgain failure.message),
        .error (.crashedTwice request.url))

/-- Times, in milliseconds, from here on cannot be measured in seconds with the precision and range
of binary numbers of 64 bits. It is a thousand times the number halfway between the greatest of
them and the next power of two. -/
def timeoutBound : Nat := 1000 * (Nat.shiftLeft 1 1024 - Nat.shiftLeft 1 970)

/-- Generates the critical style sheet within a time that can be measured, with a second attempt if
the browser dies during the first. Gives the number of attempts too. -/
def generateInTime (conditions : Conditions) (request : Request) (css : String)
    (progress : Progress)
    : Progress × Except Failure (String × Nat) :=
  let deadline := progress.clock + request.timeout.toNat
  match attempt conditions request css deadline progress with
  | (progress, .ok text) => (progress, .ok (text, 1))
  | (progress, .error failure) =>
    if failure.isFinal || progress.pool.isAlive then (progress, .error failure)
    else
      let progress := progress.note (.browserCrashed failure.message css.length)
      match restart conditions request progress with
      | (progress, some failure) => (progress, .error failure)
      | (progress, none) => secondAttempt conditions.again request css deadline progress

/-- Generates the critical style sheet, with a second attempt if the browser dies during the first.
Gives the number of attempts too. -/
def generateWithRetry (conditions : Conditions) (request : Request) (css : String)
    (progress : Progress)
    : Progress × Except Failure (String × Nat) :=
  if (timeoutBound : Int) ≤ request.timeout then (progress, .error .endlessTimeout)
  else generateInTime conditions request css progress

/-- Launches the browser of the pool if it is needed. -/
def launch (conditions : Conditions) (request : Request) (progress : Progress)
    : Progress × Option Failure :=
  let time := progress.pool.launchTime conditions.setup
  let launched := progress.pool.launchIfNeeded conditions.setup request.viewport
  ({ progress with pool := launched.1, clock := progress.clock + time }, launched.2)

/-- Launches the browser if it is needed and generates the critical style sheet. -/
def launchAndGenerate (conditions : Conditions) (request : Request) (css : String)
    (progress : Progress)
    : Progress × Except Failure (String × Nat) :=
  match launch conditions request progress with
  | (progress, some failure) => (progress, .error failure)
  | (progress, none) => generateWithRetry conditions request css progress

/-- Generates the critical style sheet with a browser of its own, which is shut down however it
ends. -/
def inSession (conditions : Conditions) (request : Request) (css : String) (progress : Progress)
    : Progress × Except Failure (String × Nat) :=
  let pool := Pool.fresh conditions.setup.config progress.pool.engine progress.pool.log
  let (progress, found) := launchAndGenerate conditions request css { progress with pool := pool }
  ({ progress with pool := progress.pool.close conditions.setup }, found)

/-- Turns what was generated into a result. Nothing but blanks counts as nothing. -/
def conclude (request : Request) (generated : Progress × Except Failure (String × Nat))
    : Progress × Except Failure Result :=
  match generated with
  | (progress, .error failure) => (progress, .error failure)
  | (progress, .ok (text, attempts)) =>
    let isEmpty := Text.allBlank text
    let css := if isEmpty then "" else text
    let events := (if isEmpty then [Event.resultEmpty] else []) ++ [.resultGenerated css.length]
    (progress.noteAll events, .ok ⟨css, request.viewport, attempts⟩)

/-- A run: its outcome, what happened before its style sheet was found, and what happened then. -/
structure Run where
  outcome : Except Failure Result
  early : List Event
  events : List Event

/-- The fields that all events of a run have once its style sheet is found. -/
def runFields (request : Request) : List (String × Json) :=
  [("url", .str request.url), ("width", .int request.viewport.width),
    ("height", .int request.viewport.height)]

/-- Runs a request, with the pool of the caller or with a browser of its own. -/
def run (conditions : Conditions) (shared : Bool) (request : Request) (progress : Progress)
    : Progress × Run :=
  let source := Source.of conditions.files request
  match source.text with
  | .error failure => (progress, ⟨.error failure, source.events, []⟩)
  | .ok css =>
    let (progress, outcome) :=
      conclude request <|
        if shared then launchAndGenerate conditions request css progress
        else inSession conditions request css progress
    ({ progress with pool := { progress.pool with log := [] } },
      ⟨outcome, source.events, progress.pool.log⟩)

end CriticalCss.Extraction
