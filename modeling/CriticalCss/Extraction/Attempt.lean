import CriticalCss.Browser.Pool
import CriticalCss.Files.Tree
import CriticalCss.Page.Loading
import CriticalCss.Request.Basic
import CriticalCss.Selection
import CriticalCss.Stylesheet.Reader
import CriticalCss.Tidy
/-! One attempt at a request: a page is opened and loaded, the style sheet is reduced to what the
page shows in the viewport, and the page is given back, however the attempt ends. When the deadline
comes the attempt is cut off wherever it stands.
-/

namespace CriticalCss.Extraction

open Browser

/-- How loading a page goes. -/
structure Load where
  /-- The time it takes, in milliseconds. -/
  delay : Nat := 0
  /-- Does the browser lose its connection at the end? -/
  crashes : Bool := false
  failure : Option Failure := none

/-- How asking for a page goes. -/
structure Opening where
  /-- Has the browser lost its connection before? -/
  lost : Bool := false
  /-- The time that opening a context takes, in milliseconds. -/
  delay : Nat := 0
  /-- What cannot be opened. -/
  trap : Option Trap := none
  /-- Does the browser lose its connection if there is no page? -/
  crashes : Bool := false

/-- A failure of a page that is asked. -/
structure Breakdown where
  failure : Failure
  /-- Has the browser lost its connection? -/
  disconnects : Bool

/-- Everything that a run meets. -/
structure Conditions where
  setup : Setup
  /-- How the load with the given number goes, counted from zero. -/
  load : Nat → Load
  probe : Probe Breakdown
  files : Files.Tree
  opening : Opening := {}
  /-- How asking for a page goes in the second attempt. -/
  laterOpening : Opening := {}
  /-- What the page of the second attempt answers. -/
  laterProbe : Probe Breakdown := probe

/-- What the second attempt meets. -/
def Conditions.again (conditions : Conditions) : Conditions :=
  { conditions with opening := conditions.laterOpening, probe := conditions.laterProbe }

/-- What one page was asked, and with which limits. -/
structure Inquiry where
  viewport : Viewport
  maxElements : Option Int
  trace : Selection.Trace

/-- What runs have done so far. -/
structure Progress where
  pool : Pool
  clock : Nat := 0
  /-- The loads: what was loaded, and how. -/
  loads : List (String × Page.LoadOptions) := []
  inquiries : List Inquiry := []

namespace Progress

/-- Notes an event. -/
def note (progress : Progress) (event : Event) : Progress :=
  { progress with pool := progress.pool.note event }

/-- Notes events. -/
def noteAll (progress : Progress) (events : List Event) : Progress :=
  { progress with pool := { progress.pool with log := progress.pool.log ++ events } }

/-- The browser of a page loses its connection. -/
def disconnect (progress : Progress) (page : Browser.Page) : Progress :=
  { progress with
    pool := { progress.pool with engine := progress.pool.engine.disconnect page.browser } }

/-- The browser of the pool loses its connection. -/
def loseBrowser (progress : Progress) : Progress :=
  match progress.pool.browser with
  | some browser =>
    { progress with
      pool := { progress.pool with engine := progress.pool.engine.disconnect browser } }
  | none => progress

/-- A page is about to be asked for. -/
def approach (opening : Opening) (progress : Progress) : Progress :=
  let engine := { progress.pool.engine with trap := opening.trap }
  let approached := { progress with pool := { progress.pool with engine := engine } }
  if opening.lost then approached.loseBrowser else approached

end Progress

/-- How an attempt ends. -/
inductive Ending where
  | css (text : String)
  | failed (failure : Failure)
  /-- The deadline has come. -/
  | cutOff

/-- How the page of a request is to be loaded. -/
def loadOptions (request : Request) : Page.LoadOptions where
  blockScripts := request.blockScripts
  limit := request.loadLimit
  settling := request.settling
  patience := some request.timeout

/-- What selection goes by. -/
def selectionSettings (config : Config) (request : Request)
    : Except Failure Selection.Settings :=
  match ForceInclude.Matcher.ofEntries request.forceInclude with
  | .error bad => .error (.badPattern bad.source bad.error)
  | .ok matcher =>
    .ok {
      viewport := request.viewport
      matcher := matcher
      options := {
        strict := request.strict
        keepLarger := request.keepLarger
        clearing := config.clearing
        concurrency := config.concurrency } }

/-- Tidies a sheet and prints it. -/
def finish (request : Request) (sheet : Stylesheet) (progress : Progress) : Progress × Ending :=
  match Tidy.compilePatterns request.unwanted with
  | .error (source, error) => (progress, .failed (.badPattern source error))
  | .ok patterns =>
    let tidied := Tidy.run patterns request.payloadLimit sheet
    let progress := progress.noteAll tidied.events
    match tidied.sheet.print with
    | .ok text => (progress, .css text)
    | .error error => (progress, .failed (.unprintable error))

/-- Reduces a style sheet to what a page shows. -/
def reduce (conditions : Conditions) (request : Request) (reading : Reading) (deadline : Nat)
    (page : Browser.Page) (progress : Progress)
    : Progress × Ending :=
  let progress := progress.noteAll reading.events
  let inquire (trace : Selection.Trace) (progress : Progress) : Progress :=
    { progress with
      inquiries := progress.inquiries ++ [⟨request.viewport, request.maxElements, trace⟩] }
  match selectionSettings conditions.setup.config request with
  | .error failure => (inquire {} progress, .failed failure)
  | .ok settings =>
    let result :=
      Selection.run settings conditions.probe progress.clock (some deadline) reading.sheet
    let progress :=
      inquire result.trace { progress.noteAll result.events with clock := result.clock }
    match result.ending with
    | .done => finish request result.sheet progress
    | .hollowContainer => (progress, .failed .hollowContainer)
    | .cutOff => ({ progress with clock := deadline }, .cutOff)
    | .broken breakdown =>
      (if breakdown.disconnects then progress.disconnect page else progress,
        .failed breakdown.failure)

/-- Loads a page and reduces the style sheet, which is read only now, to what it shows. -/
def generate (conditions : Conditions) (request : Request) (css : String) (deadline : Nat)
    (page : Browser.Page) (progress : Progress)
    : Progress × Ending :=
  let load := conditions.load progress.loads.length
  let progress :=
    { progress with loads := progress.loads ++ [(request.url, loadOptions request)] }
  let time := progress.clock + load.delay
  if deadline ≤ time then ({ progress with clock := deadline }, .cutOff)
  else
    let loaded := { progress with clock := time }
    let loaded := if load.crashes then loaded.disconnect page else loaded
    match load.failure with
    | some failure => (loaded, .failed failure)
    | none =>
      match Stylesheet.read css with
      | .error number => (loaded, .failed (.longNumber number))
      | .ok reading => reduce conditions request reading deadline page loaded

/-- What is told about an end when the page is given back. -/
def Ending.error? : Ending → Option String
  | css _ => none
  | failed failure => some failure.message
  | cutOff => some ""

/-- Gives a page back. -/
def giveBack (conditions : Conditions) (page : Browser.Page) (ended : Progress × Ending)
    : Progress × Ending :=
  ({ ended.1 with pool := ended.1.pool.release conditions.setup page ended.2.error? }, ended.2)

/-- Asks for a page. Gives the page, or the end that the attempt comes to without one. When the
deadline comes first the place in the queue is given up, or the slot. -/
def askForPage (conditions : Conditions) (request : Request) (deadline : Nat) (progress : Progress)
    : Progress × Except Ending Browser.Page :=
  let acquired :=
    progress.pool.acquire conditions.setup (some request.viewport) (some request.userAgent)
      request.headers
  let launched := progress.pool.launchIfNeeded conditions.setup request.viewport
  let overdue := { progress with pool := launched.1, clock := deadline }
  let opened := progress.clock + conditions.opening.delay
  let asked := { progress with pool := acquired.1, clock := opened }
  match acquired.2 with
  | .failed .launchFailed =>
    ({ progress with pool := acquired.1 }, .error (.failed .launchFailed))
  | .queued => (overdue, .error .cutOff)
  | .page page => if deadline ≤ opened then (overdue, .error .cutOff) else (asked, .ok page)
  | .failed failure =>
    if deadline ≤ opened then (overdue, .error .cutOff)
    else (if conditions.opening.crashes then asked.loseBrowser else asked, .error (.failed failure))

/-- Opens a page and generates the critical style sheet on it. -/
def onPage (conditions : Conditions) (request : Request) (css : String) (deadline : Nat)
    (progress : Progress)
    : Progress × Ending :=
  match askForPage conditions request deadline progress with
  | (asked, .error ending) => (asked, ending)
  | (asked, .ok page) =>
    giveBack conditions page (generate conditions request css deadline page asked)

/-- Launches the browser if it is needed and generates the critical style sheet on a page of it. -/
def onBrowser (conditions : Conditions) (request : Request) (css : String) (deadline : Nat)
    (progress : Progress)
    : Progress × Ending :=
  let approached := progress.approach conditions.opening
  let launched := progress.clock + approached.pool.launchTime conditions.setup
  if deadline ≤ launched then
    let abandoned := approached.pool.abandonLaunch request.viewport
    ({ approached with pool := abandoned, clock := deadline }, .cutOff)
  else onPage conditions request css deadline { approached with clock := launched }

/-- Notes that the time of a request is over. -/
def timeOut (request : Request) (progress : Progress) : Progress × Except Failure String :=
  (progress.note (.timedOut request.timeout), .error (.timedOut request.timeout))

/-- Makes an attempt. Behind the deadline there is none. -/
def attempt (conditions : Conditions) (request : Request) (css : String) (deadline : Nat)
    (progress : Progress)
    : Progress × Except Failure String :=
  if deadline ≤ progress.clock then timeOut request progress
  else
    match onBrowser conditions request css deadline progress with
    | (progress, .css text) => (progress, .ok text)
    | (progress, .cutOff) => timeOut request progress
    | (progress, .failed (.gaveUp _)) => timeOut request progress
    | (progress, .failed failure) => (progress, .error failure)

end CriticalCss.Extraction
