import CriticalCss.Failure
import CriticalCss.Media
/-! Browsers and what belongs to them. A driver is started for every launch of a browser; a browser
has contexts, one for each page. Nothing that was started is forgotten, so it can be told at any
time what is still running.
-/

namespace CriticalCss.Browser

/-- What the context of a page is opened with. -/
structure Profile where
  viewport : Viewport
  userAgent : String
  headers : List (String × String)
  deriving DecidableEq, Repr

/-- A context. -/
structure Context where
  profile : Profile
  closed : Bool := false
  deriving DecidableEq, Repr

/-- A browser that was launched. -/
structure Instance where
  connected : Bool := true
  closed : Bool := false
  contexts : List Context := []
  deriving DecidableEq, Repr

/-- A page, named by its browser and its context there. -/
structure Page where
  browser : Nat
  context : Nat
  deriving DecidableEq, Repr

/-- What fails the next time that it is opened. -/
inductive Trap where
  | context
  | page
  deriving DecidableEq, Repr

/-- How launching and closing go. -/
structure Conduct where
  /-- Does the launch with the given number fail? Launches are counted from zero. -/
  fails : Nat → Bool := fun _ => false
  /-- The time that the launch with the given number takes, in milliseconds. -/
  delay : Nat → Nat := fun _ => 0
  /-- Is the driver stopped if its browser cannot be launched? -/
  stopsDriver : Bool := true
  /-- Does closing what belongs to a browser without connection fail? -/
  strictClose : Bool := false
  /-- How many others get a turn until the launch with the given number is through, if it is that of
  a restart and takes no time: closing a browser, stopping its driver and launching another may each
  let others go on. -/
  turns : Nat → Nat := fun _ => 0

/-- All that was ever started. -/
structure Engine where
  browsers : List Instance := []
  /-- For every driver, whether it has been stopped. -/
  drivers : List Bool := []
  /-- The number of launches. -/
  launches : Nat := 0
  trap : Option Trap := none

namespace Engine

/-- Is a browser connected? -/
def isConnected (engine : Engine) (browser : Nat) : Bool :=
  engine.browsers[browser]?.any (·.connected)

/-- Changes a browser. -/
def changeBrowser (engine : Engine) (browser : Nat) (f : Instance → Instance) : Engine :=
  { engine with browsers := engine.browsers.modify browser f }

/-- Stops a driver. This is taken never to fail. -/
def stopDriver (engine : Engine) (driver : Nat) : Engine :=
  { engine with drivers := engine.drivers.set driver true }

/-- A browser loses its connection. -/
def disconnect (engine : Engine) (browser : Nat) : Engine :=
  engine.changeBrowser browser fun it => { it with connected := false }

/-- The browser that was launched last loses its connection. -/
def disconnectLatest (engine : Engine) : Engine :=
  engine.disconnect (engine.browsers.length - 1)

/-- Starts a driver and launches a browser; gives the driver and the browser. -/
def launch (engine : Engine) (conduct : Conduct) : Engine × Except Failure (Nat × Nat) :=
  let driver := engine.drivers.length
  let started :=
    { engine with drivers := engine.drivers ++ [false], launches := engine.launches + 1 }
  if conduct.fails engine.launches then
    (if conduct.stopsDriver then started.stopDriver driver else started, .error .launchFailed)
  else
    ({ started with browsers := started.browsers ++ [{}] }, .ok (driver, engine.browsers.length))

/-- Opens a context, and a page in it. A context whose page cannot be opened stays. -/
def openPage (engine : Engine) (browser : Nat) (profile : Profile)
    : Engine × Except Failure Page :=
  let context := (engine.browsers[browser]?.map (·.contexts.length)).getD 0
  let opened :=
    engine.changeBrowser browser fun it => { it with contexts := it.contexts ++ [{ profile }] }
  match engine.trap with
  | some .context => ({ engine with trap := none }, .error .contextFailed)
  | some .page => ({ opened with trap := none }, .error .pageFailed)
  | none => (opened, .ok ⟨browser, context⟩)

/-- Closes the context of a page, or tells why it cannot. It is taken to fail for want of a
connection only. -/
def closeContext (engine : Engine) (conduct : Conduct) (page : Page) : Engine × Option String :=
  if conduct.strictClose && !engine.isConnected page.browser then (engine, some "Target closed")
  else
    (engine.changeBrowser page.browser fun it =>
      { it with contexts := it.contexts.modify page.context fun c => { c with closed := true } },
      none)

/-- Closes a browser, or tells why it cannot. It is taken to fail for want of a connection only, so
that afterwards there is none in any case. -/
def closeBrowser (engine : Engine) (conduct : Conduct) (browser : Nat) : Engine × Option String :=
  if conduct.strictClose && !engine.isConnected browser then
    (engine, some "Browser already closed")
  else
    (engine.changeBrowser browser fun it => { it with closed := true, connected := false }, none)

end Engine

end CriticalCss.Browser
