import CriticalCss.Browser.Engine
import CriticalCss.Config
import CriticalCss.Event
/-! Handing out pages of one browser. There is a slot for every page that may be open at once; who
asks for a page while no slot is free queues up and gets the first one given back. The browser is
launched when it is needed and launched anew when it has lost its connection.
-/

namespace CriticalCss.Browser

/-- What a pool goes by. -/
structure Setup where
  config : Config
  conduct : Conduct

/-- A pool of pages. -/
structure Pool where
  engine : Engine := {}
  driver : Option Nat := none
  browser : Option Nat := none
  viewport : Option Viewport := none
  /-- Slots that nobody holds. -/
  free : Nat
  /-- Who waits for a slot. -/
  queue : List Profile := []
  /-- Who has been given a slot and has not gone on yet. -/
  woken : List Profile := []
  openPages : List Page := []
  /-- All pages that were ever handed out, in order. -/
  handedOut : List Page := []
  /-- What has happened. -/
  log : List Event := []

/-- The number of slots. -/
def capacity (config : Config) : Nat :=
  (max config.maxOpenPages 1).toNat

namespace Pool

/-- A pool that has not launched anything yet. -/
def fresh (config : Config) (engine : Engine) (log : List Event) : Pool where
  engine := engine
  free := capacity config
  log := log

/-- Notes an event. -/
def note (pool : Pool) (event : Event) : Pool :=
  { pool with log := pool.log ++ [event] }

/-- The number of open pages. -/
def openCount (pool : Pool) : Nat :=
  pool.openPages.length

/-- Is there a browser with a connection? -/
def isAlive (pool : Pool) : Bool :=
  pool.browser.any pool.engine.isConnected

/-- Is anybody still waiting for a page? -/
def waiting (pool : Pool) : Nat :=
  pool.queue.length + pool.woken.length

--------------------------------------------------------------------------------
-- Slots
--------------------------------------------------------------------------------

/-- Gives a slot to the first in the queue, if there is one. -/
def wakeNext (pool : Pool) : Pool :=
  match pool.queue with
  | [] => pool
  | profile :: rest =>
    { pool with free := pool.free - 1, queue := rest, woken := pool.woken ++ [profile] }

/-- Gives a slot back. -/
def giveBack (pool : Pool) : Pool :=
  wakeNext { pool with free := pool.free + 1 }

/-- Does everybody who asks for a slot have to queue up? -/
def isFull (pool : Pool) : Bool :=
  pool.free == 0 || !pool.queue.isEmpty || !pool.woken.isEmpty

--------------------------------------------------------------------------------
-- Launching
--------------------------------------------------------------------------------

/-- The time that launching would take now. -/
def launchTime (setup : Setup) (pool : Pool) : Nat :=
  if pool.isAlive then 0 else setup.conduct.delay pool.engine.launches

/-- Launches a browser unless there is one with a connection. -/
def launchIfNeeded (setup : Setup) (viewport : Viewport) (pool : Pool) : Pool × Option Failure :=
  let pool := { pool with viewport := some viewport }
  if pool.isAlive then (pool, none)
  else
    let pool := pool.note (.browserLaunching viewport.width viewport.height)
    match pool.engine.launch setup.conduct with
    | (engine, .ok (driver, browser)) =>
      ({ pool with engine := engine, driver := some driver, browser := some browser }, none)
    | (engine, .error failure) => ({ pool with engine := engine }, some failure)

/-- A launch that is broken off before there is a browser. Its driver has been started by then and
is left running. -/
def abandonLaunch (viewport : Viewport) (pool : Pool) : Pool :=
  let engine :=
    { pool.engine with
      drivers := pool.engine.drivers ++ [false]
      launches := pool.engine.launches + 1 }
  { pool with engine := engine, viewport := some viewport }.note
    (.browserLaunching viewport.width viewport.height)

/-- The viewport for what is asked without one. -/
def usualViewport (setup : Setup) (pool : Pool) : Viewport :=
  pool.viewport.getD setup.config.viewport

--------------------------------------------------------------------------------
-- Pages
--------------------------------------------------------------------------------

/-- Opens a page for somebody who holds a slot. If it cannot be opened the slot is given back. -/
def openPage (profile : Profile) (pool : Pool) : Pool × Except Failure Page :=
  match pool.browser with
  | none => (pool.giveBack, .error .noBrowser)
  | some browser =>
    match pool.engine.openPage browser profile with
    | (engine, .error failure) => ({ pool with engine := engine }.giveBack, .error failure)
    | (engine, .ok page) =>
      let pool :=
        { pool with
          engine := engine
          openPages := pool.openPages ++ [page]
          handedOut := pool.handedOut ++ [page] }
      (pool.note (.pageAcquired pool.openCount), .ok page)

/-- How asking for a page goes. -/
inductive Acquisition where
  | page (page : Page)
  | queued
  | failed (failure : Failure)

/-- Headers with others on top of them. -/
def mergeHeaders (below above : List (String × String)) : List (String × String) :=
  below.filter (fun header => (above.lookup header.1).isNone) ++ above

/-- The profile of a page that is asked for. -/
def profileFor (setup : Setup) (viewport : Viewport) (userAgent : Option String)
    (headers : List (String × String))
    : Profile where
  viewport := viewport
  userAgent := (userAgent.filter (!·.isEmpty)).getD setup.config.userAgent
  headers := mergeHeaders setup.config.headers headers

/-- Asks for a page. -/
def acquire (setup : Setup) (viewport : Option Viewport) (userAgent : Option String)
    (headers : List (String × String)) (pool : Pool)
    : Pool × Acquisition :=
  let viewport := viewport.getD (pool.usualViewport setup)
  match pool.launchIfNeeded setup viewport with
  | (pool, some failure) => (pool, .failed failure)
  | (pool, none) =>
    let profile := profileFor setup viewport userAgent headers
    if pool.isFull then ({ pool with queue := pool.queue ++ [profile] }, .queued)
    else
      match openPage profile { pool with free := pool.free - 1 } with
      | (pool, .ok page) => (pool, .page page)
      | (pool, .error failure) => (pool, .failed failure)

/-- Lets the first who has been given a slot go on. -/
def resumeFirst (pool : Pool) : Pool :=
  match pool.woken with
  | [] => pool
  | profile :: rest =>
    let pool := { pool with woken := rest }
    (openPage profile (if 0 < pool.free then pool.wakeNext else pool)).1

/-- Lets so many go on. -/
def resumeMany : Nat → Pool → Pool
  | 0, pool => pool
  | n + 1, pool => resumeMany n pool.resumeFirst

/-- Lets all go on who have been given a slot, until nobody has one that does not use it. -/
def settle (pool : Pool) : Pool :=
  resumeMany pool.waiting pool

/-- Gives a page back and closes it. A page that is not open, or no longer, is passed over. -/
def release (setup : Setup) (page : Page) (error : Option String) (pool : Pool) : Pool :=
  if pool.openPages.contains page then
    let pool := giveBack { pool with openPages := pool.openPages.erase page }
    let pool :=
      match error with
      | some error => pool.note (.pageReleasedAfterError error)
      | none => pool
    let (engine, refusal) := pool.engine.closeContext setup.conduct page
    let pool := { pool with engine := engine }
    let pool :=
      match refusal with
      | some refusal => pool.note (.pageCloseFailed refusal)
      | none => pool
    pool.note (.pageReleased pool.openCount)
  else pool

--------------------------------------------------------------------------------
-- Shutting down
--------------------------------------------------------------------------------

/-- Takes the slots of all open pages back. -/
def dropPages (pool : Pool) : Pool :=
  pool.openPages.foldl (fun pool page =>
    giveBack { pool with openPages := pool.openPages.erase page }) pool

/-- Closes the browser that the pool has let go. -/
def closeBrowser (setup : Setup) (browser : Nat) (pool : Pool) : Pool :=
  let (engine, refusal) := pool.engine.closeBrowser setup.conduct browser
  let pool := { pool with engine := engine }
  match refusal with
  | some refusal => pool.note (.browserCloseFailed refusal)
  | none => pool

/-- Shuts browser and driver down, whatever the configuration says. -/
def close (setup : Setup) (pool : Pool) : Pool :=
  let emptied := pool.dropPages
  let released := { emptied with browser := none, driver := none }
  let closed :=
    match pool.browser with
    | some browser => released.closeBrowser setup browser
    | none => released
  let stopped :=
    match pool.driver with
    | some driver => { closed with engine := closed.engine.stopDriver driver }
    | none => closed
  if pool.browser.isSome then stopped.note .browserClosed else stopped

/-- Shuts browser and driver down, unless the browser is to be kept and nobody insists. -/
def shutdown (setup : Setup) (force : Bool) (pool : Pool) : Pool :=
  if setup.config.keepAlive && !force then pool.note .browserKeptAlive else pool.close setup

--------------------------------------------------------------------------------
-- Restarting
--------------------------------------------------------------------------------

/-- The first half of a restart: all slots are given back, and the browser is shut down. -/
def tearDown (setup : Setup) (pool : Pool) : Pool :=
  (pool.note .browserRestarting).close setup

/-- The second half of a restart: a browser is launched. -/
def relaunch (setup : Setup) (viewport : Option Viewport) (pool : Pool) : Pool × Option Failure :=
  pool.launchIfNeeded setup (viewport.getD (pool.usualViewport setup))

/-- How many of those who wait get a turn while a restart has no browser: all of them if launching
takes time. -/
def turnsOfRestart (setup : Setup) (pool : Pool) : Nat :=
  if 0 < setup.conduct.delay pool.engine.launches then pool.waiting
  else setup.conduct.turns pool.engine.launches

/-- Replaces the browser by a new one. Closing wakes those who wait, and until there is another
browser so many of them go on without one. It makes no difference when they do: whoever goes on
without a browser changes nothing but the slots. -/
def restart (setup : Setup) (viewport : Option Viewport) (turns : Nat) (pool : Pool)
    : Pool × Option Failure :=
  ((pool.tearDown setup).resumeMany turns).relaunch setup viewport

end Pool

end CriticalCss.Browser
