import CriticalCss.Proofs.Browser.Conservation

/-! What runs though the pool does not hold it.

Closing stops the driver that the pool holds and disconnects its browser, and a launch that fails
stops the driver it has started. A launch that goes through puts a new browser in the place of one
that has lost its connection; then nobody stops the driver of the old one. So a run leaves a driver
behind exactly if such a launch is in it, which a restart never is, for it closes first. Browsers
are left behind by no run: what is replaced has lost its connection, what is shut down is closed.
-/

namespace CriticalCss.Browser

--------------------------------------------------------------------------------
-- What is held
--------------------------------------------------------------------------------

/-- Nothing is started or stopped; connections are only lost. -/
structure Engine.Quiet (engine other : Engine) : Prop where
  drivers : other.drivers = engine.drivers
  connected : ∀ browser, other.isConnected browser = true → engine.isConnected browser = true

theorem Engine.Quiet.refl (engine : Engine) : engine.Quiet engine :=
  ⟨rfl, fun _ connected => connected⟩

theorem Engine.isConnected_iff {engine : Engine} {browser : Nat}
    : engine.isConnected browser = true
      ↔ ∃ it, engine.browsers[browser]? = some it ∧ it.connected = true := by
  unfold isConnected
  cases engine.browsers[browser]? <;> simp

/-- What stands in a list with one more at its end. -/
theorem getElem?_concat_eq_some_iff {α : Type} {list : List α} {last item : α} {i : Nat}
    : (list ++ [last])[i]? = some item ↔ list[i]? = some item ∨ i = list.length ∧ last = item := by
  grind

namespace Pool

/-- Every driver that runs is the one that the pool holds. -/
def DriversStopped (pool : Pool) : Prop :=
  ∀ driver, pool.engine.drivers[driver]? = some false → pool.driver = some driver

/-- Every browser but the one that the pool holds is closed or without connection. -/
def BrowsersGone (pool : Pool) : Prop :=
  ∀ browser it,
    pool.engine.browsers[browser]? = some it
    → pool.browser ≠ some browser
    → it.closed = true ∨ it.connected = false

/-- Does a launch take the place of a browser that has lost its connection? -/
def replacesLost (setup : Setup) (pool : Pool) : Bool :=
  pool.driver.isSome && !pool.isAlive && !setup.conduct.fails pool.engine.launches

/-- The driver of a pool runs, and no other browser than its own has a connection. -/
structure Kept (pool : Pool) : Prop where
  running : ∀ driver ∈ pool.driver, pool.engine.drivers[driver]? = some false
  connected : ∀ browser, pool.engine.isConnected browser = true → pool.browser = some browser

/-- Nothing is taken up or let go. -/
structure SameHold (pool other : Pool) : Prop where
  driver : other.driver = pool.driver
  browser : other.browser = pool.browser
  quiet : pool.engine.Quiet other.engine

/-- What becomes of a pool that holds what runs, where `lost` tells whether a browser without
connection is replaced: the same can be said of it, and a driver is left behind only in that case.
-/
structure Leads (pool : Pool) (lost : Bool) (next : Pool) : Prop where
  kept : next.Kept
  stopped : next.DriversStopped ↔ pool.DriversStopped ∧ lost = false

theorem Kept.browsersGone {pool : Pool} (kept : pool.Kept) : pool.BrowsersGone := by
  intro browser it found other
  refine .inr (Bool.eq_false_iff.mpr fun connected => other ?_)
  exact kept.connected browser (Engine.isConnected_iff.mpr ⟨it, found, connected⟩)

section Leading

variable {pool middle next : Pool} {lost later : Bool}

theorem SameHold.refl (pool : Pool) : pool.SameHold pool :=
  ⟨rfl, rfl, .refl _⟩

theorem SameHold.trans (first : pool.SameHold middle) (second : middle.SameHold next)
    : pool.SameHold next where
  driver := second.driver.trans first.driver
  browser := second.browser.trans first.browser
  quiet := {
    drivers := second.quiet.drivers.trans first.quiet.drivers
    connected := fun browser connected =>
      first.quiet.connected browser (second.quiet.connected browser connected) }

theorem Leads.trans (first : pool.Leads lost middle) (second : middle.Leads later next)
    : pool.Leads (lost || later) next where
  kept := second.kept
  stopped := by
    rw [second.stopped, first.stopped, Bool.or_eq_false_iff, and_assoc]

theorem SameHold.driversStopped_iff (same : pool.SameHold next)
    : next.DriversStopped ↔ pool.DriversStopped := by
  simp only [DriversStopped, same.driver, same.quiet.drivers]

/-- As long as nothing is started, stopped, taken up or let go, nothing is left behind. -/
theorem Kept.same (kept : pool.Kept) (same : pool.SameHold next) : pool.Leads false next where
  kept := {
    running := by
      rw [same.driver, same.quiet.drivers]
      exact kept.running
    connected := fun browser connected => by
      rw [same.browser]
      exact kept.connected browser (same.quiet.connected browser connected) }
  stopped := by rw [same.driversStopped_iff, eq_self_iff_true, and_true]

theorem Leads.same (leads : pool.Leads lost middle) (same : middle.SameHold next)
    : pool.Leads lost next := by
  rw [← Bool.or_false lost]
  exact leads.trans (leads.kept.same same)

/-- Nothing is left behind as long as nothing is done. -/
theorem Kept.leads (kept : pool.Kept) : pool.Leads false pool :=
  kept.same (.refl pool)

theorem Kept.note (kept : pool.Kept) (event : Event) : pool.Leads false (pool.note event) :=
  kept.same ⟨rfl, rfl, .refl _⟩

end Leading

end Pool

--------------------------------------------------------------------------------
-- Pages
--------------------------------------------------------------------------------

namespace Engine

variable (engine : Engine)

/-- A browser that changes is not connected by that, unless the change connects it. -/
theorem quiet_changeBrowser (browser : Nat) {f : Instance → Instance}
    (fewer : ∀ it, (f it).connected = true → it.connected = true)
    : engine.Quiet (engine.changeBrowser browser f) where
  drivers := rfl
  connected other connected := by
    unfold isConnected changeBrowser at *
    rw [List.getElem?_modify] at connected
    cases found : engine.browsers[other]? with
    | none => simp [found] at connected
    | some it =>
      rw [found] at connected
      split at connected
      · exact fewer it connected
      · exact connected

theorem quiet_openPage (browser : Nat) (profile : Profile)
    : engine.Quiet (engine.openPage browser profile).1 := by
  have opened :=
    engine.quiet_changeBrowser browser
      (f := fun it => { it with contexts := it.contexts ++ [{ profile }] }) fun _ same => same
  unfold openPage
  split
  · exact ⟨rfl, fun _ connected => connected⟩
  · exact ⟨opened.drivers, opened.connected⟩
  · exact opened

theorem quiet_closeContext (conduct : Conduct) (page : Page)
    : engine.Quiet (engine.closeContext conduct page).1 := by
  unfold closeContext
  split
  · exact .refl engine
  · exact engine.quiet_changeBrowser page.browser fun _ same => same

theorem quiet_disconnectLatest : engine.Quiet engine.disconnectLatest :=
  engine.quiet_changeBrowser _ fun _ none => by cases none

theorem quiet_closeBrowser (conduct : Conduct) (browser : Nat)
    : engine.Quiet (engine.closeBrowser conduct browser).1 := by
  unfold closeBrowser
  split
  · exact .refl engine
  · exact engine.quiet_changeBrowser browser fun _ none => by cases none

/-- A browser has no connection once it has been closed, also if closing it fails. -/
theorem isConnected_closeBrowser (conduct : Conduct) (browser : Nat)
    : (engine.closeBrowser conduct browser).1.isConnected browser = false := by
  unfold closeBrowser
  split
  · simp_all
  · unfold isConnected changeBrowser
    rw [List.getElem?_modify]
    cases engine.browsers[browser]? <;> simp

end Engine

namespace Pool

section Pages

variable (setup : Setup) (pool : Pool)

theorem sameHold_wakeNext : pool.SameHold pool.wakeNext := by
  unfold wakeNext
  split <;> exact ⟨rfl, rfl, .refl _⟩

theorem sameHold_giveBack : pool.SameHold pool.giveBack := by
  have freed : pool.SameHold { pool with free := pool.free + 1 } := ⟨rfl, rfl, .refl _⟩
  exact freed.trans (sameHold_wakeNext _)

theorem sameHold_openPage (profile : Profile) : pool.SameHold (pool.openPage profile).1 := by
  unfold openPage
  split
  · exact pool.sameHold_giveBack
  · rename_i browser held
    have quiet := pool.engine.quiet_openPage browser profile
    split
    · rename_i engine failure failed
      rw [failed] at quiet
      have changed : pool.SameHold { pool with engine := engine } := ⟨rfl, rfl, quiet⟩
      exact changed.trans (sameHold_giveBack _)
    · rename_i engine page opened
      rw [opened] at quiet
      exact ⟨rfl, rfl, quiet⟩

theorem sameHold_resumeFirst : pool.SameHold pool.resumeFirst := by
  unfold resumeFirst
  split
  · exact .refl pool
  · rename_i profile rest found
    have resumed : pool.SameHold { pool with woken := rest } := ⟨rfl, rfl, .refl _⟩
    refine SameHold.trans ?_ (sameHold_openPage _ profile)
    split
    · exact resumed.trans (sameHold_wakeNext _)
    · exact resumed

/-- Whoever goes on leaves what is held as it is. Witness: induction on the turns. -/
theorem sameHold_resumeMany (turns : Nat) : pool.SameHold (pool.resumeMany turns) := by
  induction turns generalizing pool with
  | zero => exact .refl pool
  | succ turns ih => exact pool.sameHold_resumeFirst.trans (ih _)

theorem sameHold_settle : pool.SameHold pool.settle :=
  pool.sameHold_resumeMany pool.waiting

theorem sameHold_dropPages : pool.SameHold pool.dropPages := by
  unfold dropPages
  generalize pool.openPages = pages
  induction pages generalizing pool with
  | nil => exact .refl pool
  | cons page rest ih =>
    have erased : pool.SameHold { pool with openPages := pool.openPages.erase page } :=
      ⟨rfl, rfl, .refl _⟩
    exact (erased.trans (sameHold_giveBack _)).trans (ih _)

theorem sameHold_release (page : Page) (error : Option String)
    : pool.SameHold (pool.release setup page error) := by
  unfold release
  split
  · have erased : pool.SameHold { pool with openPages := pool.openPages.erase page } :=
      ⟨rfl, rfl, .refl _⟩
    refine (erased.trans (sameHold_giveBack _)).trans ?_
    generalize giveBack { pool with openPages := pool.openPages.erase page } = left
    have quiet := left.engine.quiet_closeContext setup.conduct page
    cases error <;> dsimp only <;> split <;> exact ⟨rfl, rfl, quiet⟩
  · exact .refl pool

end Pages

--------------------------------------------------------------------------------
-- Launching and closing
--------------------------------------------------------------------------------

/-- What launching does to what the pool holds. -/
inductive Launching (setup : Setup) (pool next : Pool) : Option Failure → Prop where
  | needless (alive : pool.isAlive = true) (same : pool.SameHold next)
      : Launching setup pool next none
  | failed (gone : pool.isAlive = false)
      (fails : setup.conduct.fails pool.engine.launches = true)
      (driver : next.driver = pool.driver) (browser : next.browser = pool.browser)
      (drivers : next.engine.drivers = pool.engine.drivers ++ [setup.conduct.stopsDriver])
      (browsers : next.engine.browsers = pool.engine.browsers)
      : Launching setup pool next (some .launchFailed)
  | launched (gone : pool.isAlive = false)
      (succeeds : setup.conduct.fails pool.engine.launches = false)
      (driver : next.driver = some pool.engine.drivers.length)
      (browser : next.browser = some pool.engine.browsers.length)
      (drivers : next.engine.drivers = pool.engine.drivers ++ [false])
      (browsers : next.engine.browsers = pool.engine.browsers ++ [({} : Instance)])
      : Launching setup pool next none

theorem launching_launchIfNeeded (setup : Setup) (viewport : Viewport) (pool : Pool)
    : Launching setup pool (pool.launchIfNeeded setup viewport).1
        (pool.launchIfNeeded setup viewport).2 := by
  cases alive : pool.isAlive with
  | true =>
    have same : pool.launchIfNeeded setup viewport = ({ pool with viewport := viewport }, none) :=
      if_pos alive
    rw [same]
    exact .needless alive ⟨rfl, rfl, .refl _⟩
  | false =>
    have gone : ¬ ({ pool with viewport := some viewport } : Pool).isAlive = true := by
      simpa [isAlive] using alive
    unfold launchIfNeeded Engine.launch
    dsimp only
    rw [if_neg gone]
    cases fails : setup.conduct.fails pool.engine.launches with
    | true =>
      cases stops : setup.conduct.stopsDriver <;>
        simp only [note, fails, ↓reduceIte] <;>
        exact .failed alive fails rfl rfl (by simp [stops, Engine.stopDriver]) rfl
    | false =>
      simp only [note, fails]
      exact .launched alive fails rfl rfl rfl rfl

section Holding

variable {setup : Setup} {pool next : Pool} {failure : Option Failure}

/-- A driver that is started and stopped at once changes nothing. -/
theorem Kept.failed (kept : pool.Kept) (driver : next.driver = pool.driver)
    (browser : next.browser = pool.browser)
    (drivers : next.engine.drivers = pool.engine.drivers ++ [true])
    (browsers : next.engine.browsers = pool.engine.browsers)
    : pool.Leads false next := by
  have running (other : Nat)
      : next.engine.drivers[other]? = some false ↔ pool.engine.drivers[other]? = some false := by
    rw [drivers, getElem?_concat_eq_some_iff]
    simp
  refine { kept := { running := ?_, connected := ?_ }, stopped := ?_ }
  · intro other held
    exact (running other).mpr (kept.running other (driver ▸ held))
  · intro other connected
    rw [browser]
    exact kept.connected other (by simpa [Engine.isConnected, browsers] using connected)
  · simp [DriversStopped, running, driver]

/-- Whoever takes up a new driver and a new browser leaves behind the driver held before. -/
theorem Kept.launched (kept : pool.Kept) (gone : pool.isAlive = false)
    (driver : next.driver = some pool.engine.drivers.length)
    (browser : next.browser = some pool.engine.browsers.length)
    (drivers : next.engine.drivers = pool.engine.drivers ++ [false])
    (browsers : next.engine.browsers = pool.engine.browsers ++ [({} : Instance)])
    : pool.Leads pool.driver.isSome next := by
  have running (other : Nat)
      : next.engine.drivers[other]? = some false
        ↔ pool.engine.drivers[other]? = some false ∨ other = pool.engine.drivers.length := by
    rw [drivers, getElem?_concat_eq_some_iff]
    simp
  refine { kept := { running := ?_, connected := ?_ }, stopped := ⟨?_, ?_⟩ }
  · intro other held
    obtain rfl : pool.engine.drivers.length = other := by simpa [driver] using held
    exact (running _).mpr (.inr rfl)
  · intro other connected
    obtain ⟨it, found, connected⟩ := Engine.isConnected_iff.mp connected
    rw [browsers, getElem?_concat_eq_some_iff] at found
    rcases found with old | ⟨same, -⟩
    · -- Whatever had a connection before was held, but what was held had none.
      have before := Engine.isConnected_iff.mpr ⟨it, old, connected⟩
      simp [isAlive, kept.connected other before, before] at gone
    · rw [browser, same]
  · intro stopped
    have none (other : Nat) : pool.engine.drivers[other]? ≠ some false := by
      intro ran
      have held := stopped other ((running other).mpr (.inl ran))
      have within := (List.getElem?_eq_some_iff.mp ran).1
      rw [driver, Option.some.injEq] at held
      omega
    refine ⟨fun other ran => absurd ran (none other), ?_⟩
    cases held : pool.driver with
    | none => rfl
    | some other => exact absurd (kept.running other held) (none other)
  · rintro ⟨stopped, nothing⟩ other ran
    rcases (running other).mp ran with old | rfl
    · simp [stopped other old] at nothing
    · exact driver

/-- A launch that fails leaves what is held as it was; one that goes through leaves a driver behind
if there is one already.
-/
theorem Launching.leads (stops : setup.conduct.stopsDriver = true) (kept : pool.Kept)
    (launching : Launching setup pool next failure)
    : pool.Leads (pool.replacesLost setup) next := by
  cases launching with
  | needless alive same =>
    have needless : pool.replacesLost setup = false := by simp [replacesLost, alive]
    rw [needless]
    exact kept.same same
  | failed gone fails driver browser drivers browsers =>
    have futile : pool.replacesLost setup = false := by simp [replacesLost, fails]
    rw [futile]
    exact kept.failed driver browser (stops ▸ drivers) browsers
  | launched gone succeeds driver browser drivers browsers =>
    have lost : pool.replacesLost setup = pool.driver.isSome := by
      simp [replacesLost, gone, succeeds]
    rw [lost]
    exact kept.launched gone driver browser drivers browsers

theorem Kept.launchIfNeeded (stops : setup.conduct.stopsDriver = true) (kept : pool.Kept)
    (viewport : Viewport)
    : pool.Leads (pool.replacesLost setup) (pool.launchIfNeeded setup viewport).1 :=
  (launching_launchIfNeeded setup viewport pool).leads stops kept

/-- Whoever asks for a page launches the browser first and then leaves what is held as it is. -/
theorem Kept.acquire (stops : setup.conduct.stopsDriver = true) (kept : pool.Kept)
    (viewport : Option Viewport) (userAgent : Option String) (headers : List (String × String))
    : pool.Leads (pool.replacesLost setup) (pool.acquire setup viewport userAgent headers).1 := by
  have launched := kept.launchIfNeeded stops (viewport.getD (pool.usualViewport setup))
  refine launched.same ?_
  unfold Pool.acquire
  dsimp only
  split
  · rename_i found
    rw [found]
    exact ⟨rfl, rfl, .refl _⟩
  · rename_i ready found
    rw [found]
    split
    · exact ⟨rfl, rfl, .refl _⟩
    · have taken : ready.SameHold { ready with free := ready.free - 1 } := ⟨rfl, rfl, .refl _⟩
      have opened (profile : Profile) :=
        sameHold_openPage { ready with free := ready.free - 1 } profile
      split <;> rename_i found <;> rw [← congrArg Prod.fst found]
      · exact taken.trans (opened _)
      · exact taken.trans (opened _)

/-- What closing does to what the pool holds. -/
structure Closing (pool next : Pool) : Prop where
  driver : next.driver = none
  browser : next.browser = none
  drivers
    : next.engine.drivers
      = pool.driver.elim pool.engine.drivers (pool.engine.drivers.set · true)
  connected
    : ∀ browser,
        next.engine.isConnected browser = true
        → pool.engine.isConnected browser = true ∧ pool.browser ≠ some browser

theorem sameHold_closeBrowser (setup : Setup) (pool : Pool) (browser : Nat)
    : pool.SameHold (pool.closeBrowser setup browser) := by
  have quiet := pool.engine.quiet_closeBrowser setup.conduct browser
  unfold closeBrowser
  dsimp only
  split <;> exact ⟨rfl, rfl, quiet⟩

theorem isConnected_closeBrowser (setup : Setup) (pool : Pool) (browser : Nat)
    : (pool.closeBrowser setup browser).engine.isConnected browser = false := by
  have closed := pool.engine.isConnected_closeBrowser setup.conduct browser
  unfold closeBrowser
  dsimp only
  split <;> exact closed

theorem closing_close (setup : Setup) (pool : Pool) : pool.Closing (pool.close setup) := by
  have emptied := pool.sameHold_dropPages
  unfold close
  cases held : pool.browser with
  | none =>
    have connected (browser : Nat)
        (connected : pool.dropPages.engine.isConnected browser = true)
        : pool.engine.isConnected browser = true ∧ pool.browser ≠ some browser :=
      ⟨emptied.quiet.connected browser connected, by simp [held]⟩
    cases driven : pool.driver with
    | none => exact ⟨rfl, rfl, by rw [driven]; exact emptied.quiet.drivers, connected⟩
    | some driver =>
      refine ⟨rfl, rfl, ?_, connected⟩
      rw [driven, ← emptied.quiet.drivers]
      rfl
  | some browser =>
    let left : Pool := { pool.dropPages with browser := none, driver := none }
    have closed := sameHold_closeBrowser setup left browser
    have drivers : (left.closeBrowser setup browser).engine.drivers = pool.engine.drivers :=
      closed.quiet.drivers.trans emptied.quiet.drivers
    have connected (other : Nat)
        (connected : (left.closeBrowser setup browser).engine.isConnected other = true)
        : pool.engine.isConnected other = true ∧ pool.browser ≠ some other := by
      refine ⟨emptied.quiet.connected other (closed.quiet.connected other connected), ?_⟩
      rintro same
      obtain rfl : browser = other := by simpa [held] using same
      simp [isConnected_closeBrowser] at connected
    cases driven : pool.driver with
    | none => exact ⟨closed.driver, closed.browser, by rw [driven]; exact drivers, connected⟩
    | some driver =>
      refine ⟨closed.driver, closed.browser, ?_, connected⟩
      rw [driven, ← drivers]
      rfl

/-- Closing leaves nothing behind. -/
theorem Kept.close (setup : Setup) (kept : pool.Kept) : pool.Leads false (pool.close setup) := by
  obtain ⟨driver, browser, drivers, connected⟩ := closing_close setup pool
  have running (other : Nat)
      : (pool.close setup).engine.drivers[other]? = some false
        ↔ pool.engine.drivers[other]? = some false ∧ pool.driver ≠ some other := by
    rw [drivers]
    cases pool.driver with
    | none => simp
    | some held => grind
  refine { kept := { running := ?_, connected := ?_ }, stopped := ?_ }
  · intro other held
    simp [driver] at held
  · intro other found
    obtain ⟨before, notHeld⟩ := connected other found
    exact absurd (kept.connected other before) notHeld
  · simp only [DriversStopped, running, driver, and_true]
    refine forall_congr' fun other => ⟨fun stopped ran => ?_, fun stopped ran => ?_⟩
    · by_contra other
      cases stopped ⟨ran, other⟩
    · exact absurd (stopped ran.1) ran.2

theorem Kept.shutdown (setup : Setup) (kept : pool.Kept) (force : Bool)
    : pool.Leads false (pool.shutdown setup force) := by
  unfold Pool.shutdown
  split
  · exact kept.note .browserKeptAlive
  · exact kept.close setup

/-- A restart has closed the browser before it launches one, and nobody who goes on in between takes
anything up. -/
theorem Kept.restart (stops : setup.conduct.stopsDriver = true) (kept : pool.Kept)
    (viewport : Option Viewport) (turns : Nat)
    : pool.Leads false (pool.restart setup viewport turns).1 := by
  have noted := kept.note .browserRestarting
  have torn : pool.Leads false ((pool.tearDown setup).resumeMany turns) :=
    (noted.trans (noted.kept.close setup)).same (sameHold_resumeMany _ turns)
  have driver : ((pool.tearDown setup).resumeMany turns).driver = none :=
    (sameHold_resumeMany (pool.tearDown setup) turns).driver.trans
      (closing_close setup (pool.note .browserRestarting)).driver
  have nothing : ((pool.tearDown setup).resumeMany turns).replacesLost setup = false := by
    simp [replacesLost, driver]
  have launched :=
    torn.kept.launchIfNeeded stops
      (viewport.getD (((pool.tearDown setup).resumeMany turns).usualViewport setup))
  rw [nothing] at launched
  exact torn.trans launched

end Holding

end Pool

--------------------------------------------------------------------------------
-- Runs
--------------------------------------------------------------------------------

mutual
/-- Does an operation, or one inside it, replace a browser that has lost its connection? -/
def Operation.replacesLost (setup : Setup) (pool : Pool) : Operation → Bool
  | .launch _ => pool.replacesLost setup
  | .acquire .. => pool.replacesLost setup
  | .session viewport body _ =>
    pool.replacesLost setup
    || match pool.launchIfNeeded setup viewport with
      | (_, some _) => false
      | (entered, none) => Operation.anyReplacesLost setup entered body
  | _ => false

/-- Does one of these operations replace a browser that has lost its connection? -/
def Operation.anyReplacesLost (setup : Setup) (pool : Pool) : List Operation → Bool
  | [] => false
  | operation :: rest =>
    operation.replacesLost setup pool
    || Operation.anyReplacesLost setup (operation.run setup pool).2 rest
end

/-- What is seen of a run that leads from one pool to another: at every report the pool holds what
runs, and what is left behind at one of them is there at the end. -/
structure Accounted (pool : Pool) (lost : Bool) (run : List Report × Pool) : Prop where
  leads : pool.Leads lost run.2
  kept : ∀ report ∈ run.1, report.pool.Kept
  before : run.2.DriversStopped → ∀ report ∈ run.1, report.pool.DriversStopped
  last
    : pool.DriversStopped
      → (∀ report ∈ run.1, report.pool.DriversStopped)
      → run.2.DriversStopped

section Runs

variable {setup : Setup} {pool middle next : Pool} {lost later : Bool}

/-- One report, of a pool that is the one at the end but for its log. -/
theorem Pool.Leads.accounted {report : Report} (leads : pool.Leads lost report.pool)
    (same : report.pool.SameHold next)
    : Accounted pool lost ([report], next) where
  leads := leads.same same
  kept other member := by
    rw [List.mem_singleton.mp member]
    exact leads.kept
  before stopped other member := by
    rw [List.mem_singleton.mp member]
    exact same.driversStopped_iff.mp stopped
  last _ stopped := same.driversStopped_iff.mpr (stopped report (List.mem_singleton_self _))

theorem Pool.Leads.report (leads : pool.Leads lost next) (answer : Answer)
    : Accounted pool lost (next.report answer) := by
  have settled
      : pool.Leads lost (Report.ended answer next.settle.log next.settle).pool :=
    leads.same next.sameHold_settle
  exact settled.accounted ⟨rfl, rfl, .refl _⟩

theorem Accounted.trans {first others : List Report} (one : Accounted pool lost (first, middle))
    (two : Accounted middle later (others, next))
    : Accounted pool (lost || later) (first ++ others, next) where
  leads := one.leads.trans two.leads
  kept report member := (List.mem_append.mp member).elim (one.kept report) (two.kept report)
  before stopped report member :=
    (List.mem_append.mp member).elim
      (one.before (two.leads.stopped.mp stopped).1 report) (two.before stopped report)
  last stopped seen :=
    two.last
      (one.last stopped fun report member => seen report (List.mem_append_left _ member))
      fun report member => seen report (List.mem_append_right _ member)

mutual
/-- An operation leaves a driver behind if it replaces a browser that has lost its connection, and
nothing otherwise, by recursion on the operation. -/
theorem Operation.accounted_run {pool : Pool} (stops : setup.conduct.stopsDriver = true)
    (kept : pool.Kept) (operation : Operation)
    : Accounted pool (operation.replacesLost setup pool) (operation.run setup pool) := by
  cases operation with
  | launch viewport => exact (kept.launchIfNeeded stops viewport).report _
  | restart viewport => exact (kept.restart stops viewport _).report _
  | shutdown force => exact (kept.shutdown setup force).report _
  | acquire viewport userAgent headers trap =>
    have trapped : pool.Leads false { pool with engine := { pool.engine with trap := trap } } :=
      kept.same ⟨rfl, rfl, rfl, fun _ connected => connected⟩
    have acquired := trapped.trans (trapped.kept.acquire stops viewport userAgent headers)
    rw [Operation.run]
    dsimp only
    split <;> rename_i found <;> rw [found] at acquired <;> exact acquired.report _
  | release number error =>
    cases number with
    | none => exact kept.leads.report _
    | some number =>
      rw [Operation.run]
      split
      · exact (kept.same (pool.sameHold_release setup _ error)).report _
      · exact kept.leads.report _
  | disconnect =>
    have cut : pool.SameHold { pool with engine := pool.engine.disconnectLatest } :=
      ⟨rfl, rfl, pool.engine.quiet_disconnectLatest⟩
    exact (kept.same cut).report _
  | session viewport body error =>
    have launched := kept.launchIfNeeded stops viewport
    rw [Operation.run, Operation.replacesLost]
    rcases found : pool.launchIfNeeded setup viewport with ⟨entered, failure⟩
    rw [found] at launched
    cases failure with
    | some failure => exact (launched.trans (launched.kept.close setup)).report _
    | none =>
      have first : Accounted pool (pool.replacesLost setup) ([.entered entered], entered) :=
        launched.accounted (.refl entered)
      have inside := Operation.accounted_runAll stops launched.kept body
      have closed := (inside.leads.kept.close setup).report (.ofFailure? error)
      have whole := first.trans (inside.trans closed)
      rw [Bool.or_false] at whole
      exact whole

/-- Operations leave a driver behind if one of them replaces a browser that has lost its connection,
and nothing otherwise. -/
theorem Operation.accounted_runAll {pool : Pool} (stops : setup.conduct.stopsDriver = true)
    (kept : pool.Kept) (operations : List Operation)
    : Accounted pool (Operation.anyReplacesLost setup pool operations)
        (Operation.runAll setup pool operations) := by
  cases operations with
  | nil =>
    exact {
      leads := kept.leads
      kept := fun _ member => absurd member List.not_mem_nil
      before := fun _ _ member => absurd member List.not_mem_nil
      last := fun stopped _ => stopped }
  | cons operation rest =>
    have first := Operation.accounted_run stops kept operation
    exact first.trans (Operation.accounted_runAll stops first.leads.kept rest)
end

end Runs

--------------------------------------------------------------------------------
-- What is left behind
--------------------------------------------------------------------------------

namespace Pool

/-- A pool that has launched nothing holds nothing, and nothing runs. -/
theorem kept_fresh (config : Config) : (Pool.fresh config {} []).Kept where
  running _ held := by cases held
  connected _ connected := by cases connected

theorem driversStopped_fresh (config : Config) : (Pool.fresh config {} []).DriversStopped := by
  intro driver ran
  cases ran

/-- A pool without driver has left none behind if none runs. -/
theorem driversStopped_iff_of_driver_eq_none {pool : Pool} (nothing : pool.driver = none)
    : pool.DriversStopped ↔ ∀ stopped ∈ pool.engine.drivers, stopped = true := by
  simp only [DriversStopped, nothing]
  constructor
  · intro stopped state member
    obtain ⟨driver, found⟩ := List.mem_iff_getElem?.mp member
    cases state with
    | true => rfl
    | false => cases stopped driver found
  · intro stopped driver ran
    cases stopped false (List.mem_of_getElem? ran)

end Pool

section Behind

variable {setup : Setup} (stops : setup.conduct.stopsDriver = true) (operations : List Operation)

include stops

/-- A driver is left behind by a run exactly if it is at the end of the run. -/
theorem Operation.driversStopped_runAll_iff
    : (Operation.runAll setup (Pool.fresh setup.config {} []) operations).2.DriversStopped
      ↔ Operation.anyReplacesLost setup (Pool.fresh setup.config {} []) operations = false := by
  have accounted := Operation.accounted_runAll stops (Pool.kept_fresh setup.config) operations
  rw [accounted.leads.stopped]
  exact and_iff_right (Pool.driversStopped_fresh setup.config)

theorem Operation.forall_driversStopped_iff
    : (∀ report ∈ (Operation.runAll setup (Pool.fresh setup.config {} []) operations).1,
        report.pool.DriversStopped)
      ↔ Operation.anyReplacesLost setup (Pool.fresh setup.config {} []) operations = false := by
  have accounted := Operation.accounted_runAll stops (Pool.kept_fresh setup.config) operations
  rw [← Operation.driversStopped_runAll_iff stops]
  exact ⟨accounted.last (Pool.driversStopped_fresh setup.config), accounted.before⟩

end Behind

/-- A launch takes the place of a browser that has lost its connection: the driver of that browser
runs on, also after the new one has been shut down. -/
theorem not_driversStopped_relaunch
    : let setup : Setup := { config := {}, conduct := {} }
      let launch := Operation.launch ⟨1024, 768⟩
      let run :=
        Operation.runAll setup (Pool.fresh setup.config {} []) [launch, .disconnect, launch]
      setup.conduct.stopsDriver = true
      ∧ (¬ ∀ report ∈ run.1, report.pool.DriversStopped)
      ∧ (Operation.run setup run.2 (.shutdown true)).2.engine.drivers = [false, true] := by
  intro setup launch run
  refine ⟨rfl, fun stopped => ?_, by decide +kernel⟩
  have lost
      : Operation.anyReplacesLost setup (Pool.fresh setup.config {} [])
          [launch, .disconnect, launch] = true := by
    decide +kernel
  have kept := (Operation.forall_driversStopped_iff rfl _).mp stopped
  rw [lost] at kept
  cases kept

/-- At every report all browsers are gone but the one that the pool holds. All drivers are stopped
but the one it holds exactly if no launch replaces a browser that has lost its connection, that is,
if a restart or a shutdown comes before it; and exactly then no driver runs after a shutdown that
cannot be declined.
-/
theorem driversStopped_iff_runAll (setup : Setup) (stops : setup.conduct.stopsDriver = true)
    (operations : List Operation)
    : let fresh := Pool.fresh setup.config {} []
      let run := Operation.runAll setup fresh operations
      (∀ report ∈ run.1, report.pool.BrowsersGone)
      ∧ ((∀ report ∈ run.1, report.pool.DriversStopped)
          ↔ Operation.anyReplacesLost setup fresh operations = false)
      ∧ ((∀ stopped ∈ (Operation.run setup run.2 (.shutdown true)).2.engine.drivers,
            stopped = true)
          ↔ Operation.anyReplacesLost setup fresh operations = false) := by
  intro fresh run
  have accounted := Operation.accounted_runAll stops (Pool.kept_fresh setup.config) operations
  refine ⟨fun report member => (accounted.kept report member).browsersGone, ?_, ?_⟩
  · exact Operation.forall_driversStopped_iff stops operations
  · have shut := Operation.accounted_run stops accounted.leads.kept (.shutdown true)
    have nothing : (Operation.run setup run.2 (.shutdown true)).2.driver = none := by
      have forced : run.2.shutdown setup true = run.2.close setup := by simp [Pool.shutdown]
      have settled := (run.2.shutdown setup true).sameHold_settle
      exact settled.driver.trans ((congrArg Pool.driver forced).trans
        (Pool.closing_close setup run.2).driver)
    rw [← Pool.driversStopped_iff_of_driver_eq_none nothing, shut.leads.stopped,
      Operation.driversStopped_runAll_iff stops]
    exact and_iff_left rfl

/-- The second launch fails, and closing what has lost its connection fails. -/
def stumbling : Setup where
  config := { keepAlive := true }
  conduct := { fails := (· == 1), strictClose := true }

/-- Connections are lost before a restart and inside a session, and each time a restart comes before
anything else launches a browser. -/
def restarts : List Operation :=
  [.acquire none none [] none, .disconnect, .restart none, .restart none,
    .session ⟨800, 600⟩ [.disconnect, .release (some 0) none, .restart none] none,
    .launch ⟨800, 600⟩, .shutdown false]

theorem driversStopped_iff_runAll_restarts
    : stumbling.conduct.stopsDriver = true
      ∧ (∀ report ∈ (Operation.runAll stumbling (Pool.fresh stumbling.config {} []) restarts).1,
          report.pool.BrowsersGone ∧ report.pool.DriversStopped)
      ∧ (Operation.runAll stumbling (Pool.fresh stumbling.config {} []) restarts).2.engine.drivers
        = [true, true, true, true, false]
      ∧ ∀ stopped ∈
          (Operation.run stumbling
            (Operation.runAll stumbling (Pool.fresh stumbling.config {} []) restarts).2
            (.shutdown true)).2.engine.drivers,
          stopped = true := by
  obtain ⟨gone, stopped, shut⟩ := driversStopped_iff_runAll stumbling rfl restarts
  have none
      : Operation.anyReplacesLost stumbling (Pool.fresh stumbling.config {} []) restarts
        = false := by
    decide +kernel
  refine ⟨rfl, fun report member => ?_, by decide +kernel, shut.mpr none⟩
  exact ⟨gone report member, stopped.mpr none report member⟩

end CriticalCss.Browser
