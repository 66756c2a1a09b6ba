import CriticalCss.Proofs.Browser.Waiting

/-! Pages on loan. A page that is asked for takes up a free slot of a pool whose browser lives, and
given back it leaves the pool as if it had never been opened; so does a page that could not be
opened. What a pool has started since some moment is stopped and closed when the pool is, as long as
it never launches a browser beside another one.
-/

namespace CriticalCss.Browser

namespace Pool

--------------------------------------------------------------------------------
-- Use
--------------------------------------------------------------------------------

/-- The same slots are free, the same pages are open and the same calls wait. -/
structure SameUse (pool other : Pool) : Prop where
  free : other.free = pool.free
  queue : other.queue = pool.queue
  woken : other.woken = pool.woken
  openPages : other.openPages.Perm pool.openPages

/-- A pool has been used, and what has been taken has been given back. -/
structure Served (pool other : Pool) : Prop where
  use : pool.SameUse other
  hold : pool.SameHold other

/-- A page of a pool is on loan. -/
structure Lent (pool : Pool) (page : Page) (next : Pool) : Prop where
  unqueued : pool.queue = [] ∧ next.queue = []
  unwoken : pool.woken = [] ∧ next.woken = []
  free : next.free + 1 = pool.free
  openPages : next.openPages.Perm (page :: pool.openPages)
  hold : pool.SameHold next

section Use

variable {pool middle next : Pool} {page : Page}

theorem SameSlots.sameUse (same : pool.SameSlots next) : pool.SameUse next :=
  ⟨same.free, same.queue, same.woken, same.openPages ▸ List.Perm.refl _⟩

theorem SameUse.refl (pool : Pool) : pool.SameUse pool :=
  ⟨rfl, rfl, rfl, List.Perm.refl _⟩

theorem SameUse.trans (first : pool.SameUse middle) (second : middle.SameUse next)
    : pool.SameUse next where
  free := second.free.trans first.free
  queue := second.queue.trans first.queue
  woken := second.woken.trans first.woken
  openPages := second.openPages.trans first.openPages

theorem Served.refl (pool : Pool) : pool.Served pool :=
  ⟨.refl pool, .refl pool⟩

theorem Served.trans (first : pool.Served middle) (second : middle.Served next)
    : pool.Served next :=
  ⟨first.use.trans second.use, first.hold.trans second.hold⟩

theorem Lent.same (lent : pool.Lent page middle) (slots : middle.SameSlots next)
    (hold : middle.SameHold next)
    : pool.Lent page next where
  unqueued := ⟨lent.unqueued.1, slots.queue.trans lent.unqueued.2⟩
  unwoken := ⟨lent.unwoken.1, slots.woken.trans lent.unwoken.2⟩
  free := slots.free ▸ lent.free
  openPages := slots.openPages ▸ lent.openPages
  hold := lent.hold.trans hold

theorem Served.lent (served : pool.Served middle) (lent : middle.Lent page next)
    : pool.Lent page next where
  unqueued := ⟨served.use.queue.symm.trans lent.unqueued.1, lent.unqueued.2⟩
  unwoken := ⟨served.use.woken.symm.trans lent.unwoken.1, lent.unwoken.2⟩
  free := lent.free.trans served.use.free
  openPages := lent.openPages.trans (served.use.openPages.cons page)
  hold := served.hold.trans lent.hold

theorem giveBack_eq (unqueued : pool.queue = [])
    : pool.giveBack = { pool with free := pool.free + 1 } := by
  have unqueued : { pool with free := pool.free + 1 }.queue = [] := unqueued
  rw [giveBack, wakeNext, unqueued]

/-- Giving back as many pages does the same to the slots and to who waits for them.
Witness: induction on the pages.
-/
theorem foldl_giveBack_same {pages others : List Page} (length : others.length = pages.length)
    (free : next.free = pool.free) (queue : next.queue = pool.queue)
    (woken : next.woken = pool.woken)
    : let drop := fun (pool : Pool) (page : Page) =>
        giveBack { pool with openPages := pool.openPages.erase page }
      (others.foldl drop next).free = (pages.foldl drop pool).free
      ∧ (others.foldl drop next).queue = (pages.foldl drop pool).queue
      ∧ (others.foldl drop next).woken = (pages.foldl drop pool).woken := by
  intro drop
  induction pages generalizing others pool next with
  | nil =>
    obtain rfl := List.length_eq_zero_iff.mp length
    exact ⟨free, queue, woken⟩
  | cons page rest ih =>
    obtain ⟨other, more, rfl⟩ := List.exists_cons_of_length_eq_add_one length
    have length : more.length = rest.length := Nat.succ.inj length
    have first
        : (drop next other).free = (drop pool page).free
          ∧ (drop next other).queue = (drop pool page).queue
          ∧ (drop next other).woken = (drop pool page).woken := by
      simp only [drop, giveBack, wakeNext, free, queue, woken]
      cases pool.queue <;> exact ⟨rfl, rfl, rfl⟩
    rw [List.foldl_cons, List.foldl_cons]
    exact ih length first.1 first.2.1 first.2.2

/-- Taking all pages back does the same to pools in the same use. -/
theorem SameUse.dropPages (same : pool.SameUse next)
    : pool.dropPages.SameUse next.dropPages := by
  obtain ⟨free, queue, woken⟩ :=
    foldl_giveBack_same same.openPages.length_eq same.free same.queue same.woken
  refine ⟨free, queue, woken, ?_⟩
  rw [openPages_dropPages, openPages_dropPages]

--------------------------------------------------------------------------------
-- Lending
--------------------------------------------------------------------------------

variable (setup : Setup)

/-- What comes of asking for a page on a free slot: the page is on loan, or the slot has been given
back. -/
inductive Lending (pool : Pool) : Pool × Except Failure Page → Prop where
  | lent {next : Pool} {page : Page} (lent : pool.Lent page next) : Lending pool (next, .ok page)
  | refused {next : Pool} {failure : Failure} (served : pool.Served next)
      : Lending pool (next, .error failure)

theorem lending_openPage (unqueued : pool.queue = []) (unwoken : pool.woken = [])
    (vacant : pool.free ≠ 0) (profile : Profile)
    : pool.Lending ({ pool with free := pool.free - 1 }.openPage profile) := by
  have taken : pool.SameHold { pool with free := pool.free - 1 } := ⟨rfl, rfl, .refl _⟩
  have hold := taken.trans (sameHold_openPage { pool with free := pool.free - 1 } profile)
  have restored : pool.free - 1 + 1 = pool.free := by omega
  have back {other : Pool} (same : { pool with free := pool.free - 1 }.SameSlots other)
      : pool.SameUse other.giveBack := by
    rw [giveBack_eq (same.queue.trans unqueued)]
    exact ⟨(congrArg (· + 1) same.free).trans restored, same.queue, same.woken,
      same.openPages ▸ List.Perm.refl _⟩
  rcases opened : { pool with free := pool.free - 1 }.openPage profile with ⟨next, ended⟩
  rw [opened] at hold ⊢
  unfold openPage at opened
  split at opened
  · cases opened
    refine .refused ⟨?_, hold⟩
    exact back ⟨rfl, rfl, rfl, rfl⟩
  · split at opened
    · cases opened
      refine .refused ⟨?_, hold⟩
      exact back ⟨rfl, rfl, rfl, rfl⟩
    · cases opened
      exact .lent ⟨⟨unqueued, unqueued⟩, ⟨unwoken, unwoken⟩, restored,
        List.perm_append_singleton _ _, hold⟩

/-- Launching is needless for a pool whose browser lives. -/
theorem served_launchIfNeeded (alive : pool.isAlive = true) (viewport : Viewport)
    : pool.Served (pool.launchIfNeeded setup viewport).1
      ∧ (pool.launchIfNeeded setup viewport).2 = none := by
  have same := sameSlots_launchIfNeeded setup viewport pool
  have launching := launching_launchIfNeeded setup viewport pool
  generalize pool.launchIfNeeded setup viewport = launched at same launching
  rcases launched with ⟨next, failure⟩
  cases launching with
  | needless _ hold => exact ⟨⟨same.sameUse, hold⟩, rfl⟩
  | failed gone => cases gone.symm.trans alive
  | launched gone => cases gone.symm.trans alive

/-- The browser lives behind a launch that goes through. -/
theorem isAlive_of_launchIfNeeded {viewport : Viewport}
    (launched : pool.launchIfNeeded setup viewport = (next, none))
    : next.isAlive = true := by
  unfold launchIfNeeded at launched
  dsimp only at launched
  split at launched
  · rename_i alive
    cases launched
    exact alive
  · split at launched
    · rename_i engine driver browser started
      cases launched
      unfold Engine.launch at started
      dsimp only at started
      split at started
      · cases started
      · cases started
        simp [isAlive, Engine.isConnected, note]
    · cases launched

/-- Whoever asks a pool whose browser lives gets a page on loan, or leaves the pool as it was. -/
theorem lending_acquire {viewport : Option Viewport} {userAgent : Option String}
    {headers : List (String × String)} {found : Acquisition} (alive : pool.isAlive = true)
    (got : pool.acquire setup viewport userAgent headers = (next, found))
    : (∀ page, found = .page page → pool.Lent page next)
      ∧ (∀ failure, found = .failed failure → pool.Served next) := by
  obtain ⟨served, none⟩ :=
    served_launchIfNeeded setup alive (viewport.getD (pool.usualViewport setup))
  unfold acquire at got
  dsimp only at got
  rcases launched : pool.launchIfNeeded setup (viewport.getD (pool.usualViewport setup))
    with ⟨ready, failure⟩
  rw [launched] at served none got
  obtain rfl : failure = .none := none
  dsimp only at got
  split at got
  · cases got
    constructor <;> rintro _ ⟨⟩
  · rename_i vacant
    have vacant : (¬ ready.free = 0 ∧ ready.queue = []) ∧ ready.woken = [] := by
      simpa [isFull] using vacant
    have lending := lending_openPage vacant.1.2 vacant.2 vacant.1.1
      (profileFor setup (viewport.getD (pool.usualViewport setup)) userAgent headers)
    split at got <;> rename_i opened <;> rw [opened] at lending <;> cases got <;> cases lending
    · rename_i lent
      constructor <;> rintro _ ⟨⟩
      exact served.lent lent
    · rename_i returned
      constructor <;> rintro _ ⟨⟩
      exact served.trans returned

/-- A page on loan that is given back has left the pool as it was. -/
theorem Lent.release (lent : pool.Lent page middle) (error : Option String)
    : pool.Served (middle.release setup page error) where
  use := by
    have isOpen : page ∈ middle.openPages := lent.openPages.mem_iff.mpr List.mem_cons_self
    have left := (lent.openPages.erase page).trans (by rw [List.erase_cons_head])
    have same : { middle with
        openPages := middle.openPages.erase page
        free := middle.free + 1 }.SameSlots (middle.release setup page error) := by
      unfold Pool.release
      rw [if_pos (by simpa using isOpen), giveBack_eq (by exact lent.unqueued.2)]
      cases error <;> dsimp only <;> split <;> exact ⟨rfl, rfl, rfl, rfl⟩
    exact ⟨same.free.trans lent.free, same.queue.trans (lent.unqueued.2.trans lent.unqueued.1.symm),
      same.woken.trans (lent.unwoken.2.trans lent.unwoken.1.symm), same.openPages ▸ left⟩
  hold := lent.hold.trans (sameHold_release setup middle page error)

/-- A restart during which nobody goes on takes all pages back that are open, and does nothing else
to the slots. -/
theorem SameUse.restart (same : pool.SameUse middle) (viewport : Option Viewport)
    : pool.dropPages.SameUse (middle.restart setup viewport 0).1 := by
  have noted : middle.SameUse (middle.note .browserRestarting) :=
    SameSlots.sameUse ⟨rfl, rfl, rfl, rfl⟩
  have torn : (middle.note .browserRestarting).dropPages.SameSlots (middle.tearDown setup) :=
    sameSlots_close setup
  exact ((same.trans noted).dropPages.trans torn.sameUse).trans
    (sameSlots_launchIfNeeded setup _ _).sameUse

end Use

--------------------------------------------------------------------------------
-- What has been started
--------------------------------------------------------------------------------

/-- Of what has been started since some moment, only what a pool holds runs. Nothing is said of
drivers if they are not stopped when their browser cannot be launched. -/
structure Owns (setup : Setup) (since : Engine) (pool : Pool) : Prop where
  driver
    : setup.conduct.stopsDriver = true → ∀ driver, since.drivers.length ≤ driver →
        pool.engine.drivers[driver]? = some false → pool.driver = some driver
  browser
    : ∀ browser, since.browsers.length ≤ browser → pool.engine.isConnected browser = true →
        pool.browser = some browser

/-- A pool holds nothing. -/
def IsEmpty (pool : Pool) : Prop :=
  pool.driver = none ∧ pool.browser = none

section Started

variable {since : Engine} {setup : Setup} {pool next : Pool}

/-- A pool that has started nothing holds what runs. -/
theorem owns_fresh (setup : Setup) (engine : Engine) (log : List Event)
    : (fresh setup.config engine log).Owns setup engine where
  driver _ driver new ran := by
    have := (List.getElem?_eq_some_iff.mp ran).1
    simp only [fresh] at this
    omega
  browser browser new connected := by
    obtain ⟨it, found, -⟩ := Engine.isConnected_iff.mp connected
    have := (List.getElem?_eq_some_iff.mp found).1
    simp only [fresh] at this
    omega

theorem Owns.same (owns : pool.Owns setup since) (same : pool.SameHold next)
    : next.Owns setup since where
  driver stops driver new ran :=
    same.driver.trans (owns.driver stops driver new (same.quiet.drivers ▸ ran))
  browser browser new connected :=
    same.browser.trans (owns.browser browser new (same.quiet.connected browser connected))

/-- Closing stops and closes what the pool holds. -/
theorem Owns.close (owns : pool.Owns setup since)
    : (pool.close setup).Owns setup since ∧ (pool.close setup).IsEmpty := by
  obtain ⟨driver, browser, drivers, connected⟩ := closing_close setup pool
  refine ⟨⟨fun stops other new ran => ?_, fun other new found => ?_⟩, driver, browser⟩
  · rw [drivers] at ran
    cases held : pool.driver with
    | none =>
      rw [held] at ran
      cases held.symm.trans (owns.driver stops other new ran)
    | some stopped =>
      rw [held] at ran
      have ran : (pool.engine.drivers.set stopped true)[other]? = some false := ran
      rw [List.getElem?_set] at ran
      split at ran
      · split at ran <;> cases ran
      · rename_i apart
        have same := held.symm.trans (owns.driver stops other new ran)
        exact absurd (Option.some.inj same) apart
  · obtain ⟨before, notHeld⟩ := connected other found
    exact absurd (owns.browser other new before) notHeld

/-- A pool that holds nothing takes up what it starts, or stops it at once. -/
theorem Owns.launchIfNeeded (owns : pool.Owns setup since) (empty : pool.IsEmpty)
    (viewport : Viewport)
    : (pool.launchIfNeeded setup viewport).1.Owns setup since := by
  have launching := launching_launchIfNeeded setup viewport pool
  generalize pool.launchIfNeeded setup viewport = launched at launching
  rcases launched with ⟨next, failure⟩
  cases launching with
  | needless _ hold => exact owns.same hold
  | failed _ _ driver browser drivers browsers =>
    refine ⟨fun stops other new ran => ?_, fun other new connected => ?_⟩
    · rw [drivers, getElem?_concat_eq_some_iff, stops] at ran
      rcases ran with ran | ⟨-, started⟩
      · exact driver.trans (owns.driver stops other new ran)
      · cases started
    · have same : next.engine.browsers = pool.engine.browsers := browsers
      exact browser.trans
        (owns.browser other new (by simpa [Engine.isConnected, same] using connected))
  | launched _ _ driver browser drivers browsers =>
    refine ⟨fun stops other new ran => ?_, fun other new connected => ?_⟩
    · rw [drivers, getElem?_concat_eq_some_iff] at ran
      rcases ran with ran | ⟨rfl, -⟩
      · cases empty.1.symm.trans (owns.driver stops other new ran)
      · exact driver
    · obtain ⟨it, found, connected⟩ := Engine.isConnected_iff.mp connected
      rw [browsers, getElem?_concat_eq_some_iff] at found
      rcases found with found | ⟨rfl, -⟩
      · have before := Engine.isConnected_iff.mpr ⟨it, found, connected⟩
        cases empty.2.symm.trans (owns.browser other new before)
      · exact browser

/-- A restart closes what the pool holds before it launches a browser, and nobody who goes on in
between takes anything up. -/
theorem Owns.restart (owns : pool.Owns setup since) (viewport : Option Viewport) (turns : Nat)
    : (pool.restart setup viewport turns).1.Owns setup since := by
  have noted := owns.same (show pool.SameHold (pool.note .browserRestarting) from
    ⟨rfl, rfl, .refl _⟩)
  obtain ⟨closed, empty⟩ := noted.close
  have going := sameHold_resumeMany (pool.tearDown setup) turns
  exact (closed.same going).launchIfNeeded
    ⟨going.driver.trans empty.1, going.browser.trans empty.2⟩ _

/-- A pool has been shut down that had started nothing when the engine was `since`. -/
structure ShutDown (setup : Setup) (since : Engine) (pool : Pool) : Prop where
  /-- No page is open and all slots are free. -/
  use : (fresh setup.config since []).SameUse pool
  empty : pool.IsEmpty
  drivers
    : setup.conduct.stopsDriver = true → ∀ driver stopped, since.drivers.length ≤ driver →
        pool.engine.drivers[driver]? = some stopped → stopped = true
  browsers
    : ∀ browser it, since.browsers.length ≤ browser →
        pool.engine.browsers[browser]? = some it → it.closed = true ∨ it.connected = false

/-- What a pool has started is over when it has been closed. -/
theorem Owns.shutDown (owns : pool.Owns setup since)
    (used : (fresh setup.config since []).SameUse pool)
    : (pool.close setup).ShutDown setup since := by
  obtain ⟨owns, empty⟩ := owns.close
  exact {
    use := used.dropPages.trans (sameSlots_close setup).sameUse
    empty := empty
    drivers := fun stops driver stopped new found => by
      refine Bool.of_not_eq_false fun runs => ?_
      cases empty.1.symm.trans (owns.driver stops driver new (runs ▸ found))
    browsers := fun browser it new found => by
      refine .inr (Bool.eq_false_iff.mpr fun connected => ?_)
      have held := owns.browser browser new (Engine.isConnected_iff.mpr ⟨it, found, connected⟩)
      cases empty.2.symm.trans held }

end Started

end Pool

end CriticalCss.Browser
