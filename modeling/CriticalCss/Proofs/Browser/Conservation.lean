import CriticalCss.Browser.Operation
import CriticalCss.Proofs.Browser.Slots

/-! What is done to a pool is one of the schedules of its slots. A page that is opened has a context
of its own, so it is never one that is open already; everything else that an operation does to the
slots is a step as it stands. At every report those who were given a slot have gone on with it, and
then whoever still waits does so because no slot is free.
-/

namespace CriticalCss.Browser

--------------------------------------------------------------------------------
-- Contexts
--------------------------------------------------------------------------------

namespace Engine

/-- The number of contexts that a browser has had. -/
def contextCount (engine : Engine) (browser : Nat) : Nat :=
  (engine.browsers[browser]?.map (·.contexts.length)).getD 0

/-- Browsers and contexts are only added. -/
structure Grows (engine other : Engine) : Prop where
  browsers : engine.browsers.length ≤ other.browsers.length
  contexts : ∀ browser, engine.contextCount browser ≤ other.contextCount browser

section Growth

variable (engine : Engine)

variable {engine} in
/-- Whatever else changes, nothing is taken away as long as the browsers stay. -/
theorem Grows.of_eq {other : Engine} (same : other.browsers = engine.browsers)
    : engine.Grows other where
  browsers := Nat.le_of_eq (by rw [same])
  contexts browser := Nat.le_of_eq (by rw [contextCount, contextCount, same])

theorem contextCount_changeBrowser (browser other : Nat) (f : Instance → Instance)
    : (engine.changeBrowser browser f).contextCount other
      = if browser = other then
          (engine.browsers[other]?.map fun it => (f it).contexts.length).getD 0
        else engine.contextCount other := by
  unfold contextCount changeBrowser
  rw [List.getElem?_modify]
  split <;> cases engine.browsers[other]? <;> rfl

/-- A browser that changes keeps its contexts, unless the change takes some away. -/
theorem grows_changeBrowser (browser : Nat) {f : Instance → Instance}
    (keeps : ∀ it, it.contexts.length ≤ (f it).contexts.length)
    : engine.Grows (engine.changeBrowser browser f) where
  browsers := by simp [changeBrowser]
  contexts other := by
    rw [contextCount_changeBrowser]
    split
    · unfold contextCount
      cases engine.browsers[other]? with
      | none => exact Nat.le_refl _
      | some it => exact keeps it
    · exact Nat.le_refl _

theorem grows_stopDriver (driver : Nat) : engine.Grows (engine.stopDriver driver) :=
  .of_eq rfl

theorem grows_disconnectLatest : engine.Grows engine.disconnectLatest :=
  engine.grows_changeBrowser _ fun _ => Nat.le_refl _

theorem grows_closeContext (conduct : Conduct) (page : Page)
    : engine.Grows (engine.closeContext conduct page).1 := by
  unfold closeContext
  split
  · exact .of_eq rfl
  · exact engine.grows_changeBrowser _ fun it => by simp

theorem grows_closeBrowser (conduct : Conduct) (browser : Nat)
    : engine.Grows (engine.closeBrowser conduct browser).1 := by
  unfold closeBrowser
  split
  · exact .of_eq rfl
  · exact engine.grows_changeBrowser _ fun _ => Nat.le_refl _

theorem grows_launch (conduct : Conduct) : engine.Grows (engine.launch conduct).1 := by
  unfold launch
  dsimp only
  split
  · split <;> exact .of_eq rfl
  · refine ⟨by simp, fun browser => ?_⟩
    unfold contextCount
    rcases Nat.lt_or_ge browser engine.browsers.length with old | new
    · exact Nat.le_of_eq (by rw [List.getElem?_append_left old])
    · rw [List.getElem?_eq_none new]
      exact Nat.zero_le _

/-- A browser that is launched is one of the browsers. -/
theorem launched_lt {conduct : Conduct} {other : Engine} {driver browser : Nat}
    (launched : engine.launch conduct = (other, .ok (driver, browser)))
    : browser < other.browsers.length := by
  unfold launch at launched
  dsimp only at launched
  split at launched
  · cases launched
  · cases launched
    simp

theorem grows_openPage (browser : Nat) (profile : Profile)
    : engine.Grows (engine.openPage browser profile).1 := by
  have opened :=
    engine.grows_changeBrowser browser
      (f := fun it => { it with contexts := it.contexts ++ [{ profile }] }) fun it => by simp
  unfold openPage
  split
  · exact .of_eq rfl
  · exact ⟨opened.browsers, opened.contexts⟩
  · exact opened

variable {engine}

/-- A page that is opened has the next context of its browser. -/
theorem context_of_openPage {browser : Nat} {profile : Profile} {other : Engine} {page : Page}
    (housed : browser < engine.browsers.length)
    (opened : engine.openPage browser profile = (other, .ok page))
    : page.context = engine.contextCount page.browser
      ∧ page.context < other.contextCount page.browser := by
  unfold openPage at opened
  split at opened
  · cases opened
  · cases opened
  · cases opened
    refine ⟨rfl, ?_⟩
    rw [contextCount_changeBrowser, if_pos rfl, List.getElem?_eq_getElem housed]
    simp

end Growth

end Engine

--------------------------------------------------------------------------------
-- Operations as schedules
--------------------------------------------------------------------------------

namespace Pool

theorem giveBack_engine (pool : Pool) : pool.giveBack.engine = pool.engine := by
  unfold giveBack wakeNext
  split <;> rfl

theorem giveBack_browser (pool : Pool) : pool.giveBack.browser = pool.browser := by
  unfold giveBack wakeNext
  split <;> rfl

theorem wakeIfFree_engine (pool : Pool) : pool.wakeIfFree.engine = pool.engine := by
  unfold wakeIfFree wakeNext
  split
  · split <;> rfl
  · rfl

theorem wakeIfFree_browser (pool : Pool) : pool.wakeIfFree.browser = pool.browser := by
  unfold wakeIfFree wakeNext
  split
  · split <;> rfl
  · rfl

/-- Nothing differs but which slots are free and who waits for one. -/
def OnlySlots (pool other : Pool) : Prop :=
  other = { pool with free := other.free, queue := other.queue, woken := other.woken }

namespace OnlySlots

variable {pool middle other : Pool}

theorem refl (pool : Pool) : pool.OnlySlots pool :=
  rfl

theorem trans (first : pool.OnlySlots middle) (second : middle.OnlySlots other)
    : pool.OnlySlots other := by
  rw [OnlySlots, first] at second
  exact second

theorem browser (same : pool.OnlySlots other) : other.browser = pool.browser := by
  unfold OnlySlots at same
  rw [same]

theorem openPages (same : pool.OnlySlots other) : other.openPages = pool.openPages := by
  unfold OnlySlots at same
  rw [same]

end OnlySlots

theorem onlySlots_wakeNext (pool : Pool) : pool.OnlySlots pool.wakeNext := by
  unfold wakeNext
  split <;> rfl

theorem onlySlots_giveBack (pool : Pool) : pool.OnlySlots pool.giveBack := by
  have freed : pool.OnlySlots { pool with free := pool.free + 1 } := rfl
  exact freed.trans (onlySlots_wakeNext _)

/-- Without a browser no page can be opened, and the slot is given back. -/
theorem openPage_of_none {pool : Pool} (gone : pool.browser = none) (profile : Profile)
    : pool.openPage profile = (pool.giveBack, .error .noBrowser) := by
  rw [openPage, gone]

/-- Launching does not touch the slots. -/
theorem sameSlots_launchIfNeeded (setup : Setup) (viewport : Viewport) (pool : Pool)
    : pool.SameSlots (pool.launchIfNeeded setup viewport).1 := by
  unfold launchIfNeeded
  dsimp only
  split
  · exact ⟨rfl, rfl, rfl, rfl⟩
  · split <;> exact ⟨rfl, rfl, rfl, rfl⟩

/-- The browser of a pool and the contexts of its open pages are there. -/
structure Housed (pool : Pool) : Prop where
  browser : ∀ browser ∈ pool.browser, browser < pool.engine.browsers.length
  pages : ∀ page ∈ pool.openPages, page.context < pool.engine.contextCount page.browser

theorem Housed.of_eq {pool other : Pool} (housed : pool.Housed)
    (engine : other.engine = pool.engine) (browser : other.browser = pool.browser)
    (fewer : ∀ page ∈ other.openPages, page ∈ pool.openPages)
    : other.Housed where
  browser := by
    rw [browser, engine]
    exact housed.browser
  pages page isOpen := by
    rw [engine]
    exact housed.pages page (fewer page isOpen)

/-- A pool that a schedule of its slots leads to. -/
structure Reached (config : Config) (opening : List Profile) (pool : Pool) : Prop where
  moment : Moment config { pool := pool, opening := opening }
  housed : pool.Housed

/-- Nobody has been given a slot who has not gone on with it. -/
structure Settled (config : Config) (pool : Pool) : Prop where
  reached : pool.Reached config []
  goneOn : pool.woken = []

namespace Reached

variable {config : Config} {opening : List Profile} {pool other : Pool} {profile : Profile}
  {page : Page} (setup : Setup)

/-- What does not touch the slots can be done at any time. -/
theorem beside (reached : pool.Reached config opening) (same : pool.SameSlots other)
    (grows : pool.engine.Grows other.engine)
    (held : ∀ browser ∈ other.browser, browser < other.engine.browsers.length)
    : other.Reached config opening where
  moment := reached.moment.next (.beside same)
  housed := by
    refine ⟨held, fun page isOpen => ?_⟩
    have housed := reached.housed.pages page (same.openPages ▸ isOpen)
    exact Nat.lt_of_lt_of_le housed (grows.contexts page.browser)

/-- What happens to the engine does not touch the slots. -/
theorem engine {engine : Engine} (reached : pool.Reached config opening)
    (grows : pool.engine.Grows engine)
    : { pool with engine := engine }.Reached config opening :=
  reached.beside ⟨rfl, rfl, rfl, rfl⟩ grows fun browser held =>
    Nat.lt_of_lt_of_le (reached.housed.browser browser held) grows.browsers

/-- Noting an event does not touch the slots. -/
theorem note (reached : pool.Reached config opening) (event : Event)
    : (pool.note event).Reached config opening :=
  reached.beside ⟨rfl, rfl, rfl, rfl⟩ (.of_eq rfl) reached.housed.browser

/-- A slot that is given back is given back in one step. -/
theorem giveBack (reached : pool.Reached config [profile]) : pool.giveBack.Reached config [] where
  moment := by
    have next := reached.moment.next (.failed (List.mem_singleton_self profile))
    simpa only [List.erase_cons_head] using next
  housed := reached.housed.of_eq pool.giveBack_engine pool.giveBack_browser (by simp)

/-- Whoever holds a slot gets a page, or the slot is given back. -/
theorem openPage (reached : pool.Reached config [profile])
    : (pool.openPage profile).1.Reached config [] := by
  unfold Pool.openPage
  split
  · exact reached.giveBack
  · rename_i browser held
    have housed := reached.housed.browser browser held
    have grows := pool.engine.grows_openPage browser profile
    split
    · rename_i engine failure failed
      rw [failed] at grows
      exact (reached.engine grows).giveBack
    · rename_i engine page opened
      rw [opened] at grows
      obtain ⟨last, inside⟩ := Engine.context_of_openPage housed opened
      have new : page ∉ pool.openPages := fun old =>
        absurd last (Nat.ne_of_lt (reached.housed.pages page old))
      have grown := reached.engine grows
      have moment := grown.moment.next (.opened page (List.mem_singleton_self profile) new)
      rw [List.erase_cons_head] at moment
      refine ⟨moment.next (.beside ⟨rfl, rfl, rfl, rfl⟩), grown.housed.browser, ?_⟩
      intro other isOpen
      rcases List.mem_append.mp isOpen with old | same
      · exact grown.housed.pages other old
      · rw [List.mem_singleton.mp same]
        exact inside

theorem launchIfNeeded (reached : pool.Reached config opening) (viewport : Viewport)
    : (pool.launchIfNeeded setup viewport).1.Reached config opening := by
  have grows := pool.engine.grows_launch setup.conduct
  unfold Pool.launchIfNeeded
  dsimp only
  split
  · exact reached.beside ⟨rfl, rfl, rfl, rfl⟩ (.of_eq rfl) reached.housed.browser
  · split
    · rename_i engine driver browser launched
      have launched : pool.engine.launch setup.conduct = (engine, .ok (driver, browser)) := launched
      rw [launched] at grows
      refine reached.beside ⟨rfl, rfl, rfl, rfl⟩ grows fun other same => ?_
      obtain rfl : browser = other := by simpa using same
      exact pool.engine.launched_lt launched
    · rename_i engine failure failed
      have failed : pool.engine.launch setup.conduct = (engine, .error failure) := failed
      rw [failed] at grows
      exact reached.beside ⟨rfl, rfl, rfl, rfl⟩ grows fun other held =>
        Nat.lt_of_lt_of_le (reached.housed.browser other held) grows.browsers

/-- Whoever asks for a page queues up, or gets a slot and goes on with it. -/
theorem acquire (reached : pool.Reached config []) (viewport : Option Viewport)
    (userAgent : Option String) (headers : List (String × String))
    : (pool.acquire setup viewport userAgent headers).1.Reached config [] := by
  unfold Pool.acquire
  dsimp only
  have launched :=
    reached.launchIfNeeded setup (viewport.getD (pool.usualViewport setup))
  split
  · rename_i ready failure found
    simpa only [found] using launched
  · rename_i ready found
    rw [found] at launched
    split
    · rename_i full
      refine ⟨launched.moment.next (.queueUp _ full), ?_⟩
      exact launched.housed.of_eq rfl rfl fun _ same => same
    · rename_i vacant
      have vacant : ready.isFull = false := by simpa using vacant
      have taken
          : { ready with free := ready.free - 1 }.Reached config
              [profileFor setup (viewport.getD (pool.usualViewport setup)) userAgent headers] := by
        refine ⟨launched.moment.next (.take _ vacant), ?_⟩
        exact launched.housed.of_eq rfl rfl fun _ same => same
      have ended := taken.openPage
      split <;> rename_i found <;> rw [found] at ended <;> exact ended

/-- Whoever was woken goes on. -/
theorem resumeFirst (reached : pool.Reached config []) : pool.resumeFirst.Reached config [] := by
  unfold Pool.resumeFirst
  split
  · exact reached
  · rename_i profile rest found
    have resumed : { pool with woken := rest }.wakeIfFree.Reached config [profile] := by
      refine ⟨reached.moment.next (.resume found), ?_⟩
      exact reached.housed.of_eq (wakeIfFree_engine _) (wakeIfFree_browser _) (by simp)
    exact resumed.openPage

theorem resumeMany (reached : pool.Reached config []) (n : Nat)
    : (pool.resumeMany n).Reached config [] := by
  induction n generalizing pool with
  | zero => exact reached
  | succ n ih => exact ih reached.resumeFirst

/-- The slot of a page that is open is given back in one step. -/
theorem eraseOpen (reached : pool.Reached config opening) (isOpen : page ∈ pool.openPages)
    : { pool with openPages := pool.openPages.erase page }.giveBack.Reached config opening where
  moment := reached.moment.next (.release isOpen)
  housed := by
    refine reached.housed.of_eq (giveBack_engine _) (giveBack_browser _) fun other member => ?_
    have member : other ∈ pool.openPages.erase page := by simpa using member
    exact List.mem_of_mem_erase member

/-- Closing a browser does not touch the slots. -/
theorem closeBrowser (reached : pool.Reached config opening) (browser : Nat)
    : (pool.closeBrowser setup browser).Reached config opening := by
  have closed := reached.engine (pool.engine.grows_closeBrowser setup.conduct browser)
  unfold Pool.closeBrowser
  dsimp only
  split
  · exact closed.note _
  · exact closed

/-- Giving a page back gives its slot back once. -/
theorem release (reached : pool.Reached config opening) (page : Page) (error : Option String)
    : (pool.release setup page error).Reached config opening := by
  unfold Pool.release
  split
  · rename_i isOpen
    have erased := reached.eraseOpen (by simpa using isOpen)
    dsimp only
    generalize { pool with openPages := pool.openPages.erase page }.giveBack = pool at erased ⊢
    have grows := pool.engine.grows_closeContext setup.conduct page
    refine note ?_ _
    cases error with
    | none =>
      have closed := erased.engine grows
      dsimp only
      split
      · exact closed.note _
      · exact closed
    | some error =>
      have closed := (erased.note (.pageReleasedAfterError error)).engine grows
      dsimp only
      split
      · exact closed.note _
      · exact closed
  · exact reached

/-- Taking back the slots of all open pages is giving back one after the other.
Witness: induction on the open pages.
-/
theorem dropPages (reached : pool.Reached config opening)
    : pool.dropPages.Reached config opening := by
  unfold Pool.dropPages
  generalize found : pool.openPages = pages
  induction pages generalizing pool with
  | nil => exact reached
  | cons page rest ih =>
    refine ih (reached.eraseOpen (by simp [found])) ?_
    simp [found]

/-- Closing does nothing to the slots but taking them back. -/
theorem close (reached : pool.Reached config opening)
    : (pool.close setup).Reached config opening := by
  have released
      : { pool.dropPages with browser := none, driver := none }.Reached config opening :=
    reached.dropPages.beside ⟨rfl, rfl, rfl, rfl⟩ (.of_eq rfl) (by simp)
  unfold Pool.close
  cases pool.browser with
  | none =>
    cases pool.driver with
    | none => exact released
    | some driver => exact released.engine (Engine.grows_stopDriver _ driver)
  | some browser =>
    have closed := released.closeBrowser setup browser
    cases pool.driver with
    | none => exact closed.note _
    | some driver => exact (closed.engine (Engine.grows_stopDriver _ driver)).note _

theorem shutdown (reached : pool.Reached config opening) (force : Bool)
    : (pool.shutdown setup force).Reached config opening := by
  unfold Pool.shutdown
  split
  · exact reached.note _
  · exact reached.close setup

/-- Between the halves of a restart those go on who have been given a slot. -/
theorem restart (reached : pool.Reached config []) (viewport : Option Viewport) (turns : Nat)
    : (pool.restart setup viewport turns).1.Reached config [] := by
  have torn : (pool.tearDown setup).Reached config [] := (reached.note _).close setup
  exact (torn.resumeMany turns).launchIfNeeded setup _

end Reached

--------------------------------------------------------------------------------
-- Settling
--------------------------------------------------------------------------------

section Settling

variable {config : Config} {pool : Pool} (setup : Setup)

/-- Opening a page, or failing to, leaves everybody who waits waiting. -/
theorem waiting_openPage (profile : Profile)
    : (pool.openPage profile).1.waiting = pool.waiting := by
  unfold openPage
  split
  · exact pool.giveBack_waiting
  · split
    · exact giveBack_waiting _
    · rfl

/-- Whoever goes on waits no longer. -/
theorem waiting_resumeFirst (woken : pool.woken ≠ [])
    : pool.resumeFirst.waiting + 1 = pool.waiting := by
  obtain ⟨profile, rest, found⟩ := List.exists_cons_of_ne_nil woken
  have resumed
      : pool.resumeFirst = ({ pool with woken := rest }.wakeIfFree.openPage profile).1 := by
    rw [resumeFirst, found]
    rfl
  rw [resumed, waiting_openPage, wakeIfFree_waiting]
  simp only [waiting, found, List.length_cons]
  omega

theorem resumeMany_of_woken_eq_nil (goneOn : pool.woken = []) (n : Nat)
    : pool.resumeMany n = pool := by
  induction n with
  | zero => rfl
  | succ n ih =>
    have resumed : pool.resumeFirst = pool := by rw [resumeFirst, goneOn]
    rw [resumeMany, resumed, ih]

/-- Whoever goes on without a browser changes nothing but who has the slots, so it makes no
difference what happens to the browsers between two turns.
Witness: induction on the turns; nobody who goes on launches a browser.
-/
theorem onlySlots_resumeMany (gone : pool.browser = none) (n : Nat)
    : pool.OnlySlots (pool.resumeMany n) := by
  induction n generalizing pool with
  | zero => exact .refl pool
  | succ n ih =>
    have first : pool.OnlySlots pool.resumeFirst := by
      unfold resumeFirst
      split
      · exact .refl pool
      · rename_i profile rest found
        have left : pool.OnlySlots { pool with woken := rest } := rfl
        have going
            : pool.OnlySlots
                (if 0 < pool.free then wakeNext { pool with woken := rest }
                  else { pool with woken := rest }) := by
          split
          · exact left.trans (onlySlots_wakeNext _)
          · exact left
        have none := going.browser.trans gone
        dsimp only
        rw [openPage_of_none none]
        exact going.trans (onlySlots_giveBack _)
    exact first.trans (ih (first.browser.trans gone))

/-- As many turns as there are who wait are enough for everybody who is given a slot.
Witness: induction on the turns; each that is used leaves one less who waits.
-/
theorem woken_resumeMany {n : Nat} (enough : pool.waiting ≤ n)
    : (pool.resumeMany n).woken = [] := by
  induction n generalizing pool with
  | zero =>
    apply List.eq_nil_of_length_eq_zero
    unfold waiting at enough
    change pool.woken.length = 0
    omega
  | succ n ih =>
    by_cases goneOn : pool.woken = []
    · rw [resumeMany_of_woken_eq_nil goneOn, goneOn]
    · have less := waiting_resumeFirst goneOn
      exact ih (by omega)

theorem Reached.settle (reached : pool.Reached config []) : pool.settle.Settled config where
  reached := reached.resumeMany _
  goneOn := woken_resumeMany (Nat.le_refl _)

/-- Launching leaves nobody with a slot who has not gone on. -/
theorem Settled.launchIfNeeded (settled : pool.Settled config) (viewport : Viewport)
    : (pool.launchIfNeeded setup viewport).1.Settled config where
  reached := settled.reached.launchIfNeeded setup viewport
  goneOn := (sameSlots_launchIfNeeded setup viewport pool).woken.trans settled.goneOn

end Settling

end Pool

--------------------------------------------------------------------------------
-- Runs
--------------------------------------------------------------------------------

/-- The pool at a report. -/
def Report.pool : Report → Pool
  | .entered pool => pool
  | .ended _ _ pool => pool

section Runs

variable {config : Config} (setup : Setup)

/-- The pool is settled when the end of an operation is reported. -/
theorem Pool.Reached.report {pool : Pool} (reached : pool.Reached config []) (answer : Answer)
    : (∀ report ∈ (pool.report answer).1, report.pool.Settled config)
      ∧ (pool.report answer).2.Settled config := by
  have settled := reached.settle
  refine ⟨fun report member => ?_, ?_⟩
  · rw [List.mem_singleton.mp member]
    exact settled
  · have same : pool.settle.SameSlots { pool.settle with log := [] } := ⟨rfl, rfl, rfl, rfl⟩
    refine ⟨⟨settled.reached.moment.next (.beside same), ?_⟩, settled.goneOn⟩
    exact settled.reached.housed.of_eq rfl rfl fun _ same => same

mutual
/-- An operation on a settled pool leads to settled pools, by recursion on the operation. -/
theorem Operation.settled_run {pool : Pool} (settled : pool.Settled config)
    (operation : Operation)
    : (∀ report ∈ (operation.run setup pool).1, report.pool.Settled config)
      ∧ (operation.run setup pool).2.Settled config := by
  have reached := settled.reached
  cases operation with
  | launch viewport => exact (reached.launchIfNeeded setup viewport).report _
  | restart viewport => exact (reached.restart setup viewport _).report _
  | shutdown force => exact (reached.shutdown setup force).report _
  | acquire viewport userAgent headers trap =>
    have grows : pool.engine.Grows { pool.engine with trap := trap } := .of_eq rfl
    have trapped := reached.engine grows
    have acquired := trapped.acquire setup viewport userAgent headers
    rw [Operation.run]
    dsimp only
    split <;> rename_i found <;> rw [found] at acquired <;> exact acquired.report _
  | release number error =>
    cases number with
    | none => exact reached.report _
    | some number =>
      rw [Operation.run]
      split
      · exact (reached.release setup _ error).report _
      · exact reached.report _
  | disconnect => exact (reached.engine (Engine.grows_disconnectLatest _)).report _
  | session viewport body error =>
    have entered := settled.launchIfNeeded setup viewport
    rw [Operation.run]
    split
    · rename_i found
      rw [found] at entered
      exact (entered.reached.close setup).report _
    · rename_i found
      rw [found] at entered
      obtain ⟨inside, left⟩ := Operation.settled_runAll entered body
      obtain ⟨last, closed⟩ := (left.reached.close setup).report (.ofFailure? error)
      refine ⟨fun report member => ?_, closed⟩
      rcases List.mem_cons.mp member with rfl | member
      · exact entered
      · rcases List.mem_append.mp member with within | ended
        · exact inside report within
        · exact last report ended

/-- Operations on a settled pool lead to settled pools. -/
theorem Operation.settled_runAll {pool : Pool} (settled : pool.Settled config)
    (operations : List Operation)
    : (∀ report ∈ (Operation.runAll setup pool operations).1, report.pool.Settled config)
      ∧ (Operation.runAll setup pool operations).2.Settled config := by
  cases operations with
  | nil => exact ⟨fun _ member => absurd member List.not_mem_nil, settled⟩
  | cons operation rest =>
    obtain ⟨first, middle⟩ := Operation.settled_run settled operation
    obtain ⟨others, last⟩ := Operation.settled_runAll middle rest
    rw [Operation.runAll]
    refine ⟨fun report member => ?_, last⟩
    rcases List.mem_append.mp member with early | late
    · exact first report early
    · exact others report late
end

end Runs

--------------------------------------------------------------------------------
-- Conservation
--------------------------------------------------------------------------------

theorem natCast_capacity (config : Config) : (capacity config : Int) = max config.maxOpenPages 1 :=
  Int.toNat_of_nonneg (by omega)

namespace Pool

section Once

variable (setup : Setup) (pool : Pool)

/-- A page that is not open is passed over. -/
theorem release_of_not_mem {page : Page} (closed : page ∉ pool.openPages) (error : Option String)
    : pool.release setup page error = pool := by
  unfold release
  rw [if_neg (by simpa using closed)]

/-- Of the open pages, only the page itself is given back. -/
theorem openPages_release (page : Page) (error : Option String)
    : (pool.release setup page error).openPages = pool.openPages.erase page := by
  by_cases isOpen : page ∈ pool.openPages
  · have erased := giveBack_openPages { pool with openPages := pool.openPages.erase page }
    unfold release
    rw [if_pos (by simpa using isOpen)]
    cases error <;> dsimp only <;> split <;> exact erased
  · rw [release_of_not_mem setup pool isOpen, List.erase_of_not_mem isOpen]

/-- No page is open once all have been dropped. Witness: induction on the open pages. -/
theorem openPages_dropPages : pool.dropPages.openPages = [] := by
  unfold dropPages
  generalize found : pool.openPages = pages
  induction pages generalizing pool with
  | nil => exact found
  | cons page rest ih => exact ih _ (by simp [found])

theorem openPages_closeBrowser (browser : Nat)
    : (pool.closeBrowser setup browser).openPages = pool.openPages := by
  unfold closeBrowser
  dsimp only
  split <;> rfl

theorem browser_closeBrowser (browser : Nat)
    : (pool.closeBrowser setup browser).browser = pool.browser := by
  unfold closeBrowser
  dsimp only
  split <;> rfl

/-- No page is open once the browser has been shut down. -/
theorem openPages_close : (pool.close setup).openPages = [] := by
  have none := pool.openPages_dropPages
  unfold close
  cases pool.browser <;> cases pool.driver <;> simp [note, openPages_closeBrowser, none]

/-- There is no browser once it has been shut down. -/
theorem browser_close : (pool.close setup).browser = none := by
  unfold close
  cases pool.browser <;> cases pool.driver <;> simp [note, browser_closeBrowser]

theorem openPages_tearDown : (pool.tearDown setup).openPages = [] :=
  openPages_close setup _

theorem browser_tearDown : (pool.tearDown setup).browser = none :=
  browser_close setup _

/-- No page is open behind a restart, whoever goes on before there is a browser. -/
theorem openPages_restart (viewport : Option Viewport) (turns : Nat)
    : (pool.restart setup viewport turns).1.openPages = [] := by
  have going := onlySlots_resumeMany (browser_tearDown setup pool) turns
  rw [restart, relaunch, (sameSlots_launchIfNeeded setup _ _).openPages, going.openPages,
    openPages_tearDown]

/-- The slot of a page is given back once, whatever takes it back first. -/
structure GivesBackOnce : Prop where
  released
    : ∀ page error again,
        (pool.release setup page error).release setup page again = pool.release setup page error
  closed : ∀ page error, (pool.close setup).release setup page error = pool.close setup
  restarted
    : ∀ page viewport turns error,
        (pool.restart setup viewport turns).1.release setup page error
          = (pool.restart setup viewport turns).1

theorem givesBackOnce (distinct : pool.openPages.Nodup) : pool.GivesBackOnce setup where
  released page error again := by
    refine release_of_not_mem setup _ ?_ again
    rw [openPages_release]
    exact distinct.not_mem_erase
  closed page error := by
    refine release_of_not_mem setup _ ?_ error
    simp [openPages_close]
  restarted page viewport turns error := by
    refine release_of_not_mem setup _ ?_ error
    simp [openPages_restart]

end Once

end Pool

/-- Every slot is free, or a page is open on it, or somebody holds it who has no page yet; so no
more pages are open than there are slots. This holds at every moment of every schedule, and every
run of operations follows one. At its reports nobody holds a slot without a page, whoever waits does
so because no slot is free, and no page gives its slot back a second time.
-/
theorem conserved_runAll (setup : Setup) (operations : List Operation)
    : (∀ scene,
        Moment setup.config scene
        → ((scene.pool.free + scene.pool.openCount + scene.holders : Nat) : Int)
            = max setup.config.maxOpenPages 1
          ∧ (scene.pool.openCount : Int) ≤ max setup.config.maxOpenPages 1
          ∧ (scene.pool.queue ≠ [] → scene.pool.free = 0 ∨ scene.pool.woken ≠ []))
      ∧ ∀ report ∈ (Operation.runAll setup (Pool.fresh setup.config {} []) operations).1,
          Moment setup.config { pool := report.pool }
          ∧ report.pool.woken = []
          ∧ ((report.pool.free + report.pool.openCount : Nat) : Int)
            = max setup.config.maxOpenPages 1
          ∧ (report.pool.queue ≠ [] → report.pool.free = 0)
          ∧ report.pool.GivesBackOnce setup := by
  have count := natCast_capacity setup.config
  refine ⟨fun scene moment => ?_, fun report member => ?_⟩
  · have balanced := moment.balanced
    have slots := balanced.slots
    exact ⟨by omega, by omega, balanced.passedOn⟩
  · have fresh : (Pool.fresh setup.config {} []).Settled setup.config := {
      reached := { moment := .fresh {} [], housed := ⟨by simp [Pool.fresh], by simp [Pool.fresh]⟩ }
      goneOn := rfl }
    obtain ⟨reports, -⟩ := Operation.settled_runAll setup fresh operations
    obtain ⟨⟨moment, -⟩, goneOn⟩ := reports report member
    have balanced := moment.balanced
    have slots := balanced.slots
    have holders : Scene.holders { pool := report.pool } = 0 := by simp [Scene.holders, goneOn]
    refine ⟨moment, goneOn, ?_, fun queued => ?_, Pool.givesBackOnce setup _ balanced.distinct⟩
    · dsimp only at slots
      omega
    · exact (balanced.passedOn queued).resolve_right fun woken => woken goneOn

/-- One slot and two who ask: the second waits and gets its page when the first gives the slot back,
giving the first page back again changes nothing, and the restart takes the slot of the second page.
-/
theorem conserved_runAll_oneSlot
    : let setup : Setup := { config := { maxOpenPages := 1 }, conduct := { strictClose := true } }
      let asks := Operation.acquire none none [] none
      let reports :=
        (Operation.runAll setup (Pool.fresh setup.config {} [])
          [asks, asks, .release (some 0) none, .release (some 0) none, .restart none,
            .release (some 1) none, asks]).1
      reports.map (fun report => (report.pool.free, report.pool.openCount, report.pool.waiting))
          = [(0, 1, 0), (0, 1, 1), (0, 1, 0), (0, 1, 0), (1, 0, 0), (1, 0, 0), (0, 1, 0)]
        ∧ ∀ report ∈ reports,
            report.pool.free + report.pool.openCount = 1
            ∧ report.pool.openCount ≤ 1
            ∧ (report.pool.queue ≠ [] → report.pool.free = 0) := by
  intro setup asks reports
  obtain ⟨moments, settled⟩ :=
    conserved_runAll setup
      [asks, asks, .release (some 0) none, .release (some 0) none, .restart none,
        .release (some 1) none, asks]
  refine ⟨by decide +kernel, fun report member => ?_⟩
  obtain ⟨moment, -, conserved, blocked, -⟩ := settled report member
  obtain ⟨-, bounded, -⟩ := moments _ moment
  have one : max setup.config.maxOpenPages 1 = 1 := by decide
  dsimp only at bounded
  exact ⟨by omega, by omega, blocked⟩

end CriticalCss.Browser
