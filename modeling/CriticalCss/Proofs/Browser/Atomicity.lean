import CriticalCss.Proofs.Browser.Loans

/-! What a call leaves behind that asks for a page and fails. Its slot is given back wherever it
fails, and no page of it is open. A context is left open exactly if the context could be opened and
the page could not: nobody has a page to close the context by.
-/

namespace CriticalCss.Browser

--------------------------------------------------------------------------------
-- Contexts that are left
--------------------------------------------------------------------------------

namespace Engine

/-- The context of a page is there and has not been closed. -/
def IsOpen (engine : Engine) (page : Page) : Prop :=
  ∃ it context,
    engine.browsers[page.browser]? = some it
    ∧ it.contexts[page.context]? = some context
    ∧ context.closed = false

/-- The context of a page has been opened at some time. -/
def Has (engine : Engine) (page : Page) : Prop :=
  page.context < engine.contextCount page.browser

/-- No context has been opened since that is open still. -/
def NoneLeft (since engine : Engine) : Prop :=
  ∀ page, engine.IsOpen page → since.Has page

variable {engine other since : Engine} {page : Page}

theorem Has.of_isOpen (isOpen : engine.IsOpen page) : engine.Has page := by
  obtain ⟨it, context, found, inside, -⟩ := isOpen
  have small := (List.getElem?_eq_some_iff.mp inside).1
  simpa [Has, contextCount, found] using small

/-- What has been left open since some moment goes by how many contexts there were then. -/
theorem noneLeft_congr (same : ∀ browser, since.contextCount browser = engine.contextCount browser)
    : since.NoneLeft other ↔ engine.NoneLeft other := by
  simp only [NoneLeft, Has, same]

theorem noneLeft_of_browsers (same : other.browsers = engine.browsers) : engine.NoneLeft other := by
  intro page isOpen
  refine .of_isOpen ?_
  simpa only [IsOpen, same] using isOpen

theorem contextCount_launch (engine : Engine) (conduct : Conduct) (browser : Nat)
    : (engine.launch conduct).1.contextCount browser = engine.contextCount browser := by
  unfold launch
  dsimp only
  split
  · split <;> rfl
  · unfold contextCount
    rcases Nat.lt_trichotomy browser engine.browsers.length with old | rfl | beyond
    · rw [List.getElem?_append_left old]
    · simp
    · have outside : (engine.browsers ++ [({} : Instance)]).length ≤ browser := by
        simpa using Nat.succ_le_of_lt beyond
      rw [List.getElem?_eq_none outside, List.getElem?_eq_none (Nat.le_of_lt beyond)]

/-- A page that cannot be opened leaves a context open, and what else fails does not. -/
theorem noneLeft_openPage_iff {browser : Nat} {profile : Profile} {failure : Failure}
    (housed : browser < engine.browsers.length)
    (failed : engine.openPage browser profile = (other, .error failure))
    : engine.NoneLeft other ↔ failure ≠ .pageFailed := by
  unfold openPage at failed
  split at failed
  · cases failed
    exact iff_of_true (noneLeft_of_browsers rfl) (by simp)
  · cases failed
    refine iff_of_false (fun noneLeft => ?_) (fun other => other rfl)
    obtain ⟨it, found⟩ : ∃ it, engine.browsers[browser]? = some it :=
      ⟨_, List.getElem?_eq_getElem housed⟩
    have count : engine.contextCount browser = it.contexts.length := by
      rw [contextCount, found]
      rfl
    have old := noneLeft ⟨browser, it.contexts.length⟩
      ⟨{ it with contexts := it.contexts ++ [{ profile }] }, { profile },
        by simp [changeBrowser, found], by simp, rfl⟩
    rw [Has, count] at old
    exact Nat.lt_irrefl _ old
  · cases failed

end Engine

--------------------------------------------------------------------------------
-- Calls that fail
--------------------------------------------------------------------------------

namespace Pool

variable {setup : Setup} {pool next : Pool} {failure : Failure}

/-- A slot on which no page could be opened is given back. -/
theorem openPage_failed {profile : Profile}
    (housed : ∀ browser ∈ pool.browser, browser < pool.engine.browsers.length)
    (failed : pool.openPage profile = (next, .error failure))
    : (∃ engine, next = { pool with engine := engine }.giveBack)
      ∧ (pool.engine.NoneLeft next.engine ↔ failure ≠ .pageFailed) := by
  unfold openPage at failed
  split at failed
  · cases failed
    refine ⟨⟨pool.engine, rfl⟩, iff_of_true (Engine.noneLeft_of_browsers ?_) (by simp)⟩
    rw [giveBack_engine]
  · rename_i browser held
    split at failed
    · rename_i engine failure opened
      cases failed
      refine ⟨⟨engine, rfl⟩, ?_⟩
      rw [giveBack_engine]
      exact Engine.noneLeft_openPage_iff (housed browser held) opened
    · cases failed

/-- A slot that is taken and given back is as it was. -/
theorem openPage_taken_failed {profile : Profile} (vacant : pool.isFull = false)
    (housed : ∀ browser ∈ pool.browser, browser < pool.engine.browsers.length)
    (failed : { pool with free := pool.free - 1 }.openPage profile = (next, .error failure))
    : pool.SameSlots next ∧ (pool.engine.NoneLeft next.engine ↔ failure ≠ .pageFailed) := by
  obtain ⟨⟨some, unqueued⟩, -⟩ : (pool.free ≠ 0 ∧ pool.queue = []) ∧ pool.woken = [] := by
    simpa [isFull] using vacant
  let taken := { pool with free := pool.free - 1 }
  have taken_housed : ∀ browser ∈ taken.browser, browser < taken.engine.browsers.length := housed
  obtain ⟨⟨engine, rfl⟩, left⟩ := openPage_failed taken_housed failed
  refine ⟨?_, left⟩
  rw [giveBack_eq (by exact unqueued)]
  exact ⟨Nat.sub_add_cancel (Nat.pos_of_ne_zero some), rfl, rfl, rfl⟩

theorem contextCount_launchIfNeeded (setup : Setup) (viewport : Viewport) (pool : Pool)
    (browser : Nat)
    : (pool.launchIfNeeded setup viewport).1.engine.contextCount browser
      = pool.engine.contextCount browser := by
  have launched := pool.engine.contextCount_launch setup.conduct browser
  unfold launchIfNeeded
  dsimp only
  split
  · rfl
  · split <;> rename_i found <;>
      exact (congrArg (·.1.contextCount browser) found).symm.trans launched

/-- A call that fails at once uses the slots as before. -/
theorem acquire_failed {config : Config} (reached : pool.Reached config [])
    {viewport : Option Viewport} {userAgent : Option String} {headers : List (String × String)}
    (failed : pool.acquire setup viewport userAgent headers = (next, .failed failure))
    : pool.SameSlots next ∧ (pool.engine.NoneLeft next.engine ↔ failure ≠ .pageFailed) := by
  let size := viewport.getD (pool.usualViewport setup)
  have slots := sameSlots_launchIfNeeded setup size pool
  have launching := launching_launchIfNeeded setup size pool
  have housed := (reached.launchIfNeeded setup size).housed.browser
  have counts := contextCount_launchIfNeeded setup size pool
  unfold acquire at failed
  dsimp only at failed
  split at failed
  · rename_i ready fault found
    cases failed
    rw [show pool.launchIfNeeded setup size = _ from found] at slots launching
    cases launching with
    | failed _ _ _ _ _ browsers =>
      exact ⟨slots, iff_of_true (Engine.noneLeft_of_browsers browsers) (by simp)⟩
  · rename_i ready found
    rw [show pool.launchIfNeeded setup size = _ from found] at slots housed counts
    split at failed
    · cases failed
    · rename_i vacant
      split at failed
      · cases failed
      · rename_i last fault opened
        cases failed
        obtain ⟨same, left⟩ := openPage_taken_failed (by simpa using vacant) housed opened
        exact ⟨slots.trans same, (Engine.noneLeft_congr fun browser => (counts browser).symm).trans
          left⟩

/-- A call that fails once it goes on gives its slot back, or on to the next that waits. -/
theorem resumeFirst_failed {config : Config} (reached : pool.Reached config [])
    {browser : Option Nat} (failed : pool.resumption? = some ⟨browser, .error failure⟩)
    : pool.resumeFirst.openPages = pool.openPages
      ∧ pool.resumeFirst.free + pool.resumeFirst.woken.length = pool.free + pool.woken.length
      ∧ (pool.engine.NoneLeft pool.resumeFirst.engine ↔ failure ≠ .pageFailed) := by
  cases found : pool.woken with
  | nil => simp [resumption?, found] at failed
  | cons profile rest =>
    have engine := wakeIfFree_engine { pool with woken := rest }
    have held := wakeIfFree_browser { pool with woken := rest }
    have pages := wakeIfFree_openPages { pool with woken := rest }
    have passed := wakeIfFree_slots { pool with woken := rest }
    have housed := reached.housed.browser
    rw [resumption?_eq found] at failed
    rw [resumeFirst_eq found, List.length_cons]
    generalize { pool with woken := rest }.wakeIfFree = going at *
    rcases opened : going.openPage profile with ⟨next, ended⟩
    rw [opened] at failed
    obtain rfl : ended = .error failure := congrArg Resumption.ended (Option.some.inj failed)
    dsimp only at engine held pages passed ⊢
    rw [← engine, ← held] at housed
    obtain ⟨⟨after, rfl⟩, left⟩ := openPage_failed housed opened
    have slots := giveBack_slots { going with engine := after }
    refine ⟨(giveBack_openPages _).trans pages, ?_, engine ▸ left⟩
    dsimp only at slots
    omega

/-- **What a failed call leaves behind.** Whatever has been done to a pool, and whatever fails: a
call that fails at once leaves the slots, the pages and those who wait as they were, and a call that
fails once it goes on leaves the pages as they were and its slot to the pool. Neither leaves a
context open that was not there before, unless it is the page that cannot be opened; then both do.
-/
theorem atomic_iff_not_pageFailed {config : Config} {pool : Pool} (setup : Setup)
    (reached : pool.Reached config [])
    : (∀ viewport userAgent headers next failure,
        pool.acquire setup viewport userAgent headers = (next, .failed failure)
        → pool.SameSlots next ∧ (pool.engine.NoneLeft next.engine ↔ failure ≠ .pageFailed))
      ∧ ∀ browser failure,
          pool.resumption? = some ⟨browser, .error failure⟩
          → pool.resumeFirst.openPages = pool.openPages
            ∧ pool.resumeFirst.free + pool.resumeFirst.woken.length
              = pool.free + pool.woken.length
            ∧ (pool.engine.NoneLeft pool.resumeFirst.engine ↔ failure ≠ .pageFailed) :=
  ⟨fun _ _ _ _ _ failed => acquire_failed reached failed,
    fun _ _ failed => resumeFirst_failed reached failed⟩

/-- Behind a page that could not be opened and a restart, a context that cannot be opened leaves
nothing behind. -/
theorem atomic_iff_not_pageFailed_restarted
    : let setup : Setup := ⟨{}, {}⟩
      let failing := ((fresh {} { trap := some .page } []).acquire setup none none []).1
      let restarted := (failing.restart setup none 0).1
      let pool := { restarted with engine := { restarted.engine with trap := some .context } }
      pool.Reached {} []
      ∧ ∃ next,
          pool.acquire setup none none [] = (next, .failed .contextFailed)
          ∧ pool.SameSlots next
          ∧ pool.engine.NoneLeft next.engine := by
  intro setup failing restarted pool
  have start : (fresh {} { trap := some .page } []).Reached {} [] :=
    ⟨.fresh _ [], by simp [fresh], by simp [fresh]⟩
  have reached : pool.Reached {} [] :=
    ((start.acquire setup none none []).restart setup none 0).engine (.of_eq rfl)
  have failed
      : pool.acquire setup none none []
        = ((pool.acquire setup none none []).1, .failed .contextFailed) :=
    rfl
  obtain ⟨same, left⟩ := (atomic_iff_not_pageFailed setup reached).1 _ _ _ _ _ failed
  exact ⟨reached, _, failed, same, left.mpr (by simp)⟩

/-- If the page cannot be opened, its context stays open. -/
theorem not_atomic_trappedPage
    : let setup : Setup := ⟨{}, {}⟩
      let pool : Pool := fresh {} { trap := some .page } []
      ∃ next,
        pool.acquire setup none none [] = (next, .failed .pageFailed)
        ∧ pool.SameSlots next
        ∧ next.engine.IsOpen ⟨0, 0⟩
        ∧ ¬ pool.engine.Has ⟨0, 0⟩
        ∧ ¬ pool.engine.NoneLeft next.engine := by
  intro setup pool
  have isOpen : (pool.acquire setup none none []).1.engine.IsOpen ⟨0, 0⟩ :=
    ⟨_, _, rfl, rfl, rfl⟩
  have new : ¬ pool.engine.Has ⟨0, 0⟩ := Nat.lt_irrefl 0
  exact ⟨_, rfl, ⟨rfl, rfl, rfl, rfl⟩, isOpen, new, fun noneLeft => new (noneLeft _ isOpen)⟩

end Pool

end CriticalCss.Browser
