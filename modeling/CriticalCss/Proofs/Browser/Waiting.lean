import CriticalCss.Proofs.Browser.Drivers

/-! Who waits for a page, and whether there is a browser when the turn comes.

The browser is looked for before the wait, not behind it. Giving back a page wakes the next who
waits and leaves the browser as it is; a shutdown gives back all pages at once and takes the browser
away, so whoever it wakes finds none. A restart shuts down too before it launches another browser,
and whoever gets a turn in between finds none either. So a call finds no browser exactly if a
shutdown, the end of a session, or a restart comes while somebody waits, where a restart does no harm
only if it goes through without a pause. A call that does not have to wait always finds one.
-/

namespace CriticalCss.Browser

--------------------------------------------------------------------------------
-- Going on
--------------------------------------------------------------------------------

/-- How a call goes on that had to wait: the browser that the pool holds then, and the end of the
call. -/
structure Resumption where
  browser : Option Nat
  ended : Except Failure Page

/-- A call that asks a browser for a page ends with one of its pages, or because the context or the
page cannot be opened. -/
def EndsOn (browser : Nat) (ended : Except Failure Page) : Prop :=
  (∃ page, ended = .ok page ∧ page.browser = browser)
  ∨ ended = .error .contextFailed
  ∨ ended = .error .pageFailed

/-- There is a browser when the call goes on, and the call ends on it. -/
def Resumption.Served (resumption : Resumption) : Prop :=
  ∃ browser, resumption.browser = some browser ∧ EndsOn browser resumption.ended

namespace Pool

/-- The first who has been given a slot goes on. -/
def resumption? (pool : Pool) : Option Resumption :=
  match pool.woken with
  | [] => none
  | profile :: rest =>
    let going := { pool with woken := rest }.wakeIfFree
    some ⟨going.browser, (going.openPage profile).2⟩

/-- So many go on, one after the other. -/
def resumptions : Nat → Pool → List Resumption
  | 0, _ => []
  | n + 1, pool => pool.resumption?.toList ++ resumptions n pool.resumeFirst

/-- All go on who have been given a slot, until the pool is settled. -/
def settling (pool : Pool) : List Resumption :=
  resumptions pool.waiting pool

/-- Does anybody wait in the queue? -/
def isAwaited (pool : Pool) : Bool :=
  !pool.queue.isEmpty

end Pool

/-- Does the restart with the given launch give others a turn before it is through? -/
def Conduct.givesWay (conduct : Conduct) (launch : Nat) : Bool :=
  Decidable.decide (0 < conduct.delay launch) || Decidable.decide (0 < conduct.turns launch)

/-- What an operation does before those go on who have been given a slot by it, but for those who go
on within a restart. A session is more than one operation. -/
def Operation.done (setup : Setup) (pool : Pool) : Operation → Pool
  | .launch viewport => (pool.launchIfNeeded setup viewport).1
  | .restart viewport => (pool.restart setup viewport (pool.turnsOfRestart setup)).1
  | .shutdown force => pool.shutdown setup force
  | .acquire viewport userAgent headers trap =>
    ({ pool with engine := { pool.engine with trap := trap } }.acquire setup viewport userAgent
      headers).1
  | .release number error =>
    match number.bind (pool.handedOut[·]?) with
    | some page => pool.release setup page error
    | none => pool
  | .disconnect => { pool with engine := pool.engine.disconnectLatest }
  | .session .. => pool

/-- The calls that go on within an operation: those whose turn comes while a restart has no
browser. -/
def Operation.meantime (setup : Setup) (pool : Pool) : Operation → List Resumption
  | .restart _ => (pool.tearDown setup).resumptions (pool.turnsOfRestart setup)
  | _ => []

mutual
/-- The calls that go on during an operation after they had to wait. -/
def Operation.resumptions (setup : Setup) (pool : Pool) : Operation → List Resumption
  | .session viewport body _ =>
    match pool.launchIfNeeded setup viewport with
    | (left, some _) => (left.close setup).settling
    | (entered, none) =>
      Operation.allResumptions setup entered body
        ++ ((Operation.runAll setup entered body).2.close setup).settling
  | operation => operation.meantime setup pool ++ (operation.done setup pool).settling

/-- The calls that go on during operations after they had to wait. -/
def Operation.allResumptions (setup : Setup) (pool : Pool) : List Operation → List Resumption
  | [] => []
  | operation :: rest =>
    operation.resumptions setup pool
      ++ Operation.allResumptions setup (operation.run setup pool).2 rest
end

mutual
/-- Does an operation, or one inside it, let somebody who waits go on without a browser? -/
def Operation.strands (setup : Setup) (pool : Pool) : Operation → Bool
  | .restart _ =>
    pool.isAwaited
    && (setup.conduct.givesWay pool.engine.launches || setup.conduct.fails pool.engine.launches)
  | .shutdown force => pool.isAwaited && (force || !setup.config.keepAlive)
  | .session viewport body _ =>
    match pool.launchIfNeeded setup viewport with
    | (left, some _) => left.isAwaited
    | (entered, none) =>
      Operation.anyStrands setup entered body
      || (Operation.runAll setup entered body).2.isAwaited
  | _ => false

/-- Does one of these operations let somebody who waits go on without a browser? -/
def Operation.anyStrands (setup : Setup) (pool : Pool) : List Operation → Bool
  | [] => false
  | operation :: rest =>
    operation.strands setup pool
    || Operation.anyStrands setup (operation.run setup pool).2 rest
end

--------------------------------------------------------------------------------
-- Settling
--------------------------------------------------------------------------------

/-- Opening a page in a browser ends on that browser. -/
theorem Engine.endsOn_openPage (engine : Engine) (browser : Nat) (profile : Profile)
    : EndsOn browser (engine.openPage browser profile).2 := by
  unfold openPage
  split <;> simp [EndsOn]

namespace Pool

section Settling

variable {pool : Pool}

theorem endsOn_openPage (pool : Pool) {browser : Nat} (held : pool.browser = some browser)
    (profile : Profile)
    : EndsOn browser (pool.openPage profile).2 := by
  have ended := pool.engine.endsOn_openPage browser profile
  unfold openPage
  rw [held]
  dsimp only
  split <;> rename_i found <;> rw [found] at ended <;> exact ended

theorem resumeFirst_eq {profile : Profile} {rest : List Profile}
    (found : pool.woken = profile :: rest)
    : pool.resumeFirst = ({ pool with woken := rest }.wakeIfFree.openPage profile).1 := by
  rw [resumeFirst, found]
  rfl

theorem resumption?_eq {profile : Profile} {rest : List Profile}
    (found : pool.woken = profile :: rest)
    : pool.resumption?
      = some ⟨pool.browser, ({ pool with woken := rest }.wakeIfFree.openPage profile).2⟩ := by
  rw [resumption?, found]
  dsimp only
  rw [wakeIfFree_browser]

theorem resumptions_of_woken_eq_nil (goneOn : pool.woken = []) (n : Nat)
    : pool.resumptions n = [] := by
  induction n with
  | zero => rfl
  | succ n ih =>
    have resumed : pool.resumeFirst = pool := by rw [resumeFirst, goneOn]
    rw [resumptions, resumed, ih, resumption?, goneOn]
    rfl

/-- Whoever goes on is served as long as there is a browser.
Witness: induction on the turns; nobody who goes on takes the browser away.
-/
theorem served_of_browser {browser : Nat} (held : pool.browser = some browser) (n : Nat)
    : ∀ resumption ∈ pool.resumptions n, resumption.Served := by
  induction n generalizing pool with
  | zero => exact fun _ member => absurd member List.not_mem_nil
  | succ n ih =>
    intro resumption member
    rcases List.mem_append.mp member with first | later
    · cases found : pool.woken with
      | nil => simp [resumption?, found] at first
      | cons profile rest =>
        rw [resumption?_eq found] at first
        obtain rfl := List.mem_singleton.mp first
        have kept : { pool with woken := rest }.wakeIfFree.browser = some browser :=
          (wakeIfFree_browser _).trans held
        exact ⟨browser, held, endsOn_openPage _ kept profile⟩
    · exact ih (pool.sameHold_resumeFirst.browser.trans held) resumption later

/-- Whoever goes on without a browser fails for that.
Witness: induction on the turns; nobody who goes on launches a browser.
-/
theorem noBrowser_of_none (gone : pool.browser = none) (n : Nat)
    : ∀ resumption ∈ pool.resumptions n,
        resumption.browser = none ∧ resumption.ended = .error .noBrowser := by
  induction n generalizing pool with
  | zero => exact fun _ member => absurd member List.not_mem_nil
  | succ n ih =>
    intro resumption member
    rcases List.mem_append.mp member with first | later
    · cases found : pool.woken with
      | nil => simp [resumption?, found] at first
      | cons profile rest =>
        rw [resumption?_eq found] at first
        obtain rfl := List.mem_singleton.mp first
        have none : { pool with woken := rest }.wakeIfFree.browser = none :=
          (wakeIfFree_browser _).trans gone
        exact ⟨gone, by rw [openPage, none]⟩
    · exact ih (pool.sameHold_resumeFirst.browser.trans gone) resumption later

/-- Whoever goes on is served just if there is a browser, or nobody has a turn to go on. -/
theorem served_resumptions_iff (n : Nat)
    : (∀ resumption ∈ pool.resumptions n, resumption.Served)
      ↔ ¬ (pool.browser = none ∧ pool.woken ≠ [] ∧ n ≠ 0) := by
  cases held : pool.browser with
  | some browser =>
    exact iff_of_true (served_of_browser held n) (by simp)
  | none =>
    cases found : pool.woken with
    | nil =>
      refine iff_of_true (fun resumption member => ?_) (by simp)
      rw [resumptions_of_woken_eq_nil found] at member
      exact absurd member List.not_mem_nil
    | cons profile rest =>
      cases n with
      | zero => exact iff_of_true (fun _ member => absurd member List.not_mem_nil) (by simp)
      | succ n =>
        refine iff_of_false (fun served => ?_) (by simp)
        have first := resumption?_eq found
        obtain ⟨browser, there, -⟩ := served _ (by
          rw [resumptions, first]
          exact List.mem_cons_self)
        rw [held] at there
        cases there

/-- All who go on are served just if there is a browser, or nobody goes on. -/
theorem served_settling_iff
    : (∀ resumption ∈ pool.settling, resumption.Served)
      ↔ ¬ (pool.browser = none ∧ pool.woken ≠ []) := by
  have turns (woken : pool.woken ≠ []) : pool.waiting ≠ 0 := by
    have := List.length_pos_iff.mpr woken
    unfold waiting
    omega
  rw [settling, served_resumptions_iff]
  exact not_congr (and_congr_right fun _ => and_iff_left_of_imp turns)

/-- Where nobody has been given a slot, nobody has to be served. -/
theorem served_of_woken_eq_nil (goneOn : pool.woken = [])
    : ∀ resumption ∈ pool.settling, resumption.Served :=
  served_settling_iff.mpr fun left => left.2 goneOn

theorem handedOut_wakeNext (pool : Pool) : pool.wakeNext.handedOut = pool.handedOut := by
  unfold wakeNext
  split <;> rfl

theorem handedOut_wakeIfFree (pool : Pool) : pool.wakeIfFree.handedOut = pool.handedOut := by
  unfold wakeIfFree
  split
  · exact handedOut_wakeNext pool
  · rfl

/-- A page that is opened is handed out. -/
theorem handedOut_openPage (pool : Pool) (profile : Profile)
    : (pool.openPage profile).1.handedOut
      = pool.handedOut ++ (pool.openPage profile).2.toOption.toList := by
  have back (pool : Pool) : pool.giveBack.handedOut = pool.handedOut ++ [] := by
    rw [List.append_nil]
    exact handedOut_wakeNext _
  unfold openPage
  split
  · exact back _
  · split
    · exact back _
    · rfl

/-- Of those who wait each goes on or waits still, and pages are handed out to those who go on.
Witness: induction on the turns.
-/
theorem resumptions_account (pool : Pool) (n : Nat)
    : (pool.resumptions n).length + (pool.resumeMany n).waiting = pool.waiting
      ∧ (pool.resumeMany n).handedOut
        = pool.handedOut ++ (pool.resumptions n).filterMap (·.ended.toOption) := by
  induction n generalizing pool with
  | zero => exact ⟨Nat.zero_add _, (List.append_nil _).symm⟩
  | succ n ih =>
    cases found : pool.woken with
    | nil =>
      rw [resumptions_of_woken_eq_nil found, resumeMany_of_woken_eq_nil found]
      exact ⟨Nat.zero_add _, (List.append_nil _).symm⟩
    | cons profile rest =>
      obtain ⟨waiting, handedOut⟩ := ih pool.resumeFirst
      have less := waiting_resumeFirst (show pool.woken ≠ [] by simp [found])
      have pages : pool.resumeFirst.handedOut = pool.handedOut
          ++ ({ pool with woken := rest }.wakeIfFree.openPage profile).2.toOption.toList := by
        rw [resumeFirst_eq found, handedOut_openPage, handedOut_wakeIfFree]
      rw [resumptions, resumeMany, resumption?_eq found, handedOut, pages]
      refine ⟨?_, ?_⟩
      · simp only [Option.toList_some, List.length_append, List.length_singleton]
        omega
      · cases ({ pool with woken := rest }.wakeIfFree.openPage profile).2 <;>
          simp [Except.toOption]

end Settling

--------------------------------------------------------------------------------
-- Closing
--------------------------------------------------------------------------------

section Closing

variable {pool : Pool}

theorem SameSlots.trans {middle other : Pool} (first : pool.SameSlots middle)
    (second : middle.SameSlots other)
    : pool.SameSlots other where
  free := second.free.trans first.free
  queue := second.queue.trans first.queue
  woken := second.woken.trans first.woken
  openPages := second.openPages.trans first.openPages

/-- Somebody goes on behind a slot given back if somebody does before, or if somebody queues. -/
theorem woken_giveBack_iff (pool : Pool)
    : pool.giveBack.woken ≠ [] ↔ pool.woken ≠ [] ∨ pool.queue ≠ [] := by
  unfold giveBack wakeNext
  split <;> rename_i found
  · simp [show pool.queue = [] from found]
  · simp [show pool.queue = _ from found]

/-- Taking back the slots of some pages lets somebody go on if somebody queues and there is one.
Witness: induction on the pages; the first wakes somebody, the others put nobody back.
-/
theorem woken_dropPages_iff
    : pool.dropPages.woken ≠ []
      ↔ pool.woken ≠ [] ∨ pool.queue ≠ [] ∧ pool.openPages ≠ [] := by
  unfold dropPages
  generalize pool.openPages = pages
  induction pages generalizing pool with
  | nil => simp
  | cons page rest ih =>
    have first :=
      woken_giveBack_iff { pool with openPages := pool.openPages.erase page }
    have shorter : _ → pool.queue ≠ [] :=
      queue_ne_nil_of_wakeNext
        { pool with openPages := pool.openPages.erase page, free := pool.free + 1 }
    rw [List.foldl_cons, ih, first]
    constructor
    · rintro ((woken | queued) | ⟨queued, -⟩)
      · exact .inl woken
      · exact .inr ⟨queued, List.cons_ne_nil _ _⟩
      · exact .inr ⟨shorter queued, List.cons_ne_nil _ _⟩
    · rintro (woken | ⟨queued, -⟩)
      · exact .inl (.inl woken)
      · exact .inl (.inr queued)

variable (setup : Setup)

/-- Giving back a page lets somebody go on only if somebody queues. -/
theorem woken_release {page : Page} {error : Option String}
    (woken : (pool.release setup page error).woken ≠ [])
    : pool.woken ≠ [] ∨ pool.queue ≠ [] := by
  unfold release at woken
  split at woken
  · have back := woken_giveBack_iff { pool with openPages := pool.openPages.erase page }
    refine back.mp ?_
    cases error <;> dsimp only at woken <;> split at woken <;> exact woken
  · exact .inl woken

theorem sameSlots_closeBrowser (browser : Nat)
    : pool.SameSlots (pool.closeBrowser setup browser) := by
  unfold closeBrowser
  dsimp only
  split <;> exact ⟨rfl, rfl, rfl, rfl⟩

/-- Closing takes back the slots of all open pages and leaves the slots as they are then. -/
theorem sameSlots_close : pool.dropPages.SameSlots (pool.close setup) := by
  have released
      : pool.dropPages.SameSlots { pool.dropPages with browser := none, driver := none } :=
    ⟨rfl, rfl, rfl, rfl⟩
  unfold close
  cases pool.browser with
  | none => cases pool.driver <;> exact ⟨rfl, rfl, rfl, rfl⟩
  | some browser =>
    have closed := released.trans (sameSlots_closeBrowser setup browser)
    cases pool.driver <;>
      exact closed.trans ⟨rfl, rfl, rfl, rfl⟩

theorem engine_dropPages : pool.dropPages.engine = pool.engine := by
  unfold dropPages
  generalize pool.openPages = pages
  induction pages generalizing pool with
  | nil => rfl
  | cons page rest ih => exact ih.trans (giveBack_engine _)

theorem launches_closeBrowser (browser : Nat)
    : (pool.closeBrowser setup browser).engine.launches = pool.engine.launches := by
  unfold closeBrowser Engine.closeBrowser
  dsimp only
  split <;> split <;> rfl

/-- Closing launches nothing. -/
theorem launches_close (pool : Pool)
    : (pool.close setup).engine.launches = pool.engine.launches := by
  have kept : pool.dropPages.engine.launches = pool.engine.launches := by rw [engine_dropPages]
  unfold close
  cases pool.browser with
  | none => cases pool.driver <;> exact kept
  | some browser => cases pool.driver <;> exact (launches_closeBrowser setup browser).trans kept

theorem launches_tearDown (pool : Pool)
    : (pool.tearDown setup).engine.launches = pool.engine.launches :=
  launches_close setup (pool.note .browserRestarting)

/-- Launching hands out no page. -/
theorem handedOut_launchIfNeeded (viewport : Viewport) (pool : Pool)
    : (pool.launchIfNeeded setup viewport).1.handedOut = pool.handedOut := by
  unfold launchIfNeeded
  dsimp only
  split
  · rfl
  · split <;> rfl

theorem handedOut_dropPages (pool : Pool) : pool.dropPages.handedOut = pool.handedOut := by
  unfold dropPages
  generalize pool.openPages = pages
  induction pages generalizing pool with
  | nil => rfl
  | cons page rest ih => exact (ih _).trans (handedOut_wakeNext _)

/-- Closing hands out no page. -/
theorem handedOut_close (pool : Pool) : (pool.close setup).handedOut = pool.handedOut := by
  have dropped := handedOut_dropPages pool
  have closed (browser : Nat) (pool : Pool)
      : (pool.closeBrowser setup browser).handedOut = pool.handedOut := by
    unfold closeBrowser
    dsimp only
    split <;> rfl
  unfold close
  cases pool.browser with
  | none => cases pool.driver <;> exact dropped
  | some browser => cases pool.driver <;> exact (closed browser _).trans dropped

end Closing

end Pool

--------------------------------------------------------------------------------
-- Operations
--------------------------------------------------------------------------------

namespace Pool

/-- A settled pool without a browser has no open pages. -/
structure Tended (config : Config) (pool : Pool) : Prop where
  settled : pool.Settled config
  hosted : pool.browser = none → pool.openPages = []

section Tending

variable {config : Config} {pool : Pool} (setup : Setup)

/-- Whoever waits in a settled pool waits behind an open page, which has a browser. -/
theorem Tended.openPages_ne_nil (tended : pool.Tended config) (queued : pool.queue ≠ [])
    : pool.openPages ≠ [] := by
  have balanced := tended.settled.reached.moment.balanced
  have full : pool.free = 0 :=
    (balanced.passedOn queued).resolve_right fun woken => woken tended.settled.goneOn
  intro closed
  have slots := balanced.slots
  have count := natCast_capacity config
  simp [Scene.holders, openCount, tended.settled.goneOn, full, closed] at slots
  omega

theorem Tended.note (tended : pool.Tended config) (event : Event)
    : (pool.note event).Tended config :=
  ⟨⟨tended.settled.reached.note event, tended.settled.goneOn⟩, tended.hosted⟩

theorem Tended.browser_ne_none (tended : pool.Tended config) (queued : pool.queue ≠ [])
    : pool.browser ≠ none :=
  fun gone => tended.openPages_ne_nil queued (tended.hosted gone)

/-- Closing lets somebody go on just if somebody waits. -/
theorem Tended.woken_close_iff (tended : pool.Tended config)
    : (pool.close setup).woken ≠ [] ↔ pool.isAwaited = true := by
  have awaited : pool.isAwaited = true ↔ pool.queue ≠ [] := by simp [isAwaited]
  rw [(sameSlots_close setup).woken, woken_dropPages_iff, awaited]
  constructor
  · rintro (woken | ⟨queued, -⟩)
    · exact absurd tended.settled.goneOn woken
    · exact queued
  · exact fun queued => .inr ⟨queued, tended.openPages_ne_nil queued⟩

theorem Tended.woken_tearDown_iff (tended : pool.Tended config)
    : (pool.tearDown setup).woken ≠ [] ↔ pool.isAwaited = true :=
  (tended.note .browserRestarting).woken_close_iff setup

/-- Behind a launch there is a browser, or the pool has the one it had. -/
theorem browser_launchIfNeeded (viewport : Viewport) (pool : Pool)
    : (pool.launchIfNeeded setup viewport).1.browser = none → pool.browser = none := by
  intro gone
  have launching := launching_launchIfNeeded setup viewport pool
  rcases found : pool.launchIfNeeded setup viewport with ⟨next, failure⟩
  rw [found] at launching gone
  cases launching with
  | needless _ same => exact same.browser ▸ gone
  | failed _ _ _ browser => exact browser ▸ gone
  | launched _ _ _ browser => exact absurd (browser.symm.trans gone) (Option.some_ne_none _)

/-- A launch that goes through leaves a browser. -/
theorem exists_browser_of_launchIfNeeded {viewport : Viewport} {next : Pool}
    (launched : pool.launchIfNeeded setup viewport = (next, none))
    : ∃ browser, next.browser = some browser := by
  have launching := launching_launchIfNeeded setup viewport pool
  rw [launched] at launching
  cases launching with
  | needless alive same =>
    cases held : pool.browser with
    | none => simp [isAlive, held] at alive
    | some browser => exact ⟨browser, same.browser.trans held⟩
  | launched _ _ _ browser => exact ⟨_, browser⟩

/-- Whoever fails to open a page lets somebody go on only if somebody queues. -/
theorem woken_openPage (pool : Pool) (goneOn : pool.woken = []) (unqueued : pool.queue = [])
    (profile : Profile)
    : (pool.openPage profile).1.woken = [] := by
  have back (pool : Pool) (goneOn : pool.woken = []) (unqueued : pool.queue = [])
      : pool.giveBack.woken = [] := by
    simpa [goneOn, unqueued] using woken_giveBack_iff pool
  unfold openPage
  split
  · exact back _ goneOn unqueued
  · split
    · exact back _ goneOn unqueued
    · exact goneOn

/-- Whoever asks for a page wakes nobody, and gets one only if there is a browser. -/
theorem acquire_cases (pool : Pool) (goneOn : pool.woken = []) (viewport : Option Viewport)
    (userAgent : Option String) (headers : List (String × String))
    : (pool.acquire setup viewport userAgent headers).1.woken = []
      ∧ ((pool.acquire setup viewport userAgent headers).1.browser = none
        → pool.browser = none
          ∧ (pool.acquire setup viewport userAgent headers).1.openPages = pool.openPages) := by
  have same := sameSlots_launchIfNeeded setup (viewport.getD (pool.usualViewport setup)) pool
  have before := browser_launchIfNeeded setup (viewport.getD (pool.usualViewport setup)) pool
  unfold acquire
  dsimp only
  split
  · rename_i next failure found
    rw [found] at same before
    exact ⟨same.woken.trans goneOn, fun gone => ⟨before gone, same.openPages⟩⟩
  · rename_i next found
    obtain ⟨browser, held⟩ := exists_browser_of_launchIfNeeded setup found
    rw [found] at same
    split
    · exact ⟨same.woken.trans goneOn, fun gone =>
        absurd (held.symm.trans gone) (Option.some_ne_none browser)⟩
    · rename_i vacant
      have vacant : (¬ next.free = 0 ∧ next.queue = []) ∧ next.woken = [] := by
        simpa [isFull] using vacant
      have opened := woken_openPage { next with free := next.free - 1 } vacant.2 vacant.1.2
        (profileFor setup (viewport.getD (pool.usualViewport setup)) userAgent headers)
      have kept := (sameHold_openPage { next with free := next.free - 1 }
        (profileFor setup (viewport.getD (pool.usualViewport setup)) userAgent headers)).browser
      split <;> rename_i found <;> rw [found] at opened kept <;>
        exact ⟨opened, fun gone =>
          absurd ((kept.trans held).symm.trans gone) (Option.some_ne_none browser)⟩

end Tending

end Pool

/-- Is the operation a session? -/
def Operation.isSession : Operation → Bool
  | .session .. => true
  | _ => false

section Steps

variable {config : Config} {pool : Pool} (setup : Setup)

/-- Apart from a session, an operation is done and then reported. -/
theorem Operation.exists_report (pool : Pool) {operation : Operation}
    (single : operation.isSession = false)
    : ∃ answer, operation.run setup pool = (operation.done setup pool).report answer := by
  cases operation with
  | launch viewport => exact ⟨_, rfl⟩
  | restart viewport => exact ⟨_, rfl⟩
  | shutdown force => exact ⟨_, rfl⟩
  | acquire viewport userAgent headers trap =>
    rw [Operation.run, Operation.done]
    dsimp only
    split <;> rename_i found <;> rw [found] <;> exact ⟨_, rfl⟩
  | release number error =>
    cases number with
    | none => exact ⟨_, rfl⟩
    | some number =>
      rw [Operation.run, Operation.done]
      cases found : pool.handedOut[number]? <;> simp only [Option.bind_some, found] <;>
        exact ⟨_, rfl⟩
  | disconnect => exact ⟨_, rfl⟩
  | session => cases single

theorem Operation.resumptions_eq (pool : Pool) {operation : Operation}
    (single : operation.isSession = false)
    : operation.resumptions setup pool
      = operation.meantime setup pool ++ (operation.done setup pool).settling := by
  cases operation <;> first | rfl | cases single

/-- Where somebody waits, a restart gives turns just if launching takes time or gives way. -/
theorem Pool.turnsOfRestart_ne_zero_iff (awaited : pool.isAwaited = true)
    : pool.turnsOfRestart setup ≠ 0 ↔ setup.conduct.givesWay pool.engine.launches = true := by
  have waiting : pool.waiting ≠ 0 := by
    have queued : pool.queue ≠ [] := by simpa [isAwaited] using awaited
    have := List.length_pos_iff.mpr queued
    unfold waiting
    omega
  simp only [turnsOfRestart, Conduct.givesWay, Bool.or_eq_true, decide_eq_true_eq]
  split
  · rename_i slow
    exact iff_of_true waiting (.inl slow)
  · rename_i instant
    rw [or_iff_right instant]
    exact Nat.pos_iff_ne_zero.symm

/-- A launch that takes the place of nothing leaves no browser just if it fails. -/
theorem Pool.browser_relaunch_iff (gone : pool.browser = none) (viewport : Option Viewport)
    : (pool.relaunch setup viewport).1.browser = none
      ↔ setup.conduct.fails pool.engine.launches = true := by
  have launching :=
    launching_launchIfNeeded setup (viewport.getD (pool.usualViewport setup)) pool
  rw [relaunch]
  rcases found : pool.launchIfNeeded setup (viewport.getD (pool.usualViewport setup))
    with ⟨next, failure⟩
  rw [found] at launching
  cases launching with
  | needless alive => simp [isAlive, gone] at alive
  | failed _ fails _ browser => exact iff_of_true (browser.trans gone) fails
  | launched _ succeeds _ browser =>
    refine iff_of_false (fun none => ?_) (by simp [succeeds])
    exact absurd (browser.symm.trans none) (Option.some_ne_none _)

/-- A restart serves all who go on just if nobody waits, or if it gives nobody a turn and its launch
goes through. -/
theorem Pool.Tended.served_restart_iff (tended : pool.Tended config) (viewport : Option Viewport)
    : (∀ resumption ∈
          (pool.tearDown setup).resumptions (pool.turnsOfRestart setup)
            ++ (pool.restart setup viewport (pool.turnsOfRestart setup)).1.settling,
        resumption.Served)
      ↔ (pool.isAwaited
          && (setup.conduct.givesWay pool.engine.launches
            || setup.conduct.fails pool.engine.launches)) = false := by
  have gone := Pool.browser_tearDown setup pool
  have woken := tended.woken_tearDown_iff setup
  have slots (torn : Pool) := Pool.sameSlots_launchIfNeeded setup
    (viewport.getD (torn.usualViewport setup)) torn
  rw [List.forall_mem_append, Pool.served_resumptions_iff, Pool.restart]
  cases awaited : pool.isAwaited with
  | false =>
    have goneOn : (pool.tearDown setup).woken = [] := by simpa [awaited] using woken
    rw [Pool.resumeMany_of_woken_eq_nil goneOn]
    refine iff_of_true ⟨fun left => left.2.1 goneOn, Pool.served_of_woken_eq_nil ?_⟩ rfl
    exact (slots _).woken.trans goneOn
  | true =>
    have turns := Pool.turnsOfRestart_ne_zero_iff setup awaited
    cases way : setup.conduct.givesWay pool.engine.launches with
    | true =>
      refine iff_of_false (fun served => served.1 ⟨gone, woken.mpr awaited, turns.mpr way⟩) ?_
      simp
    | false =>
      have none : pool.turnsOfRestart setup = 0 := by
        by_contra some
        exact absurd (turns.mp some) (by simp [way])
      have left : ((pool.tearDown setup).relaunch setup viewport).1.woken ≠ [] := by
        rw [Pool.relaunch, (slots _).woken]
        exact woken.mpr awaited
      rw [none, Pool.resumeMany, Pool.served_settling_iff, and_iff_left left,
        Pool.browser_relaunch_iff setup gone viewport, Pool.launches_tearDown]
      simp

/-- A shutdown takes the browser away unless it is kept, and lets somebody go on just if somebody
waits. -/
theorem Pool.Tended.strands_shutdown_iff (tended : pool.Tended config) (force : Bool)
    : (pool.isAwaited && (force || !setup.config.keepAlive)) = true
      ↔ (pool.shutdown setup force).browser = none ∧ (pool.shutdown setup force).woken ≠ [] := by
  have insistent
      : (force || !setup.config.keepAlive) = !(setup.config.keepAlive && !force) := by
    rw [Bool.not_and, Bool.not_not, Bool.or_comm]
  rw [Pool.shutdown, insistent]
  cases setup.config.keepAlive && !force with
  | true =>
    rw [Bool.not_true, Bool.and_false]
    exact iff_of_false Bool.false_ne_true fun left => left.2 tended.settled.goneOn
  | false =>
    rw [Bool.not_false, Bool.and_true]
    have emptied := (Pool.closing_close setup pool).browser
    have closed := tended.woken_close_iff setup
    exact ⟨fun awaited => ⟨emptied, closed.mpr awaited⟩, fun left => closed.mp left.2⟩

/-- An operation serves all who go on during it just if it strands nobody. -/
theorem Operation.served_iff {operation : Operation} (tended : pool.Tended config)
    (single : operation.isSession = false)
    : (∀ resumption ∈ operation.resumptions setup pool, resumption.Served)
      ↔ operation.strands setup pool = false := by
  have goneOn := tended.settled.goneOn
  rw [Operation.resumptions_eq setup pool single]
  cases operation with
  | launch viewport =>
    have same := Pool.sameSlots_launchIfNeeded setup viewport pool
    exact iff_of_true (Pool.served_of_woken_eq_nil (same.woken.trans goneOn)) rfl
  | restart viewport => exact tended.served_restart_iff setup viewport
  | shutdown force =>
    rw [Operation.strands, ← Bool.not_eq_true, tended.strands_shutdown_iff setup force]
    exact Pool.served_settling_iff
  | acquire viewport userAgent headers trap =>
    have asked := Pool.acquire_cases setup { pool with engine := { pool.engine with trap } }
      goneOn viewport userAgent headers
    exact iff_of_true (Pool.served_of_woken_eq_nil asked.1) rfl
  | release number error =>
    refine iff_of_true (Pool.served_settling_iff.mpr ?_) rfl
    rintro ⟨gone, woken⟩
    rw [Operation.done] at gone woken
    split at gone
    · rename_i page found
      rw [found] at woken
      rcases Pool.woken_release setup woken with goesOn | queued
      · exact goesOn goneOn
      · refine tended.browser_ne_none queued ?_
        exact (Pool.sameHold_release setup pool page error).browser.symm.trans gone
    · rename_i found
      rw [found] at woken
      exact woken goneOn
  | disconnect => exact iff_of_true (Pool.served_of_woken_eq_nil goneOn) rfl
  | session => cases single

/-- Going on opens pages in a browser only. -/
theorem Pool.hosted_resumeMany (hosted : pool.browser = none → pool.openPages = []) (n : Nat)
    : (pool.resumeMany n).browser = none → (pool.resumeMany n).openPages = [] := by
  intro gone
  have gone : pool.browser = none := (pool.sameHold_resumeMany n).browser.symm.trans gone
  rw [(onlySlots_resumeMany gone n).openPages, hosted gone]

/-- What has been reported is settled. -/
theorem Pool.Reached.tended_report (reached : pool.Reached config [])
    (hosted : pool.browser = none → pool.openPages = []) (answer : Answer)
    : (pool.report answer).2.Tended config where
  settled := (reached.report answer).2
  hosted := Pool.hosted_resumeMany hosted _

/-- An operation leaves no page open without a browser. -/
theorem Operation.hosted_done {operation : Operation} (tended : pool.Tended config)
    : (operation.done setup pool).browser = none → (operation.done setup pool).openPages = [] := by
  intro gone
  cases operation with
  | launch viewport =>
    have same := Pool.sameSlots_launchIfNeeded setup viewport pool
    exact same.openPages.trans <|
      tended.hosted (Pool.browser_launchIfNeeded setup viewport pool gone)
  | restart viewport => exact Pool.openPages_restart setup pool viewport _
  | shutdown force =>
    rw [Operation.done, Pool.shutdown] at gone ⊢
    split at gone
    · rename_i declined
      rw [if_pos declined]
      exact tended.hosted gone
    · rename_i closes
      rw [if_neg closes]
      exact Pool.openPages_close setup pool
  | acquire viewport userAgent headers trap =>
    have asked := Pool.acquire_cases setup { pool with engine := { pool.engine with trap } }
      tended.settled.goneOn viewport userAgent headers
    obtain ⟨before, same⟩ := asked.2 gone
    exact same.trans (tended.hosted before)
  | release number error =>
    rw [Operation.done] at gone ⊢
    split at gone
    · rename_i page found
      have before : pool.browser = none :=
        (Pool.sameHold_release setup pool page error).browser.symm.trans gone
      exact (Pool.openPages_release setup pool page error).trans (by simp [tended.hosted before])
    · exact tended.hosted gone
  | disconnect => exact tended.hosted gone
  | session => exact tended.hosted gone

theorem Pool.Tended.launchIfNeeded (tended : pool.Tended config) (viewport : Viewport)
    : (pool.launchIfNeeded setup viewport).1.Tended config where
  settled := tended.settled.launchIfNeeded setup viewport
  hosted gone :=
    (Pool.sameSlots_launchIfNeeded setup viewport pool).openPages.trans
      (tended.hosted (Pool.browser_launchIfNeeded setup viewport pool gone))

/-- Closing serves all who go on then just if nobody waits. -/
theorem Pool.Tended.served_close_iff (tended : pool.Tended config)
    : (∀ resumption ∈ (pool.close setup).settling, resumption.Served)
      ↔ pool.isAwaited = false := by
  have emptied := (Pool.closing_close setup pool).browser
  rw [Pool.served_settling_iff, tended.woken_close_iff setup, and_iff_right emptied,
    Bool.not_eq_true]

theorem Pool.Tended.report_close (tended : pool.Tended config) (answer : Answer)
    : ((pool.close setup).report answer).2.Tended config :=
  (tended.settled.reached.close setup).tended_report
    (fun _ => Pool.openPages_close setup pool) answer

mutual
/-- An operation serves all who go on during it just if it strands nobody, by recursion on the
operation. -/
theorem Operation.served_run {pool : Pool} (tended : pool.Tended config) (operation : Operation)
    : (operation.run setup pool).2.Tended config
      ∧ ((∀ resumption ∈ operation.resumptions setup pool, resumption.Served)
        ↔ operation.strands setup pool = false) := by
  cases kind : operation.isSession with
  | false =>
    obtain ⟨answer, reported⟩ := Operation.exists_report setup pool kind
    refine ⟨⟨(Operation.settled_run setup tended.settled operation).2, ?_⟩, ?_⟩
    · rw [reported]
      exact Pool.hosted_resumeMany (Operation.hosted_done setup tended) _
    · exact Operation.served_iff setup tended kind
  | true =>
    cases operation with
    | session viewport body error =>
      have launched := tended.launchIfNeeded setup viewport
      rw [Operation.run, Operation.resumptions, Operation.strands]
      rcases found : pool.launchIfNeeded setup viewport with ⟨entered, failure⟩
      rw [found] at launched
      cases failure with
      | some failure => exact ⟨launched.report_close setup _, launched.served_close_iff setup⟩
      | none =>
        obtain ⟨left, inside⟩ := Operation.served_runAll launched body
        refine ⟨left.report_close setup (.ofFailure? error), ?_⟩
        rw [List.forall_mem_append, inside, left.served_close_iff setup, Bool.or_eq_false_iff]
    | _ => cases kind

/-- Operations serve all who go on during them just if none of them strands anybody. -/
theorem Operation.served_runAll {pool : Pool} (tended : pool.Tended config)
    (operations : List Operation)
    : (Operation.runAll setup pool operations).2.Tended config
      ∧ ((∀ resumption ∈ Operation.allResumptions setup pool operations, resumption.Served)
        ↔ Operation.anyStrands setup pool operations = false) := by
  cases operations with
  | nil => exact ⟨tended, iff_of_true (fun _ member => absurd member List.not_mem_nil) rfl⟩
  | cons operation rest =>
    obtain ⟨middle, first⟩ := Operation.served_run tended operation
    obtain ⟨last, others⟩ := Operation.served_runAll middle rest
    refine ⟨last, ?_⟩
    rw [Operation.allResumptions, Operation.anyStrands, List.forall_mem_append, first, others,
      Bool.or_eq_false_iff]
end

end Steps

mutual
/-- What holds of all who go on in a pool holds of all who go on during an operation, by recursion
on the operation. -/
theorem Operation.forall_resumptions {P : Resumption → Prop} (setup : Setup)
    (going : ∀ (pool : Pool) (n : Nat), ∀ resumption ∈ pool.resumptions n, P resumption)
    (pool : Pool) (operation : Operation)
    : ∀ resumption ∈ operation.resumptions setup pool, P resumption := by
  cases kind : operation.isSession with
  | false =>
    rw [Operation.resumptions_eq setup pool kind]
    refine List.forall_mem_append.mpr ⟨?_, going _ _⟩
    cases operation with
    | restart viewport => exact going _ _
    | _ => exact fun _ member => absurd member List.not_mem_nil
  | true =>
    cases operation with
    | session viewport body error =>
      rw [Operation.resumptions]
      rcases pool.launchIfNeeded setup viewport with ⟨entered, failure⟩
      cases failure with
      | some failure => exact going _ _
      | none =>
        exact List.forall_mem_append.mpr
          ⟨Operation.forall_allResumptions setup going entered body, going _ _⟩
    | _ => cases kind

/-- What holds of all who go on in a pool holds of all who go on during operations. -/
theorem Operation.forall_allResumptions {P : Resumption → Prop} (setup : Setup)
    (going : ∀ (pool : Pool) (n : Nat), ∀ resumption ∈ pool.resumptions n, P resumption)
    (pool : Pool) (operations : List Operation)
    : ∀ resumption ∈ Operation.allResumptions setup pool operations, P resumption := by
  cases operations with
  | nil => exact fun _ member => absurd member List.not_mem_nil
  | cons operation rest =>
    exact List.forall_mem_append.mpr
      ⟨Operation.forall_resumptions setup going pool operation,
        Operation.forall_allResumptions setup going (operation.run setup pool).2 rest⟩
end

--------------------------------------------------------------------------------
-- Who finds a browser
--------------------------------------------------------------------------------

/-- Whoever goes on is served, or fails for want of a browser. -/
def Resumption.Decided (resumption : Resumption) : Prop :=
  resumption.Served ∨ resumption.browser = none ∧ resumption.ended = .error .noBrowser

/-- Whoever asks and does not have to wait gets a page of the browser that the pool holds, or fails
because a launch fails or because the context or the page cannot be opened. -/
def Pool.Acquisition.Hosted (browser : Option Nat) : Pool.Acquisition → Prop
  | .page opened => browser = some opened.browser
  | .queued => True
  | .failed failure =>
    failure = .launchFailed ∨ failure = .contextFailed ∨ failure = .pageFailed

namespace Pool

theorem decided_resumptions (pool : Pool) (n : Nat)
    : ∀ resumption ∈ pool.resumptions n, resumption.Decided := by
  intro resumption member
  cases held : pool.browser with
  | some browser => exact .inl (served_of_browser held n resumption member)
  | none => exact .inr (noBrowser_of_none held n resumption member)

/-- Whoever does not have to wait finds a browser. -/
theorem hosted_acquire (setup : Setup) (viewport : Option Viewport) (userAgent : Option String)
    (headers : List (String × String)) (pool : Pool)
    : (pool.acquire setup viewport userAgent headers).2.Hosted
        (pool.acquire setup viewport userAgent headers).1.browser := by
  have launching :=
    launching_launchIfNeeded setup (viewport.getD (pool.usualViewport setup)) pool
  unfold acquire
  dsimp only
  split
  · rename_i next failure found
    rw [found] at launching
    generalize launched : some failure = ended at launching
    cases launching with
    | failed => exact .inl (Option.some.inj launched)
    | _ => cases launched
  · rename_i next found
    obtain ⟨browser, held⟩ := exists_browser_of_launchIfNeeded setup found
    split
    · trivial
    · have ends := endsOn_openPage { next with free := next.free - 1 } held
        (profileFor setup (viewport.getD (pool.usualViewport setup)) userAgent headers)
      have kept := (sameHold_openPage { next with free := next.free - 1 }
        (profileFor setup (viewport.getD (pool.usualViewport setup)) userAgent headers)).browser
      split <;> rename_i found <;> rw [found] at ends kept
      · rcases ends with ⟨page, same, rfl⟩ | failed | failed
        · cases same
          exact kept.trans held
        · cases failed
        · cases failed
      · rcases ends with ⟨page, same, rfl⟩ | failed | failed
        · cases same
        · exact .inr (.inl (Except.error.inj failed))
        · exact .inr (.inr (Except.error.inj failed))

theorem tended_fresh (config : Config) (log : List Event)
    : (fresh config {} log).Tended config where
  settled := {
    reached := { moment := .fresh {} log, housed := ⟨by simp [fresh], by simp [fresh]⟩ }
    goneOn := rfl }
  hosted _ := rfl

end Pool

/-- **Who finds a browser when the turn comes.** Whatever is done to a pool, a call that does not
have to wait asks the browser that the pool holds for its page. Of the calls that wait each goes on
in the turns that there are or waits still, and the pages handed out then go to those that go on.
These ask the browser that the pool holds too, or find none and fail for that. All find a browser
exactly if no operation takes the browser away while somebody waits: no shutdown that is not
declined, no end of a session, and no restart, but one that goes through without giving anybody a
turn in between.
-/
theorem served_iff_nobody_stranded (setup : Setup) (operations : List Operation)
    : (∀ (pool : Pool) viewport userAgent headers,
        (pool.acquire setup viewport userAgent headers).2.Hosted
          (pool.acquire setup viewport userAgent headers).1.browser)
      ∧ (∀ (pool : Pool) turns,
          (pool.resumptions turns).length + (pool.resumeMany turns).waiting = pool.waiting
            ∧ (pool.resumeMany turns).handedOut
              = pool.handedOut ++ (pool.resumptions turns).filterMap (·.ended.toOption))
      ∧ (∀ resumption ∈ Operation.allResumptions setup (.fresh setup.config {} []) operations,
          resumption.Decided)
      ∧ ((∀ resumption ∈ Operation.allResumptions setup (.fresh setup.config {} []) operations,
            resumption.Served)
        ↔ Operation.anyStrands setup (.fresh setup.config {} []) operations = false) := by
  refine ⟨fun pool viewport userAgent headers => ?_, fun pool turns => ?_, ?_, ?_⟩
  · exact Pool.hosted_acquire setup viewport userAgent headers pool
  · exact Pool.resumptions_account pool turns
  · exact Operation.forall_allResumptions setup Pool.decided_resumptions _ operations
  · exact (Operation.served_runAll setup (Pool.tended_fresh setup.config []) operations).2

/-- A pool with one slot, which is shut down while somebody waits for the slot: the call is woken by
the shutdown and finds no browser. -/
theorem noBrowser_behind_shutdown
    : ∃ resumption ∈
        Operation.allResumptions ⟨{ maxOpenPages := 1 }, {}⟩
          (.fresh { maxOpenPages := 1 } {} [])
          [.acquire none none [] none, .acquire none none [] none, .shutdown true],
        ¬ resumption.Served ∧ resumption.browser = none
          ∧ resumption.ended = .error .noBrowser := by
  refine ⟨⟨none, .error .noBrowser⟩, ?_, ?_, rfl, rfl⟩
  · exact List.mem_singleton.mpr rfl
  · rintro ⟨browser, there, -⟩
    cases there

/-- Behind a restart the call finds the new browser if the restart goes through without a pause, and
none if launching takes a while. -/
example (pause : Bool)
    : (Operation.allResumptions
          ⟨{ maxOpenPages := 1 }, { delay := fun _ => pause.toNat }⟩
          (.fresh { maxOpenPages := 1 } {} [])
          [.acquire none none [] none, .acquire none none [] none, .restart none]).map
        Resumption.browser
      = [if pause then none else some 1] := by
  cases pause <;> rfl

end CriticalCss.Browser
