import CriticalCss.Extraction
import CriticalCss.Proofs.Selection.Timing

/-! What is done on a page, from the load to the style sheet. Of the pool it is on, work on a page
changes nothing but the log and the connection of the page's browser. Work that starts before the
deadline is over by the deadline, with no question left open, and if the time is up before it is
done that is noticed at the deadline.
-/

namespace CriticalCss

/-- Does a failure tell that a time is over? -/
def Failure.tellsTime : Failure → Bool
  | .gaveUp _ => true
  | failure => failure.kind? == some .timeout

namespace Browser

/-- What becomes of a pool while a page of a browser is worked on: events are noted, and the browser
loses its connection. -/
inductive Pool.Used (browser : Nat) (pool : Pool) : Pool → Prop where
  | unused : Used browser pool pool
  | noted {next : Pool} (used : Used browser pool next) (events : List Event)
      : Used browser pool { next with log := next.log ++ events }
  | lost {next : Pool} (used : Used browser pool next)
      : Used browser pool { next with engine := next.engine.disconnect browser }

theorem Pool.Used.trans {browser : Nat} {pool middle next : Pool}
    (first : pool.Used browser middle) (second : middle.Used browser next)
    : pool.Used browser next := by
  induction second with
  | unused => exact first
  | noted _ events ih => exact ih.noted events
  | lost _ ih => exact ih.lost

end Browser

namespace Extraction

open Browser (Pool)

--------------------------------------------------------------------------------
-- Timeouts of the page's own
--------------------------------------------------------------------------------

/-- A page does not break down for want of time. -/
structure Punctual (probe : Probe Breakdown) : Prop where
  query
    : ∀ query breakdown, (probe.isVisible query).reply? = some (.broken breakdown) →
        breakdown.failure.tellsTime = false
  clearing
    : ∀ query properties critical breakdown,
        probe.shiftsLayout query properties critical = .broken breakdown →
          breakdown.failure.tellsTime = false

/-- Neither loading nor the page breaks off for want of time: only the deadline tells the time. -/
structure Conditions.Punctual (conditions : Conditions) : Prop where
  load : ∀ n failure, (conditions.load n).failure = some failure → failure.tellsTime = false
  probe : Extraction.Punctual conditions.probe

--------------------------------------------------------------------------------
-- Work
--------------------------------------------------------------------------------

/-- What one page was asked it was asked from a time on and before the deadline, and no question is
open behind that. -/
def Inquiry.InTime (probe : Probe Breakdown) (started deadline : Nat) (inquiry : Inquiry) : Prop :=
  inquiry.trace = {}
  ∨ ∃ settings clock sheet,
      started ≤ clock
      ∧ clock < deadline
      ∧ inquiry.trace = (Selection.run settings probe clock (some deadline) sheet).trace
      ∧ Selection.InTime settings probe clock deadline sheet

/-- Time has passed, but not beyond the deadline, and one page at most was asked. -/
structure Spent (conditions : Conditions) (deadline : Nat) (before now : Progress) : Prop where
  forward : before.clock ≤ now.clock
  notLate : now.clock ≤ deadline
  asked
    : now.inquiries = before.inquiries
      ∨ ∃ inquiry,
          now.inquiries = before.inquiries ++ [inquiry]
          ∧ inquiry.InTime conditions.probe before.clock deadline

/-- An end that comes by the deadline: at the deadline if the time is up, and before it for another
reason unless it was told that a time is over. -/
structure Timely (conditions : Conditions) (deadline : Nat) (before : Progress)
    (ended : Progress × Ending) : Prop
    extends Spent conditions deadline before ended.1 where
  cutOff : ended.2 = .cutOff → ended.1.clock = deadline
  failed
    : conditions.Punctual → ∀ failure, ended.2 = .failed failure → failure.tellsTime = false

/-- What work on a page has come to. -/
structure AtWork (conditions : Conditions) (deadline : Nat) (page : Browser.Page)
    (before now : Progress) : Prop
    extends Spent conditions deadline before now where
  used : before.pool.Used page.browser now.pool

/-- What work on a page comes to in the end. -/
structure Worked (conditions : Conditions) (deadline : Nat) (page : Browser.Page)
    (before : Progress) (ended : Progress × Ending) : Prop
    extends Timely conditions deadline before ended where
  used : before.pool.Used page.browser ended.1.pool

section Working

variable {conditions : Conditions} {request : Request} {deadline : Nat} {page : Browser.Page}
  {before now after : Progress}

theorem atWork_start (conditions : Conditions) (page : Browser.Page)
    (inTime : before.clock ≤ deadline)
    : AtWork conditions deadline page before before :=
  ⟨⟨Nat.le_refl _, inTime, .inl rfl⟩, .unused⟩

theorem AtWork.noteAll (atWork : AtWork conditions deadline page before now)
    (events : List Event)
    : AtWork conditions deadline page before (now.noteAll events) :=
  { atWork with used := atWork.used.noted events }

theorem AtWork.disconnect (atWork : AtWork conditions deadline page before now)
    : AtWork conditions deadline page before (now.disconnect page) :=
  { atWork with used := atWork.used.lost }

/-- Work fails at once. -/
theorem AtWork.fails {failure : Failure} (atWork : AtWork conditions deadline page before now)
    (other : conditions.Punctual → failure.tellsTime = false)
    : Worked conditions deadline page before (now, .failed failure) where
  toSpent := atWork.toSpent
  used := atWork.used
  cutOff := nofun
  failed punctual _ same := Ending.failed.inj same ▸ other punctual

/-- Work is cut off when the deadline comes. -/
theorem AtWork.cutOff (atWork : AtWork conditions deadline page before now)
    : Worked conditions deadline page before ({ now with clock := deadline }, .cutOff) where
  forward := Nat.le_trans atWork.forward atWork.notLate
  notLate := Nat.le_refl _
  asked := atWork.asked
  used := atWork.used
  cutOff _ := rfl
  failed := nofun

/-- Tidying and printing take no time. -/
theorem AtWork.finish (atWork : AtWork conditions deadline page before now) (sheet : Stylesheet)
    : Worked conditions deadline page before (Extraction.finish request sheet now) := by
  unfold Extraction.finish
  split
  · exact atWork.fails fun _ => rfl
  · dsimp only
    split
    · exact { atWork.noteAll _ with cutOff := nofun, failed := nofun }
    · exact (atWork.noteAll _).fails fun _ => rfl

/-- Selection breaks down only if the page does. -/
theorem tellsTime_of_broken {settings : Selection.Settings} {probe : Probe Breakdown}
    {clock : Nat} {limit : Option Nat} {sheet : Stylesheet} {breakdown : Breakdown}
    (punctual : Extraction.Punctual probe)
    (broken : (Selection.run settings probe clock limit sheet).ending = .broken breakdown)
    : breakdown.failure.tellsTime = false := by
  unfold Selection.run at broken
  dsimp only at broken
  split at broken
  · cases broken
  · split at broken
    · obtain ⟨-, cause⟩ := Selection.decide_interrupted (by rw [broken]; trivial)
      obtain ⟨check, -, breaks⟩ := cause breakdown broken
      exact punctual.clearing _ _ _ _ breaks
    · rename_i fault status
      cases broken
      obtain ⟨query, -, breaks⟩ := FanOut.exists_broken_of_run
        (Selection.nodup_queriesFor settings.query?
          (Selection.decidedSelectors settings sheet)) status
      exact punctual.query _ _ breaks
    · cases broken

theorem tellsTime_of_selectionSettings {config : Config} {failure : Failure}
    (failed : selectionSettings config request = .error failure)
    : failure.tellsTime = false := by
  unfold selectionSettings at failed
  split at failed
  · cases failed
    rfl
  · cases failed

/-- Reducing a style sheet is work. -/
theorem worked_reduce (conditions : Conditions) (request : Request) (reading : Reading)
    (page : Browser.Page) (inTime : before.clock < deadline)
    : Worked conditions deadline page before
        (reduce conditions request reading deadline page before) := by
  have noted := (atWork_start conditions page (Nat.le_of_lt inTime)).noteAll reading.events
  unfold reduce
  dsimp only
  split
  · rename_i failure failed
    refine AtWork.fails ?_ fun _ => tellsTime_of_selectionSettings failed
    exact { noted with asked := .inr ⟨_, rfl, .inl rfl⟩ }
  · rename_i settings found
    have selected := Selection.inTime_of_lt settings conditions.probe reading.sheet inTime
    let result :=
      Selection.run settings conditions.probe before.clock (some deadline) reading.sheet
    have asked
        : AtWork conditions deadline page before
            { (before.noteAll reading.events).noteAll result.events with
              clock := result.clock
              inquiries :=
                before.inquiries ++ [⟨request.viewport, request.maxElements, result.trace⟩] } := {
      used := (noted.noteAll _).used
      forward := selected.started
      notLate := Nat.le_of_lt selected.ended
      asked :=
        .inr ⟨_, rfl, .inr
          ⟨settings, before.clock, reading.sheet, Nat.le_refl _, inTime, rfl, selected⟩⟩ }
    split
    · exact asked.finish _
    · exact asked.fails fun _ => rfl
    · exact asked.cutOff
    · rename_i breakdown broken
      have other (punctual : conditions.Punctual) : breakdown.failure.tellsTime = false :=
        tellsTime_of_broken punctual.probe broken
      split
      · exact asked.disconnect.fails other
      · exact asked.fails other

/-- Time passes before anything is asked. -/
theorem Timely.behind {ended : Progress × Ending} (forward : before.clock ≤ now.clock)
    (unasked : now.inquiries = before.inquiries) (timely : Timely conditions deadline now ended)
    : Timely conditions deadline before ended where
  forward := Nat.le_trans forward timely.forward
  notLate := timely.notLate
  asked := by
    refine timely.asked.imp (·.trans unasked) ?_
    rintro ⟨inquiry, more, inTime⟩
    refine ⟨inquiry, by rw [more, unasked], inTime.imp_right ?_⟩
    rintro ⟨settings, clock, sheet, started, within⟩
    exact ⟨settings, clock, sheet, Nat.le_trans forward started, within⟩
  cutOff := timely.cutOff
  failed := timely.failed

/-- Work goes on where it stands. -/
theorem Worked.behind {ended : Progress × Ending}
    (atWork : AtWork conditions deadline page before now)
    (unasked : now.inquiries = before.inquiries)
    (worked : Worked conditions deadline page now ended)
    : Worked conditions deadline page before ended where
  toTimely := worked.toTimely.behind atWork.forward unasked
  used := atWork.used.trans worked.used

/-- Loading a page and reducing the style sheet is work. -/
theorem worked_generate (conditions : Conditions) (request : Request) (css : String)
    (page : Browser.Page) (inTime : before.clock < deadline)
    : Worked conditions deadline page before
        (generate conditions request css deadline page before) := by
  have started
      : AtWork conditions deadline page before
          { before with loads := before.loads ++ [(request.url, loadOptions request)] } :=
    { atWork_start conditions page (Nat.le_of_lt inTime) with }
  unfold generate
  dsimp only
  split
  · exact started.cutOff
  · rename_i early
    generalize reached
        : (if (conditions.load before.loads.length).crashes = true then _ else _) = loaded
    -- Whether the connection is lost while the page loads makes no difference to the work.
    obtain ⟨atWork, clock, unasked⟩
        : AtWork conditions deadline page before loaded
          ∧ loaded.clock < deadline
          ∧ loaded.inquiries = before.inquiries := by
      have waited
          : AtWork conditions deadline page before
              { before with
                clock := before.clock + (conditions.load before.loads.length).delay
                loads := before.loads ++ [(request.url, loadOptions request)] } :=
        { started with forward := by dsimp only; omega, notLate := by dsimp only; omega }
      subst reached
      split
      · exact ⟨waited.disconnect, Nat.lt_of_not_le early, rfl⟩
      · exact ⟨waited, Nat.lt_of_not_le early, rfl⟩
    split
    · rename_i failure failed
      exact atWork.fails fun punctual => punctual.load _ _ failed
    · split
      · exact atWork.fails fun _ => rfl
      · exact .behind atWork unasked (worked_reduce conditions request _ page clock)

end Working

--------------------------------------------------------------------------------
-- Asking for a page
--------------------------------------------------------------------------------

/-- What an attempt asks the pool for. -/
def Progress.acquire (conditions : Conditions) (request : Request) (progress : Progress)
    : Pool × Pool.Acquisition :=
  progress.pool.acquire conditions.setup (some request.viewport) (some request.userAgent)
    request.headers

/-- How asking for a page goes on: nothing but the pool and the clock change. -/
inductive Asking (conditions : Conditions) (request : Request) (deadline : Nat)
    (before : Progress) : Progress × Except Ending Browser.Page → Prop where
  /-- There is a page. -/
  | opened {pool : Pool} {page : Browser.Page}
      (got : before.acquire conditions request = (pool, .page page))
      (inTime : before.clock + conditions.opening.delay < deadline)
      : Asking conditions request deadline before
          ({ before with pool := pool, clock := before.clock + conditions.opening.delay }, .ok page)
  /-- The deadline comes first. -/
  | overdue {pool : Pool} {found : Pool.Acquisition}
      (got : before.acquire conditions request = (pool, found))
      (launched : found ≠ .failed .launchFailed)
      : Asking conditions request deadline before
          ({ before with
              pool := (before.pool.launchIfNeeded conditions.setup request.viewport).1
              clock := deadline },
            .error .cutOff)
  /-- There is none. -/
  | refused {pool : Pool} {failure : Failure} {time : Nat} {after : Progress}
      (got : before.acquire conditions request = (pool, .failed failure))
      (forward : before.clock ≤ time) (notLate : time ≤ deadline)
      (left
        : after = { before with pool := pool, clock := time }
          ∨ after = Progress.loseBrowser { before with pool := pool, clock := time })
      : Asking conditions request deadline before (after, .error (.failed failure))

theorem asking_askForPage (conditions : Conditions) (request : Request) {deadline : Nat}
    {before : Progress} (inTime : before.clock < deadline)
    : Asking conditions request deadline before
        (askForPage conditions request deadline before) := by
  rcases got : before.acquire conditions request with ⟨pool, found⟩
  have same
      : before.pool.acquire conditions.setup (some request.viewport) (some request.userAgent)
          request.headers = (pool, found) :=
    got
  unfold askForPage
  dsimp only
  rw [same]
  dsimp only
  split
  · exact .refused got (Nat.le_refl _) (Nat.le_of_lt inTime) (.inl rfl)
  · exact .overdue got nofun
  · split
    · exact .overdue got nofun
    · rename_i early
      exact .opened got (Nat.lt_of_not_le early)
  · rename_i failure other
    split
    · exact .overdue got fun failed => other (Pool.Acquisition.failed.inj failed)
    · rename_i early
      refine .refused got (Nat.le_add_right _ _) (Nat.le_of_lt (Nat.lt_of_not_le early)) ?_
      split
      · exact .inr rfl
      · exact .inl rfl

end Extraction

end CriticalCss
