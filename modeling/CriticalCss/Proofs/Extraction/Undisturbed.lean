import CriticalCss.Proofs.Extraction.Release
import CriticalCss.Proofs.Extraction.Verbatim
import CriticalCss.Proofs.Selection.Idempotence

/-! A run that was retried gives what an undisturbed run gives. An attempt starts from the text of
the style sheet, and all that reaches the text it ends with is the request, the configuration, and
what the page answers. So nothing of an attempt that has died with its browser is left in the text
of the next one, wherever it has died.
-/

namespace CriticalCss

--------------------------------------------------------------------------------
-- Pages that answer at once
--------------------------------------------------------------------------------

section AtOnce

variable {ε : Type}

/-- The same reply, but at once. -/
def Response.atOnce : Response ε → Response ε
  | .later _ reply => .now reply
  | response => response

/-- The page, but with its replies at once. -/
def Probe.atOnce (probe : Probe ε) : Probe ε :=
  { probe with isVisible := fun query => (probe.isVisible query).atOnce }

theorem Response.reply?_atOnce (response : Response ε) : response.atOnce.reply? = response.reply? := by
  cases response <;> rfl

/-- A page answers at once what it answers later. -/
theorem Selection.alike_atOnce (probe : Probe ε) : Alike probe probe.atOnce where
  isVisible query := (probe.isVisible query).reply?_atOnce
  shiftsLayout _ _ _ := rfl

namespace FanOut

variable {respond : String → Response ε} {state : State ε}

/-- Every reply comes at once. -/
def Prompt (respond : String → Response ε) : Prop :=
  ∀ query, ∃ reply, respond query = .now reply

theorem prompt_atOnce {probe : Probe ε} (answering : Answering probe.isVisible)
    : Prompt probe.atOnce.isVisible := by
  intro query
  obtain ⟨reply, own, _⟩ := answering query
  refine ⟨reply, ?_⟩
  show (probe.isVisible query).atOnce = .now reply
  cases response : probe.isVisible query with
  | never =>
    rw [response] at own
    cases own
  | _ =>
    rw [response] at own
    cases own
    rfl

namespace State

theorem ask_inFlight_of_prompt (prompt : Prompt respond) (state : State ε) (query : String)
    : (ask respond query state).inFlight = state.inFlight := by
  obtain ⟨reply, own⟩ := prompt query
  simp [ask, own]

/-- Where replies come at once no turn leaves a question open. -/
theorem step_inFlight_of_prompt (prompt : Prompt respond) (landed : state.inFlight = [])
    (turn : Turn ε)
    : (step respond turn state).inFlight = [] := by
  cases turn with
  | start query =>
    rw [step]
    split
    · exact landed
    · exact (ask_inFlight_of_prompt prompt _ query).trans landed
  | resume query =>
    rw [step, ask_inFlight_of_prompt prompt]
    split
    · exact (wakeNext_inFlight _).trans landed
    · exact landed
  | arrive | settle | collect => simp [step, landed]

theorem drain_inFlight_of_prompt (prompt : Prompt respond) (landed : state.inFlight = [])
    (rounds : Nat)
    : (state.drain respond rounds).inFlight = [] := by
  induction rounds generalizing state with
  | zero => exact landed
  | succ rounds ih =>
    unfold drain
    split
    · exact landed
    · split
      · exact landed
      · exact ih (step_inFlight_of_prompt prompt (by exact landed) _)

/-- Where replies come at once the clock does not go on, so a deadline makes no difference. -/
theorem advance_of_prompt (prompt : Prompt respond) (landed : state.inFlight = []) (jobs : Nat)
    (deadline : Option Nat) (replies : Nat)
    : state.advance respond jobs deadline replies
      = state.drain respond (roundsFor jobs) := by
  unfold advance
  cases replies with
  | zero => rfl
  | succ replies =>
    have idle : (state.drain respond (roundsFor jobs)).nextDue = none := by
      simp [nextDue, drain_inFlight_of_prompt prompt landed]
    simp [idle]

end State

theorem run_of_prompt (prompt : Prompt respond) (clock limit : Nat) (deadline : Option Nat)
    (queries : List String)
    : run respond clock limit deadline queries = run respond clock limit none queries := by
  have landed : (State.initial clock limit queries : State ε).inFlight = [] := rfl
  simp only [run, State.advance_of_prompt prompt landed]

end FanOut

--------------------------------------------------------------------------------
-- Selections on pages that answer alike
--------------------------------------------------------------------------------

namespace Selection

variable {settings : Settings} {probe again : Probe ε} {sheet : Stylesheet}

/-- On a page that answers every question at once selection is done by any deadline. -/
theorem done_of_prompt (clock : Nat) (deadline : Option Nat) (textual : Stylesheet.Textual sheet)
    (prompt : FanOut.Prompt probe.isVisible) (answering : FanOut.Answering probe.isVisible)
    (clearing : AnswersClearing probe)
    : (run settings probe clock deadline sheet).ending = .done := by
  have undated : run settings probe clock deadline sheet = run settings probe clock none sheet := by
    simp only [run, FanOut.run_of_prompt prompt clock settings.limit deadline]
  rw [undated]
  exact (run_ending clock none textual answering clearing).resolve_right fun late => late.2 rfl

theorem IsCritical.of_alike {critical : List String} (alike : Alike probe again)
    (isCritical : IsCritical settings probe sheet critical)
    : IsCritical settings again sheet critical :=
  ⟨isCritical.ordered, fun query => by rw [isCritical.mem_iff, alike.isYes]⟩

/-- Two selections that are done leave the same if their pages answer alike, whatever the times and
the deadlines are. -/
theorem sheet_eq_of_done {clock later : Nat} {deadline other : Option Nat}
    (alike : Alike probe again) (textual : Stylesheet.Textual sheet)
    (done : (run settings probe clock deadline sheet).ending = .done)
    (doneAgain : (run settings again later other sheet).ending = .done)
    : (run settings again later other sheet).sheet
      = (run settings probe clock deadline sheet).sheet := by
  obtain ⟨critical, isCritical, pruned⟩ := exists_pruned_of_done textual done
  obtain ⟨others, isCriticalAgain, prunedAgain⟩ := exists_pruned_of_done textual doneAgain
  have same : others = critical := isCriticalAgain.unique (isCritical.of_alike alike)
  rw [pruned, prunedAgain, same, alike.keeps]

end Selection

end AtOnce

namespace Extraction

open Browser (Pool)

--------------------------------------------------------------------------------
-- Attempts on the same page
--------------------------------------------------------------------------------

/-- Under the same configuration two attempts meet pages that answer alike. Launches, loads, times,
and the work of others may differ. -/
structure Conditions.SamePage (conditions other : Conditions) : Prop where
  config : other.setup.config = conditions.setup.config
  alike : Selection.Alike conditions.probe other.probe

section Attempts

variable {conditions other : Conditions} {request : Request} {css text : String}
  {deadline later : Nat} {before after start left : Progress}

/-- Asking for a page does not end with a style sheet. -/
theorem ne_css_of_askForPage {ending : Ending}
    (asked : askForPage conditions request deadline before = (after, .error ending))
    : ending ≠ .css text := by
  rintro rfl
  unfold askForPage at asked
  dsimp only at asked
  split at asked
  · cases asked
  · cases asked
  · split at asked <;> cases asked
  · split at asked <;> cases asked

/-- An attempt that succeeds has read the style sheet and reduced it to what some page shows. -/
theorem reduce_of_attempt
    (made : attempt conditions request css deadline before = (after, .ok text))
    : ∃ reading page loaded,
        Stylesheet.read css = .ok reading
        ∧ (reduce conditions request reading deadline page loaded).2 = .css text := by
  have onBrowser : (onBrowser conditions request css deadline before).2 = .css text := by
    unfold attempt at made
    split at made
    · cases made
    · split at made <;> cases made
      rename_i ended
      rw [ended]
  obtain ⟨approached, onPage⟩
      : ∃ approached, (onPage conditions request css deadline approached).2 = .css text := by
    unfold Extraction.onBrowser at onBrowser
    dsimp only at onBrowser
    split at onBrowser
    · cases onBrowser
    · exact ⟨_, onBrowser⟩
  obtain ⟨page, asked, generate⟩
      : ∃ page asked, (generate conditions request css deadline page asked).2 = .css text := by
    unfold Extraction.onPage at onPage
    split at onPage
    · rename_i found
      exact absurd onPage (ne_css_of_askForPage found)
    · exact ⟨_, _, onPage⟩
  unfold Extraction.generate at generate
  dsimp only at generate
  split at generate
  · cases generate
  · split at generate
    · cases generate
    · split at generate
      · cases generate
      · rename_i reading read
        exact ⟨reading, page, _, read, generate⟩

/-- What a sheet is finished with does not depend on what was done before. -/
theorem finish_eq (request : Request) (sheet : Stylesheet) (before after : Progress)
    : (finish request sheet after).2 = (finish request sheet before).2 := by
  unfold finish
  split
  · rfl
  · dsimp only
    split <;> rfl

theorem selectionSettings_eq (same : conditions.SamePage other)
    : selectionSettings other.setup.config request
      = selectionSettings conditions.setup.config request := by
  rw [same.config]

/-- A sheet that is reduced to a text for one page is reduced to that text for every page that
answers alike, if its selection is done. -/
theorem reduce_of_samePage {reading : Reading} {page elsewhere : Browser.Page}
    (same : conditions.SamePage other) (read : Stylesheet.read css = .ok reading)
    (reduced : (reduce conditions request reading deadline page before).2 = .css text)
    (done
      : ∀ settings, selectionSettings other.setup.config request = .ok settings →
          (Selection.run settings other.probe start.clock (some later) reading.sheet).ending
            = .done)
    : (reduce other request reading later elsewhere start).2 = .css text := by
  obtain ⟨settings, finishing, found, doneBefore, finished⟩ := finish_of_reduce reduced
  rw [← selectionSettings_eq same] at found
  have clock : (start.noteAll reading.events).clock = start.clock := rfl
  have left := Selection.sheet_eq_of_done same.alike (Stylesheet.textual_read read) doneBefore
    (done settings found)
  unfold reduce
  simp only [found, clock, done settings found]
  rw [finish_eq, left]
  exact finished

/-- Two attempts that succeed on pages that answer alike give the same text. -/
theorem text_eq_of_attempts {found : String} (same : conditions.SamePage other)
    (made : attempt conditions request css deadline before = (after, .ok text))
    (madeToo : attempt other request css later start = (left, .ok found))
    : found = text := by
  obtain ⟨reading, page, loaded, read, reduced⟩ := reduce_of_attempt made
  obtain ⟨readingToo, elsewhere, loadedToo, readToo, reducedToo⟩ := reduce_of_attempt madeToo
  obtain rfl : reading = readingToo := Except.ok.inj (read.symm.trans readToo)
  obtain ⟨settings, _, foundSettings, done, _⟩ := finish_of_reduce reducedToo
  have again
      : (reduce other request reading later elsewhere loadedToo).2 = .css text :=
    reduce_of_samePage same read reduced fun other got => by
      cases Except.ok.inj (foundSettings.symm.trans got)
      exact done
  exact Ending.css.inj (reducedToo.symm.trans again)

end Attempts

--------------------------------------------------------------------------------
-- Runs on the same page
--------------------------------------------------------------------------------

/-- The text that a run gives out: nothing but blanks counts as nothing. -/
def givenOut (text : String) : String :=
  if Text.allBlank text then "" else text

section Runs

variable {conditions : Conditions} {request : Request} {css text : String} {deadline : Nat}
  {progress : Progress} {shared : Bool} {result : Result}

/-- What a run returns was found by its first attempt or by its second, as it says. -/
theorem attempt_of_course {retried : Bool} {before after : Progress} {deeds : List Deed}
    {attempts : Nat}
    (course : Course conditions request css deadline retried before deeds
      (after, .ok (text, attempts)))
    : ∃ again start finish,
        attempts = (if again then 2 else 1)
        ∧ attempt (conditions.on again) request css deadline start = (finish, .ok text) := by
  generalize ended : (after, (Except.ok (text, attempts) : Except Failure (String × Nat))) = run
    at course
  induction course with
  | @returns retried before after text made =>
    cases ended
    exact ⟨retried, before, after, rfl, made⟩
  | raises | givesUp | restartFails => cases ended
  | repeats made died restarted rest ih => exact ih ended

/-- What a generation comes to, on the pool of a caller or on one of its own. -/
theorem exists_launchAndGenerate (conditions : Conditions) (request : Request) (css : String)
    (progress : Progress) (shared : Bool)
    : ∃ start,
        (if shared then launchAndGenerate conditions request css progress
          else inSession conditions request css progress).2
        = (launchAndGenerate conditions request css start).2 := by
  cases shared with
  | true => exact ⟨progress, rfl⟩
  | false =>
    exact ⟨{ progress with
      pool := .fresh conditions.setup.config progress.pool.engine progress.pool.log }, rfl⟩

/-- A run that returns a result has found the text of a style sheet and generated another from it.
-/
theorem generated_of_run
    (returned : (run conditions shared request progress).2.outcome = .ok result)
    : ∃ css text start after,
        (Source.of conditions.files request).text = .ok css
        ∧ generateWithRetry conditions request css start = (after, .ok (text, result.attempts))
        ∧ result.css = givenOut text := by
  unfold run at returned
  dsimp only at returned
  split at returned
  · cases returned
  · rename_i css source
    obtain ⟨start, generated⟩ := exists_launchAndGenerate conditions request css progress shared
    generalize (if shared then _ else _ : Progress × Except Failure (String × Nat)) = both
      at returned generated
    rcases both with ⟨left, failure | ⟨text, attempts⟩⟩
    · cases returned
    · obtain rfl : ⟨givenOut text, request.viewport, attempts⟩ = result := Except.ok.inj returned
      unfold launchAndGenerate at generated
      split at generated
      · cases generated
      · rename_i launched _
        exact ⟨css, text, launched, _, source, Prod.ext rfl generated.symm, rfl⟩

/-- A run that returns a result has found it in time with an attempt, the first or the second. -/
theorem attempt_of_run (returned : (run conditions shared request progress).2.outcome = .ok result)
    : ∃ css text again deadline start after,
        (Source.of conditions.files request).text = .ok css
        ∧ result.attempts = (if again then 2 else 1)
        ∧ attempt (conditions.on again) request css deadline start = (after, .ok text)
        ∧ result.css = givenOut text := by
  obtain ⟨css, text, start, after, source, generated, given⟩ := generated_of_run returned
  unfold generateWithRetry at generated
  split at generated
  · cases generated
  · obtain ⟨deeds, course⟩ := exists_course conditions request css start
    rw [generated] at course
    obtain ⟨again, begin, finish, attempts, made⟩ := attempt_of_course course
    exact ⟨css, text, again, _, begin, finish, source, attempts, made, given⟩

end Runs

--------------------------------------------------------------------------------
-- Undisturbed runs
--------------------------------------------------------------------------------

/-- A page is there for whoever asks a pool with a browser and a free slot. -/
theorem exists_page_of_acquire (setup : Browser.Setup) (viewport : Option Viewport)
    (userAgent : Option String) (headers : List (String × String)) {pool : Pool}
    (alive : pool.isAlive = true) (room : pool.isFull = false) (untrapped : pool.engine.trap = none)
    : ∃ next page, pool.acquire setup viewport userAgent headers = (next, .page page) := by
  have launched (wanted : Viewport)
      : pool.launchIfNeeded setup wanted = ({ pool with viewport := some wanted }, none) :=
    if_pos alive
  have room (wanted : Viewport) : Pool.isFull { pool with viewport := some wanted } = false := room
  cases held : pool.browser with
  | none => simp [Pool.isAlive, held] at alive
  | some browser =>
    unfold Pool.acquire
    simp only [launched]
    rw [if_neg (by rw [room]; exact Bool.false_ne_true)]
    simp only [Pool.openPage, held, Browser.Engine.openPage, untrapped]
    exact ⟨_, _, rfl⟩

/-- What a run meets that nothing disturbs: no launch and no load fails or takes any time, and the
page answers at once, as the page of the second attempt does under the given conditions. -/
def Conditions.undisturbed (conditions : Conditions) : Conditions where
  setup := { config := conditions.setup.config, conduct := {} }
  load _ := {}
  probe := conditions.laterProbe.atOnce
  files := conditions.files

section Undisturbed

variable {conditions : Conditions} {request : Request} {css text : String} {deadline : Nat}
  {progress : Progress}

theorem samePage_undisturbed (conditions : Conditions)
    : (conditions.on true).SamePage conditions.undisturbed where
  config := rfl
  alike := Selection.alike_atOnce conditions.laterProbe

/-- Asking for a page takes no time when nothing disturbs it, if there are a browser and a slot. -/
theorem askForPage_undisturbed (alive : progress.pool.isAlive = true)
    (room : progress.pool.isFull = false) (untrapped : progress.pool.engine.trap = none)
    (inTime : progress.clock < deadline)
    : ∃ asked page,
        askForPage conditions.undisturbed request deadline progress = (asked, .ok page)
        ∧ asked.clock = progress.clock := by
  obtain ⟨next, page, acquired⟩ :=
    exists_page_of_acquire conditions.undisturbed.setup (some request.viewport)
      (some request.userAgent) request.headers alive room untrapped
  have opened : progress.clock + conditions.undisturbed.opening.delay = progress.clock := rfl
  have early : ¬ deadline ≤ progress.clock := Nat.not_le.mpr inTime
  unfold askForPage
  simp only [acquired, opened, early, if_false]
  exact ⟨_, _, rfl, rfl⟩

/-- An undisturbed attempt finds the text that the second attempt has found, if its page answers
every question. -/
theorem attempt_undisturbed {later : Nat} {before start after : Progress}
    (made : attempt (conditions.on true) request css later start = (after, .ok text))
    (answering : FanOut.Answering conditions.laterProbe.isVisible)
    (clearing : Selection.AnswersClearing conditions.laterProbe)
    (alive : before.pool.isAlive = true) (room : before.pool.isFull = false)
    (inTime : before.clock < deadline)
    : (attempt conditions.undisturbed request css deadline before).2 = .ok text := by
  obtain ⟨reading, page, loaded, read, reduced⟩ := reduce_of_attempt made
  have reduced (elsewhere : Browser.Page) (before : Progress)
      : (reduce conditions.undisturbed request reading deadline elsewhere before).2 = .css text := by
    refine reduce_of_samePage (samePage_undisturbed conditions) read reduced fun settings _ => ?_
    exact Selection.done_of_prompt _ _ (Stylesheet.textual_read read)
      (FanOut.prompt_atOnce answering)
      ((Selection.alike_atOnce _).answering answering)
      ((Selection.alike_atOnce _).answersClearing clearing)
  let approached := before.approach conditions.undisturbed.opening
  have aliveThere : approached.pool.isAlive = true := alive
  have soon : before.clock + approached.pool.launchTime conditions.undisturbed.setup
      = before.clock := by
    rw [Pool.launchTime, if_pos aliveThere]
    rfl
  obtain ⟨asked, elsewhere, found, clock⟩
      : ∃ asked page,
          askForPage conditions.undisturbed request deadline
              { approached with clock := before.clock }
            = (asked, .ok page)
          ∧ asked.clock = before.clock :=
    askForPage_undisturbed aliveThere room rfl inTime
  have early : ¬ deadline ≤ before.clock := Nat.not_le.mpr inTime
  have generated
      : (generate conditions.undisturbed request css deadline elsewhere asked).2 = .css text := by
    unfold generate
    simp only [read]
    have time : asked.clock + (conditions.undisturbed.load asked.loads.length).delay
        = before.clock := clock
    simp only [time, early, if_false]
    exact reduced _ _
  have onBrowser
      : (onBrowser conditions.undisturbed request css deadline before).2 = .css text := by
    unfold onBrowser
    simp only [show before.approach conditions.undisturbed.opening = approached from rfl, soon,
      early, if_false, onPage, found]
    exact generated
  unfold attempt
  rw [if_neg early]
  split <;> rename_i ended <;> rw [ended] at onBrowser
  · rw [Ending.css.inj onBrowser]
  all_goals cases onBrowser

/-- The launch for a run with a browser of its own goes through when nothing disturbs it, and leaves
all slots free. -/
theorem launch_undisturbed (conditions : Conditions) (request : Request) (progress : Progress)
    (engine : Browser.Engine) (log : List Event)
    : ∃ launched,
        launch conditions.undisturbed request
            { progress with pool := .fresh conditions.setup.config engine log }
          = (launched, none)
        ∧ launched.clock = progress.clock
        ∧ launched.pool.isAlive = true
        ∧ launched.pool.isFull = false := by
  have slots : 0 < Browser.capacity conditions.setup.config := by
    unfold Browser.capacity
    omega
  have went
      : launch conditions.undisturbed request
          { progress with pool := .fresh conditions.setup.config engine log } = (_, none) :=
    rfl
  refine ⟨_, went, rfl, isAlive_of_launch went, ?_⟩
  simp [Pool.isFull, Pool.launchIfNeeded, Pool.isAlive, Pool.fresh, Pool.note,
    Browser.Engine.launch, Conditions.undisturbed]
  omega

/-- The time of a run that returns a result is above zero and can be measured. -/
theorem timeout_of_run {shared : Bool} {result : Result}
    (returned : (run conditions shared request progress).2.outcome = .ok result)
    : ¬ (timeoutBound : Int) ≤ request.timeout ∧ 0 < request.timeout.toNat := by
  obtain ⟨css, text, start, after, source, generated, -⟩ := generated_of_run returned
  unfold generateWithRetry at generated
  split at generated
  · cases generated
  · rename_i measured
    refine ⟨measured, ?_⟩
    obtain ⟨deeds, course⟩ := exists_course conditions request css start
    have inTime := (course.timed.succeeds text result.attempts (by rw [generated])).1
    omega

/-- A run with a browser of its own that nothing disturbs returns with one attempt what a retried
run returns. -/
theorem run_undisturbed {shared : Bool} {result : Result} (start : Progress)
    (returned : (run conditions shared request progress).2.outcome = .ok result)
    (retried : result.attempts = 2)
    (answering : FanOut.Answering conditions.laterProbe.isVisible)
    (clearing : Selection.AnswersClearing conditions.laterProbe)
    : (run conditions.undisturbed false request start).2.outcome
      = .ok ⟨result.css, request.viewport, 1⟩ := by
  obtain ⟨measured, some⟩ := timeout_of_run returned
  obtain ⟨css, text, again, deadline, before, after, source, attempts, made, given⟩ :=
    attempt_of_run returned
  obtain rfl : again = true := by
    cases again with
    | true => rfl
    | false => cases retried.symm.trans attempts
  obtain ⟨launched, went, clock, alive, room⟩ :=
    launch_undisturbed conditions request start start.pool.engine start.pool.log
  have found
      : (attempt conditions.undisturbed request css (launched.clock + request.timeout.toNat)
          launched).2 = .ok text :=
    attempt_undisturbed made answering clearing alive room (by omega)
  have generated
      : (inSession conditions.undisturbed request css start).2 = .ok (text, 1) := by
    show (launchAndGenerate conditions.undisturbed request css
      { start with
        pool := .fresh conditions.setup.config start.pool.engine start.pool.log }).2 = _
    unfold launchAndGenerate
    rw [went]
    dsimp only
    rw [generateWithRetry, if_neg measured, generateInTime]
    dsimp only
    split <;> rename_i ended <;> rw [ended] at found
    · rw [Except.ok.inj found]
    · cases found
  have sameSource : (Source.of conditions.undisturbed.files request).text = .ok css := source
  unfold run
  dsimp only
  rw [sameSource]
  dsimp only
  rw [if_neg Bool.false_ne_true]
  generalize inSession conditions.undisturbed request css start = ended at generated
  obtain ⟨left, outcome⟩ := ended
  cases generated
  rw [given]
  rfl

end Undisturbed

/-- **A retried run gives the result of an undisturbed run.** If the first attempt of a run ends with
a crash of the browser, wherever it comes, and the second attempt completes, the critical style
sheet is that of every run of the same request that returns from its first attempt on a page that
answers alike, whatever loads, launches and replies take. Such a run does return if nothing disturbs
it and the page answers every question.
-/
theorem css_eq_of_retried {conditions : Conditions} {request : Request} {progress : Progress}
    {shared : Bool} {result : Result}
    (returned : (run conditions shared request progress).2.outcome = .ok result)
    (retried : result.attempts = 2)
    : (∀ (calm : Conditions) (start : Progress) (alone : Bool) (undisturbed : Result),
        calm.setup.config = conditions.setup.config →
          calm.files = conditions.files →
            Selection.Alike conditions.laterProbe calm.probe →
              (run calm alone request start).2.outcome = .ok undisturbed →
                undisturbed.attempts = 1 → undisturbed.css = result.css)
      ∧ (FanOut.Answering conditions.laterProbe.isVisible →
          Selection.AnswersClearing conditions.laterProbe →
            ∀ start,
              (run conditions.undisturbed false request start).2.outcome
                = .ok ⟨result.css, request.viewport, 1⟩) := by
  refine ⟨fun calm start alone undisturbed config files alike returnedToo once => ?_,
    fun answering clearing start => run_undisturbed start returned retried answering clearing⟩
  obtain ⟨css, text, again, deadline, before, after, source, attempts, made, given⟩ :=
    attempt_of_run returned
  obtain ⟨cssToo, found, first, later, beforeToo, afterToo, sourceToo, attemptsToo, madeToo, givenToo⟩ :=
    attempt_of_run returnedToo
  obtain rfl : again = true := by
    cases again with
    | true => rfl
    | false => cases retried.symm.trans attempts
  obtain rfl : first = false := by
    cases first with
    | true => cases once.symm.trans attemptsToo
    | false => rfl
  rw [files, source] at sourceToo
  obtain rfl : css = cssToo := Except.ok.inj sourceToo
  have same : (conditions.on true).SamePage (calm.on false) := ⟨config, alike⟩
  rw [givenToo, given, text_eq_of_attempts same made madeToo]

/-- Nothing that is asked for shows on the page, but without its floats the fold would move. The
browser of the first attempt is lost when that is checked. -/
def floatingConditions : Conditions :=
  { calmConditions {} with
    probe := {
      isVisible _ := .later 5 (.answer false)
      shiftsLayout query _ _ := .broken ⟨.pageClosed query, true⟩ }
    laterProbe := {
      isVisible _ := .later 5 (.answer false)
      shiftsLayout _ _ _ := .answer true } }

/-- A request with one rule, which floats. -/
def floatingRequest : Request :=
  bareRequest { unwanted := [] } "a\x7bfloat:left\x7d"

/-- The second attempt keeps the rule over which the first one has lost its browser. -/
theorem css_eq_of_retried_floatingConditions
    : ∃ result,
        (run floatingConditions false floatingRequest { pool := .fresh {} {} [] }).2.outcome
          = .ok result
        ∧ (result.attempts, result.css) = (2, "a \x7b\n  float: left;\n\x7d\n")
        ∧ ∀ start,
            (run floatingConditions.undisturbed false floatingRequest start).2.outcome
              = .ok ⟨result.css, floatingRequest.viewport, 1⟩ := by
  have returned
      : (run floatingConditions false floatingRequest
            { pool := .fresh {} {} [] }).2.outcome.toOption.map
          (fun result => (result.attempts, result.css))
        = some (2, "a \x7b\n  float: left;\n\x7d\n") := by
    decide +kernel
  generalize ran
    : (run floatingConditions false floatingRequest { pool := .fresh {} {} [] }).2.outcome
      = outcome at returned
  cases outcome with
  | error failure => cases returned
  | ok result =>
    have found := Option.some.inj returned
    have undisturbed :=
      (css_eq_of_retried ran (congrArg Prod.fst found)).2 (fun _ => ⟨.answer false, rfl, rfl⟩)
        fun _ _ _ => rfl
    exact ⟨result, rfl, found, undisturbed⟩

end Extraction

end CriticalCss
