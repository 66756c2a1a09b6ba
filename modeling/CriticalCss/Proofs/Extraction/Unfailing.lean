import CriticalCss.Extraction.Attempt
import CriticalCss.Proofs.Request.Acceptance
import CriticalCss.Proofs.Selection.Completion
import CriticalCss.Proofs.Stylesheet.Printable
import CriticalCss.Proofs.Syntax.Spelling

/-! Reducing a style sheet for an accepted request. What makes it fail lies with the page and with
the deadline, but for two things that no check of the request looks at: a whole number with too
many digits in the style sheet, and patterns that the configuration has for unwanted properties.
These are the only two.
-/

namespace CriticalCss

/-- A style sheet can be read just if no whole number in it has too many digits. -/
theorem Stylesheet.exists_read_iff {css : String}
    : (∃ reading, Stylesheet.read css = .ok reading)
      ↔ LongNumber.first? (Syntax.lex css) = none := by
  unfold Stylesheet.read
  split
  · rename_i number found
    constructor
    · rintro ⟨reading, read⟩
      cases read
    · intro none
      cases found.symm.trans none
  · rename_i none
    exact ⟨fun _ => none, fun _ => ⟨_, rfl⟩⟩

namespace Extraction

open Selection (AnswersClearing)

variable {conditions : Conditions} {request : Request} {reading : Reading}

/-- The ending of an attempt is a style sheet. -/
def Ending.IsCss (ending : Ending) : Prop :=
  ∃ text, ending = .css text

/-- Reducing a style sheet for a request does not fail by itself. -/
structure Unfailing (conditions : Conditions) (request : Request) (css : String) : Prop where
  /-- The style sheet can be read. -/
  readable : ∃ reading, Stylesheet.read css = .ok reading
  /-- What is read is reduced to a style sheet, unless the deadline comes first. -/
  reduced
    : ∀ reading, Stylesheet.read css = .ok reading →
        ∀ deadline page progress,
          (reduce conditions request reading deadline page progress).2.IsCss
            ∨ (reduce conditions request reading deadline page progress).2 = .cutOff
  /-- A late deadline does not come first. -/
  finished
    : ∀ reading, Stylesheet.read css = .ok reading →
        ∀ page progress, ∃ bound, ∀ deadline, bound < deadline →
          (reduce conditions request reading deadline page progress).2.IsCss

--------------------------------------------------------------------------------
-- Steps
--------------------------------------------------------------------------------

/-- What selection goes by can be put together if the entries of the request are ready. -/
theorem exists_selectionSettings (config : Config)
    (ready : ∀ entry ∈ request.forceInclude, entry.Ready)
    : ∃ settings, selectionSettings config request = .ok settings := by
  obtain ⟨matcher, found⟩ := ForceInclude.Matcher.exists_ofEntries ready
  exact ⟨_, by rw [selectionSettings, found]⟩

/-- A printable sheet is tidied and printed just if the patterns of the request compile. -/
theorem isCss_finish_iff {sheet : Stylesheet} (printable : Stylesheet.Printable sheet)
    (progress : Progress)
    : (finish request sheet progress).2.IsCss
      ↔ ∀ source ∈ request.unwanted, Pattern.Compiles source := by
  rw [← Tidy.exists_compilePatterns_iff]
  unfold finish
  split
  · rename_i source error failed
    constructor
    · rintro ⟨text, absurd⟩
      cases absurd
    · rintro ⟨patterns, compiled⟩
      cases failed.symm.trans compiled
  · rename_i patterns compiled
    obtain ⟨text, printed⟩ :=
      Stylesheet.exists_print (printable.tidied patterns request.payloadLimit)
    exact ⟨fun _ => ⟨patterns, compiled⟩, fun _ => ⟨text, by simp only [printed]⟩⟩

section Reductions

variable {settings : Selection.Settings} {deadline : Nat} {page : Browser.Page}
  {progress : Progress}

/-- A reduction is cut off with its selection. -/
theorem reduce_cutOff
    (found : selectionSettings conditions.setup.config request = .ok settings)
    (late
      : (Selection.run settings conditions.probe progress.clock (some deadline)
            reading.sheet).ending = .cutOff)
    : (reduce conditions request reading deadline page progress).2 = .cutOff := by
  have clock : (progress.noteAll reading.events).clock = progress.clock := rfl
  unfold reduce
  simp only [found, clock, late]

/-- Behind a selection that is done, a sheet that was read is reduced to a style sheet just if the
patterns of the request compile. -/
theorem isCss_reduce_iff {css : String}
    (found : selectionSettings conditions.setup.config request = .ok settings)
    (read : Stylesheet.read css = .ok reading)
    (done
      : (Selection.run settings conditions.probe progress.clock (some deadline)
            reading.sheet).ending = .done)
    : (reduce conditions request reading deadline page progress).2.IsCss
      ↔ ∀ source ∈ request.unwanted, Pattern.Compiles source := by
  have clock : (progress.noteAll reading.events).clock = progress.clock := rfl
  obtain ⟨critical, _, pruned⟩ :=
    Selection.exists_pruned_of_done (Stylesheet.textual_read read) done
  unfold reduce
  simp only [found, clock, done]
  apply isCss_finish_iff
  rw [pruned]
  exact (Stylesheet.printable_read read).pruneNodes _ _

end Reductions

--------------------------------------------------------------------------------
-- Runs
--------------------------------------------------------------------------------

/-- For an accepted request and a page that answers, reducing a style sheet does not fail by itself
just if the sheet has no whole number with too many digits, and the request does not leave the
unwanted properties to a configuration with patterns that do not compile. -/
theorem unfailing_iff_of_accepted {json : Json} {css : String}
    (accepted : Request.readAny conditions.setup.config json = .ok request)
    (answering : FanOut.Answering conditions.probe.isVisible)
    (clearing : AnswersClearing conditions.probe)
    : Unfailing conditions request css
      ↔ LongNumber.first? (Syntax.lex css) = none
        ∧ (json.get? "properties_to_remove" = none
            → ∀ source ∈ conditions.setup.config.unwanted, Pattern.Compiles source) := by
  have fields := Request.fields_of_readAny accepted
  obtain ⟨settings, found⟩ := exists_selectionSettings conditions.setup.config fields.ready
  -- Whatever was read, selection is done at a late deadline.
  have done {reading : Reading} (read : Stylesheet.read css = .ok reading) (progress : Progress)
      : ∃ bound, ∀ deadline, bound < deadline →
          (Selection.run settings conditions.probe progress.clock (some deadline)
            reading.sheet).ending = .done := by
    obtain ⟨bound, late⟩ :=
      Selection.exists_late settings conditions.probe progress.clock reading.sheet
    refine ⟨bound, fun deadline later => ?_⟩
    rw [late deadline later]
    exact (Selection.run_ending progress.clock none (Stylesheet.textual_read read) answering
      clearing).resolve_right fun unbounded => unbounded.2 rfl
  rw [← fields.compile_iff, ← Stylesheet.exists_read_iff]
  constructor
  · intro unfailing
    obtain ⟨reading, read⟩ := unfailing.readable
    refine ⟨⟨reading, read⟩, ?_⟩
    obtain ⟨bound, prints⟩ := unfailing.finished reading read ⟨0, 0⟩ { pool := { free := 0 } }
    obtain ⟨bound', ends⟩ := done read { pool := { free := 0 } }
    have later : bound < max bound bound' + 1 := by omega
    have later' : bound' < max bound bound' + 1 := by omega
    exact (isCss_reduce_iff found read (ends _ later')).mp (prints _ later)
  · rintro ⟨readable, compile⟩
    refine ⟨readable, ?_, ?_⟩
    · intro reading read deadline page progress
      rcases Selection.run_ending progress.clock (some deadline) (Stylesheet.textual_read read)
          answering clearing with done | ⟨late, _⟩
      · exact .inl ((isCss_reduce_iff found read done).mpr compile)
      · exact .inr (reduce_cutOff found late)
    · intro reading read page progress
      obtain ⟨bound, ends⟩ := done read progress
      exact ⟨bound, fun deadline later =>
        (isCss_reduce_iff found read (ends deadline later)).mpr compile⟩

/-- A request with a style sheet, two patterns of its own and nothing else, as JSON. -/
def patternsJson (css : String) : Json :=
  .obj [
    ("url", .str "https://example.org"),
    ("css_string", .str css),
    ("force_include",
      .arr [.obj [("kind", .str "pattern"), ("value", .str "^\\.keep"), ("flags", .str "i")]]),
    ("properties_to_remove", .arr [.str "^-webkit-"])]

theorem get?_patternsJson (css : String)
    : (patternsJson css).get? "properties_to_remove" = some (.arr [.str "^-webkit-"]) :=
  rfl

/-- A request with a style sheet and nothing else, as JSON. -/
def bareJson (css : String) : Json :=
  .obj [("url", .str "https://example.org"), ("css_string", .str css)]

/-- The request that is read from it. -/
def bareRequest (config : Config) (css : String) : Request where
  url := "https://example.org"
  css := some css
  cssPath := none
  viewport := config.viewport
  forceInclude := []
  strict := false
  timeout := config.timeout
  settling := config.settling
  loadLimit := none
  blockScripts := config.blockScripts
  headers := []
  keepLarger := false
  maxElements := none
  unwanted := config.unwanted
  payloadLimit := config.payloadLimit
  userAgent := config.userAgent

theorem readAny_bareJson (config : Config) {css : String} (filled : css.isEmpty = false)
    : Request.readAny config (bareJson css) = .ok (bareRequest config css) := by
  have read
      : Request.readAny config (bareJson css)
        = if Request.namesSheet (bareRequest config css) then .ok (bareRequest config css)
          else .error (.problems [⟨[], Request.noSheet⟩]) :=
    rfl
  rw [read]
  simp [Request.namesSheet, bareRequest, filled]

/-- A page that shows what `a` matches, after a while, and refuses all other questions. -/
def calmConditions (config : Config) : Conditions where
  setup := { config, conduct := {} }
  load _ := {}
  probe := {
    isVisible query := if query = "a" then .later 5 (.answer true) else .now (.refused "unknown")
    shiftsLayout _ _ _ := .refused "unknown" }
  files := {}

theorem calmConditions_answer (config : Config)
    : FanOut.Answering (calmConditions config).probe.isVisible := by
  intro query
  by_cases own : query = "a"
  · exact ⟨.answer true, by simp [calmConditions, own, Response.reply?], rfl⟩
  · exact ⟨.refused "unknown", by simp [calmConditions, own, Response.reply?], rfl⟩

theorem calmConditions_answerClearing (config : Config)
    : AnswersClearing (calmConditions config).probe :=
  fun _ _ _ => rfl

/-- The request with patterns of its own is answered, whatever the configuration has. -/
theorem unfailing_iff_of_accepted_patterns
    : ∃ request,
        Request.readAny {} (patternsJson "a, .KEEP { top: 0; -webkit-x: 1 }") = .ok request
        ∧ LongNumber.first? (Syntax.lex "a, .KEEP { top: 0; -webkit-x: 1 }") = none
        ∧ Unfailing (calmConditions {}) request "a, .KEEP { top: 0; -webkit-x: 1 }" := by
  have short : LongNumber.first? (Syntax.lex "a, .KEEP { top: 0; -webkit-x: 1 }") = none := by
    decide +kernel
  obtain ⟨request, accepted⟩ : ∃ request,
      Request.readAny {} (patternsJson "a, .KEEP { top: 0; -webkit-x: 1 }") = .ok request :=
    isOk_iff_exists.mp (by decide +kernel)
  have answered : Unfailing (calmConditions {}) request "a, .KEEP { top: 0; -webkit-x: 1 }" ↔ _ :=
    unfailing_iff_of_accepted accepted (calmConditions_answer {}) (calmConditions_answerClearing {})
  refine ⟨request, accepted, short, answered.mpr ⟨short, fun absent => ?_⟩⟩
  rw [get?_patternsJson] at absent
  cases absent

/-- A style sheet with a whole number of some length. -/
def longSheet (digits : Nat) : String :=
  String.ofList (['a', '{', 'b', ':'] ++ List.replicate digits '1' ++ ['}'])

theorem isEmpty_longSheet (digits : Nat) : (longSheet digits).isEmpty = false := by
  simp [longSheet]

/-- What a style sheet with a whole number of some length consists of. -/
def longTokens (digits : Nat) : List Syntax.Token :=
  [.atom (.ident ['a']), .opening .curly, .atom (.ident ['b']), .atom (.literal [':']),
    .atom (.number (List.replicate digits '1')), .closing .curly]

theorem spell_longTokens (digits : Nat)
    : Syntax.spell none (longTokens digits)
      = ['a', '{', 'b', ':'] ++ List.replicate digits '1' ++ ['}'] :=
  rfl

theorem separate_longTokens (digits : Nat) : Syntax.separate (longTokens digits) = true :=
  rfl

theorem legible_longTokens {digits : Nat} (some : digits ≠ 0)
    : Syntax.Legible (longTokens digits) := by
  have ones : Syntax.IsDigits (List.replicate digits '1') := by
    refine ⟨by simp [some], fun c member => ?_⟩
    rw [List.eq_of_mem_replicate member]
    rfl
  have number : Syntax.IsNumber (List.replicate digits '1') :=
    ⟨[], List.replicate digits '1', [], by simp, .inl rfl, .inl ones, .inl rfl⟩
  refine ⟨?_, ?_⟩
  · simp only [longTokens, List.forall_mem_cons, List.not_mem_nil, false_implies, implies_true,
      and_true]
    exact ⟨⟨nofun, by decide⟩, trivial, ⟨nofun, by decide⟩, .inl ⟨':', rfl, by decide⟩, number,
      trivial⟩
  · simp [longTokens, Syntax.Token.isLegible]

/-- All digits of a number count, for it is a whole one. -/
theorem wholeDigits?_ones (digits : Nat)
    : (Syntax.Token.atom (.number (List.replicate digits '1'))).wholeDigits? = some digits := by
  have whole
      : (List.replicate digits '1').any (fun c => c == '.' || c == 'e' || c == 'E') = false := by
    rw [List.any_eq_false]
    intro c member
    rw [List.eq_of_mem_replicate member]
    decide
  have count : (List.replicate digits '1').countP Char.isDigit = digits := by
    rw [List.countP_replicate, if_pos (by decide)]
  simp only [Syntax.Token.wholeDigits?, Syntax.Atom.numberText?, Option.bind_eq_bind,
    Option.bind_some, whole, count]
  rfl

/-- The number in the style sheet is too long just if it has more digits than are allowed. -/
theorem first?_longSheet {digits : Nat} (some : digits ≠ 0)
    : LongNumber.first? (Syntax.lex (longSheet digits))
      = if Text.digitLimit < digits then .some ⟨digits⟩ else none := by
  have lexed : (Syntax.lex (longSheet digits)).map (·.token) = longTokens digits := by
    rw [longSheet, ← spell_longTokens]
    exact Syntax.lex_spell (legible_longTokens some) (separate_longTokens digits)
  have whole : (Syntax.lex (longSheet digits)).filterMap (·.token.wholeDigits?) = [digits] :=
    calc (Syntax.lex (longSheet digits)).filterMap (·.token.wholeDigits?)
      _ = ((Syntax.lex (longSheet digits)).map (·.token)).filterMap (·.wholeDigits?) := by
        rw [List.filterMap_map]
        rfl
      _ = (longTokens digits).filterMap (·.wholeDigits?) := by rw [lexed]
      _ = [digits] := by
        rw [longTokens]
        simp only [List.filterMap_cons, wholeDigits?_ones]
        rfl
  rw [LongNumber.first?, whole]
  -- The limit is large, and nothing depends on what it is.
  generalize Text.digitLimit = limit
  by_cases long : limit < digits <;> simp [long]

/-- A request with too long a number in its style sheet is accepted, but the sheet is not read. -/
theorem not_unfailing_longSheet
    : Request.readAny {} (bareJson (longSheet 4301)) = .ok (bareRequest {} (longSheet 4301))
      ∧ (∀ source ∈ ({} : Config).unwanted, Pattern.Compiles source)
      ∧ FanOut.Answering (calmConditions {}).probe.isVisible
      ∧ AnswersClearing (calmConditions {}).probe
      ∧ Stylesheet.read (longSheet 4301) = .error ⟨4301⟩
      ∧ ¬ Unfailing (calmConditions {}) (bareRequest {} (longSheet 4301)) (longSheet 4301) := by
  have long : LongNumber.first? (Syntax.lex (longSheet 4301)) = some ⟨4301⟩ :=
    first?_longSheet (by decide)
  have unreadable : Stylesheet.read (longSheet 4301) = .error ⟨4301⟩ := by
    rw [Stylesheet.read, long]
  refine ⟨readAny_bareJson {} (isEmpty_longSheet 4301), by decide +kernel, calmConditions_answer {},
    calmConditions_answerClearing {}, unreadable, fun unfailing => ?_⟩
  obtain ⟨reading, read⟩ := unfailing.readable
  exact nomatch unreadable.symm.trans read

/-- A configuration with a pattern that does not compile. -/
def brokenConfig : Config :=
  { unwanted := ["("] }

/-- A request that names no patterns is accepted with those of the configuration, unseen. -/
theorem not_unfailing_brokenConfig
    : Request.readAny brokenConfig (bareJson "a\x7bb:c\x7d")
        = .ok (bareRequest brokenConfig "a\x7bb:c\x7d")
      ∧ ¬ Unfailing (calmConditions brokenConfig) (bareRequest brokenConfig "a\x7bb:c\x7d")
          "a\x7bb:c\x7d" := by
  refine ⟨readAny_bareJson brokenConfig (by decide +kernel), fun unfailing => ?_⟩
  have read : Stylesheet.read "a\x7bb:c\x7d" = .ok ⟨[.style ["a"] [.set "b" "c" false]], []⟩ :=
    Stylesheet.read_of_reads (by decide +kernel)
  have failed : (reduce (calmConditions brokenConfig) (bareRequest brokenConfig "a\x7bb:c\x7d")
      ⟨[.style ["a"] [.set "b" "c" false]], []⟩ 1000 ⟨0, 0⟩ { pool := { free := 0 } }).2.error?
      = some "missing ), unterminated subpattern at position 0" := by
    decide +kernel
  rcases unfailing.reduced _ read 1000 ⟨0, 0⟩ { pool := { free := 0 } } with ⟨text, done⟩ | late
  · simp [done, Ending.error?] at failed
  · simp [late, Ending.error?] at failed

end Extraction

end CriticalCss
