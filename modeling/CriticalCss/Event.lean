import CriticalCss.Json.Basic
/-! What happens along the way, as values: each event names its occasion and carries what an
operator would want to know. How an event is recorded (level, name, fields) is decided here, once.
-/

namespace CriticalCss

/-- Something worth recording. -/
inductive Event where
  | ruleFault (line : Nat) (message : String)
  | ruleWithoutSelector (line : Nat)
  | declarationFault (line : Nat) (message : String)
  | nestedRuleSkipped (line : Nat)
  | atRuleDropped (name prelude className : String)
  | queryFailed (query error : String)
  | clearingCheckFailed (selector error : String)
  | selectorRescued (selector : String) (properties : List String)
  | selectionCompleted (selectors kept queried failed rescued : Nat)
  | propertiesRemoved (count : Nat)
  | payloadsRemoved (count : Nat) (limit : Int)
  | fontFaceRemoved (name prelude : String)
  | keyframesRemoved (name prelude : String)
  | browserLaunching (width height : Int)
  | pageAcquired (openPages : Nat)
  | pageReleasedAfterError (error : String)
  | pageCloseFailed (error : String)
  | pageReleased (openPages : Nat)
  | browserRestarting
  | browserKeptAlive
  | browserCloseFailed (error : String)
  | browserClosed
  | resultEmpty
  | resultGenerated (length : Nat)
  | browserCrashed (error : String) (cssLength : Nat)
  | browserCrashedAgain (error : String)
  | timedOut (timeout : Int)
  | stylesheetUnreadable (path error : String)
  | stylesheetEmpty (url : String)

/-- How much an event matters. -/
inductive Event.Level where
  | debug
  | info
  | warning
  | error

/-- The word for a level. -/
def Event.Level.word : Level → String
  | debug => "debug"
  | info => "info"
  | warning => "warning"
  | error => "error"

/-- An event as it is recorded. -/
structure Event.Entry where
  level : Event.Level
  name : String
  fields : List (String × Json)

/-- The record of an event. -/
def Event.entry : Event → Entry
  | ruleFault line message =>
    ⟨.warning, "css_parse_error",
      [("kind", .str "invalid"), ("message", .str message), ("line", .int line)]⟩
  | ruleWithoutSelector line => ⟨.warning, "css_rule_without_selector", [("line", .int line)]⟩
  | declarationFault line message =>
    ⟨.warning, "css_declaration_error",
      [("kind", .str "invalid"), ("message", .str message), ("line", .int line)]⟩
  | nestedRuleSkipped line =>
    ⟨.debug, "css_nested_rule_skipped", [("type", .str "at-rule"), ("line", .int line)]⟩
  | atRuleDropped name prelude className =>
    ⟨.debug, "at_rule_dropped",
      [("name", .str name), ("prelude", .str prelude), ("rule_class", .str className)]⟩
  | queryFailed query error =>
    ⟨.warning, "selector_query_failed", [("selector", .str query), ("error", .str error)]⟩
  | clearingCheckFailed selector error =>
    ⟨.warning, "self_clearing_query_failed", [("selector", .str selector), ("error", .str error)]⟩
  | selectorRescued selector properties =>
    ⟨.debug, "self_clearing_selector_kept",
      [("selector", .str selector), ("properties", Json.strings properties)]⟩
  | selectionCompleted selectors kept queried failed rescued =>
    ⟨.info, "critical_selection_completed",
      [("selectors", .int selectors), ("kept", .int kept), ("queried", .int queried),
        ("failed_queries", .int failed), ("self_clearing_kept", .int rescued)]⟩
  | propertiesRemoved count => ⟨.debug, "unwanted_properties_removed", [("count", .int count)]⟩
  | payloadsRemoved count limit =>
    ⟨.debug, "embedded_base64_removed", [("count", .int count), ("max_length", .int limit)]⟩
  | fontFaceRemoved name prelude =>
    ⟨.debug, "font_face_removed", [("name", .str name), ("prelude", .str prelude)]⟩
  | keyframesRemoved name prelude =>
    ⟨.debug, "keyframes_removed", [("name", .str name), ("prelude", .str prelude)]⟩
  | browserLaunching width height =>
    ⟨.info, "browser_launching", [("width", .int width), ("height", .int height)]⟩
  | pageAcquired openPages => ⟨.debug, "browser_page_acquired", [("open_pages", .int openPages)]⟩
  | pageReleasedAfterError error =>
    ⟨.warning, "browser_page_released_after_error", [("error", .str error)]⟩
  | pageCloseFailed error => ⟨.debug, "browser_page_close_failed", [("error", .str error)]⟩
  | pageReleased openPages => ⟨.debug, "browser_page_released", [("open_pages", .int openPages)]⟩
  | browserRestarting => ⟨.warning, "browser_restarting", []⟩
  | browserKeptAlive => ⟨.debug, "browser_kept_alive", []⟩
  | browserCloseFailed error => ⟨.debug, "browser_close_failed", [("error", .str error)]⟩
  | browserClosed => ⟨.info, "browser_closed", []⟩
  | resultEmpty => ⟨.info, "critical_css_empty", []⟩
  | resultGenerated length => ⟨.info, "critical_css_generated", [("bytes", .int length)]⟩
  | browserCrashed error cssLength =>
    ⟨.warning, "browser_crashed", [("error", .str error), ("css_length", .int cssLength)]⟩
  | browserCrashedAgain error =>
    ⟨.error, "browser_crashed_after_restart", [("error", .str error)]⟩
  | timedOut timeout => ⟨.warning, "critical_css_timeout", [("timeout_ms", .int timeout)]⟩
  | stylesheetUnreadable path error =>
    ⟨.warning, "stylesheet_read_failed", [("path", .str path), ("error", .str error)]⟩
  | stylesheetEmpty url => ⟨.warning, "stylesheet_empty", [("url", .str url)]⟩

/-- The record of an event inside a run whose own fields are given; a field of the event wins over
one of the run with the same name. -/
def Event.entryIn (run : List (String × Json)) (event : Event) : Entry :=
  let entry := event.entry
  let outer := run.filter fun field => (entry.fields.lookup field.1).isNone
  { entry with fields := outer ++ entry.fields }

end CriticalCss
