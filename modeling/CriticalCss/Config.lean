import CriticalCss.Media
/-! The configuration of the service: what requests that leave something open get, and how browsers
and pages are handled.
-/

namespace CriticalCss

/-- The configuration. -/
structure Config where
  /-- The name of the environment that the service runs in. -/
  environment : String := "development"
  viewport : Viewport := ⟨1300, 900⟩
  /-- The time for a run, in milliseconds like all times. -/
  timeout : Int := 30000
  /-- The time that a loaded page gets to settle. -/
  settling : Int := 100
  /-- Are scripts of pages kept from loading? -/
  blockScripts : Bool := true
  /-- The longest embedded payload that is kept. -/
  payloadLimit : Int := 1000
  userAgent : String := "foldcss critical path CSS generator"
  /-- Patterns for properties whose declarations are taken away. -/
  unwanted : List String :=
    ["(.*)transition(.*)", "cursor", "pointer-events", "(-webkit-)?tap-highlight-color",
      "(.*)user-select"]
  /-- The properties that can shape the fold from below it. -/
  clearing : List String := ["clear", "float", "overflow", "overflow-x", "overflow-y"]
  /-- The number of questions to a page that may be open at once. -/
  concurrency : Int := 8
  /-- The directory that callers over the network may read style sheets from. -/
  stylesheetRoot : Option String := none
  /-- Does the browser run without a window? -/
  headless : Bool := true
  /-- Does the browser outlive a shutdown that is not forced? -/
  keepAlive : Bool := false
  /-- The number of pages that may be open at once, at least one. -/
  maxOpenPages : Int := 4
  /-- Arguments for the browser's start. -/
  launchArguments : List String := []
  /-- Headers that every page sends. -/
  headers : List (String × String) := []
  /-- The key that callers have to present; nothing if everybody may call. -/
  apiKey : Option String := some "change-me"

end CriticalCss
