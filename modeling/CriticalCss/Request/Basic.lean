import CriticalCss.Config
import CriticalCss.Selector.ForceInclude
/-! Requests: which page is to be rendered, the style sheet that is to be reduced, and how. -/

namespace CriticalCss

/-- A request. -/
structure Request where
  url : String
  /-- The text of the style sheet. -/
  css : Option String
  /-- The file to read the style sheet from if there is no text. -/
  cssPath : Option String
  viewport : Viewport
  forceInclude : List ForceInclude.Entry
  /-- Are selectors with a vendor's pseudo left out? -/
  strict : Bool
  /-- The time for the run, in milliseconds like all times. -/
  timeout : Int
  /-- The time that the loaded page gets to settle. -/
  settling : Int
  /-- The time after which loading is stopped and the page taken as it is. -/
  loadLimit : Option Int
  blockScripts : Bool
  headers : List (String × String)
  /-- Are media queries for larger screens looked into? -/
  keepLarger : Bool
  /-- The number of elements to look at for a selector. -/
  maxElements : Option Int
  /-- Patterns for properties whose declarations are taken away. -/
  unwanted : List String
  payloadLimit : Int
  userAgent : String
  deriving DecidableEq, Repr

/-- An entry as JSON. -/
def ForceInclude.Entry.toJson (entry : Entry) : Json :=
  .obj [("kind", .str entry.kind.word), ("value", .str entry.value), ("flags", .str entry.flags)]

/-- A table of texts as JSON. -/
def Request.tableJson (table : List (String × String)) : Json :=
  .obj (table.map fun (name, value) => (name, .str value))

/-- The request as JSON, every field written out. -/
def Request.toJson (request : Request) : Json :=
  .obj [
    ("url", .str request.url),
    ("css_string", Json.ofString? request.css),
    ("css_file_path", Json.ofString? request.cssPath),
    ("width", .int request.viewport.width),
    ("height", .int request.viewport.height),
    ("force_include", .arr (request.forceInclude.map (·.toJson))),
    ("strict", .bool request.strict),
    ("timeout", .int request.timeout),
    ("render_wait_time", .int request.settling),
    ("page_load_skip_timeout", Json.ofInt? request.loadLimit),
    ("block_js_requests", .bool request.blockScripts),
    ("custom_page_headers", tableJson request.headers),
    ("keep_larger_media_queries", .bool request.keepLarger),
    ("max_elements_to_check_per_selector", Json.ofInt? request.maxElements),
    ("properties_to_remove", Json.strings request.unwanted),
    ("max_embedded_base64_length", .int request.payloadLimit),
    ("user_agent", .str request.userAgent)]

end CriticalCss
