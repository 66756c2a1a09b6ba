import CriticalCss.Request.Basic
import CriticalCss.Input.Field
/-! Reading a request. Every field is checked by itself, and only if all of them are fine the
request as a whole is, which needs a style sheet. Some faults are so gross that nothing else is
told.
-/

namespace CriticalCss.Request

open Input

/-- Why there is no request. -/
inductive Refusal where
  | problems (problems : List Problem)
  /-- An entry of the selectors that are always kept is none. -/
  | badEntry (error : ForceInclude.EntryError)
  /-- The selectors that are always kept are not given as anything that has parts. -/
  | noEntries (typeWord : String)
  /-- A pattern cannot even be looked at. -/
  | badPattern (error : Pattern.PatternError) (source : String)

--------------------------------------------------------------------------------
-- Patterns
--------------------------------------------------------------------------------

/-- Does a pattern compile? If not, the reason against it is told, unless it cannot even be looked
at. -/
def checkPattern (what source : String) : Except Refusal (Option String) :=
  match Pattern.compile source {} with
  | .ok _ => .ok none
  | .error error =>
    let fault := error.message source
    match error.fault with
    | .repetitionTooLarge | .lookBehindTooFar => .error (.badPattern error source)
    | .classesOfBothKinds | .numberTooLong _ => .ok (some fault)
    | _ => .ok (some ("Invalid " ++ what ++ " pattern " ++ Text.quoted source ++ ": " ++ fault))

/-- Checks patterns up to the first that does not compile. -/
def checkPatterns : List String → Except Refusal (Checked Unit)
  | [] => .ok (.ok ())
  | source :: rest => do
    match ← checkPattern "property" source with
    | none => checkPatterns rest
    | some reason => return .fail (.rejected reason)

/-- Reads the patterns of unwanted properties. -/
def readUnwanted (json : Json) : Except Refusal (Checked (List String)) :=
  match list text json with
  | .faulty problems => .ok (.faulty problems)
  | .ok sources => do return (← checkPatterns sources).map fun _ => sources

--------------------------------------------------------------------------------
-- Entries
--------------------------------------------------------------------------------

/-- The parts of a value that entries may be given as: the items of a list, the characters of a text
or the names in a table. -/
def entryParts : Json → Except Refusal (List Json)
  | .null => .ok []
  | .arr items => .ok items
  | .str value | .torn value => .ok (value.toList.map fun c => .str (String.singleton c))
  | .obj members => .ok (members.map fun member => .str member.1)
  | other => .error (.noEntries other.typeWord)

/-- Are all letters those of options? -/
def areOptionLetters (letters : String) : Bool :=
  letters.toList.all ['i', 'm', 's'].contains

/-- Reads the letters of an entry. -/
def readLetters (json : Json) : Checked String :=
  (wholeText json).andThen fun letters =>
    if areOptionLetters letters then .ok letters else .fail .unknownLetter

/-- Checks an entry. Its pattern is looked at only if nothing else is wrong. -/
def checkEntry (draft : ForceInclude.Draft) : Except Refusal (Checked ForceInclude.Entry) :=
  let entry :=
    ForceInclude.Entry.mk draft.kind
      <$> (text draft.value).inside (.field "value")
      <*> (readLetters draft.flags).inside (.field "flags")
  match entry with
  | .faulty problems => .ok (.faulty problems)
  | .ok entry =>
    match entry.kind with
    | .exact => .ok (.ok entry)
    | .pattern => do
      match ← checkPattern "force include" entry.value with
      | none => return .ok entry
      | some reason => return .fail (.rejected reason)

/-- Checks entries, counted from a number on. -/
def checkEntries (index : Nat)
    : List ForceInclude.Draft → Except Refusal (List (Checked ForceInclude.Entry))
  | [] => .ok []
  | draft :: rest => do
    let entry ← checkEntry draft
    return entry.inside (.item index) :: (← checkEntries (index + 1) rest)

/-- Reads the entries of selectors that are always kept. -/
def readEntries (json : Json) : Except Refusal (Checked (List ForceInclude.Entry)) := do
  let parts ← entryParts json
  match parts.mapM ForceInclude.Draft.ofJson with
  | .error (.unknownKind shown) =>
    return .fail (.rejected (ForceInclude.EntryError.unknownKind shown).message)
  | .error error => .error (.badEntry error)
  | .ok drafts => return .all (← checkEntries 0 drafts)

--------------------------------------------------------------------------------
-- Requests
--------------------------------------------------------------------------------

/-- Reads a field whose reading can fail altogether. -/
def fieldOrRefusal {α : Type} (json : Json) (name : String) (default : α)
    (read : Json → Except Refusal (Checked α))
    : Except Refusal (Checked α) :=
  match json.get? name with
  | some value => return (← read value).inside (.field name)
  | none => .ok (.ok default)

/-- Is a style sheet named at all? -/
def namesSheet (request : Request) : Bool :=
  request.css.any (!·.isEmpty) || request.cssPath.any (!·.isEmpty)

/-- The problem of a request without a style sheet. -/
def noSheet : Cause :=
  .rejected "Either 'css_string' or 'css_file_path' must be provided."

/-- Puts the fields of a request together. -/
def assemble (url : String) (css cssPath : Option String) (width height : Int)
    (forceInclude : List ForceInclude.Entry) (strict : Bool) (timeout settling : Int)
    (loadLimit : Option Int) (blockScripts : Bool) (headers : List (String × String))
    (keepLarger : Bool) (maxElements : Option Int) (unwanted : List String) (payloadLimit : Int)
    (userAgent : String)
    : Request :=
  ⟨url, css, cssPath, ⟨width, height⟩, forceInclude, strict, timeout, settling, loadLimit,
    blockScripts, headers, keepLarger, maxElements, unwanted, payloadLimit, userAgent⟩

/-- Reads a request. Fields that are not there get what the configuration says. -/
def read (config : Config) (json : Json) : Except Refusal Request := do
  let forceInclude ← fieldOrRefusal json "force_include" [] readEntries
  let unwanted ← fieldOrRefusal json "properties_to_remove" config.unwanted readUnwanted
  let request :=
    assemble
      <$> requiredField json "url" filledText
      <*> field json "css_string" none (optional text)
      <*> field json "css_file_path" none (optional text)
      <*> field json "width" config.viewport.width (numberAbove 0)
      <*> field json "height" config.viewport.height (numberAbove 0)
      <*> forceInclude
      <*> field json "strict" false choice
      <*> field json "timeout" config.timeout (numberAbove 0)
      <*> field json "render_wait_time" config.settling (numberFrom 0)
      <*> field json "page_load_skip_timeout" none (optional (numberAbove 0))
      <*> field json "block_js_requests" config.blockScripts choice
      <*> field json "custom_page_headers" [] table
      <*> field json "keep_larger_media_queries" false choice
      <*> field json "max_elements_to_check_per_selector" none (optional (numberAbove 0))
      <*> unwanted
      <*> field json "max_embedded_base64_length" config.payloadLimit (numberFrom 0)
      <*> field json "user_agent" config.userAgent text
  match request with
  | .faulty problems => .error (.problems problems)
  | .ok request =>
    if namesSheet request then .ok request else .error (.problems [⟨[], noSheet⟩])

/-- Reads a request that may not even be an object. -/
def readAny (config : Config) (json : Json) : Except Refusal Request :=
  match json with
  | .obj _ => read config json
  | _ => .error (.problems [⟨[], .noRequest⟩])

end CriticalCss.Request
