import CriticalCss.Json.Basic
import CriticalCss.Pattern
/-! Selectors that are kept whatever the page shows. An entry is a selector, compared as a whole, or
a pattern that is searched for; spaces in a selector count as one. Some selectors that style every
page are always among the entries.
-/

namespace CriticalCss.ForceInclude

--------------------------------------------------------------------------------
-- Entries
--------------------------------------------------------------------------------

/-- How an entry is compared with a selector. -/
inductive Kind where
  | exact
  | pattern
  deriving DecidableEq, Repr

/-- The word for a kind. -/
def Kind.word : Kind → String
  | exact => "exact"
  | pattern => "pattern"

/-- An entry: its kind, the selector or pattern, and the letters of the pattern's options. -/
structure Entry where
  kind : Kind
  value : String
  flags : String := ""
  deriving DecidableEq, Repr

/-- An entry as it was given, before its value and its letters are known to be texts. -/
structure Draft where
  kind : Kind
  value : Json
  flags : Json

/-- Why a value is no entry. -/
inductive EntryError where
  | unknownKind (shown : String)
  | missingValue
  | unsupported (shown : String)
  /-- What is to be compared with selectors is no text. -/
  | noSelector (typeWord : String)
  /-- What is to be searched for is no text. -/
  | noPattern
  /-- A list or a table stands where only simple values can be looked up. -/
  | noSimpleValue (typeWord : String)
  /-- The letters are given as something that has no parts. -/
  | noLetters (typeWord : String)
  deriving DecidableEq, Repr

/-- The wording of the reason. -/
def EntryError.message : EntryError → String
  | unknownKind shown => shown ++ " is not a valid MatchKind"
  | missingValue => "'value'"
  | unsupported shown => "unsupported force include value: " ++ shown
  | noSelector typeWord => "'" ++ typeWord ++ "' object has no attribute 'split'"
  | noPattern => "first argument must be string or compiled pattern"
  | noSimpleValue typeWord => "unhashable type: '" ++ typeWord ++ "'"
  | noLetters typeWord => "'" ++ typeWord ++ "' object is not iterable"

/-- The kind that a JSON value names. -/
def Kind.ofJson (json : Json) : Except EntryError Kind :=
  match json with
  | .str "exact" => .ok .exact
  | .str "pattern" => .ok .pattern
  | other => .error (.unknownKind other.shown)

/-- Reads an entry: a text is a selector, an object names kind, value and letters. -/
def Draft.ofJson (json : Json) : Except EntryError Draft :=
  match json with
  | .str _ | .torn _ => .ok ⟨.exact, json, .str ""⟩
  | .obj _ => do
    let kind ← match json.get? "kind" with
      | some kind => Kind.ofJson kind
      | none => .ok .exact
    match json.get? "value" with
    | some value => return ⟨kind, value, (json.get? "flags").getD (.str "")⟩
    | none => .error .missingValue
  | other => .error (.unsupported other.shown)

/-- A value as what options are looked up by; only texts name one. -/
def letterOf : Json → Except EntryError String
  | .str letter => .ok letter
  | .arr _ => .error (.noSimpleValue "list")
  | .obj _ => .error (.noSimpleValue "dict")
  | _ => .ok ""

/-- The letters of options: the characters of a text, the items of a list, the names in a table. -/
def lettersOf (json : Json) : Except EntryError (List String) :=
  match json with
  | .str letters => .ok (letters.toList.map String.singleton)
  | .arr items => items.mapM letterOf
  | .obj members => .ok (members.map (·.1))
  | other => .error (.noLetters other.typeWord)

/-- The entry that a draft is for. The letters matter only to a pattern. -/
def Draft.complete (draft : Draft) : Except EntryError Entry :=
  match draft.kind, draft.value with
  | .exact, .str selector => .ok ⟨.exact, selector, draft.flags.str?.getD ""⟩
  | .exact, other => .error (.noSelector other.typeWord)
  | .pattern, value => do
    let letters ← lettersOf draft.flags
    match value with
    | .str source =>
      return ⟨.pattern, source, "".intercalate (letters.filter ["i", "m", "s"].contains)⟩
    | .arr _ | .obj _ => .error (.noSimpleValue value.typeWord)
    | _ => .error .noPattern

/-- A complete entry as a draft. -/
def Draft.ofEntry (entry : Entry) : Draft :=
  ⟨entry.kind, .str entry.value, .str entry.flags⟩

/-- The options for which there are letters, each with its letter. -/
def optionLetters (options : Pattern.Options) : String :=
  (if options.ignoreCase then "i" else "") ++ (if options.multiline then "m" else "")
    ++ (if options.dotAll then "s" else "")

/-- The entry of a pattern that is compiled already; the options it sets itself count. -/
def Entry.ofPattern (pattern : Pattern) : Entry :=
  ⟨.pattern, pattern.source, optionLetters pattern.options⟩

/-- The options that letters stand for. Other letters stand for none. -/
def optionsOf (letters : String) : Pattern.Options where
  ignoreCase := letters.toList.contains 'i'
  multiline := letters.toList.contains 'm'
  dotAll := letters.toList.contains 's'

--------------------------------------------------------------------------------
-- Matching
--------------------------------------------------------------------------------

/-- Selectors that are always kept. -/
def baseline : List String :=
  ["*", "*:before", "*:after", "html", "body"]

/-- A selector with one space for each run of whitespace. -/
def normalize (selector : String) : String :=
  String.ofList (Text.collapse selector.toList)

/-- Entries ready for use. -/
structure Matcher where
  entries : List Entry
  exact : List String
  patterns : List Pattern

/-- Compiles the pattern of an entry. -/
def Entry.compile (entry : Entry) : Except Pattern.PatternError Pattern :=
  Pattern.compile entry.value (optionsOf entry.flags)

/-- A pattern that does not compile, and why. -/
structure BadPattern where
  source : String
  error : Pattern.PatternError

/-- Compiles the patterns of entries in order. -/
def compilePatterns : List Entry → Except BadPattern (List Pattern)
  | [] => .ok []
  | entry :: rest =>
    match entry.kind with
    | .exact => compilePatterns rest
    | .pattern => do
      let pattern ← match entry.compile with
        | .ok pattern => .ok pattern
        | .error error => .error ⟨entry.value, error⟩
      return pattern :: (← compilePatterns rest)

/-- The entries of the baseline. -/
def baselineEntries : List Entry :=
  baseline.map (⟨.exact, ·, ""⟩)

/-- Makes entries ready for use, the baseline before them. -/
def Matcher.ofEntries (entries : List Entry) : Except BadPattern Matcher := do
  let all := baselineEntries ++ entries
  let patterns ← compilePatterns all
  let exact := (all.filter (·.kind == .exact)).map fun entry => normalize entry.value
  return ⟨all, exact, patterns⟩

/-- What is wrong with drafts. -/
inductive DraftFault where
  | entry (error : EntryError)
  | pattern (bad : BadPattern)

/-- Completes a draft; a pattern has to compile. -/
def Draft.check (draft : Draft) : Except DraftFault Entry := do
  let entry ← draft.complete.mapError .entry
  let _ ← (compilePatterns [entry]).mapError .pattern
  return entry

/-- Makes drafts ready for use, the baseline before them. All selectors are looked at before the
first pattern is. -/
def Matcher.ofDrafts (drafts : List Draft) : Except DraftFault Matcher := do
  let _ ← (drafts.filter (·.kind == .exact)).mapM Draft.check
  let _ ← (drafts.filter (·.kind == .pattern)).mapM Draft.check
  (Matcher.ofEntries (← drafts.mapM Draft.check)).mapError .pattern

/-- Is the selector kept whatever the page shows? -/
def Matcher.keeps (matcher : Matcher) (selector : String) : Bool :=
  let normalized := normalize selector
  matcher.exact.contains normalized || matcher.patterns.any (·.search normalized)

end CriticalCss.ForceInclude
