import CriticalCss.Decimal.Binary
import CriticalCss.Text.CaseFold
import CriticalCss.Text.Commas
import CriticalCss.Text.Digit
/-! Media queries, read far enough to tell which of them cannot match a screen of a given size. Only
clear cases are ruled out: media types that are no screen, the negation of a plain screen type,
and lower bounds beyond the size. Whatever is not understood may match.
-/

namespace CriticalCss

/-- The part of a page that is seen without scrolling. -/
structure Viewport where
  width : Int
  height : Int
  deriving DecidableEq, Repr

namespace Media

/-- A feature in brackets: its name, and its value if it has one. -/
structure Feature where
  name : List Char
  value : Option (List Char)
  deriving DecidableEq, Repr

--------------------------------------------------------------------------------
-- Reading features
--------------------------------------------------------------------------------

/-- A character of a feature's name: a letter from a to z in any case, or a hyphen. -/
def isFeatureChar (c : Char) : Bool :=
  c == '-' || ('a' ≤ Text.caseKey c && Text.caseKey c ≤ 'z')

/-- The value between a colon and a closing bracket. Of blanks alone the last one is the value. -/
def featureValue (text : List Char) : List Char :=
  let value := Text.trim text
  if value.isEmpty then text.drop (text.length - 1) else value

/-- The feature whose opening bracket is passed, and what follows its closing bracket. -/
def readFeature (text : List Char) : Option (Feature × List Char) :=
  let start := Text.trimStart text
  let name := start.takeWhile isFeatureChar
  if name.isEmpty then none
  else
    match Text.trimStart (start.dropWhile isFeatureChar) with
    | ')' :: rest => some (⟨name, none⟩, rest)
    | ':' :: inside =>
      let value := inside.takeWhile (· != ')')
      match inside.dropWhile (· != ')') with
      | [] => none
      | _ :: rest => if value.isEmpty then none else some (⟨name, some (featureValue value)⟩, rest)
    | _ => none

theorem readFeature_length {text rest : List Char} {feature : Feature}
    (h : readFeature text = some (feature, rest)) : rest.length ≤ text.length := by
  have drop (p : Char → Bool) (l : List Char) : (l.dropWhile p).length ≤ l.length :=
    (List.dropWhile_sublist p).length_le
  have h1 := drop Text.isBlank text
  have h2 := drop isFeatureChar (text.dropWhile Text.isBlank)
  have h3 := drop Text.isBlank ((text.dropWhile Text.isBlank).dropWhile isFeatureChar)
  unfold readFeature Text.trimStart at h
  dsimp only at h
  split at h
  · simp at h
  split at h
  · rename_i heq
    simp only [Option.some.injEq, Prod.mk.injEq] at h
    rw [heq] at h3
    simp only [List.length_cons] at h3
    rw [← h.2]
    omega
  · rename_i inside heq
    rw [heq] at h3
    simp only [List.length_cons] at h3
    have h4 := drop (· != ')') inside
    split at h
    · simp at h
    · rename_i heq'
      split at h
      · simp at h
      · simp only [Option.some.injEq, Prod.mk.injEq] at h
        rw [heq'] at h4
        simp only [List.length_cons] at h4
        rw [← h.2]
        omega
  · simp at h

/-- The text of a query without its features, and the features in order. -/
def takeFeatures (text : List Char) : List Char × List Feature :=
  match text with
  | [] => ([], [])
  | c :: rest =>
    let skip : Unit → List Char × List Feature := fun _ =>
      let (head, features) := takeFeatures rest
      (c :: head, features)
    if c = '(' then
      match _h : readFeature rest with
      | some (feature, after) =>
        let (head, features) := takeFeatures after
        (head, feature :: features)
      | none => skip ()
    else skip ()
termination_by text.length
decreasing_by
  · simp
  · have := readFeature_length _h
    simp only [List.length_cons]
    omega

--------------------------------------------------------------------------------
-- Lengths
--------------------------------------------------------------------------------

/-- The pixels of an em, the font size of the root element. -/
def rootFontPower : Nat := 4

/-- The number that a text starts with, digits with at most one point inside or in front of them,
and what follows it. -/
def readNumber (text : List Char) : Option (Decimal.Binary × List Char) :=
  let whole := text.takeWhile Char.isDigit
  let value (digits : List Char) (places : Nat) : Decimal.Binary :=
    Decimal.ofDecimal false (Text.digitsValue 10 digits) (-(places : Int))
  match text.dropWhile Char.isDigit with
  | '.' :: rest =>
    let fraction := rest.takeWhile Char.isDigit
    if fraction.isEmpty then none
    else some (value (whole ++ fraction) fraction.length, rest.dropWhile Char.isDigit)
  | rest => if whole.isEmpty then none else some (value whole 0, rest)

/-- Is the text the given word, case ignored? -/
def isWordIgnoringCase (word : String) (text : List Char) : Bool :=
  Text.dropWordIgnoringCase word.toList text = some []

/-- A length in pixels. An em is sixteen pixels, and a number without a unit counts as pixels. -/
def pixels? (text : List Char) : Option Decimal.Binary :=
  match readNumber (Text.trim text) with
  | none => none
  | some (number, rest) =>
    let unit := Text.trimStart rest
    if unit.isEmpty || isWordIgnoringCase "px" unit then some number
    else if isWordIgnoringCase "em" unit || isWordIgnoringCase "rem" unit then
      some (number.scale rootFontPower)
    else none

--------------------------------------------------------------------------------
-- Queries
--------------------------------------------------------------------------------

/-- Media types that are no screen. -/
def otherTypes : List String :=
  ["print", "speech", "aural", "braille", "embossed", "tty", "tv", "projection", "handheld"]

/-- Media types that include screens. -/
def screenTypes : List String :=
  ["all", "screen"]

/-- A media query as far as it is understood. -/
structure Query where
  negated : Bool
  type : Option String
  features : List Feature

/-- Reads a query. Its words are what is left without the features and the word that joins them. -/
def Query.read (text : List Char) : Query :=
  let (head, features) := takeFeatures (Text.lower text)
  let words := ((Text.words head).map String.ofList).filter (· ≠ "and")
  match words with
  | "not" :: rest => ⟨true, rest.head?, features⟩
  | "only" :: rest => ⟨false, rest.head?, features⟩
  | _ => ⟨false, words.head?, features⟩

/-- The dimension of a viewport that a feature bounds from below. -/
def Feature.bounded? (feature : Feature) (viewport : Viewport) : Option Int :=
  match String.ofList feature.name with
  | "min-width" | "min-device-width" => some viewport.width
  | "min-height" | "min-device-height" => some viewport.height
  | _ => none

/-- Does the feature ask for more than the viewport has? -/
def Feature.rulesOut (feature : Feature) (viewport : Viewport) : Bool :=
  match feature.bounded? viewport, feature.value.bind pixels? with
  | some size, some pixels => pixels.exceeds size
  | _, _ => false

/-- May the query match a screen of the given size? With `keepLarger` lower bounds are not looked
at. -/
def Query.mayMatch (query : Query) (viewport : Viewport) (keepLarger : Bool) : Bool :=
  if query.negated then !(query.type.any screenTypes.contains && query.features.isEmpty)
  else
    match query.type with
    | some type =>
      if otherTypes.contains type then false
      else if !screenTypes.contains type then true
      else keepLarger || !query.features.any (·.rulesOut viewport)
    | none => keepLarger || !query.features.any (·.rulesOut viewport)

/-- The queries of a list; empty ones are left out. -/
def queryTexts (prelude : List Char) : List (List Char) :=
  ((Text.splitCommas prelude).map Text.trim).filter (!·.isEmpty)

/-- May a query of the list match a screen of the given size? An empty list matches everything. -/
def mayMatch (prelude : String) (viewport : Viewport) (keepLarger : Bool) : Bool :=
  let queries := queryTexts prelude.toList
  queries.isEmpty || queries.any fun text => (Query.read text).mayMatch viewport keepLarger

end Media

end CriticalCss
