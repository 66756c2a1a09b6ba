import CriticalCss.Text.Commas
import CriticalCss.Text.Lowercase
/-! Names that values refer to: font families and animations. A name may stand in quotes; families
are compared without regard to case and spacing, animations as they are written.
-/

namespace CriticalCss.Tidy

/-- A value without the quotes around it. -/
def unquote (value : List Char) : List Char :=
  let value := Text.trim value
  match value with
  | first :: second :: rest =>
    if (first = '\'' || first = '"') && (second :: rest).getLast? = some first then
      (second :: rest).dropLast
    else value
  | _ => value

/-- Keywords that every property understands. -/
def cssWideKeywords : List String :=
  ["inherit", "initial", "unset", "revert", "revert-layer", "none"]

--------------------------------------------------------------------------------
-- Font families
--------------------------------------------------------------------------------

/-- A family as it is compared. -/
def normalFamily (value : List Char) : List Char :=
  Text.lower (Text.collapse (unquote value))

/-- The families in the value of a font-family declaration. -/
def listedFamilies (value : List Char) : List (List Char) :=
  ((Text.splitCommas value).filter fun part => !(Text.trim part).isEmpty).map normalFamily

/-- Words that name a font size. -/
def sizeWords : List String :=
  ["small", "large", "x-small", "x-large", "xx-small", "xx-large", "medium", "larger", "smaller",
    "xxx-large"]

/-- What follows the number that a text starts with: a sign or none, digits, and maybe a point with
digits behind it. -/
def afterSizeNumber? (text : List Char) : Option (List Char) :=
  let unsigned :=
    match text with
    | c :: rest => if c = '+' || c = '-' then rest else text
    | [] => text
  let rest := unsigned.dropWhile Char.isDigit
  match rest with
  | '.' :: fraction =>
    if (fraction.takeWhile Char.isDigit).isEmpty then none
    else some (fraction.dropWhile Char.isDigit)
  | _ => if (unsigned.takeWhile Char.isDigit).isEmpty then none else some rest

/-- Is the word, in lower case, a font size? A number may have a unit, and a line height behind a
slash. -/
def isFontSize (word : List Char) : Bool :=
  sizeWords.contains (String.ofList word)
    || match afterSizeNumber? word with
      | none => false
      | some rest =>
        match rest.dropWhile fun c => ('a' ≤ c && c ≤ 'z') || c == '%' with
        | [] => true
        | '/' :: height => !height.isEmpty
        | _ => false

/-- The words behind the last one that satisfies a test, nothing if none does. -/
def behindLast? (test : List Char → Bool) : List (List Char) → Option (List (List Char))
  | [] => none
  | word :: rest =>
    match behindLast? test rest with
    | some behind => some behind
    | none => if test word then some rest else none

/-- The families in the value of a font declaration: everything behind the size. -/
def shorthandFamilies (value : List Char) : List (List Char) :=
  match Text.splitCommas value with
  | [] => []
  | first :: others =>
    let family :=
      match behindLast? (fun word => isFontSize (Text.lower word)) (Text.words first) with
      | some behind => List.intercalate [' '] behind
      | none => first
    (listedFamilies (List.intercalate [','] (family :: others))).filter fun name =>
      !name.isEmpty && !cssWideKeywords.contains (String.ofList name)

--------------------------------------------------------------------------------
-- Animations
--------------------------------------------------------------------------------

/-- Words of an animation that are no names. -/
def animationKeywords : List String :=
  ["infinite", "normal", "reverse", "alternate", "alternate-reverse", "forwards", "backwards",
    "both", "running", "paused", "linear", "ease", "ease-in", "ease-out", "ease-in-out",
    "step-start", "step-end"]

/-- Does the property name animations? It does under its own name or with a vendor in front. A line
end behind the name is passed over. -/
def isAnimationProperty (property : String) : Bool :=
  let names := ["animation", "animation-name", "animation\n", "animation-name\n"]
  names.contains property
    || match property.toList with
      | '-' :: rest =>
        let isSmall (c : Char) : Bool := 'a' ≤ c && c ≤ 'z'
        match rest.takeWhile isSmall, rest.dropWhile isSmall with
        | _ :: _, '-' :: name => names.contains (String.ofList name)
        | _, _ => false
      | _ => false

/-- The quoted text that a text starts with, quotes included, and what follows it. -/
def quotedAt? (text : List Char) : Option (List Char × List Char) :=
  match text with
  | c :: rest =>
    if c = '"' || c = '\'' then
      match rest.dropWhile (· != c) with
      | _ :: after => some (c :: rest.takeWhile (· != c) ++ [c], after)
      | [] => none
    else none
  | [] => none

/-- The words of a list item, where a word that starts with a quote goes on to the next one. -/
def itemWords (text : List Char) : List (List Char) :=
  match text with
  | [] => []
  | c :: rest =>
    if Text.isBlank c then itemWords rest
    else
      match quotedAt? (c :: rest) with
      | some (word, after) =>
        word :: (if after.length ≤ rest.length then itemWords after else itemWords rest)
      | none =>
        (c :: rest.takeWhile (!Text.isBlank ·)) :: itemWords (rest.dropWhile (!Text.isBlank ·))
termination_by text.length
decreasing_by
  all_goals simp only [List.length_cons]
  all_goals first
    | omega
    | exact Nat.lt_succ_of_le (List.dropWhile_sublist _).length_le

/-- Is the word the name of an animation? -/
def isAnimationName (name : List Char) : Bool :=
  let word := String.ofList (Text.lower name)
  !name.isEmpty && !animationKeywords.contains word && !cssWideKeywords.contains word

/-- The names in the value of an animation declaration. -/
def animationNames (value : List Char) : List (List Char) :=
  (((Text.splitCommas value).flatMap itemWords).map unquote).filter isAnimationName

end CriticalCss.Tidy
