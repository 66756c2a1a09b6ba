import CriticalCss.Text.Blank
import CriticalCss.Text.CaseFold
/-! Data embedded in a value: the payload of each data URI that is written in base 64. Such a URI
names its encoding last, right before the first comma; its payload ends at a bracket, a quote or a
space.
-/

namespace CriticalCss.Tidy

/-- Does the head of a data URI end by naming base 64 as the encoding? -/
def namesBase64 (head : List Char) : Bool :=
  let backwards := head.reverse.dropWhile Text.isBlank
  match Text.dropWordIgnoringCase "base64".toList.reverse backwards with
  | some before => (before.dropWhile Text.isBlank).head? = some ';'
  | none => false

/-- Does the character end a payload? -/
def endsPayload (c : Char) : Bool :=
  c == ')' || c == '\'' || c == '"' || Text.isBlank c

/-- The payload of the data URI that a text starts with, and what follows it. -/
def payloadAt? (text : List Char) : Option (List Char × List Char) :=
  match Text.dropWordIgnoringCase "data:".toList text with
  | none => none
  | some inside =>
    match inside.dropWhile (· != ',') with
    | [] => none
    | _ :: data =>
      if namesBase64 (inside.takeWhile (· != ',')) then
        some (data.takeWhile (!endsPayload ·), data.dropWhile (!endsPayload ·))
      else none

/-- The payloads in a text, in order. -/
def payloads (text : List Char) : List (List Char) :=
  match text with
  | [] => []
  | c :: rest =>
    match payloadAt? (c :: rest) with
    | some (payload, after) =>
      payload :: (if after.length ≤ rest.length then payloads after else payloads rest)
    | none => payloads rest
termination_by text.length
decreasing_by all_goals simp only [List.length_cons]; omega

/-- Does a value hold a payload of more characters than the limit allows? -/
def holdsOversized (limit : Int) (value : String) : Bool :=
  (payloads value.toList).any fun payload => limit < payload.length

end CriticalCss.Tidy
