import CriticalCss.Input.Problem
/-! Telling problems in one text: how many there are, and for each its place, its cause, the value
that it is about and where to read more. Of a long value the beginning and the end are told.
-/

namespace CriticalCss.Input

/-- The longest beginning of a text that takes at most so many bytes. -/
def takeBytes (count : Nat) : List Char → List Char
  | [] => []
  | c :: rest =>
    if c.utf8Size ≤ count then c :: takeBytes (count - c.utf8Size) rest else []

/-- A text as it is if it takes at most 50 bytes; otherwise its first 25 and its last 24, less the
characters that are cut. -/
def abridged (text : String) : String :=
  let chars := text.toList
  if text.utf8ByteSize ≤ 50 then text
  else
    String.ofList (takeBytes 25 chars) ++ "..."
      ++ String.ofList (takeBytes 24 chars.reverse).reverse

/-- A step on the way to a value, as accounts write it. -/
def Step.text : Step → String
  | field name => name
  | item index => toString index

/-- Where callers can read more about a cause. -/
def Cause.page (cause : Cause) : String :=
  "https://errors.pydantic.dev/2.14/v/" ++ cause.word

/-- The account of a problem with a value. -/
def Problem.account (json : Json) (problem : Problem) : String :=
  let subject := (problem.subject? json).getD .null
  let place := ".".intercalate (problem.place.map (·.text))
  (if problem.place.isEmpty then "" else place ++ "\n")
    ++ "  " ++ problem.cause.message ++ " [type=" ++ problem.cause.word ++ ", input_value="
    ++ abridged subject.shown ++ ", input_type=" ++ subject.typeWord ++ "]\n"
    ++ "    For further information visit " ++ problem.cause.page

/-- The account of all problems of something with a value. -/
def account (what : String) (json : Json) (problems : List Problem) : String :=
  let count := toString problems.length ++ " validation error"
  (if problems.length = 1 then count else count ++ "s") ++ " for " ++ what ++ "\n"
    ++ "\n".intercalate (problems.map (·.account json))

end CriticalCss.Input
