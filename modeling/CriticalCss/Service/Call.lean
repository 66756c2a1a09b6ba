import CriticalCss.Input.Problem
import CriticalCss.Text.Lowercase
/-! Calls to the service, and what they are answered with. A call is routed by its path; if the path
is right and the method wrong the answer says so, and if a slash at the end of the path is all that
is wrong the answer sends the caller there.
-/

namespace CriticalCss.Service

/-- A call. The path is that of its address, with all escapes resolved. -/
structure Call where
  method : String
  path : String
  headers : List (String × String) := []
  body : String := ""

/-- The method in capitals, for its case does not matter. -/
def Call.verb (call : Call) : String :=
  call.method.map Char.toUpper

/-- Characters of a header that cannot be sent, for only those of ASCII can: the first of them,
where it stands, and how many follow each other. -/
structure HeaderFault where
  first : Char
  position : Nat
  count : Nat
  deriving DecidableEq, Repr

/-- A character as messages escape it. -/
def escapedChar (c : Char) : String :=
  let code := c.toNat
  String.ofList <|
    if code < 0x100 then '\\' :: 'x' :: Text.hexPadded 2 code
    else if code < 0x10000 then '\\' :: 'u' :: Text.hexPadded 4 code
    else '\\' :: 'U' :: Text.hexPadded 8 code

/-- The wording of a fault. -/
def HeaderFault.message (fault : HeaderFault) : String :=
  let place :=
    if fault.count = 1 then
      "character '" ++ escapedChar fault.first ++ "' in position " ++ toString fault.position
    else
      "characters in position " ++ toString fault.position ++ "-"
        ++ toString (fault.position + fault.count - 1)
  "'ascii' codec can't encode " ++ place ++ ": ordinal not in range(128)"

/-- What keeps a text from being sent in a header. -/
def headerFault? (text : String) : Option HeaderFault :=
  let isAscii (c : Char) : Bool := c.toNat < 0x80
  match text.toList.dropWhile isAscii with
  | [] => none
  | c :: rest =>
    some ⟨c, (text.toList.takeWhile isAscii).length, 1 + (rest.takeWhile (!isAscii ·)).length⟩

/-- What keeps the headers of a call from being sent. -/
def Call.headerFault? (call : Call) : Option HeaderFault :=
  call.headers.findSome? fun header =>
    (Service.headerFault? header.1).or (Service.headerFault? header.2)

/-- The value of a header, whose name may be written in any case. -/
def Call.header? (call : Call) (name : String) : Option String :=
  (call.headers.find? fun header => Text.lowerString header.1 = Text.lowerString name).map (·.2)

/-- What a call is answered with. -/
inductive Reply where
  | json (status : Nat) (body : Json)
  | text (status : Nat) (body : String)

namespace Reply

/-- The status of an answer. -/
def status : Reply → Nat
  | json status _ => status
  | text status _ => status

/-- The answer without its body, for callers who ask for the head only. -/
def head (reply : Reply) : Reply :=
  text reply.status ""

/-- An answer that tells what went wrong. -/
def detail (status : Nat) (text : String) : Reply :=
  json status (.obj [("detail", .str text)])

/-- A step on the way to a value, as JSON. -/
def stepJson : Input.Step → Json
  | .field name => .str name
  | .item index => .int index

/-- A problem as JSON. -/
def problemJson (problem : Input.Problem) : Json :=
  .obj [("type", .str problem.cause.word), ("loc", .arr (problem.place.map stepJson)),
    ("msg", .str problem.cause.message)]

/-- An answer that sends the caller elsewhere. -/
def redirection : Reply :=
  text 307 ""

/-- An answer that tells nothing, because something went wrong that should not. -/
def internalError : Reply :=
  text 500 "Internal Server Error"

/-- An answer that lists problems of a body. It comes with the values that they are about, and is
not possible if one of these cannot be sent. -/
def problems (body : Json) (problems : List Input.Problem) : Reply :=
  if problems.all fun problem => (problem.subject? body).all Json.isSendable then
    json 422 (.obj [("detail", .arr (problems.map fun problem =>
      problemJson (problem.inside (.field "body"))))])
  else internalError

end Reply

/-- What a path leads to. -/
inductive Route where
  | health
  | authCheck
  | generate
  | extract
  | job (id : String)

/-- The method of a route. -/
def Route.method : Route → String
  | health | authCheck | job _ => "GET"
  | generate | extract => "POST"

/-- What the paths of runs and jobs start with. -/
def runsPath : String := "/v1/critical-css/"

/-- The route to a job: behind the start of the path there is its name, in one step. -/
def jobRoute? (path : String) : Option Route :=
  if runsPath.toList.isPrefixOf path.toList then
    let id := path.toList.drop runsPath.length
    if id.isEmpty || id.contains '/' then none else some (.job (String.ofList id))
  else none

/-- Is the path the given one? A line feed may follow it. -/
def isPath (path expected : String) : Bool :=
  path = expected || path = expected ++ "\n"

/-- The routes that a path leads to, whatever the method. -/
def routesAt (path : String) : List Route :=
  let fixed :=
    if isPath path "/healthz" then [Route.health]
    else if isPath path "/auth-check" then [.authCheck]
    else if isPath path (runsPath ++ "generate") then [.generate]
    else if isPath path (runsPath ++ "extract") then [.extract]
    else []
  fixed ++ (jobRoute? path).toList

/-- The path with a slash at its end, or without it if it has one. -/
def toggleSlash (path : String) : String :=
  let chars := path.toList
  if chars.getLast? = some '/' then
    String.ofList (chars.reverse.dropWhile (· == '/')).reverse
  else path ++ "/"

/-- The answer to a call that no route takes. -/
def strayReply (path : String) : Reply :=
  if !(routesAt path).isEmpty then .detail 405 "Method Not Allowed"
  else if path != "/" && !(routesAt (toggleSlash path)).isEmpty then .redirection
  else .detail 404 "Not Found"

end CriticalCss.Service
