import CriticalCss.Json.Reader
import CriticalCss.Request.Reader
import CriticalCss.Service.Access
import CriticalCss.Service.Call
import CriticalCss.Text.Encoding
/-! Bodies of calls, and the requests in them. Only a body that its header declares to be JSON is
read as such. What is unreadable is told at once; whether what is read is a request is looked at
later.
-/

namespace CriticalCss.Service

/-- The body of a call. -/
inductive Body where
  | empty
  | json (value : Json)
  /-- Bytes that are not declared to be JSON. -/
  | undeclared

/-- The type that a header declares for the body, without what follows a semicolon. -/
def Call.contentType (call : Call) : List Char :=
  let value := (call.header? "content-type").getD ""
  Text.lower (Text.trim (value.toList.takeWhile (· != ';')))

/-- Is a type of bodies JSON, or something built upon it? -/
def isJsonType (type : List Char) : Bool :=
  match Text.splitWhere (· == '/') type with
  | [main, kind] =>
    main = "application".toList && (kind = "json".toList || "+json".toList.isSuffixOf kind)
  | _ => false

/-- A text without the mark of byte order at its start. -/
def dropByteOrderMark (text : String) : String :=
  match text.toList with
  | '\uFEFF' :: rest => String.ofList rest
  | _ => text

/-- The text of a body, whose encoding shows by its first bytes. -/
def bodyText? (body : String) : Option String :=
  let bytes := body.toUTF8.toList
  match Text.Encoding.detect bytes with
  | .utf8 => some (dropByteOrderMark body)
  | encoding => (encoding.decode? bytes).map String.ofList

/-- The answer to a body that is not even malformed JSON. -/
def unparsedReply : Reply :=
  .detail 400 "There was an error parsing the body"

/-- Reads the body of a call. -/
def readBody (call : Call) : Except Reply Body :=
  if call.body.isEmpty then .ok .empty
  else if !isJsonType call.contentType then .ok .undeclared
  else
    match bodyText? call.body with
    | none => .error unparsedReply
    | some text =>
      match Json.read text with
      | .ok json => .ok (.json json)
      | .error (.malformed position) => .error (.problems .null [⟨[.item position], .unreadable⟩])
      | .error _ => .error unparsedReply

/-- The answer to a path that may not be named. -/
def denialReply : Denial → Reply
  | .disabled => .detail 400 "css_file_path is not accepted; send css_string instead"
  | .outside => .detail 400 "css_file_path must stay inside the stylesheet root"
  | .unusable => .internalError

/-- The answer to a request that is none. -/
def refusalReply (body : Json) : Request.Refusal → Reply
  | .problems problems => .problems body problems
  | .badEntry _ | .noEntries _ | .badPattern .. => .internalError

/-- Reads the request in a body, with its path confined. -/
def readRequest (config : Config) (workingFolder : List String) (body : Body)
    : Except Reply Request :=
  match body with
  | .empty | .json .null => .error (.problems .null [⟨[], .missing⟩])
  | .json (.obj members) =>
    match Request.read config (.obj members) with
    | .ok request => (confine config workingFolder request).mapError denialReply
    | .error refusal => .error (refusalReply (.obj members) refusal)
  | .json json => .error (.problems json [⟨[], .noObject⟩])
  | .undeclared => .error (.problems .null [⟨[], .noObject⟩])

end CriticalCss.Service
