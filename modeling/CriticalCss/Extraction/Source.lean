import CriticalCss.Event
import CriticalCss.Failure
import CriticalCss.Files.Tree
import CriticalCss.Request.Basic
/-! Finding the text of the style sheet that a request is about: the text in the request unless it
is blank, otherwise the file that the request names. A blank style sheet is none.
-/

namespace CriticalCss.Extraction

/-- What looking for the text of a style sheet gives. -/
structure Source where
  text : Except Failure String
  events : List Event

/-- There is no text. -/
def Source.empty (request : Request) : Source :=
  ⟨.error .emptySheet, [.stylesheetEmpty request.url]⟩

/-- Can a path be looked up at all? -/
def isUsablePath (path : String) : Bool :=
  !path.toList.contains '\x00'

/-- Reads the file at a path. -/
def Source.ofFile (files : Files.Tree) (request : Request) (name : String) : Source :=
  let path := Files.Path.ofText name
  if !isUsablePath name then ⟨.error .unusablePath, []⟩
  else
    match files.bytes path with
    | .error error =>
      let reason := error.message path
      ⟨.error (.unreadableSheet path.text reason), [.stylesheetUnreadable path.text reason]⟩
    | .ok bytes =>
      match Text.Utf8.decode bytes with
      | .error fault => ⟨.error (.undecodableSheet fault), []⟩
      | .ok chars =>
        let text := String.ofList (Files.Tree.unifyLines chars)
        if Text.allBlank text then .empty request else ⟨.ok text, []⟩

/-- The text of the style sheet that a request is about. -/
def Source.of (files : Files.Tree) (request : Request) : Source :=
  match request.css.filter fun text => !Text.allBlank text with
  | some text => ⟨.ok text, []⟩
  | none =>
    match request.cssPath.filter fun path => !path.isEmpty with
    | some name => .ofFile files request name
    | none => .empty request

end CriticalCss.Extraction
