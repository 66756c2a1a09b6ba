import CriticalCss.Failure
import CriticalCss.Media
import CriticalCss.Selection.Probe
/-! Asking a rendered page. A question is evaluated in the page with one object as its argument, and
whatever comes back counts as yes or no. If the evaluation fails, it matters whether the page is
still there: a page that is there has refused the question, a page that is gone ends the run.
-/

namespace CriticalCss.Page

/-- A question to a page. -/
inductive Question where
  /-- Does an element show in the viewport? -/
  | aboveFold (selector : String)
  /-- Does resetting properties move an element across the fold? -/
  | clearingShift (selector : String) (properties critical : List String)

namespace Question

/-- The selector that a question is about. -/
def selector : Question → String
  | aboveFold selector => selector
  | clearingShift selector _ _ => selector

/-- The members of the argument that belong to the question itself. -/
def members : Question → List (String × Json)
  | aboveFold selector => [("selector", .str selector)]
  | clearingShift selector properties critical =>
    [("selector", .str selector), ("properties", Json.strings properties),
      ("criticalSelectors", Json.strings critical)]

/-- The argument of a question. No limit on the elements is written as zero. -/
def argument (question : Question) (viewport : Viewport) (maxElements : Option Int) : Json :=
  .obj (question.members
    ++ [("width", .int viewport.width), ("height", .int viewport.height),
      ("maxElements", .int (maxElements.getD 0))])

end Question

/-- Whether a page is still there: it may be closed, and its browser may have lost the connection.
Of some pages the browser is not known. -/
structure Presence where
  closed : Bool
  connected : Option Bool

/-- Is the page gone? -/
def Presence.isGone (presence : Presence) : Bool :=
  presence.closed || presence.connected == some false

/-- What evaluating a question gives. -/
inductive Evaluation where
  | value (json : Json)
  | failed (message : String)

/-- The reply to a question, given its evaluation and whether the page is there behind it. -/
def reply (question : Question) (presence : Presence) : Evaluation → Reply Failure
  | .value json => .answer json.isTruthy
  | .failed message =>
    if presence.isGone then .broken (.pageClosed question.selector) else .refused message

end CriticalCss.Page
