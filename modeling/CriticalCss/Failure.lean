import CriticalCss.Pattern
import CriticalCss.Stylesheet.Printer
import CriticalCss.Stylesheet.Reader
import CriticalCss.Text.Utf8
/-! Everything that can end a run without a result. -/

namespace CriticalCss

/-- The kinds of failures that callers are told apart. -/
inductive FailureKind where
  | general
  | input
  | engineCrash
  | timeout
  | query
  | serialization
  deriving DecidableEq, Repr

/-- The word for a kind. -/
def FailureKind.word : FailureKind → String
  | general => "error"
  | input => "input"
  | engineCrash => "engine_crash"
  | timeout => "timeout"
  | query => "query"
  | serialization => "serialization"

/-- A failure. -/
inductive Failure where
  /-- There is a style sheet, but nothing in it. -/
  | emptySheet
  | unreadableSheet (path error : String)
  | undecodableSheet (fault : Text.Utf8.Fault)
  /-- The path of the style sheet holds a character that no path can. -/
  | unusablePath
  /-- The page was gone when it was asked. -/
  | pageClosed (query : String)
  | refused (query message : String)
  | crashedTwice (url : String)
  | timedOut (timeout : Int)
  | unprintable (error : PrintError)
  | badPattern (source : String) (error : Pattern.PatternError)
  /-- The style sheet cannot be read. -/
  | longNumber (number : LongNumber)
  /-- The time that a run may take is too long to be measured. -/
  | endlessTimeout
  /-- A container has no content to look into. -/
  | hollowContainer
  | launchFailed
  | contextFailed
  | pageFailed
  /-- A page was to be opened while there was no browser. -/
  | noBrowser
  /-- The loading of a page gave up waiting. -/
  | gaveUp (message : String)
  /-- The loading of a page reported a failure of a kind. -/
  | reported (kind : FailureKind) (message : String)
  /-- The loading of a page failed in some other way, which has a name. -/
  | foreign (name message : String)

namespace Failure

/-- The kind of a failure, if it has one. -/
def kind? : Failure → Option FailureKind
  | emptySheet | unreadableSheet .. => some .input
  | pageClosed _ | crashedTwice _ => some .engineCrash
  | refused .. => some .query
  | timedOut _ => some .timeout
  | unprintable _ => some .serialization
  | reported kind _ => some kind
  | undecodableSheet _ | unusablePath | badPattern .. | longNumber _ | endlessTimeout
  | hollowContainer | launchFailed
  | contextFailed | pageFailed | noBrowser | gaveUp _ | foreign .. => none

/-- The wording of a failure. -/
def message : Failure → String
  | emptySheet => "css should not be empty"
  | unreadableSheet path error => "Unable to read stylesheet " ++ path ++ ": " ++ error
  | undecodableSheet fault => fault.message
  | unusablePath => "embedded null byte"
  | pageClosed query => "page closed while querying " ++ Text.quoted query
  | refused query message => query ++ ": " ++ message
  | crashedTwice url => "browser crashed twice while processing " ++ url
  | timedOut timeout => "critical css generation exceeded " ++ toString timeout ++ "ms"
  | unprintable error => error.message
  | badPattern source error => error.message source
  | longNumber number => number.message
  | endlessTimeout => "integer division result too large for a float"
  | hollowContainer => "'NoneType' object is not iterable"
  | launchFailed => "launch failed"
  | contextFailed => "new_context failed"
  | pageFailed => "new_page failed"
  | noBrowser => "there is no browser"
  | gaveUp message => message
  | reported _ message => message
  | foreign _ message => message

/-- Is the failure one that another attempt cannot mend? -/
def isFinal (failure : Failure) : Bool :=
  failure.kind? == some .input || failure.kind? == some .timeout
    || failure.kind? == some .serialization

end Failure

end CriticalCss
