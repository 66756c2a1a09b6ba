import CriticalCss.Browser.Operation
import CriticalCss.Config.Reader
import CriticalCss.Json.Writer
import CriticalCss.Page.Question
import CriticalCss.Retention
import CriticalCss.Service
import CriticalCss.Service.Address
import CriticalCss.Stylesheet.Cleanup
import CriticalCss.Proofs.Browser.Conservation
import CriticalCss.Proofs.Browser.Loans
import CriticalCss.Proofs.Browser.Atomicity
import CriticalCss.Proofs.Stylesheet.Cleanup
import CriticalCss.Proofs.Tidy.Passes
import CriticalCss.Proofs.Tidy.Idempotence
import CriticalCss.Proofs.Tidy.Closure
import CriticalCss.Proofs.Tidy.Monotonicity
import CriticalCss.Proofs.Tidy.Cleanness
import CriticalCss.Proofs.Tidy.Shorthands
import CriticalCss.Proofs.Tidy.Keyframes
import CriticalCss.Proofs.Tidy.Payloads
import CriticalCss.Proofs.Extraction.Undisturbed
import CriticalCss.Proofs.Extraction.Verbatim
import CriticalCss.Proofs.Extraction.Sources
import CriticalCss.Proofs.Media.Exactness
import CriticalCss.Proofs.Media.Safety
import CriticalCss.Proofs.Selection.FanOut
import CriticalCss.Proofs.Selection.Outcome
import CriticalCss.Proofs.Selection.Idempotence
import CriticalCss.Proofs.Selection.Interruption
import CriticalCss.Proofs.Selection.Monotonicity
import CriticalCss.Proofs.Selection.Counters
import CriticalCss.Proofs.Selector.Escapes
import CriticalCss.Proofs.Selector.Decoration
import CriticalCss.Proofs.Selector.NormalForm
import CriticalCss.Proofs.Request.Transport
import CriticalCss.Proofs.Service.Agreement
import CriticalCss.Proofs.Service.History
import CriticalCss.Proofs.Stylesheet.Found
import CriticalCss.Proofs.Stylesheet.Joining
import CriticalCss.Proofs.Stylesheet.Printing
import CriticalCss.Proofs.Stylesheet.Rereading
import CriticalCss.Proofs.Stylesheet.RoundTrip
