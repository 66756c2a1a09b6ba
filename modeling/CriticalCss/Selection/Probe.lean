/-! What a page can be asked about its layout, and how it replies. A question about a query can be
answered at once, after a while, or never; a question about clearing is answered at once. A page
can refuse a question, which concerns that question only, or break down, which ends the run.
-/

namespace CriticalCss

/-- A reply to a question; faults of the page are of type `ε`. -/
inductive Reply (ε : Type) where
  | answer (yes : Bool)
  | refused (message : String)
  | broken (fault : ε)

/-- Is the reply a yes? -/
def Reply.isYes {ε : Type} : Reply ε → Bool
  | answer yes => yes
  | _ => false

/-- A reply and when it comes, in milliseconds from the question on. -/
inductive Response (ε : Type) where
  | now (reply : Reply ε)
  | later (delay : Nat) (reply : Reply ε)
  | never

/-- A rendered page as far as its layout can be asked about. -/
structure Probe (ε : Type) where
  /-- Does an element that the query matches show in the viewport? -/
  isVisible : (query : String) → Response ε
  /-- Does resetting the properties on the elements of the query move one of them, or one of the
  critical elements, across the fold? This is taken to be answered at once, so that no deadline comes
  between the question and the reply. -/
  shiftsLayout : (query : String) → (properties critical : List String) → Reply ε

/-- The text of a refusal. -/
def refusalText (query message : String) : String :=
  query ++ ": " ++ message

end CriticalCss
