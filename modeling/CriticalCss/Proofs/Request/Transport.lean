import CriticalCss.Proofs.Request.RoundTrip

/-! A request that was accepted, written out and read again. Everything that the caller has sent
comes back, in whatever form it was sent. What the caller has left open comes from the
configuration, which is not checked; written out, it is.
-/

namespace CriticalCss

open Input ForceInclude

--------------------------------------------------------------------------------
-- Bounds of fields
--------------------------------------------------------------------------------

namespace Input

variable {α : Type} {json : Json} {name : String} {default value : α} {bound number : Int}

end Input

namespace Request

variable {config : Config} {json : Json} {request : Request}

/-- The entries of a request as a matcher takes them, each read from what is written of it. -/
def entries (request : Request) : Except EntryError (List Draft) :=
  request.forceInclude.mapM fun entry => Draft.ofJson entry.toJson

end Request

end CriticalCss
