import CriticalCss.Failure
/-! Loading a page: scripts are blocked if that is wanted, the page is opened, and it gets some time
to settle. Loading can have a limit of its own; when that is over loading is stopped and the page
taken as it is.
-/

namespace CriticalCss.Page

/-- How a page is to be loaded; times are in milliseconds. -/
structure LoadOptions where
  blockScripts : Bool := true
  /-- The time after which the page is taken as it is; zero counts as none. -/
  limit : Option Int := none
  settling : Int := 100
  /-- The time after which loading has failed. -/
  patience : Option Int := none
  deriving DecidableEq, Repr

/-- What is done to a page. -/
inductive Action where
  /-- All requests that match go through the filter for scripts. -/
  | route (pattern : String)
  /-- The page is opened, and what is waited for at most how long. -/
  | goto (url event : String) (timeout : Option Int)
  | evaluate (script : String)
  | wait (time : Int)
  deriving DecidableEq, Repr

/-- How opening a page goes. -/
inductive Opening where
  | done
  | timedOut
  | failed
  deriving DecidableEq, Repr

/-- What was done to a page, and whether loading has failed. -/
structure Loaded where
  actions : List Action
  /-- The opening that was not done, if loading has failed because of it. -/
  failed : Option Opening

namespace LoadOptions

/-- The limit, if there is one. -/
def limit? (options : LoadOptions) : Option Int :=
  options.limit.filter (· != 0)

/-- The time that opening may take. -/
def timeout (options : LoadOptions) : Option Int :=
  options.limit? <|> options.patience

end LoadOptions

/-- The time that a page gets to settle. -/
def settle (options : LoadOptions) : List Action :=
  if options.settling = 0 then [] else [.wait options.settling]

/-- Loads a page whose opening goes as given. -/
def load (url : String) (options : LoadOptions) (opening : Opening) : Loaded :=
  let before :=
    (if options.blockScripts then [.route "**/*"] else [])
      ++ [.goto url "load" options.timeout]
  match opening with
  | .done => ⟨before ++ settle options, none⟩
  | .timedOut =>
    if options.limit?.isSome then
      ⟨before ++ [.evaluate "window.stop()"] ++ settle options, none⟩
    else ⟨before, some .timedOut⟩
  | .failed => ⟨before, some .failed⟩

/-- Is a resource of the given type kept from loading by the filter for scripts? -/
def isBlocked (resourceType : String) : Bool :=
  resourceType = "script"

end CriticalCss.Page
