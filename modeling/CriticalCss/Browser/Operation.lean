import CriticalCss.Browser.Pool
/-! What is done to a pool, one operation after the other. Between two operations everybody who has
been given a slot goes on, so every operation finds the pool settled. Within a restart some of them
go on before there is a new browser.
-/

namespace CriticalCss.Browser

/-- An operation on a pool. -/
inductive Operation where
  | launch (viewport : Viewport)
  | restart (viewport : Option Viewport)
  | shutdown (force : Bool)
  /-- Asks for a page, where opening it may be bound to fail. -/
  | acquire (viewport : Option Viewport) (userAgent : Option String)
      (headers : List (String × String)) (trap : Option Trap)
  /-- Gives back the page handed out with a number. -/
  | release (number : Option Nat) (error : Option String)
  /-- The latest browser loses its connection. -/
  | disconnect
  /-- Launches a browser, does what is inside, and shuts it down, also if what is inside fails. -/
  | session (viewport : Viewport) (body : List Operation) (error : Option Failure)
  deriving Inhabited

/-- What an operation answers. -/
inductive Answer where
  | done
  | page (number : Nat)
  | queued
  | noSuchPage
  | failed (failure : Failure)

/-- What is seen of the run of operations. -/
inductive Report where
  /-- The inside of a session has been entered. -/
  | entered (pool : Pool)
  /-- An operation has ended; the events are those since the last report of an end. -/
  | ended (answer : Answer) (events : List Event) (pool : Pool)

/-- The answer of an operation that fails or not. -/
def Answer.ofFailure? : Option Failure → Answer
  | some failure => .failed failure
  | none => .done

/-- Reports the end of an operation and starts a new log. -/
def Pool.report (answer : Answer) (pool : Pool) : List Report × Pool :=
  let settled := pool.settle
  ([.ended answer settled.log settled], { settled with log := [] })

mutual
/-- Does an operation. -/
def Operation.run (setup : Setup) (pool : Pool) : Operation → List Report × Pool
  | .launch viewport =>
    let (pool, failure) := pool.launchIfNeeded setup viewport
    pool.report (.ofFailure? failure)
  | .restart viewport =>
    let (pool, failure) := pool.restart setup viewport (pool.turnsOfRestart setup)
    pool.report (.ofFailure? failure)
  | .shutdown force => (pool.shutdown setup force).report .done
  | .acquire viewport userAgent headers trap =>
    let pool := { pool with engine := { pool.engine with trap := trap } }
    match pool.acquire setup viewport userAgent headers with
    | (pool, .page _) => pool.report (.page (pool.handedOut.length - 1))
    | (pool, .queued) => pool.report .queued
    | (pool, .failed failure) => pool.report (.failed failure)
  | .release number error =>
    match number with
    | none => pool.report .done
    | some number =>
      match pool.handedOut[number]? with
      | some page => (pool.release setup page error).report .done
      | none => pool.report .noSuchPage
  | .disconnect =>
    Pool.report .done { pool with engine := pool.engine.disconnectLatest }
  | .session viewport body error =>
    match pool.launchIfNeeded setup viewport with
    | (pool, some failure) => (pool.close setup).report (.failed failure)
    | (entered, none) =>
      let (inner, pool) := Operation.runAll setup entered body
      let (last, pool) := (pool.close setup).report (.ofFailure? error)
      (.entered entered :: inner ++ last, pool)

/-- Does operations in order. -/
def Operation.runAll (setup : Setup) (pool : Pool) : List Operation → List Report × Pool
  | [] => ([], pool)
  | operation :: rest =>
    let (first, pool) := operation.run setup pool
    let (others, pool) := Operation.runAll setup pool rest
    (first ++ others, pool)
end

end CriticalCss.Browser
