import BlockQuery.Graph.Reference
import BlockQuery.Query.Compile

/-!
# Running queries

A query block is compiled, the request for its matches is written and run, and every row
becomes a match whose text has its references expanded. When the number of
matches is bounded, a second request counts them all. A run never fails: it ends
with matches or with the message of the first thing that went wrong, where a
faulty row comes before a faulty count.
-/

namespace BlockQuery.Graph

open Datalog

/-- A matching block. -/
structure Match where
  uid : Json
  content : Json
  pageTitle : Json

/-- How a run ends. -/
inductive Outcome
  /-- The matches, the number of all matches and the text of the request. -/
  | found (all : List Match) (total : Int) (query : String)
  | failed (message : String)

namespace Outcome

/-- Whether a run ended with matches, possibly none. -/
def isFound : Outcome → Bool
  | found .. => true
  | failed _ => false

/-- The message that goes with an outcome. -/
def message : Outcome → String
  | found all _ _ => s!"Found {all.length} block(s) matching query"
  | failed message => message

end Outcome

/-- Why a run has no matches. -/
inductive RunError
  | compile (error : CompileError)
  /-- The number of workers is not positive. -/
  | noWorkers
  | fault (fault : Fault)

/-- The wording of a run's error. A fault without words is called by its kind. -/
def RunError.message : RunError → String
  | compile error => error.message
  | noWorkers => "max_workers must be greater than 0"
  | fault cause => if cause.message.isEmpty then cause.kind else cause.message

/-- How queries are run: what sends requests, what expands the text of a match, how many workers
share the work, and what time it is. -/
structure Engine (m : Type → Type) where
  run : Runner m
  expandText : Json → ExceptT Fault m Json
  workers : Int
  clock : Calendar.Clock

namespace Engine

variable {m : Type → Type} [Monad m]

/-- The number of workers when nothing else is said. -/
def defaultWorkers : Int := 8

/-- An engine that leaves texts as they are, or expands their references up to a depth. -/
def ofRunner (run : Runner m) (depth : Option Nat) (clock : Calendar.Clock) : Engine m where
  run := run
  expandText := match depth with
    | some levels => expand run levels
    | none => pure
  workers := defaultWorkers
  clock := clock

/-- The match of a row: identifier, text and, if there is a third cell, page title. -/
def matchOf (engine : Engine m) (row : Json) : ExceptT Fault m Match := do
  let uid ← liftFault (itemAt row 0)
  let content ← liftFault (itemAt row 1)
  let pageTitle := ((itemAt row 2).toOption).getD .null
  let content ← engine.expandText content
  return { uid, content, pageTitle }

/-- The matches of an answer. -/
def matchesOf (engine : Engine m) (rows : Json) : ExceptT Fault m (List Match) := do
  let items ← liftFault (itemsOf rows)
  items.mapM engine.matchOf

/-- The options of the request for the matches: without an order, the default one. -/
def findOptions (options : RequestOptions) : RequestOptions :=
  { options with order := some ((options.order.filter (· != "")).getD defaultOrder) }

/-- The answer of the count request, if the number of matches is bounded. Its failure is kept for
later. -/
def countRows (engine : Engine m) (compiled : Compiled) (options : RequestOptions) :
    m (Option (Except Fault Json)) :=
  if options.isBounded then
    some <$> (engine.run (compiled.count options.pageUid)).run
  else
    pure none

/-- The number of all matches: the counted one, or the number of the matches at hand. -/
def totalOf (found : List Match) : Option (Except Fault Json) → Except Fault Int
  | none => .ok found.length
  | some answer => do countOf (← answer)

/-- Runs a compiled query. -/
def runCompiled (engine : Engine m) (compiled : Compiled) (options : RequestOptions) :
    ExceptT RunError m Outcome := do
  let request ← ExceptT.mk (pure
    ((compiled.find (findOptions options)).mapError fun error => .compile (.unwritable error)))
  let rows ← (engine.run request).adapt .fault
  if engine.workers ≤ 0 then
    throw .noWorkers
  let counted ← engine.countRows compiled options
  let found ← (engine.matchesOf rows).adapt .fault
  let total ← (liftFault (totalOf found counted) : ExceptT Fault m Int).adapt .fault
  return .found found total request.text

/-- Runs the text of a query block. -/
def execute (engine : Engine m) (source : String) (options : RequestOptions) : m Outcome := do
  match compile engine.clock source with
  | .error error => return .failed (RunError.compile error).message
  | .ok compiled =>
    match ← (engine.runCompiled compiled options).run with
    | .ok outcome => return outcome
    | .error error => return .failed error.message

/-- Compiles the text of a query block at the engine's time, without running it. -/
def preview (engine : Engine m) (source : String) : Except CompileError Preview := do
  let named ← (Query.parse source).mapError .unreadable
  let conditions ← (named.query.conditions engine.clock).mapError .undated
  let request ← (conditions.clauses.find {} defaultSelection).mapError .unwritable
  return { query := named.query, name := named.name, request }

end Engine

end BlockQuery.Graph
