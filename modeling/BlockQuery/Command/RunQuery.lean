import BlockQuery.Command.GraphAccess
import BlockQuery.Command.Invocation
import BlockQuery.Command.ResultTable
import BlockQuery.Graph.OutcomeJson
import BlockQuery.Json.Label

/-!
# Running a query block

The command `query` runs one query block against the graph and shows its matches
as a table, as JSON or as a list of identifiers.
-/

namespace BlockQuery.Command.RunQuery

open BlockQuery.Graph

/-- The options of the command. -/
inductive Key
  | limit | offset | order | pageUid | format | showQuery | refsDepth | help
deriving DecidableEq, Repr

/-- How matches are shown. -/
inductive Format
  | table | json | uids
deriving DecidableEq, Repr

/-- What the command is asked for. -/
structure Request where
  limit : Option Int := none
  offset : Int := 0
  order : Option String := none
  pageUid : Option String := none
  format : Format := .table
  showQuery : Bool := false
  refsDepth : Option Int := none

/-- The names of the option for the number of matches. -/
def limitNames : List String := ["--limit", "-l"]

/-- The names of the option for the number of matches to skip. -/
def offsetNames : List String := ["--offset", "-o"]

/-- The names of the option for the format. -/
def formatNames : List String := ["--format", "-f"]

/-- The names of the option for the depth of expansion. -/
def refsDepthNames : List String := ["--refs-depth"]

/-- The formats by name. -/
def formats : List (String × Format) :=
  [("table", .table), ("json", .json), ("uids", .uids)]

/-- What the command takes. -/
def synopsis : Synopsis Key where
  pieces := "[OPTIONS] SOURCE..."
  options :=
    [valued .limit limitNames, valued .offset offsetNames, valued .order ["--order-by"],
      valued .pageUid ["--page-uid", "-p"], valued .format formatNames,
      flag .showQuery ["--show-query"], valued .refsDepth refsDepthNames]
  help := .help

/-- The request changed by an option. -/
def Request.change (key : Key) (value : String) (request : Request) :
    Except ArgumentError Request :=
  match key with
  | .limit => do
    let limit ← readLimit (optionLabel limitNames) value
    return { request with limit := some limit }
  | .offset => do return { request with offset := ← readCount (optionLabel offsetNames) value }
  | .order => .ok { request with order := some value }
  | .pageUid => .ok { request with pageUid := some value }
  | .format => do
    return { request with format := ← readChoice (optionLabel formatNames) formats value }
  | .showQuery => .ok { request with showQuery := true }
  | .refsDepth => do
    let depth ← readCount (optionLabel refsDepthNames) value
    return { request with refsDepth := some depth }
  | .help => .ok request

/-- The request of a command line, and the text of the query block. -/
def requestOf (arguments : Arguments Key) : Except ArgumentError (Request × String) := do
  let request ← arguments.apply Request.change {}
  let words ← arguments.someWords "SOURCE..."
  return (request, " ".intercalate words)

/-- The options in a line for debugging, unless a number has too many digits to be written. -/
def debugLine (options : Datalog.RequestOptions) : Except Datalog.RequestError String :=
  let limit := options.limit.getD 0
  let order := Text.quoted (options.order.getD "")
  if Text.isWritable limit && Text.isWritable options.offset then
    .ok s!"limit={limit} offset={options.offset} order={order}"
  else
    .error .longNumber

variable {m : Type → Type} [Monad m]

/-- Shows the outcome of the query block. -/
def present (host : Host m) (presentation : Presentation) (request : Request) (source : String)
    (outcome : Outcome) : Action m Unit := do
  if request.format = .json then
    host.line .output (outcome.pretty request.showQuery)
    if !outcome.isFound then
      exit 1
  else
    match outcome with
    | .failed message =>
      host.error s!"Query failed: {message}"
      exit 1
    | .found all total query =>
      if request.showQuery && query != "" then
        host.datalog presentation query
      if request.format = .uids then
        all.forM fun found => host.line .output found.uid.label
      else if all.isEmpty then
        host.info s!"No results for: {source}"
      else
        host.results presentation source all total

/-- Runs the command. -/
def run (host : Host m) (context : Context) (invocation : Invocation)
    (arguments : List String) : Action m Unit := do
  let read ← host.readCommand invocation synopsis arguments
  let (request, source) ← host.accept (invocation.usage synopsis.pieces) (requestOf read)
  let presentation := context.presentation
  let (settings, client) ← host.graphAccess context
  let options :=
    settings.requestOptions request.limit request.offset request.order request.pageUid
  if request.format = .table && presentation.verbose then
    host.info s!"Querying graph '{client.graph}'"
  -- the line is put together even if it is not shown
  match debugLine options with
  | .error error => crash (.request error)
  | .ok line =>
    if presentation.debug then
      host.debug line
  let outcomes ← host.outcomes client (settings.expansionDepth? request.refsDepth) options [source]
  outcomes.forM (present host presentation request source)

end BlockQuery.Command.RunQuery
