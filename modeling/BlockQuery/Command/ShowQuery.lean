import BlockQuery.Calendar.DailyPage
import BlockQuery.Command.Invocation
import BlockQuery.Json.Writer
import BlockQuery.Query.Compile
import BlockQuery.Query.Json
import BlockQuery.Terminal.Outline

/-!
# Showing a query block

The command `parse` shows the tree of a query block and the request that it is
compiled to, without running it.
-/

namespace BlockQuery.Command.ShowQuery

open Terminal

/-- The options of the command. -/
inductive Key
  | format | help
deriving DecidableEq, Repr

/-- How the query is shown. -/
inductive Format
  | text | json
deriving DecidableEq, Repr

/-- The names of the option for the format. -/
def formatNames : List String := ["--format", "-f"]

/-- The formats by name. -/
def formats : List (String × Format) :=
  [("text", .text), ("json", .json)]

/-- What the command takes. -/
def synopsis : Synopsis Key where
  pieces := "[OPTIONS] SOURCE..."
  options := [valued .format formatNames]
  help := .help

/-- The format changed by an option. -/
def changeFormat (key : Key) (value : String) (format : Format) : Except ArgumentError Format :=
  match key with
  | .format => readChoice (optionLabel formatNames) formats value
  | .help => .ok format

/-- The format of a command line, and the text of the query block. -/
def requestOf (arguments : Arguments Key) : Except ArgumentError (Format × String) := do
  let format ← arguments.apply changeFormat .text
  let words ← arguments.someWords "SOURCE..."
  return (format, " ".intercalate words)

/-! ### The tree -/

/-- What marked-up text shows, or the text itself where it is not markup. -/
def shown (markup : String) : String :=
  (render markup).toOption.getD markup

/-- The label of a node: its kind and its texts. -/
def label (query : Query) : String :=
  let details := " ".intercalate
    (query.payload.map fun (name, text) => s!"{name}={Text.quoted text}")
  let kind := styled "bold" query.kind
  shown (if details = "" then kind else kind ++ " " ++ escape details)

mutual

/-- The outline of a query tree. -/
def outline : Query → Outline
  | .all children => .node (label (.all children)) (outlines children)
  | .any children => .node (label (.any children)) (outlines children)
  | .not child => .node (label (.not child)) [outline child]
  | leaf => .node (label leaf) []

/-- The outlines of query trees. -/
def outlines : List Query → List Outline
  | [] => []
  | query :: queries => outline query :: outlines queries

end

/-- The outline of a query below its name. -/
def namedOutline (named : NamedQuery) : Outline :=
  let title := match named.name.filter (· != "") with
    | some name => shown (styled "query.name" name)
    | none => "query"
  .node title [outline named.query]

/-! ### Arguments of the request -/

/-- The daily page of a timestamp in local time. -/
def pageOf (time : Calendar.LocalTime) (timestamp : Int) : Except Calendar.RangeError String :=
  (time.date (timestamp / 1000)).map Calendar.Date.pageTitle

variable {m : Type → Type} [Monad m]

/-- Prints the arguments of a request, counted from `index`; timestamps with their page. -/
def printArguments (host : Host m) (index : Nat) : List Json → Action m Unit
  | [] => pure ()
  | .int timestamp :: rest =>
    match pageOf host.clock.localTime timestamp with
    | .error error => crash (.range error)
    | .ok page => do
      host.line .output s!"arg {index}: {timestamp} ({page})"
      printArguments host (index + 1) rest
  | value :: rest => do
    host.line .output (screenText s!"arg {index}: {value.line}")
    printArguments host (index + 1) rest

/-! ### The command -/

/-- Reports why a text is not compiled. -/
def report (host : Host m) (source : String) : CompileError → Action m Unit
  | .unreadable error => do
    host.error s!"Invalid query: {error.message}"
    let expression := String.ofList (Query.expressionText source.toList)
    let blanks := String.ofList (List.replicate error.position ' ')
    host.line .errors s!"  {expression}\n  {blanks}^"
    exit 1
  | .undated (.outOfRange error) => crash (.range error)
  | .undated error => do
    host.error s!"Invalid query: {error.message}"
    exit 1
  | .unwritable error => crash (.request error)

/-- Shows a compiled query as text. -/
def showText (host : Host m) (presentation : Presentation) (shown : Preview) :
    Action m Unit := do
  host.print .output (namedOutline ⟨shown.query, shown.name⟩).text
  host.datalog presentation shown.request.text
  printArguments host 0 shown.request.arguments

/-- A compiled query as JSON. -/
def toJson (shown : Preview) : Json :=
  .obj [("name", (shown.name.map Json.str).getD .null), ("ast", shown.query.toJson),
    ("query", .str shown.request.text), ("args", .arr shown.request.arguments)]

/-- Runs the command. -/
def run (host : Host m) (context : Context) (invocation : Invocation)
    (arguments : List String) : Action m Unit := do
  let read ← host.readCommand invocation synopsis arguments
  let (format, source) ← host.accept (invocation.usage synopsis.pieces) (requestOf read)
  match preview host.clock source none, format with
  | .error error, _ => report host source error
  | .ok shown, .json => host.line .output (toJson shown).pretty
  | .ok shown, .text => showText host context.presentation shown

end BlockQuery.Command.ShowQuery
