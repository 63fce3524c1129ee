import BlockQuery.Command.GraphAccess
import BlockQuery.Command.Invocation
import BlockQuery.Command.ResultTable
import BlockQuery.Graph.OutcomeJson
import BlockQuery.Query.Block

/-!
# Extracting query blocks

The command `extract` lists the query blocks of a document, or runs them all.
-/

namespace BlockQuery.Command.ExtractBlocks

open BlockQuery.Graph

/-- The options of the command. -/
inductive Key
  | execute | limit | format | help
deriving DecidableEq, Repr

/-- How blocks are shown. -/
inductive Format
  | text | json
deriving DecidableEq, Repr

/-- What the command is asked for. -/
structure Request where
  execute : Bool := false
  limit : Option Int := none
  format : Format := .text

/-- The names of the option for the number of matches. -/
def limitNames : List String := ["--limit", "-l"]

/-- The names of the option for the format. -/
def formatNames : List String := ["--format", "-f"]

/-- The formats by name. -/
def formats : List (String × Format) :=
  [("text", .text), ("json", .json)]

/-- The label of the document in messages. -/
def fileLabel : String := "FILE"

/-- What the command takes. -/
def synopsis : Synopsis Key where
  pieces := "[OPTIONS] FILE"
  options :=
    [flag .execute ["--execute", "-x"], valued .limit limitNames, valued .format formatNames]
  help := .help

/-- The request changed by an option. -/
def Request.change (key : Key) (value : String) (request : Request) :
    Except ArgumentError Request :=
  match key with
  | .execute => .ok { request with execute := true }
  | .limit => do
    let limit ← readLimit (optionLabel limitNames) value
    return { request with limit := some limit }
  | .format => do
    return { request with format := ← readChoice (optionLabel formatNames) formats value }
  | .help => .ok request

/-- The request of a command line, and the document as written. -/
def requestOf (arguments : Arguments Key) : Except ArgumentError (Request × String) := do
  let request ← arguments.apply Request.change {}
  match ← arguments.someWords fileLabel with
  | [] => .error (.missingWord fileLabel)
  | file :: _ => return (request, file)

/-- Why a document is not opened. -/
def problemOf : Files.FileError → String
  | .notFound _ => "No such file or directory"
  | .alreadyThere _ => "File exists"
  | .notDirectory _ => "Not a directory"
  | .isDirectory _ | .replacesDirectory .. => "Is a directory"
  | .nameTooLong _ => "File name too long"
  | .busy .. => "Device or resource busy"
  | .other message => message

variable {m : Type → Type} [Monad m]

/-- The text of a document; a dash stands for the standard input. -/
def document (host : Host m) (usage file : String) : Action m String := do
  if file = "-" then
    return String.ofList (Text.unifyBreaks (← host.input).toList)
  if Files.Path.hasNull file then
    crash (.path .nullCharacter)
  match ← (host.files.locate host.around.working file >>= host.files.read).run with
  | .ok text => return String.ofList (Text.unifyBreaks text.toList)
  | .error error =>
    host.refuse usage
      (.invalidValue (optionLabel [fileLabel]) s!"'{file}': {problemOf error}")

/-- Lists blocks. -/
def list (host : Host m) (format : Format) (blocks : List String) : Action m Unit :=
  match format with
  | .json => host.line .output (Json.arr (blocks.map .str)).pretty
  | .text =>
    if blocks.isEmpty then
      host.info "No query blocks found"
    else
      blocks.forM (host.line .output)

/-- A block with its outcome as JSON. -/
def resultJson (result : String × Outcome) : Json :=
  .obj (("block", .str result.1) :: result.2.fields true)

/-- Shows the outcome of a block. -/
def showResult (host : Host m) (presentation : Presentation) (result : String × Outcome) :
    Action m Unit :=
  match result with
  | (block, .failed message) => host.warning s!"{block}: {message}"
  | (block, .found [] _ _) =>
    host.markup .output (Terminal.styled "query.name" block ++ ": no matches")
  | (block, .found all total _) => host.results presentation block all total

/-- Runs blocks and shows their outcomes. An empty line stands where the progress was shown. -/
def execute (host : Host m) (context : Context) (request : Request) (blocks : List String) :
    Action m Unit := do
  let (settings, client) ← host.graphAccess context
  let options := settings.requestOptions request.limit 0 none none
  let outcomes ← host.outcomes client (settings.expansionDepth? none) options blocks
  host.line .errors ""
  let results := blocks.zip outcomes
  match request.format with
  | .json => host.line .output (Json.arr (results.map resultJson)).pretty
  | .text => results.forM (showResult host context.presentation)
  if outcomes.any fun outcome => !outcome.isFound then
    exit 1

/-- Runs the command. -/
def run (host : Host m) (context : Context) (invocation : Invocation)
    (arguments : List String) : Action m Unit := do
  let usage := invocation.usage synopsis.pieces
  let read ← host.readCommand invocation synopsis arguments
  let (request, file) ← host.accept usage (requestOf read)
  let text ← document host usage file
  host.accept usage (read.refuseExtra 1)
  let blocks := Query.blocks text
  if request.execute then
    execute host context request blocks
  else
    list host request.format blocks

end BlockQuery.Command.ExtractBlocks
