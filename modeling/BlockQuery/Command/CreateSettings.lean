import BlockQuery.Command.Invocation
import BlockQuery.Settings.Template

/-!
# Creating a settings file

The command `init-config` writes the example settings file, with the graph and the
token filled in when they are given.
-/

namespace BlockQuery.Command.CreateSettings

/-- The options of the command. -/
inductive Key
  | force | output | graph | token | help
deriving DecidableEq, Repr

/-- What the command is asked for. -/
structure Request where
  force : Bool := false
  output : Option String := none
  graph : Option String := none
  token : Option String := none

/-- What the command takes. -/
def synopsis : Synopsis Key where
  pieces := "[OPTIONS]"
  options :=
    [flag .force ["--force", "-f"], valued .output ["--output", "-o"], valued .graph ["--graph"],
      valued .token ["--token"]]
  help := .help

/-- The request changed by an option. -/
def Request.change (key : Key) (value : String) (request : Request) :
    Except ArgumentError Request :=
  match key with
  | .force => .ok { request with force := true }
  | .output => .ok { request with output := some value }
  | .graph => .ok { request with graph := some value }
  | .token => .ok { request with token := some value }
  | .help => .ok request

/-- Whether a text is given and not empty. -/
def isGiven (text : Option String) : Bool :=
  text.any (· != "")

variable {m : Type → Type} [Monad m]

/-- The path of the new file. -/
def target (host : Host m) (request : Request) : Action m Files.Path :=
  match request.output with
  | none => pure (Settings.defaultPath host.around.home)
  | some written =>
    match Files.Path.resolve host.around.working host.around.home written with
    | .ok path => pure path
    | .error error => crash (.path error)

/-- Whether something stands at a path. -/
def isTaken (host : Host m) (path : Files.Path) : Action m Bool := do
  match ← (host.files.kind? path).run with
  | .ok kind => return kind.isSome
  | .error error => crash (.file error)

/-- Runs the command. -/
def run (host : Host m) (invocation : Invocation) (arguments : List String) :
    Action m Unit := do
  let read ← host.readCommand invocation synopsis arguments
  let usage := invocation.usage synopsis.pieces
  let request ← host.accept usage (read.apply Request.change {})
  if request.output.any Files.Path.hasNull then
    crash (.path .nullCharacter)
  host.accept usage (read.refuseExtra 0)
  let path ← target host request
  if (← isTaken host path) && !request.force then
    host.error s!"Config file already exists: {path.text}"
    host.hint "Use --force to overwrite"
    exit 1
  let text := Settings.Template.fill Settings.Template.exampleText request.graph request.token
  match ← (Files.writePrivate host.files path text).run with
  | .error error =>
    host.error s!"Failed to write config file: {error.message}"
    exit 1
  | .ok _ =>
    host.success s!"Created config file: {path.text}"
    if isGiven request.graph && isGiven request.token then
      host.info "Try it with: roam-query query \"[[TODO]]\" --limit 5"
    else
      host.info "Edit this file to set your graph name and API token."

end BlockQuery.Command.CreateSettings
