import BlockQuery.Command.CreateSettings
import BlockQuery.Command.ExtractBlocks
import BlockQuery.Command.RunQuery
import BlockQuery.Command.ShowQuery

/-!
# The program

The program takes options of its own and the name of a command, loads the
settings, and hands the remaining arguments to the command. Its own arguments are
checked before the settings are loaded, those of the command after that.
-/

namespace BlockQuery.Command

/-- The commands of the program. -/
inductive Name
  | extract | help | initConfig | parse | query
deriving DecidableEq, Repr

namespace Name

/-- The commands as they are written. -/
def every : List (String × Name) :=
  [("extract", extract), ("help", help), ("init-config", initConfig), ("parse", parse),
    ("query", query)]

/-- The command that is written. -/
def ofText? (text : String) : Option Name :=
  every.lookup text

end Name

/-! ### Help -/

namespace ShowHelp

/-- The options of the command. -/
inductive Key
  | help
deriving DecidableEq, Repr

/-- What the command takes. -/
def synopsis : Synopsis Key where
  pieces := "[OPTIONS] [COMMAND_NAME]"
  options := []
  help := .help

end ShowHelp

/-- What the program itself takes, for its usage. -/
def programPieces : String := "[OPTIONS] COMMAND [ARGS]..."

/-- What a command takes, for its usage. -/
def Name.pieces : Name → String
  | extract => ExtractBlocks.synopsis.pieces
  | help => ShowHelp.synopsis.pieces
  | initConfig => CreateSettings.synopsis.pieces
  | parse => ShowQuery.synopsis.pieces
  | query => RunQuery.synopsis.pieces

variable {m : Type → Type} [Monad m]

/-- Runs the command `help`. The usage of the program starts with `program`, and that of a command
with `parent`. -/
def ShowHelp.run (host : Host m) (invocation : Invocation) (program parent : String)
    (arguments : List String) : Action m Unit := do
  let read ← host.readCommand invocation synopsis arguments
  host.accept (invocation.usage synopsis.pieces) (read.refuseExtra 1)
  match read.words with
  | [] => host.line .output s!"Usage: {program} {programPieces}"
  | name :: _ =>
    match Name.ofText? name with
    | some command => host.line .output s!"Usage: {parent} {name} {command.pieces}"
    | none =>
      host.error s!"Unknown command: {name}"
      host.hint "Run 'roam-query help' for a list"
      exit 1

/-! ### The program's own arguments -/

namespace Program

/-- The version of the program. -/
def version : String := "0.1.0"

/-- The options of the program. -/
inductive Key
  | config | graph | noColor | verbose | debug | quiet | pager | version | help
deriving DecidableEq, Repr

/-- What the program is asked for. -/
structure Request where
  config : Option String := none
  graph : Option String := none
  noColor : Bool := false
  verbose : Bool := false
  debug : Bool := false
  quiet : Bool := false
  paging : Option Bool := none

/-- The names of the option for the settings file. -/
def configNames : List String := ["-c", "--config"]

/-- The value that an option stands for when it turns paging on. -/
def pagingOn : String := "on"

/-- The value that an option stands for when it turns paging off. -/
def pagingOff : String := "off"

/-- The options of the program. -/
def options : List (OptionSpec Key) :=
  [valued .config configNames, valued .graph ["-g", "--graph"], flag .noColor ["--no-color"],
    flag .verbose ["-v", "--verbose"], flag .debug ["--debug"], flag .quiet ["-q", "--quiet"],
    ⟨.pager, ["--pager"], some pagingOn⟩, ⟨.pager, ["--no-pager"], some pagingOff⟩,
    flag .version ["--version"], flag .help ["-h", "--help"]]

/-- The usage of the program. -/
def usage : String :=
  s!"Usage: {programName} {programPieces}"

/-- The request changed by an option. -/
def Request.change (key : Key) (value : String) (request : Request) :
    Except ArgumentError Request :=
  match key with
  | .config => .ok { request with config := some value }
  | .graph => .ok { request with graph := some value }
  | .noColor => .ok { request with noColor := true }
  | .verbose => .ok { request with verbose := true }
  | .debug => .ok { request with debug := true }
  | .quiet => .ok { request with quiet := true }
  | .pager => .ok { request with paging := some (value == pagingOn) }
  | .version | .help => .ok request

/-- Answers the first option that asks for the version or for help. -/
def answerQuestion (host : Host m) (read : Arguments Key) : Action m Unit := do
  match (read.options.map Prod.fst).find? fun key => key = .version || key = .help with
  | some .version =>
    host.line .output s!"{programName}, version {version}"
    exit 0
  | some _ =>
    host.line .output usage
    exit 0
  | none => return ()

/-- Refuses a directory as the settings file. -/
def refuseDirectory (host : Host m) (request : Request) : Action m Unit := do
  if let some written := request.config then
    if Files.Path.hasNull written then
      crash (.path .nullCharacter)
    let kind := host.files.locate host.around.working written >>= host.files.kind?
    if (← kind.run).toOption.join = some .directory then
      host.refuse usage (.invalidValue (optionLabel configNames)
        s!"File {Text.quoted written} is a directory.")

/-- Reads the program's own arguments; the remaining words are left. -/
def readOwn (host : Host m) (arguments : List String) : Action m (Request × List String) := do
  let read ← host.accept usage (readArguments options false arguments)
  answerQuestion host read
  let request ← host.accept usage (read.apply Request.change {})
  refuseDirectory host request
  return (request, read.words)

/-- The command that the words start with, and the arguments of the command. A word that looks like
an option is read as one before it is refused. -/
def commandOf (host : Host m) (words : List String) : Action m (Name × List String) := do
  match words with
  | [] => host.refuse usage .missingCommand
  | name :: rest =>
    match Name.ofText? name with
    | some command => return (command, rest)
    | none =>
      if isOption name then
        let _ ← readOwn host words
      host.refuse usage (.noSuchCommand name (Text.closeWords name (Name.every.map Prod.fst)))

/-! ### Settings -/

/-- Whether the program reports a failure to load, or breaks off. -/
def isReported : Settings.LoadError → Bool
  | .file _ | .unreadable _ | .settings (.invalid ..) => true
  | .path _ | .tooManyDigits _ | .settings .notSection => false

/-- Loads the settings and says what is to be warned about. -/
def loadContext (host : Host m) (request : Request) : Action m Context := do
  match ← (Settings.load host.files host.around request.config).run with
  | .error error =>
    if isReported error then
      host.error error.message
      host.hint "Fix the file or point --config at another one"
      exit 1
    else
      crash (.load error)
  | .ok loaded =>
    let settings :=
      { loaded.settings with graphName := request.graph.or loaded.settings.graphName }
    if !request.quiet then
      loaded.warnings.forM host.warning
    let plain := request.noColor || (host.around.environment "NO_COLOR").isSome
    return {
      settings := some settings
      presentation :=
        { verbose := request.verbose || request.debug
          debug := request.debug
          paging := request.paging
          colored := !plain && settings.colored } }

/-! ### Running -/

/-- Runs the program. -/
def action (host : Host m) (arguments : List String) : Action m Unit := do
  if arguments.isEmpty then
    host.line .errors usage
    exit 2
  let (request, words) ← readOwn host arguments
  let (command, rest) ← commandOf host words
  let context ← loadContext host request
  let invocation := Invocation.ofCommand (words.headD "")
  match command with
  | .extract => ExtractBlocks.run host context invocation rest
  | .help => ShowHelp.run host invocation programName programName rest
  | .initConfig => CreateSettings.run host invocation rest
  | .parse => ShowQuery.run host context invocation rest
  | .query => RunQuery.run host context invocation rest

/-- Runs a command on its own, without the program's arguments and settings. -/
def actionAlone (host : Host m) (command : Name) (name : String) (arguments : List String) :
    Action m Unit :=
  let invocation := Invocation.alone name
  match command with
  | .extract => ExtractBlocks.run host {} invocation arguments
  | .help => ShowHelp.run host invocation name s!"{name} [COMMAND_NAME]" arguments
  | .initConfig => CreateSettings.run host invocation arguments
  | .parse => ShowQuery.run host {} invocation arguments
  | .query => RunQuery.run host {} invocation arguments

/-- How an action ends. -/
def ending (started : Action m Unit) : m Ending := do
  match ← started.run with
  | .ok _ => return .exit 0
  | .error ending => return ending

/-- Runs the program to its end. -/
def run (host : Host m) (arguments : List String) : m Ending :=
  ending (action host arguments)

/-- Runs a command on its own to its end. -/
def runAlone (host : Host m) (command : Name) (name : String) (arguments : List String) :
    m Ending :=
  ending (actionAlone host command name arguments)

end Program

end BlockQuery.Command
