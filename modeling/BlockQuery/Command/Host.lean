import BlockQuery.Calendar.Resolve
import BlockQuery.Command.Arguments
import BlockQuery.Graph.Client
import BlockQuery.Settings.Load
import BlockQuery.Terminal.Markup
import BlockQuery.Terminal.Pager

/-!
# Hosts

A command runs on a host: files, terminal, network and clock, over any monad. It
ends with an exit code, or it breaks off at something that it does not report.
-/

namespace BlockQuery.Command

/-- Where text is printed. -/
inductive Channel
  | output
  | errors
deriving DecidableEq, Repr

/-- What a command asks of its surroundings. -/
structure Host (m : Type → Type) where
  files : Files.FileSystem m
  around : Settings.Surroundings
  clock : Calendar.Clock
  /-- Whether the output is a terminal. -/
  isTerminal : Bool
  /-- The text of the standard input. -/
  input : m String
  print : Channel → String → m Unit
  /-- Runs a pager. The result says whether it could be run. -/
  page : Terminal.PagerRun → m Bool
  /-- The way to the server of a client. -/
  transport : Graph.Client → Graph.Transport m

/-- Why a match has no row in a table. -/
inductive CellError
  | titleNotText
  | contentNotText
  | uidNotText
  | markup (error : Terminal.MarkupError)
deriving DecidableEq, Repr

/-- What a command does not report. -/
inductive Crash
  | load (error : Settings.LoadError)
  | path (error : Files.Path.PathError)
  | file (error : Files.FileError)
  | range (error : Calendar.RangeError)
  | cell (error : CellError)
  | pager (error : Terminal.PagerError)
  | request (error : Datalog.RequestError)

/-- How a command ends. -/
inductive Ending
  | exit (code : Nat)
  | crash (cause : Crash)

/-- A command in progress; it may end at any point. -/
abbrev Action (m : Type → Type) := ExceptT Ending m

/-- How output is presented. -/
structure Presentation where
  verbose : Bool := false
  debug : Bool := false
  /-- Whether to page, if that is said outright. -/
  paging : Option Bool := none
  colored : Bool := true

/-- What a command is told by the program: settings, unless they were not loaded, and how to
present output. -/
structure Context where
  settings : Option Settings := none
  presentation : Presentation := {}

variable {m : Type → Type} [Monad m]

/-- Ends a command. -/
def exit {α : Type} (code : Nat) : Action m α :=
  throw (.exit code)

/-- Breaks a command off. -/
def crash {α : Type} (cause : Crash) : Action m α :=
  throw (.crash cause)

namespace Host

/-- Prints a line as it is. -/
def line (host : Host m) (channel : Channel) (text : String) : Action m Unit :=
  host.print channel (text ++ "\n")

/-- Prints a line of marked-up text. -/
def markup (host : Host m) (channel : Channel) (text : String) : Action m Unit :=
  host.line channel ((Terminal.render text).toOption.getD text)

/-- Prints a line that informs. -/
def info (host : Host m) (text : String) : Action m Unit :=
  host.markup .output (Terminal.styled "info" text)

/-- Prints a line that reports success. -/
def success (host : Host m) (text : String) : Action m Unit :=
  host.markup .output (Terminal.styled "success" text)

/-- Prints a line that warns. -/
def warning (host : Host m) (text : String) : Action m Unit :=
  host.markup .errors (Terminal.styled "warning" "Warning:" ++ " " ++ Terminal.escape text)

/-- Prints an error. -/
def error (host : Host m) (text : String) : Action m Unit :=
  host.markup .errors (Terminal.styled "error" "Error:" ++ " " ++ Terminal.escape text)

/-- Prints a hint below an error. -/
def hint (host : Host m) (text : String) : Action m Unit :=
  host.markup .errors ("  " ++ Terminal.styled "info" "Hint:" ++ " " ++ Terminal.escape text)

/-- Prints a line for debugging. -/
def debug (host : Host m) (text : String) : Action m Unit :=
  host.markup .errors (Terminal.styled "dim" "debug:" ++ " " ++ Terminal.escape text)

/-- Prints the text of a request. In colours its line breaks are kept; without colours a carriage
return is dropped. -/
def datalog (host : Host m) (presentation : Presentation) (text : String) : Action m Unit :=
  let shown := if presentation.colored then String.ofList (Text.unifyBreaks text.toList) else text
  host.line .output (Terminal.screenText shown)

/-- Prints a finished text, through a pager if it is to be paged. -/
def paged (host : Host m) (presentation : Presentation) (text : String) : Action m Unit := do
  if Terminal.shouldPage presentation.paging host.isTerminal host.around.environment text then
    match Terminal.pagerRun host.around.environment text with
    | .error error => crash (.pager error)
    | .ok run =>
      if !(← host.page run) then
        host.print .output text
  else
    host.print .output text

/-- Refuses the arguments of a command; `usage` is the command's usage. -/
def refuse {α : Type} (host : Host m) (usage : String) (error : ArgumentError) : Action m α := do
  if error.showsUsage then
    host.line .errors usage
  host.line .errors s!"Error: {error.message}"
  exit 2

/-- The value, unless the arguments are refused. -/
def accept {α : Type} (host : Host m) (usage : String) :
    Except ArgumentError α → Action m α
  | .ok value => pure value
  | .error error => host.refuse usage error

end Host

end BlockQuery.Command
