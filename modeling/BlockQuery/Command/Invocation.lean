import BlockQuery.Command.Host

/-!
# Invocations

A command is invoked under a path, the name of the program and its own, which
starts its usage. Asking for help prints the usage and ends the command before any
value of an option is looked at.
-/

namespace BlockQuery.Command

/-- The name of the program. -/
def programName : String := "roam-query"

/-- How a command is invoked: its path, and the names of the option that asks for help. -/
structure Invocation where
  path : String
  helpNames : List String

namespace Invocation

/-- The usage of a command whose arguments are described by `pieces`. -/
def usage (invocation : Invocation) (pieces : String) : String :=
  s!"Usage: {invocation.path} {pieces}"

/-- The invocation of a command of the program. -/
def ofCommand (name : String) : Invocation :=
  ⟨s!"{programName} {name}", ["-h", "--help"]⟩

/-- The invocation of a command on its own. -/
def alone (name : String) : Invocation :=
  ⟨name, ["--help"]⟩

end Invocation

/-- What a command takes: a description for its usage, and its options. The key `help` is kept for
the option that asks for help. -/
structure Synopsis (κ : Type) where
  pieces : String
  options : List (OptionSpec κ)
  help : κ

variable {m : Type → Type} [Monad m] {κ : Type} [DecidableEq κ]

/-- Reads the arguments of a command, and answers a request for help. -/
def Host.readCommand (host : Host m) (invocation : Invocation) (synopsis : Synopsis κ)
    (arguments : List String) : Action m (Arguments κ) := do
  let usage := invocation.usage synopsis.pieces
  let specs := synopsis.options ++ [flag synopsis.help invocation.helpNames]
  let read ← host.accept usage (readArguments specs true arguments)
  if read.options.any fun option => decide (option.1 = synopsis.help) then
    host.line .output usage
    exit 0
  return read

end BlockQuery.Command
