import BlockQuery.Terminal.ShellWords
import BlockQuery.Text.Integer

/-!
# Paging

Long output is handed to a pager when it would not fit on the terminal. Whether to
page may also be said outright.
-/

namespace BlockQuery.Terminal

/-- A pager to run, the text for it and the character set that it is told. -/
structure PagerRun where
  command : List String
  input : String
  charset : String

/-- Why no pager can be run. -/
inductive PagerError
  | shell (error : ShellError)
  /-- The command has no words. -/
  | noCommand
deriving DecidableEq, Repr

/-- The pager when none is named. -/
def defaultPager : String := "less -RFS"

/-- The number of lines of a terminal that does not tell. -/
def defaultLines : Int := 24

/-- The number of lines of the terminal. -/
def terminalLines (environment : String → Option String) : Int :=
  match (environment "LINES").map fun text => Text.readInteger text.toList with
  | some (.ok lines) => if 0 < lines then lines else defaultLines
  | _ => defaultLines

/-- Whether a text is paged: as asked for, or when it is too long for the terminal. -/
def shouldPage (asked : Option Bool) (isTerminal : Bool) (environment : String → Option String)
    (text : String) : Bool :=
  match asked with
  | some answer => answer
  | none =>
    isTerminal && decide (terminalLines environment < (text.toList.count '\n' : Int))

/-- The run of the pager that the environment names. -/
def pagerRun (environment : String → Option String) (text : String) : Except PagerError PagerRun :=
  let named := ((environment "PAGER").filter (· != "")).getD defaultPager
  match shellWords named with
  | .error error => .error (.shell error)
  | .ok [] => .error .noCommand
  | .ok command => .ok ⟨command, text, (environment "LESSCHARSET").getD "utf-8"⟩

end BlockQuery.Terminal
