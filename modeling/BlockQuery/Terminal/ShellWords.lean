/-!
# Shell words

A command line is split into words like a shell does: blanks separate words, single
quotes keep everything, double quotes keep everything but a backslash in front of a
quote or a backslash, and elsewhere a backslash keeps the next character.
-/

namespace BlockQuery.Terminal

/-- Why a command line has no words. -/
inductive ShellError
  | unclosedQuote
  | danglingBackslash
deriving DecidableEq, Repr

/-- Where the reader of a command line stands. -/
inductive ShellState
  | plain
  | inQuotes (mark : Char)
  /-- Behind a backslash, inside the given quotes if any. -/
  | escaped (mark : Option Char)
deriving DecidableEq, Repr

/-- Whether a character separates words. -/
def isShellBlank (c : Char) : Bool :=
  c == ' ' || c == '\t' || c == '\r' || c == '\n'

/-- The word in progress with one more character. -/
def addToWord (word : Option (List Char)) (c : Char) : Option (List Char) :=
  some (word.getD [] ++ [c])

/-- The words of a text from a state on; `word` is the word in progress. -/
def shellWordsFrom :
    ShellState → Option (List Char) → List Char → Except ShellError (List (List Char))
  | .plain, word, [] => .ok word.toList
  | .inQuotes _, _, [] => .error .unclosedQuote
  | .escaped _, _, [] => .error .danglingBackslash
  | .plain, word, c :: rest =>
    if isShellBlank c then
      (shellWordsFrom .plain none rest).map (word.toList ++ ·)
    else if c = '\'' ∨ c = '"' then
      shellWordsFrom (.inQuotes c) (some (word.getD [])) rest
    else if c = '\\' then
      shellWordsFrom (.escaped none) word rest
    else
      shellWordsFrom .plain (addToWord word c) rest
  | .inQuotes mark, word, c :: rest =>
    if c = mark then
      shellWordsFrom .plain word rest
    else if mark = '"' ∧ c = '\\' then
      shellWordsFrom (.escaped (some mark)) word rest
    else
      shellWordsFrom (.inQuotes mark) (addToWord word c) rest
  | .escaped none, word, c :: rest => shellWordsFrom .plain (addToWord word c) rest
  | .escaped (some mark), word, c :: rest =>
    if c = '\\' ∨ c = mark then
      shellWordsFrom (.inQuotes mark) (addToWord word c) rest
    else
      shellWordsFrom (.inQuotes mark) (addToWord (addToWord word '\\') c) rest

/-- The words of a command line. -/
def shellWords (text : String) : Except ShellError (List String) :=
  (shellWordsFrom .plain none text.toList).map fun words => words.map String.ofList

end BlockQuery.Terminal
