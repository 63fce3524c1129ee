import BlockQuery.Text.Blank
import BlockQuery.Text.Find

/-!
# The frame of a query block

In a document a query stands in a frame that opens with two braces and the word
`query` in double square brackets, followed by a colon, and closes with two
braces. The frame is optional when a query is given on its own.
-/

namespace BlockQuery.Query

open BlockQuery.Text

/-- How a query block opens. -/
def frameStart : List Char := "\x7b\x7b[[query]]:".toList

/-- How a query block closes. -/
def frameEnd : List Char := ['}', '}']

/-- The text inside the frame of a trimmed query block. The inside is not empty. -/
def unframe? (text : List Char) : Option (List Char) :=
  match dropStart? frameStart text with
  | none => none
  | some after =>
    if frameEnd.isSuffixOf after ∧ frameEnd.length < after.length then
      some (after.take (after.length - frameEnd.length))
    else
      none

/-- The query expression of a text: what its frame holds, or else the text
itself, in both cases without the blanks around it. -/
def expressionText (text : List Char) : List Char :=
  match unframe? (trim text) with
  | some inside => trim inside
  | none => trim text

end BlockQuery.Query
