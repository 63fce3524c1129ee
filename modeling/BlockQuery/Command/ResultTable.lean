import BlockQuery.Command.Host
import BlockQuery.Graph.Execution
import BlockQuery.Terminal.Table
import BlockQuery.Text.Clip

/-!
# Tables of matches

Matches are shown in a table below a line that counts them. The identifier of a
block is read as markup; title and text are not.
-/

namespace BlockQuery.Command

open BlockQuery.Graph Terminal

/-- The number of characters that are shown of a text. -/
def contentWidth : Int := 120

/-- The title of a match as markup. -/
def titleMarkup (title : Json) : Except CellError String :=
  match title with
  | .str text => .ok (escape text)
  | other => if other.isTruthy then .error .titleNotText else .ok ""

/-- The text of a match as markup. -/
def contentMarkup (content : Json) : Except CellError String :=
  match content with
  | .str text => .ok (escape (Text.clipString contentWidth text))
  | _ => .error .contentNotText

/-- The identifier of a match as markup. -/
def uidMarkup (uid : Json) : Except CellError String :=
  match uid with
  | .str text => .ok text
  | .null => .ok ""
  | _ => .error .uidNotText

/-- The cells of a match as markup. -/
def rowMarkup (found : Match) : Except CellError (List String) := do
  let title ← titleMarkup found.pageTitle
  let content ← contentMarkup found.content
  let uid ← uidMarkup found.uid
  return [uid, title, content]

/-- The table of matches. Every match must have its cells before any markup is read, and all markup
is read before any style is checked. -/
def resultTable (all : List Match) : Except CellError Table := do
  let rows ← all.mapM rowMarkup
  let rows ← rows.mapM fun row => row.mapM fun cell =>
    (Rendered.read cell).mapError CellError.markup
  rows.forM fun row => row.forM fun cell => cell.check.mapError CellError.markup
  let cells := rows.map fun row => row.map fun cell => cellOf (String.ofList cell.text)
  return ⟨["UID", "Page", "Content"], cells⟩

variable {m : Type → Type} [Monad m]

/-- Prints matches below a title. -/
def Host.results (host : Host m) (presentation : Presentation) (title : String)
    (all : List Match) (total : Int) : Action m Unit := do
  host.info s!"{title} ({all.length} of {total} matches)"
  match resultTable all with
  | .error error => crash (.cell error)
  | .ok table => host.paged presentation table.text

end BlockQuery.Command
