/-!
# Tables

A table has a header and rows of cells. A cell may have several lines; a row is as
high as its highest cell, and a column as wide as its widest line.
-/

namespace BlockQuery.Terminal

/-- The lines of a cell. -/
abbrev Cell := List String

/-- The cell of a text. -/
def cellOf (text : String) : Cell :=
  text.splitOn "\n"

/-- A header and rows, each with one cell a column. -/
structure Table where
  header : List String
  rows : List (List Cell)

/-- The characters of a horizontal rule. -/
structure Rule where
  left : String
  line : Char
  middle : String
  right : String

namespace Table

/-- The rule above the header. -/
def topRule : Rule := ⟨"┏", '━', "┳", "┓"⟩

/-- The rule below the header. -/
def headerRule : Rule := ⟨"┡", '━', "╇", "┩"⟩

/-- The rule below the rows. -/
def bottomRule : Rule := ⟨"└", '─', "┴", "┘"⟩

/-- The width of a cell's widest line. -/
def cellWidth (cell : Cell) : Nat :=
  (cell.map String.length).foldl max 0

/-- The widths of the columns. -/
def widths (table : Table) : List Nat :=
  table.rows.foldl (fun widths row => List.zipWith max widths (row.map cellWidth))
    (table.header.map String.length)

/-- A rule over columns of the given widths. -/
def ruleLine (rule : Rule) (widths : List Nat) : String :=
  rule.left ++
    rule.middle.intercalate (widths.map fun width =>
      String.ofList (List.replicate (width + 2) rule.line)) ++ rule.right

/-- A text with blanks up to a width. -/
def pad (width : Nat) (text : String) : String :=
  text ++ String.ofList (List.replicate (width - text.length) ' ')

/-- One line of a row between bars. -/
def barLine (bar : String) (widths : List Nat) (texts : List String) : String :=
  bar ++ " " ++ (" " ++ bar ++ " ").intercalate (List.zipWith pad widths texts) ++ " " ++ bar

/-- The lines of a row. -/
def rowLines (widths : List Nat) (row : List Cell) : List String :=
  let height := (row.map List.length).foldl max 1
  (List.range height).map fun index =>
    barLine "│" widths (row.map fun cell => cell.getD index "")

/-- The lines of a table. -/
def lines (table : Table) : List String :=
  let widths := table.widths
  [ruleLine topRule widths, barLine "┃" widths table.header, ruleLine headerRule widths] ++
    table.rows.flatMap (rowLines widths) ++ [ruleLine bottomRule widths]

/-- A table as text. -/
def text (table : Table) : String :=
  String.join (table.lines.map (· ++ "\n"))

end Table

end BlockQuery.Terminal
