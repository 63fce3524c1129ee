/-!
# Outlines

A tree of labels is drawn with guides: every child stands below its parent, joined
to it by a branch.
-/

namespace BlockQuery.Terminal

/-- A label with the outlines below it. -/
inductive Outline
  | node (label : String) (children : List Outline)

namespace Outline

mutual

/-- The lines of an outline below a parent: `guide` is drawn in front of every line, `branch` in
front of the label and `below` in front of the children. -/
def branchLines (guide branch below : String) : Outline → List String
  | node label children =>
    (guide ++ branch ++ label) :: childLines (guide ++ below) children

/-- The lines of the children of an outline. -/
def childLines (guide : String) : List Outline → List String
  | [] => []
  | [child] => branchLines guide "└── " "    " child
  | child :: next :: rest =>
    branchLines guide "├── " "│   " child ++ childLines guide (next :: rest)

end

/-- The lines of an outline. -/
def lines : Outline → List String
  | node label children => label :: childLines "" children

/-- An outline as text. -/
def text (outline : Outline) : String :=
  String.join (outline.lines.map (· ++ "\n"))

end Outline

end BlockQuery.Terminal
