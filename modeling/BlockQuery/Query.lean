/-!
# Query trees

A query selects blocks of a note graph. Its leaves ask for a page reference, a
block reference, a text, a date window, a daily page or an author; its inner
nodes combine queries by conjunction, disjunction and negation.
-/

namespace BlockQuery

/-- A query over the blocks of a graph. Dates are kept as written and resolved
only when the query is compiled. -/
inductive Query
  /-- The block refers to the page with this title. -/
  | tag (title : String)
  /-- The block refers to the block with this identifier. -/
  | blockRef (uid : String)
  /-- Every child matches. -/
  | all (children : List Query)
  /-- At least one child matches. -/
  | any (children : List Query)
  /-- The child does not match. -/
  | not (child : Query)
  /-- The block was created from the first day up to the end of the second. -/
  | between (start finish : String)
  /-- The block's text contains this text. -/
  | search (text : String)
  /-- The block lives on a daily page. -/
  | dailyNotes
  /-- The block was created or last edited by this user. -/
  | touchedBy (user : String)
  /-- The block was created by this user. -/
  | createdBy (user : String)
  /-- The block was last edited by this user. -/
  | editedBy (user : String)
deriving Inhabited, Repr

/-- A query with the name that its block gives it, if any. -/
structure NamedQuery where
  query : Query
  name : Option String
deriving Inhabited, Repr

end BlockQuery
