import BlockQuery.Json
import BlockQuery.Query

/-!
# Query trees as JSON

A node is an object with its kind under `type`, its texts under their own names,
and its children below it.
-/

namespace BlockQuery.Query

/-- The name of a node's kind. -/
def kind : Query → String
  | tag _ => "tag"
  | blockRef _ => "block-ref"
  | all _ => "and"
  | any _ => "or"
  | not _ => "not"
  | between .. => "between"
  | search _ => "search"
  | dailyNotes => "daily-notes"
  | touchedBy _ => "by"
  | createdBy _ => "created-by"
  | editedBy _ => "edited-by"

/-- The texts of a node, each with its name. -/
def payload : Query → List (String × String)
  | tag title => [("value", title)]
  | blockRef uid => [("uid", uid)]
  | between start finish => [("startDate", start), ("endDate", finish)]
  | search text => [("text", text)]
  | touchedBy user | createdBy user | editedBy user => [("user", user)]
  | all _ | any _ | not _ | dailyNotes => []

/-- The fields of a node without its children. -/
def ownFields (query : Query) : List (String × Json) :=
  ("type", .str query.kind) :: query.payload.map fun (name, text) => (name, .str text)

mutual

/-- The tree as a JSON value. -/
def toJson : Query → Json
  | all children => .obj (ownFields (all children) ++ [("children", .arr (eachToJson children))])
  | any children => .obj (ownFields (any children) ++ [("children", .arr (eachToJson children))])
  | not child => .obj (ownFields (not child) ++ [("child", toJson child)])
  | leaf => .obj leaf.ownFields

/-- The trees as JSON values. -/
def eachToJson : List Query → List Json
  | [] => []
  | child :: children => toJson child :: eachToJson children

end

end BlockQuery.Query
