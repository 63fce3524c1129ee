import BlockQuery.Graph.Execution
import BlockQuery.Json.Writer

/-!
# Outcomes as JSON

An outcome is an object with its matches and its message. The number of all
matches and the text of the request are there only when the run went well.
-/

namespace BlockQuery.Graph

/-- A match as an object. -/
def Match.toJson (found : Match) : Json :=
  .obj [("block_uid", found.uid), ("content", found.content), ("page_title", found.pageTitle)]

namespace Outcome

/-- The fields of an outcome. -/
def fields (outcome : Outcome) (includeQuery : Bool) : List (String × Json) :=
  match outcome with
  | found all total query =>
    [("success", .bool true), ("matches", .arr (all.map Match.toJson)),
      ("message", .str outcome.message), ("total_count", .int total)] ++
      (if includeQuery then [("query", .str query)] else [])
  | failed message =>
    [("success", .bool false), ("matches", .arr []), ("message", .str message)]

/-- An outcome as an object with all its fields. -/
def toJson (outcome : Outcome) : Json :=
  .obj (outcome.fields true)

/-- An outcome as text, with or without the text of the request. -/
def pretty (outcome : Outcome) (includeQuery : Bool) : String :=
  (Json.obj (outcome.fields includeQuery)).pretty

end Outcome

end BlockQuery.Graph
