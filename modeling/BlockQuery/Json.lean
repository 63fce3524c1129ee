import BlockQuery.Number.Shortest

/-!
# JSON values

The rows that a graph answers with are arbitrary JSON. Objects keep the order in
which their keys first appear; a key that is given again keeps its place and
takes the new value.
-/

namespace BlockQuery

/-- A JSON value. A number without a fraction and an exponent is whole; every other number is
rounded. -/
inductive Json
  | null
  | bool (value : Bool)
  | int (value : Int)
  | real (value : Number.Real)
  | str (text : String)
  | arr (items : List Json)
  | obj (fields : List (String × Json))
deriving Inhabited, Repr

namespace Json

/-- The name that messages use for the kind of a value. -/
def kindName : Json → String
  | null => "NoneType"
  | bool _ => "bool"
  | int _ => "int"
  | real _ => "float"
  | str _ => "str"
  | arr _ => "list"
  | obj _ => "dict"

/-- Whether a value holds something: neither null, false, zero nor empty. -/
def isTruthy : Json → Bool
  | null => false
  | bool value => value
  | int value => value != 0
  | real value => value.isNonzero
  | str text => !text.isEmpty
  | arr items => !items.isEmpty
  | obj fields => !fields.isEmpty

/-- The fields of an object with one more field: a known key keeps its place. -/
def setField (key : String) (value : Json) : List (String × Json) → List (String × Json)
  | [] => [(key, value)]
  | (k, v) :: fields =>
    if k = key then (k, value) :: fields else (k, v) :: setField key value fields

/-- The field of an object. -/
def field? (key : String) : Json → Option Json
  | obj fields => fields.lookup key
  | _ => none

end Json

end BlockQuery
