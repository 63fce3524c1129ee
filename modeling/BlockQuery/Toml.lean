/-!
# TOML documents

A document is a table of values. Dates, times and numbers with fractions are kept
as written, because nothing is computed from them. A document that is built in
memory may also hold the absent value, which cannot be written.
-/

namespace BlockQuery.Toml

/-- A value of a document. Tables keep the order in which their keys appear. -/
inductive Value
  | absent
  | boolean (value : Bool)
  | integer (value : Int)
  | float (text : String)
  | moment (text : String)
  | string (text : String)
  | array (items : List Value)
  | table (fields : List (String × Value))
deriving Inhabited, Repr

/-- The entries of a table. -/
abbrev Fields := List (String × Value)

/-- The fields with the value of a key replaced, or added at the end. -/
def setField (key : String) (value : Value) : Fields → Fields
  | [] => [(key, value)]
  | (known, old) :: fields =>
    if known = key then (known, value) :: fields else (known, old) :: setField key value fields

end BlockQuery.Toml
