import BlockQuery.Graph.Fault

/-!
# Rows

An answer is expected to be a list of rows and a row a list of cells, but an
answer is any JSON value. A text counts as the list of its characters and an
object as the list of its keys; what has no items or no positions is a fault.
-/

namespace BlockQuery.Graph

/-- A character as a value. -/
def ofCharacter (c : Char) : Json :=
  .str (String.singleton c)

/-- The items of a value, in order. -/
def itemsOf : Json → Except Fault (List Json)
  | .arr items => .ok items
  | .str text => .ok (text.toList.map ofCharacter)
  | .obj fields => .ok (fields.map fun field => .str field.1)
  | other => .error (.notIterable other.kindName)

/-- The item at a position of a row. -/
def itemAt (row : Json) (position : Nat) : Except Fault Json :=
  match row with
  | .arr items =>
    match items[position]? with
    | some item => .ok item
    | none => .error .listTooShort
  | .str text =>
    match text.toList[position]? with
    | some c => .ok (ofCharacter c)
    | none => .error .textTooShort
  | .obj _ => .error (.noSuchKey position)
  | other => .error (.notIndexable other.kindName)

/-- The whole part of a number. -/
def wholePart : Number.Real → Except Fault Int
  | .finite value => .ok (if value < 0 then -(-value).floor else value.floor)
  | .negativeZero => .ok 0
  | .infinite _ => .error (.notFinite "infinity")
  | .undefined => .error (.notFinite "NaN")

/-- The whole number that a cell holds. Fractions are cut off. -/
def integerOf : Json → Except Fault Int
  | .int value => .ok value
  | .bool value => .ok (if value then 1 else 0)
  | .real value => wholePart value
  | .str text =>
    match Text.readInteger text.toList with
    | .ok value => .ok value
    | .error .malformed => .error (.notNumeral text)
    | .error (.tooLong digits) => .error (.tooManyDigits digits)
  | other => .error (.notNumber other.kindName)

/-- The number in the first cell of the first row; no rows, or an empty first row, stand for
zero. -/
def countOf (rows : Json) : Except Fault Int :=
  if rows.isTruthy then do
    let row ← itemAt rows 0
    if row.isTruthy then integerOf (← itemAt row 0) else return 0
  else
    .ok 0

end BlockQuery.Graph
