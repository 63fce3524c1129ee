/-!
# Datalog string literals

Inside a literal a backslash and a quote are each written with a backslash in
front; every other character stands for itself.
-/

namespace BlockQuery.Datalog

/-- The characters of a literal between its quotes. -/
def escape : List Char → List Char
  | [] => []
  | c :: rest =>
    if c = '\\' ∨ c = '"' then '\\' :: c :: escape rest else c :: escape rest

/-- The text that the characters between the quotes of a literal denote. -/
def unescape : List Char → Option (List Char)
  | [] => some []
  | '\\' :: c :: rest =>
    if c = '\\' ∨ c = '"' then (unescape rest).map (c :: ·) else none
  | c :: rest => if c = '\\' ∨ c = '"' then none else (unescape rest).map (c :: ·)

/-- The escaped characters of a text. -/
def escapeString (text : String) : String :=
  String.ofList (escape text.toList)

/-- A text as a literal. -/
def quote (text : String) : String :=
  "\"" ++ escapeString text ++ "\""

end BlockQuery.Datalog
