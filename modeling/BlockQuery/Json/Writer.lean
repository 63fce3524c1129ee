import BlockQuery.Json

/-!
# Writing JSON

Two layouts of the same format: everything on one line, or two blanks of
indentation a level. Only the quote, the backslash and the control characters
below the space are escaped; every other character stands for itself.
-/

namespace BlockQuery.Json

/-- The hexadecimal digit of a number below sixteen, in lower case. -/
def hexDigit (n : Nat) : Char :=
  Char.ofNat (if n < 10 then 0x30 + n else 0x57 + n)

/-- The escaped form of a character inside a string. -/
def escapeChar (c : Char) : List Char :=
  match c with
  | '"' => ['\\', '"']
  | '\\' => ['\\', '\\']
  | '\n' => ['\\', 'n']
  | '\r' => ['\\', 'r']
  | '\t' => ['\\', 't']
  | '\x08' => ['\\', 'b']
  | '\x0c' => ['\\', 'f']
  | c =>
    if c.toNat < 0x20 then
      ['\\', 'u', '0', '0', hexDigit (c.toNat / 16), hexDigit (c.toNat % 16)]
    else
      [c]

/-- A string between quotes. -/
def quote (text : String) : String :=
  "\"" ++ String.ofList (text.toList.flatMap escapeChar) ++ "\""

/-- A number that is not whole; those that are not finite are written by name. -/
def realText : Number.Real → String
  | .infinite negative => if negative then "-Infinity" else "Infinity"
  | .undefined => "NaN"
  | value => value.text

/-- The text of a value that has no parts. -/
def scalar : Json → String
  | null => "null"
  | bool value => if value then "true" else "false"
  | int value => toString value
  | real value => realText value
  | str text => quote text
  | arr _ => "[]"
  | obj _ => "\x7b\x7d"

mutual

/-- The value on one line, with a blank after every comma and colon. -/
def line : Json → String
  | arr items => "[" ++ ", ".intercalate (lineItems items) ++ "]"
  | obj fields => "\x7b" ++ ", ".intercalate (lineFields fields) ++ "\x7d"
  | value => scalar value

/-- The items of a list, each on one line. -/
def lineItems : List Json → List String
  | [] => []
  | item :: items => line item :: lineItems items

/-- The fields of an object, each on one line. -/
def lineFields : List (String × Json) → List String
  | [] => []
  | (key, value) :: fields => (quote key ++ ": " ++ line value) :: lineFields fields

end

/-- The line break in front of an entry at the given level. -/
def newline (level : Nat) : String :=
  "\n" ++ String.ofList (List.replicate (2 * level) ' ')

mutual

/-- The value over several lines, its entries indented below `level`. -/
def prettyAt (level : Nat) : Json → String
  | arr (item :: items) =>
    let separator := "," ++ newline (level + 1)
    "[" ++ newline (level + 1) ++
      separator.intercalate (prettyItems (level + 1) (item :: items)) ++ newline level ++ "]"
  | obj (entry :: fields) =>
    let separator := "," ++ newline (level + 1)
    "\x7b" ++ newline (level + 1) ++
      separator.intercalate (prettyFields (level + 1) (entry :: fields)) ++ newline level ++ "\x7d"
  | value => scalar value

/-- The items of a list, each over several lines. -/
def prettyItems (level : Nat) : List Json → List String
  | [] => []
  | item :: items => prettyAt level item :: prettyItems level items

/-- The fields of an object, each over several lines. -/
def prettyFields (level : Nat) : List (String × Json) → List String
  | [] => []
  | (key, value) :: fields =>
    (quote key ++ ": " ++ prettyAt level value) :: prettyFields level fields

end

/-- The value over several lines. -/
def pretty (value : Json) : String :=
  prettyAt 0 value

end BlockQuery.Json
