import BlockQuery.Json.Writer
import BlockQuery.Text.Quoted

/-!
# Labels of JSON values

A value on its own is shown as a label: a text as it is, nothing as an empty
label, a number by its digits. Inside a list or an object texts stand in quotes.
-/

namespace BlockQuery.Json

mutual

/-- The label of a value inside another one. -/
def innerLabel : Json → String
  | null => "None"
  | bool value => if value then "True" else "False"
  | real value => value.text
  | str text => Text.quoted text
  | arr items => "[" ++ ", ".intercalate (innerLabels items) ++ "]"
  | obj fields => "\x7b" ++ ", ".intercalate (fieldLabels fields) ++ "\x7d"
  | value => scalar value

/-- The labels of the items of a list. -/
def innerLabels : List Json → List String
  | [] => []
  | item :: items => innerLabel item :: innerLabels items

/-- The labels of the fields of an object. -/
def fieldLabels : List (String × Json) → List String
  | [] => []
  | (key, value) :: fields => (Text.quoted key ++ ": " ++ innerLabel value) :: fieldLabels fields

end

/-- The label of a value. -/
def label : Json → String
  | null => ""
  | str text => text
  | value => innerLabel value

end BlockQuery.Json
