import BlockQuery.Text.Quoted
import BlockQuery.Toml

/-!
# Writing TOML

A document of sections is written section by section, with a blank line between
them and one `key = value` line an entry. Strings stand between double quotes on
one line: quotes, backslashes and control characters except the tab are escaped.
-/

namespace BlockQuery.Toml

/-- The short escape of a character, if it has one. -/
def shortEscape? (c : Char) : Option Char :=
  match c with
  | '\x08' => some 'b'
  | '\n' => some 'n'
  | '\x0c' => some 'f'
  | '\r' => some 'r'
  | '"' => some '"'
  | '\\' => some '\\'
  | _ => none

/-- Whether a character is a control character. -/
def isControl (c : Char) : Bool :=
  c.toNat < 0x20 || c.toNat == 0x7F

/-- A character inside a string. -/
def escapeChar (c : Char) : List Char :=
  match shortEscape? c with
  | some mark => ['\\', mark]
  | none =>
    if isControl c ∧ c ≠ '\t' then '\\' :: 'u' :: Text.hexadecimal 4 c.toNat else [c]

/-- A text between double quotes. -/
def writeString (text : String) : String :=
  "\"" ++ String.ofList (text.toList.flatMap escapeChar) ++ "\""

/-- A value that stands on one line. -/
inductive Scalar
  | boolean (value : Bool)
  | integer (value : Int)
  | string (text : String)
deriving DecidableEq, Repr

/-- A scalar as text. -/
def Scalar.write : Scalar → String
  | boolean value => if value then "true" else "false"
  | integer value => toString value
  | string text => writeString text

/-- The line of an entry, without its line break. -/
def entryLine (key : String) (value : Scalar) : String :=
  key ++ " = " ++ value.write

/-- A named group of entries. -/
structure Section where
  name : String
  entries : List (String × Scalar)
deriving Repr

/-- The lines of a section. -/
def Section.write (sec : Section) : String :=
  "[" ++ sec.name ++ "]\n" ++
    String.join (sec.entries.map fun entry => entryLine entry.1 entry.2 ++ "\n")

/-- A document of sections as text. -/
def writeSections (sections : List Section) : String :=
  "\n".intercalate (sections.map Section.write)

end BlockQuery.Toml
