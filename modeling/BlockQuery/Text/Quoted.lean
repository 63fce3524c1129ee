import BlockQuery.Text.Blank
import BlockQuery.Text.Printable

/-!
# Quoted labels

A text is shown between single quotes, or between double quotes when it contains
a single quote and no double one. Backslashes, the quote in use and characters
that leave no mark on a screen are written with a backslash.
-/

namespace BlockQuery.Text

/-- The lower-case hexadecimal digits of a number, with leading zeros up to the given width. -/
def hexadecimal (width n : Nat) : List Char :=
  let digits := Nat.toDigits 16 n
  List.replicate (width - digits.length) '0' ++ digits

/-- A character by its code point, in the shortest of the three widths. -/
def codeEscape (c : Char) : List Char :=
  let n := c.toNat
  if n < 0x100 then
    '\\' :: 'x' :: hexadecimal 2 n
  else if n < 0x10000 then
    '\\' :: 'u' :: hexadecimal 4 n
  else
    '\\' :: 'U' :: hexadecimal 8 n

/-- A character between the given quotes. -/
def quoteChar (mark : Char) (c : Char) : List Char :=
  if c = '\\' ∨ c = mark then ['\\', c]
  else if c = '\n' then ['\\', 'n']
  else if c = '\r' then ['\\', 'r']
  else if c = '\t' then ['\\', 't']
  else if isPrintable c then [c]
  else codeEscape c

/-- The quote that a text is shown between. -/
def quoteMark (text : List Char) : Char :=
  if text.contains '\'' ∧ ¬ text.contains '"' then '"' else '\''

/-- A text between quotes. -/
def quoted (text : String) : String :=
  let mark := quoteMark text.toList
  String.ofList (mark :: text.toList.flatMap (quoteChar mark) ++ [mark])

end BlockQuery.Text
