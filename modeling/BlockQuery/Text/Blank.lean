/-!
# Blank characters

A character is blank when it belongs to the Unicode white space that separates
words: the ASCII controls U+0009 to U+000D and U+001C to U+001F, the space, and
the wider spaces and line separators. Zero-width characters are not blank.
Trimming and splitting into words are defined from this one class.
-/

namespace BlockQuery.Text

/-- Whether a character separates words. -/
def isBlank (c : Char) : Bool :=
  let n := c.toNat
  (0x09 ≤ n && n ≤ 0x0D) || (0x1C ≤ n && n ≤ 0x20) || n == 0x85 || n == 0xA0
    || n == 0x1680 || (0x2000 ≤ n && n ≤ 0x200A) || n == 0x2028 || n == 0x2029
    || n == 0x202F || n == 0x205F || n == 0x3000

/-- The text without its leading blanks. -/
def trimLeft (s : List Char) : List Char :=
  s.dropWhile isBlank

/-- The text without its trailing blanks. -/
def trimRight (s : List Char) : List Char :=
  (trimLeft s.reverse).reverse

/-- The text without the blanks around it. -/
def trim (s : List Char) : List Char :=
  trimRight (trimLeft s)

/-- The maximal runs of characters that are not blank, in order. -/
def words : List Char → List (List Char)
  | [] => []
  | c :: cs =>
    if isBlank c then
      words cs
    else
      match cs, words cs with
      | d :: _, w :: ws => if isBlank d then [c] :: w :: ws else (c :: w) :: ws
      | _, ws => [c] :: ws

/-- The words of a text with one space between neighbours. -/
def collapse (s : List Char) : List Char :=
  [' '].intercalate (words s)

/-- The text without the blanks around it, as a string. -/
def trimString (s : String) : String :=
  String.ofList (trim s.toList)

/-- The words of a string with one space between neighbours. -/
def collapseString (s : String) : String :=
  String.ofList (collapse s.toList)

/-- Every line break as a line feed. -/
def unifyBreaks : List Char → List Char
  | '\r' :: '\n' :: rest => '\n' :: unifyBreaks rest
  | '\r' :: rest => '\n' :: unifyBreaks rest
  | c :: rest => c :: unifyBreaks rest
  | [] => []

end BlockQuery.Text
