import BlockQuery.Json
import BlockQuery.Text.Digit
import BlockQuery.Text.Find
import BlockQuery.Text.Integer

/-!
# Reading JSON

The reader follows the JSON grammar and also takes the names of the numbers that
are not finite. A key that is given twice takes the last
value. Two escaped surrogates in a row denote one character; a lone surrogate,
which denotes none, is read as the replacement character.
-/

namespace BlockQuery.Json

open BlockQuery.Text

/-- The white space between tokens. -/
def isSpace (c : Char) : Bool :=
  c == ' ' || c == '\t' || c == '\n' || c == '\r'

/-- The input without its leading white space. -/
def skipSpace (s : List Char) : List Char :=
  s.dropWhile isSpace

/-- The value of a hexadecimal digit. -/
def hexValue? (c : Char) : Option Nat :=
  let n := c.toNat
  if 0x30 ≤ n ∧ n ≤ 0x39 then some (n - 0x30)
  else if 0x41 ≤ n ∧ n ≤ 0x46 then some (n - 0x37)
  else if 0x61 ≤ n ∧ n ≤ 0x66 then some (n - 0x57)
  else none

/-- The value of a run of hexadecimal digits. -/
def hexNumber? (digits : List Char) : Option Nat :=
  digits.foldlM (fun total c => (hexValue? c).map (16 * total + ·)) 0

/-- The code unit of four hexadecimal digits, and what follows. -/
def codeUnit? : List Char → Option (Nat × List Char)
  | a :: b :: c :: d :: rest => (hexNumber? [a, b, c, d]).map (·, rest)
  | _ => none

/-- The character that a pair of code units denotes, if they are surrogates. -/
def pairChar? (high low : Nat) : Option Char :=
  if 0xD800 ≤ high ∧ high < 0xDC00 ∧ 0xDC00 ≤ low ∧ low < 0xE000 then
    some (Char.ofNat (0x10000 + (high - 0xD800) * 0x400 + (low - 0xDC00)))
  else
    none

/-- The character that one code unit denotes. -/
def unitChar (unit : Nat) : Char :=
  if 0xD800 ≤ unit ∧ unit < 0xE000 then Char.ofNat 0xFFFD else Char.ofNat unit

/-- The character of an escape after its backslash, and what follows. -/
def escaped? : List Char → Option (Char × List Char)
  | '"' :: rest => some ('"', rest)
  | '\\' :: rest => some ('\\', rest)
  | '/' :: rest => some ('/', rest)
  | 'b' :: rest => some ('\x08', rest)
  | 'f' :: rest => some ('\x0c', rest)
  | 'n' :: rest => some ('\n', rest)
  | 'r' :: rest => some ('\r', rest)
  | 't' :: rest => some ('\t', rest)
  | 'u' :: rest =>
    match codeUnit? rest with
    | none => none
    | some (high, '\\' :: 'u' :: after) =>
      match codeUnit? after with
      | none => none
      | some (low, afterPair) =>
        match pairChar? high low with
        | some c => some (c, afterPair)
        | none => some (unitChar high, '\\' :: 'u' :: after)
    | some (unit, after) => some (unitChar unit, after)
  | _ => none

/-- The characters of a string up to its closing quote, and what follows. The
fuel bounds the number of characters. -/
def stringBody : Nat → List Char → Option (List Char × List Char)
  | 0, _ => none
  | _, [] => none
  | _, '"' :: rest => some ([], rest)
  | fuel + 1, '\\' :: rest =>
    match escaped? rest with
    | none => none
    | some (c, after) => (stringBody fuel after).map fun (body, rest) => (c :: body, rest)
  | fuel + 1, c :: rest =>
    if c.toNat < 0x20 then none
    else (stringBody fuel rest).map fun (body, rest) => (c :: body, rest)

/-- Reads a string, its opening quote already read. -/
def readString (s : List Char) : Option (String × List Char) :=
  (stringBody (s.length + 1) s).map fun (body, rest) => (String.ofList body, rest)

/-- Whether a character is an ASCII digit. -/
def isAsciiDigit (c : Char) : Bool :=
  c.isDigit

/-- The digits after a decimal point, if one stands here with digits. -/
def fraction? : List Char → Option (List Char × List Char)
  | '.' :: rest =>
    if (rest.takeWhile isAsciiDigit).isEmpty then none
    else some (rest.takeWhile isAsciiDigit, rest.dropWhile isAsciiDigit)
  | _ => none

/-- The exponent after an exponent mark, if one stands here with digits. -/
def exponent? : List Char → Option (Int × List Char)
  | mark :: rest =>
    if mark = 'e' ∨ mark = 'E' then
      let (negative, digits) := splitSign rest
      if (digits.takeWhile isAsciiDigit).isEmpty then none
      else
        let value : Int := decimal (digits.takeWhile isAsciiDigit)
        some (if negative then -value else value, digits.dropWhile isAsciiDigit)
    else none
  | [] => none

/-- The integer part of a number: a zero, or digits that start with another. -/
def wholePart? : List Char → Option (List Char × List Char)
  | '0' :: rest => some (['0'], rest)
  | c :: rest =>
    if isAsciiDigit c then
      some (c :: rest.takeWhile isAsciiDigit, rest.dropWhile isAsciiDigit)
    else none
  | [] => none

/-- Reads a number without its sign. -/
def unsigned? (negative : Bool) (s : List Char) : Option (Json × List Char) :=
  match wholePart? s with
  | none => none
  | some (whole, afterWhole) =>
    let (places, afterPlaces) := (fraction? afterWhole).getD ([], afterWhole)
    let scale := exponent? afterPlaces
    if places.isEmpty ∧ scale.isNone then
      if maxDigits < whole.length then none
      else some (int (if negative then -(decimal whole : Int) else decimal whole), afterWhole)
    else
      let (exponent, rest) := scale.getD (0, afterPlaces)
      some (real (Number.scaled negative (whole ++ places) (exponent - places.length)), rest)

/-- Reads a number. -/
def number? : List Char → Option (Json × List Char)
  | '-' :: rest => unsigned? true rest
  | s => unsigned? false s

/-- The values that are written as names. -/
def names : List (String × Json) :=
  [("null", null), ("true", bool true), ("false", bool false), ("NaN", real .undefined),
   ("Infinity", real (.infinite false)), ("-Infinity", real (.infinite true))]

/-- Reads a value that has no parts. -/
def scalar? (s : List Char) : Option (Json × List Char) :=
  let named := names.findSome? fun (name, value) =>
    (dropStart? name.toList s).map fun rest => (value, rest)
  named.or (number? s)

mutual

/-- Reads a value. The fuel bounds the number of tokens. -/
def readValue : Nat → List Char → Option (Json × List Char)
  | 0, _ => none
  | _ + 1, '"' :: rest => (readString rest).map fun (text, after) => (str text, after)
  | fuel + 1, '[' :: rest =>
    match skipSpace rest with
    | ']' :: after => some (arr [], after)
    | items => (readItems fuel items).map fun (values, after) => (arr values, after)
  | fuel + 1, '{' :: rest =>
    match skipSpace rest with
    | '}' :: after => some (obj [], after)
    | fields => (readFields fuel [] fields).map fun (values, after) => (obj values, after)
  | _ + 1, s => scalar? s

/-- Reads the items of a list up to its closing bracket. -/
def readItems : Nat → List Char → Option (List Json × List Char)
  | 0, _ => none
  | fuel + 1, s =>
    match readValue fuel s with
    | none => none
    | some (item, rest) =>
      match skipSpace rest with
      | ']' :: after => some ([item], after)
      | ',' :: more =>
        (readItems fuel (skipSpace more)).map fun (items, after) => (item :: items, after)
      | _ => none

/-- Reads the fields of an object up to its closing brace, after those known. -/
def readFields : Nat → List (String × Json) → List Char →
    Option (List (String × Json) × List Char)
  | fuel + 1, known, '"' :: s =>
    match readString s with
    | none => none
    | some (key, afterKey) =>
      match skipSpace afterKey with
      | ':' :: afterColon =>
        match readValue fuel (skipSpace afterColon) with
        | none => none
        | some (value, rest) =>
          match skipSpace rest with
          | '}' :: after => some (setField key value known, after)
          | ',' :: more => readFields fuel (setField key value known) (skipSpace more)
          | _ => none
      | _ => none
  | _, _, _ => none

end

/-- Reads a whole text as one JSON value. -/
def parse? (text : String) : Option Json :=
  match readValue (2 * text.length + 2) (skipSpace text.toList) with
  | some (value, rest) => if (skipSpace rest).isEmpty then some value else none
  | none => none

end BlockQuery.Json
