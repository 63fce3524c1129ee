import BlockQuery.Calendar.Date
import BlockQuery.Text.Find
import BlockQuery.Text.Integer
import BlockQuery.Toml.Writer

/-!
# Reading keys and scalars

Scanners for the parts of a TOML document that stand on their own: strings, keys,
numbers, dates and times. Each takes the rest of the text and gives back what
follows the part that it read.
-/

namespace BlockQuery.Toml

/-- Why a text is not a document. -/
inductive ReadError
  | malformed
  /-- An integer has more digits than are converted. -/
  | tooManyDigits (digits : Nat)
deriving DecidableEq, Repr

/-- What a scanner gives back. -/
abbrev Scanned (α : Type) := Except ReadError (α × List Char)

/-- Whether a character separates tokens on a line. -/
def isSpace (c : Char) : Bool :=
  c == ' ' || c == '\t'

/-- Whether a character separates tokens inside an array. -/
def isSpaceOrNewline (c : Char) : Bool :=
  isSpace c || c == '\n'

/-- The text without its leading spaces. -/
def skipSpace (text : List Char) : List Char :=
  text.dropWhile isSpace

/-- Whether a character may not stand in a string or comment on one line. -/
def isIllegal (c : Char) : Bool :=
  isControl c && c != '\t'

/-! ### Strings -/

/-- A string between single quotes, its opening quote already read. -/
def literalString (text : List Char) : Scanned (List Char) :=
  let body := text.takeWhile (· != '\'')
  match text.dropWhile (· != '\'') with
  | _ :: rest => if body.any isIllegal then .error .malformed else .ok (body, rest)
  | [] => .error .malformed

/-- The value of a hexadecimal digit. -/
def hexValue? (c : Char) : Option Nat :=
  if c.isDigit then some (c.toNat - 48)
  else if 'a' ≤ c.toLower ∧ c.toLower ≤ 'f' then some (c.toLower.toNat - 87)
  else none

/-- The number that hexadecimal digits denote. -/
def hexNumber? (digits : List Char) : Option Nat :=
  digits.foldlM (fun total c => (hexValue? c).map (16 * total + ·)) 0

/-- The character with the code point that hexadecimal digits denote. -/
def hexChar? (digits : List Char) : Option Char := do
  let code ← hexNumber? digits
  if code < 0xD800 ∨ (0xDFFF < code ∧ code ≤ 0x10FFFF) then some (Char.ofNat code) else none

/-- The character that follows a backslash, if it is a short escape. -/
def shortEscaped? (c : Char) : Option Char :=
  match c with
  | 'b' => some '\x08'
  | 't' => some '\t'
  | 'n' => some '\n'
  | 'f' => some '\x0c'
  | 'r' => some '\r'
  | '"' => some '"'
  | '\\' => some '\\'
  | _ => none

/-- Where the reader of a string stands. -/
inductive Place
  | inText
  /-- Behind a backslash and spaces, which a line break has to follow. -/
  | beforeBreak
  /-- Behind a backslash at the end of a line: blanks are skipped. -/
  | afterBreak
deriving DecidableEq

/-- The characters of a string between double quotes, up to its closing quotes. A string over
several lines ends at three quotes and may break lines by a backslash. -/
def basicBody (multiline : Bool) : Place → List Char → Scanned (List Char)
  | _, [] => .error .malformed
  | place, c :: rest =>
    if place = .afterBreak ∧ isSpaceOrNewline c then
      basicBody multiline .afterBreak rest
    else if place = .beforeBreak then
      if c = '\n' then basicBody multiline .afterBreak rest
      else if isSpace c then basicBody multiline .beforeBreak rest
      else .error .malformed
    else if c = '"' then
      if multiline then
        match rest with
        | '"' :: '"' :: after => .ok ([], after)
        | _ => (basicBody multiline .inText rest).map fun (body, after) => (c :: body, after)
      else
        .ok ([], rest)
    else if c = '\\' then
      match rest with
      | 'u' :: x1 :: x2 :: x3 :: x4 :: after =>
        match hexChar? [x1, x2, x3, x4] with
        | some value =>
          (basicBody multiline .inText after).map fun (body, after) => (value :: body, after)
        | none => .error .malformed
      | 'U' :: x1 :: x2 :: x3 :: x4 :: x5 :: x6 :: x7 :: x8 :: after =>
        match hexChar? [x1, x2, x3, x4, x5, x6, x7, x8] with
        | some value =>
          (basicBody multiline .inText after).map fun (body, after) => (value :: body, after)
        | none => .error .malformed
      | mark :: after =>
        match shortEscaped? mark with
        | some value =>
          (basicBody multiline .inText after).map fun (body, after) => (value :: body, after)
        | none =>
          if multiline ∧ mark = '\n' then basicBody multiline .afterBreak after
          else if multiline ∧ isSpace mark then basicBody multiline .beforeBreak after
          else .error .malformed
      | [] => .error .malformed
    else if isControl c ∧ c ≠ '\t' ∧ ¬ (multiline ∧ c = '\n') then
      .error .malformed
    else
      (basicBody multiline .inText rest).map fun (body, after) => (c :: body, after)

/-- The text without the line break at its front. -/
def skipNewline : List Char → List Char
  | '\n' :: rest => rest
  | text => text

/-- Up to two quotes in front of the closing ones belong to the string. -/
def extraQuotes (mark : Char) (body text : List Char) : List Char × List Char :=
  match text with
  | a :: b :: rest =>
    if a = mark ∧ b = mark then (body ++ [a, b], rest)
    else if a = mark then (body ++ [a], b :: rest)
    else (body, text)
  | [a] => if a = mark then (body ++ [a], []) else (body, text)
  | [] => (body, text)

/-- A string between three double quotes, the opening ones already read. -/
def multilineString (text : List Char) : Scanned (List Char) :=
  (basicBody true .inText (skipNewline text)).map fun (body, rest) => extraQuotes '"' body rest

/-- A string between three single quotes, the opening ones already read. -/
def multilineLiteral (text : List Char) : Scanned (List Char) :=
  match Text.cut? ['\'', '\'', '\''] (skipNewline text) with
  | some (body, rest) =>
    if body.any fun c => isIllegal c && c != '\n' then
      .error .malformed
    else
      .ok (extraQuotes '\'' body rest)
  | none => .error .malformed

/-! ### Keys -/

/-- Whether a character may stand in a key without quotes. -/
def isBareKeyChar (c : Char) : Bool :=
  c.isAlphanum || c == '-' || c == '_'

/-- One part of a key. -/
def keyPart (text : List Char) : Scanned String :=
  match text with
  | '"' :: rest =>
    (basicBody false .inText rest).map fun (body, after) => (String.ofList body, after)
  | '\'' :: rest => (literalString rest).map fun (body, after) => (String.ofList body, after)
  | text =>
    match text.takeWhile isBareKeyChar with
    | [] => .error .malformed
    | bare => .ok (String.ofList bare, text.dropWhile isBareKeyChar)

/-- The parts of a key, separated by dots; the fuel bounds their number. -/
def keyParts : Nat → List Char → Except ReadError (List String × List Char)
  | 0, _ => .error .malformed
  | fuel + 1, text => do
    let (part, rest) ← keyPart text
    match skipSpace rest with
    | '.' :: more =>
      let (parts, after) ← keyParts fuel (skipSpace more)
      return (part :: parts, after)
    | after => return ([part], after)

/-- A key with its parts, and the spaces behind it. -/
def key (text : List Char) : Scanned (List String) :=
  keyParts (text.length + 1) text

/-! ### Numbers -/

/-- A run of digits in which single underscores may stand between two digits. -/
def groupedRun (isMember : Char → Bool) : List Char → List Char × List Char
  | [] => ([], [])
  | '_' :: d :: rest =>
    if isMember d then
      let (digits, after) := groupedRun isMember rest
      (d :: digits, after)
    else
      ([], '_' :: d :: rest)
  | c :: rest =>
    if isMember c then
      let (digits, after) := groupedRun isMember rest
      (c :: digits, after)
    else
      ([], c :: rest)

/-- A non-empty run of digits that starts with a digit. -/
def digitRun? (isMember : Char → Bool) (text : List Char) : Option (List Char × List Char) :=
  if text.head?.any isMember then some (groupedRun isMember text) else none

/-- The digits of a base with their values, by the letter that introduces it. -/
def baseDigits? : Char → Option ((Char → Bool) × Nat)
  | 'x' => some (fun c => (hexValue? c).isSome, 16)
  | 'b' => some (fun c => c == '0' || c == '1', 2)
  | 'o' => some (fun c => '0' ≤ c && c ≤ '7', 8)
  | _ => none

/-- An integer in base two, eight or sixteen. -/
def basedInteger? : List Char → Option (Value × List Char)
  | '0' :: mark :: rest => do
    let (isMember, base) ← baseDigits? mark
    let (digits, after) ← digitRun? isMember rest
    let value := digits.foldl (fun total c => base * total + (hexValue? c).getD 0) 0
    return (.integer value, after)
  | _ => none

/-- The whole part of a decimal number: a zero, or digits that start with another. -/
def wholePart? : List Char → Option (List Char × List Char)
  | '0' :: rest => some (['0'], rest)
  | text => digitRun? Char.isDigit text

/-- The text behind a fraction, if one stands here. -/
def skipFraction (text : List Char) : List Char :=
  match text with
  | '.' :: rest => ((digitRun? Char.isDigit rest).map Prod.snd).getD text
  | _ => text

/-- The text behind an exponent, if one stands here. -/
def skipExponent (text : List Char) : List Char :=
  match text with
  | mark :: rest =>
    if mark = 'e' ∨ mark = 'E' then
      ((digitRun? Char.isDigit (Text.splitSign rest).2).map Prod.snd).getD text
    else
      text
  | [] => text

/-- The characters of a text in front of its given end. -/
def textBefore (text rest : List Char) : String :=
  String.ofList (text.take (text.length - rest.length))

/-- A decimal number. -/
def decimalNumber? (text : List Char) : Option (Scanned Value) := do
  let (negative, unsigned) := Text.splitSign text
  let (digits, afterWhole) ← wholePart? unsigned
  let rest := skipExponent (skipFraction afterWhole)
  if rest.length < afterWhole.length then
    return .ok (.float (textBefore text rest), rest)
  else if Text.maxDigits < digits.length then
    return .error (.tooManyDigits digits.length)
  else
    let size : Int := Text.decimal digits
    return .ok (.integer (if negative then -size else size), rest)

/-- The names of the numbers that are not finite. -/
def specialNames : List String := ["inf", "nan", "-inf", "+inf", "-nan", "+nan"]

/-- A number that is not finite. -/
def specialNumber? (text : List Char) : Option (Value × List Char) :=
  specialNames.findSome? fun name =>
    (Text.dropStart? name.toList text).map fun rest => (.float name, rest)

/-! ### Dates and times -/

/-- A number of exactly `count` digits between two bounds. -/
def boundedNumber? (count low high : Nat) (text : List Char) : Option (Nat × List Char) :=
  let digits := text.take count
  if digits.length = count ∧ digits.all Char.isDigit ∧
      low ≤ Text.decimal digits ∧ Text.decimal digits ≤ high then
    some (Text.decimal digits, text.drop count)
  else
    none

/-- The text behind a decimal fraction of seconds, if one stands here. -/
def skipSubseconds (text : List Char) : List Char :=
  match text with
  | '.' :: rest => if rest.head?.any Char.isDigit then rest.dropWhile Char.isDigit else text
  | _ => text

/-- The text behind a time. -/
def skipTime? (text : List Char) : Option (List Char) := do
  let (_, rest) ← boundedNumber? 2 0 23 text
  let (_, rest) ← boundedNumber? 2 0 59 (← Text.dropStart? [':'] rest)
  let (_, rest) ← boundedNumber? 2 0 59 (← Text.dropStart? [':'] rest)
  return skipSubseconds rest

/-- The text behind an offset, if one stands here. -/
def skipOffset (text : List Char) : List Char :=
  match text with
  | mark :: rest =>
    if mark = 'Z' ∨ mark = 'z' then
      rest
    else if mark = '+' ∨ mark = '-' then
      let offset := do
        let (_, rest) ← boundedNumber? 2 0 23 rest
        let (_, rest) ← boundedNumber? 2 0 59 (← Text.dropStart? [':'] rest)
        return rest
      offset.getD text
    else
      text
  | [] => text

/-- The text behind the time of a date, if one stands here. -/
def skipDateTime (text : List Char) : List Char :=
  match text with
  | mark :: rest =>
    if mark = 'T' ∨ mark = 't' ∨ mark = ' ' then
      ((skipTime? rest).map skipOffset).getD text
    else
      text
  | [] => text

/-- A date, possibly with a time. A date that does not exist is malformed. -/
def dateTime? (text : List Char) : Option (Scanned Value) := do
  let (year, rest) ← boundedNumber? 4 0 9999 text
  let (month, rest) ← boundedNumber? 2 1 12 (← Text.dropStart? ['-'] rest)
  let (day, rest) ← boundedNumber? 2 1 31 (← Text.dropStart? ['-'] rest)
  let rest := skipDateTime rest
  match Calendar.Date.ofParts? year month day with
  | some _ => return .ok (.moment (textBefore text rest), rest)
  | none => return .error .malformed

/-- A time without a date. -/
def time? (text : List Char) : Option (Value × List Char) :=
  (skipTime? text).map fun rest => (.moment (textBefore text rest), rest)

/-! ### Scalars -/

/-- A value that starts with neither a quote nor a bracket. -/
def plainScalar (text : List Char) : Scanned Value :=
  match Text.dropStart? "true".toList text, Text.dropStart? "false".toList text with
  | some rest, _ => .ok (.boolean true, rest)
  | _, some rest => .ok (.boolean false, rest)
  | none, none =>
    match dateTime? text with
    | some result => result
    | none =>
      match (time? text).or (basedInteger? text) with
      | some found => .ok found
      | none =>
        match decimalNumber? text with
        | some result => result
        | none =>
          match specialNumber? text with
          | some found => .ok found
          | none => .error .malformed

/-- A string in one of its four notations; `none` when no quote stands here. -/
def anyString? : List Char → Option (Scanned (List Char))
  | '"' :: '"' :: '"' :: rest => some (multilineString rest)
  | '"' :: rest => some (basicBody false .inText rest)
  | '\'' :: '\'' :: '\'' :: rest => some (multilineLiteral rest)
  | '\'' :: rest => some (literalString rest)
  | _ => none

end BlockQuery.Toml
