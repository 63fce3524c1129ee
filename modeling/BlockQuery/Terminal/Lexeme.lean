import BlockQuery.Text.CharacterName
import BlockQuery.Text.Find
import BlockQuery.Text.Integer

/-!
# Lexemes of literals

A literal is made of numbers, quoted texts, a few names, and marks. Between them
may stand blanks and comments; line breaks too, inside brackets or behind a
backslash. The values of the lexemes do not matter here, only their kinds.
-/

namespace BlockQuery.Terminal

/-- A lexeme of a literal. -/
inductive Lexeme
  | number (imaginary : Bool)
  /-- A quoted text, of characters or of bytes. -/
  | quoted (bytes : Bool)
  /-- A name that stands for a value. -/
  | constant
  /-- The name of the function that makes an empty set. -/
  | setName
  | mark (c : Char)
  /-- The end of a line outside of brackets. -/
  | lineEnd
deriving DecidableEq, Repr

/-- Whether a character may stand in a name. -/
def isNameCharacter (c : Char) : Bool :=
  c.isAlphanum || c == '_' || 0x80 ≤ c.toNat

/-- The codes of the letters of `set` and of the letters that have the same meaning in a name. -/
def setLetters : List (List Nat) :=
  [[0x73, 0x17F, 0x2E2, 0x209B, 0xFF53, 0x1D42C, 0x1D460, 0x1D494, 0x1D4C8, 0x1D4FC,
      0x1D530, 0x1D564, 0x1D598, 0x1D5CC, 0x1D600, 0x1D634, 0x1D668, 0x1D69C],
    [0x65, 0x1D49, 0x2091, 0x212F, 0x2147, 0xFF45, 0x1D41E, 0x1D452, 0x1D486, 0x1D4EE,
      0x1D522, 0x1D556, 0x1D58A, 0x1D5BE, 0x1D5F2, 0x1D626, 0x1D65A, 0x1D68E],
    [0x74, 0x1D57, 0x209C, 0xFF54, 0x1D42D, 0x1D461, 0x1D495, 0x1D4C9, 0x1D4FD, 0x1D531,
      0x1D565, 0x1D599, 0x1D5CD, 0x1D601, 0x1D635, 0x1D669, 0x1D69D]]

/-- Whether a name is that of the function that makes an empty set. -/
def isSetName (name : List Char) : Bool :=
  name.length == setLetters.length &&
    (name.zip setLetters).all fun (c, codes) => codes.contains c.toNat

/-! ### Numbers -/

/-- Digits of some kind with single underscores between them, and what follows; an underscore may
stand in front when `led`. The number of the digits is given. -/
def takeDigits (isDigit : Char → Bool) (led : Bool) : List Char → Nat × List Char
  | '_' :: c :: rest =>
    if led && isDigit c then
      let (count, after) := takeDigits isDigit true rest
      (count + 1, after)
    else
      (0, '_' :: c :: rest)
  | c :: rest =>
    if isDigit c then
      let (count, after) := takeDigits isDigit true rest
      (count + 1, after)
    else
      (0, c :: rest)
  | [] => (0, [])

/-- Whether a number may end in front of a text. -/
def endsNumber : List Char → Bool
  | c :: _ => !isNameCharacter c
  | [] => true

/-- A whole number in another base, behind the letter of the base. -/
def takeBased? (isDigit : Char → Bool) (text : List Char) : Option (Lexeme × List Char) :=
  let (count, rest) := takeDigits isDigit true text
  if count = 0 || !endsNumber rest then none else some (.number false, rest)

/-- An exponent and what follows it, if there is one. -/
def takeExponent (text : List Char) : Option (List Char) :=
  match text with
  | e :: rest =>
    if e == 'e' || e == 'E' then
      let (count, after) := takeDigits Char.isDigit false (Text.splitSign rest).2
      if count = 0 then none else some after
    else
      none
  | [] => none

/-- A decimal number. A whole number may start with a zero only if it is zero, and it must not have
too many digits. -/
def takeDecimal? (text : List Char) : Option (Lexeme × List Char) :=
  let (whole, afterWhole) := takeDigits Char.isDigit false text
  let (places, afterPlaces) := match afterWhole with
    | '.' :: rest => (takeDigits Char.isDigit false rest).map some id
    | rest => (none, rest)
  let exponent := takeExponent afterPlaces
  let rest := exponent.getD afterPlaces
  let (imaginary, rest) := match rest with
    | 'j' :: rest | 'J' :: rest => (true, rest)
    | rest => (false, rest)
  let isWhole := places.isNone && exponent.isNone && !imaginary
  let written := text.take (text.length - afterWhole.length)
  let isPlain := written.head? != some '0' || written.all fun c => c == '0' || c == '_'
  if whole + places.getD 0 = 0 || !endsNumber rest then
    none
  else if isWhole && (!isPlain || decide (Text.maxDigits < whole)) then
    none
  else
    some (.number imaginary, rest)

/-- A number at the front of a text. -/
def takeNumber? (text : List Char) : Option (Lexeme × List Char) :=
  let isHexadecimal (c : Char) : Bool := c.isDigit || ('a' ≤ c.toLower && c.toLower ≤ 'f')
  match text with
  | '0' :: 'x' :: rest | '0' :: 'X' :: rest => takeBased? isHexadecimal rest
  | '0' :: 'o' :: rest | '0' :: 'O' :: rest => takeBased? (fun c => '0' ≤ c && c ≤ '7') rest
  | '0' :: 'b' :: rest | '0' :: 'B' :: rest => takeBased? (fun c => c == '0' || c == '1') rest
  | text => takeDecimal? text

/-! ### Quoted texts -/

/-- The body of a quoted text and what follows the closing marks. Only a text in three marks may go
over the end of a line. -/
def takeBody? (marks : List Char) : List Char → Option (List Char × List Char)
  | [] => none
  | '\\' :: c :: rest =>
    (takeBody? marks rest).map fun (body, after) => ('\\' :: c :: body, after)
  | c :: rest =>
    match Text.dropStart? marks (c :: rest) with
    | some after => some ([], after)
    | none =>
      if c = '\n' ∧ marks.length = 1 then
        none
      else
        (takeBody? marks rest).map fun (body, after) => (c :: body, after)

/-- The value of hexadecimal digits, if there are as many as needed. -/
def hexadecimalCode? (count : Nat) (text : List Char) : Option Nat :=
  let digits := text.take count
  let value (c : Char) : Option Nat :=
    if c.isDigit then some (c.toNat - '0'.toNat)
    else if 'a' ≤ c.toLower ∧ c.toLower ≤ 'f' then some (c.toLower.toNat - 'a'.toNat + 10)
    else none
  if digits.length < count then
    none
  else
    (digits.mapM value).map fun values => values.foldl (fun sum digit => 16 * sum + digit) 0

/-- The largest code of a character. -/
def largestCode : Nat := 0x10FFFF

/-- Whether a text goes on with the name of a character in curly brackets. -/
def namesCharacter (text : List Char) : Bool :=
  match text with
  | '{' :: rest =>
    let name := rest.takeWhile (· != '}')
    name.length < rest.length && Text.isCharacterName name
  | _ => false

/-- Whether what follows a backslash and the letter `c` completes an escape. -/
def isEscape (bytes : Bool) (c : Char) (text : List Char) : Bool :=
  match c with
  | 'x' => (hexadecimalCode? 2 text).isSome
  | 'u' => bytes || (hexadecimalCode? 4 text).isSome
  | 'U' => bytes || (hexadecimalCode? 8 text).any fun code => decide (code ≤ largestCode)
  | 'N' => bytes || namesCharacter text
  | _ => true

/-- Whether every escape of a body is complete. -/
def hasEscapes (bytes : Bool) : List Char → Bool
  | '\\' :: c :: rest => isEscape bytes c rest && hasEscapes bytes rest
  | _ :: rest => hasEscapes bytes rest
  | [] => true

/-- A quoted text whose marks are at the front, behind letters that say how to read it. -/
def takeQuoted? (letters : String) (text : List Char) : Option (Lexeme × List Char) := do
  let bytes := letters.contains 'b'
  let raw := letters.contains 'r'
  guard (["", "r", "u", "b", "br", "rb"].contains letters)
  let first ← text.head?
  let marks := if text.take 3 = [first, first, first] then [first, first, first] else [first]
  let (body, after) ← takeBody? marks (text.drop marks.length)
  if (raw || hasEscapes bytes body) && (!bytes || body.all fun c => decide (c.toNat < 0x80)) then
    some (.quoted bytes, after)
  else
    none

/-! ### All lexemes -/

/-- A name at the front of a text, or a quoted text that starts with letters. -/
def takeName? (text : List Char) : Option (Lexeme × List Char) :=
  let name := text.takeWhile isNameCharacter
  let rest := text.dropWhile isNameCharacter
  if rest.head? = some '"' ∨ rest.head? = some '\'' then
    takeQuoted? (String.ofList (name.map Char.toLower)) rest
  else
    match String.ofList name with
    | "None" | "True" | "False" => some (.constant, rest)
    | _ => if isSetName name then some (.setName, rest) else none

/-- The deepest nesting of brackets. -/
def deepestBracket : Nat := 200

/-- The depth of brackets behind a mark. -/
def depthBehind? (depth : Nat) (c : Char) : Option Nat :=
  if c == '(' || c == '{' then
    if depth < deepestBracket then some (depth + 1) else none
  else if c == ')' || c == '}' then
    if depth = 0 then none else some (depth - 1)
  else if c == ',' || c == ':' || c == '+' || c == '-' then
    some depth
  else
    none

/-- A lexeme that is longer than a mark. -/
def takeLong? (text : List Char) : Option (Lexeme × List Char) :=
  match text with
  | '.' :: '.' :: '.' :: rest => some (.constant, rest)
  | '.' :: _ => takeNumber? text
  | c :: _ =>
    if c.isDigit then takeNumber? text
    else if c == '"' || c == '\'' then takeQuoted? "" text
    else if isNameCharacter c then takeName? text
    else none
  | [] => none

/-- The lexemes of a text inside brackets of some depth. The fuel bounds their number; the length
of the text is enough. -/
def lexemes (depth : Nat) : Nat → List Char → Option (List Lexeme)
  | _, [] => some []
  | 0, _ :: _ => none
  | fuel + 1, c :: rest =>
    if c == ' ' || c == '\t' || c.toNat == 12 then
      lexemes depth fuel rest
    else if c == '\n' then
      (lexemes depth fuel rest).map fun more => if depth = 0 then .lineEnd :: more else more
    else if c == '#' then
      lexemes depth fuel (rest.dropWhile (· != '\n'))
    else if c == '\\' then
      match rest with
      | '\n' :: rest => lexemes depth fuel rest
      | _ => none
    else
      match depthBehind? depth c with
      | some depth => (lexemes depth fuel rest).map (.mark c :: ·)
      | none => do
        let (lexeme, after) ← takeLong? (c :: rest)
        (lexemes depth fuel after).map (lexeme :: ·)

end BlockQuery.Terminal
