import BlockQuery.Terminal.Lexeme
import BlockQuery.Text.Blank

/-!
# Literals

A literal is a number, a quoted text, a constant, or a tuple, set or dictionary of
literals. A number may have a sign, and a sum of a real and an imaginary number is
a number too. Elements of sets and keys of dictionaries must not be sets or
dictionaries themselves, nor contain any.
-/

namespace BlockQuery.Terminal

/-- What is known of a literal. -/
inductive LiteralKind
  /-- A number with or without a sign. -/
  | number (signed imaginary : Bool)
  /-- Anything else; a value that is `fixed` contains no sets and dictionaries. -/
  | value (fixed : Bool)
deriving DecidableEq, Repr

namespace LiteralKind

/-- Whether a literal may be an element of a set. -/
def isFixed : LiteralKind → Bool
  | number .. => true
  | value fixed => fixed

/-- A literal with a sign; only numbers without one take it. -/
def withSign? : LiteralKind → Option LiteralKind
  | number false imaginary => some (number true imaginary)
  | _ => none

/-- The sum of two literals; only a real number and an imaginary one without a sign have one. -/
def sum? : LiteralKind → LiteralKind → Option LiteralKind
  | number _ false, number false true => some (value true)
  | _, _ => none

end LiteralKind

/-- Whether another element follows a comma. -/
def startsElement : List Lexeme → Bool
  | [] | .lineEnd :: _ | .mark ')' :: _ | .mark '}' :: _ => false
  | _ => true

/-- Elements between commas: their kinds, whether a comma follows the last of them, and the rest. -/
structure Elements where
  kinds : List LiteralKind
  endsWithComma : Bool
  rest : List Lexeme

namespace Elements

/-- What elements without brackets or in round ones stand for: a single one for itself, and others
for a tuple. -/
def tupleKind (elements : Elements) : LiteralKind :=
  match elements.kinds, elements.endsWithComma with
  | [kind], false => kind
  | kinds, _ => .value (kinds.all LiteralKind.isFixed)

end Elements

/-- What follows the name of the function that makes an empty set, in any number of brackets. -/
def dropSetName? : List Lexeme → Option (List Lexeme)
  | .setName :: rest => some rest
  | .mark '(' :: rest =>
    match dropSetName? rest with
    | some (.mark ')' :: rest) => some rest
    | _ => none
  | _ => none

/-- What follows a call for an empty set. -/
def dropEmptySet? (lexemes : List Lexeme) : Option (List Lexeme) :=
  match dropSetName? lexemes with
  | some (.mark '(' :: .mark ')' :: rest) => some rest
  | _ => none

mutual

/-- A literal without a sign. All readers of literals take fuel that bounds the depth of calls. -/
def readAtom : Nat → List Lexeme → Option (LiteralKind × List Lexeme)
  | 0, _ => none
  | fuel + 1, lexemes =>
    match lexemes with
    | .number imaginary :: rest => some (.number false imaginary, rest)
    | .quoted bytes :: rest => some (.value true, rest.dropWhile (· == .quoted bytes))
    | .constant :: rest => some (.value true, rest)
    | .setName :: _ => (dropEmptySet? lexemes).map fun rest => (.value false, rest)
    | .mark '(' :: .mark ')' :: rest => some (.value true, rest)
    | .mark '(' :: rest =>
      match dropEmptySet? lexemes, readElements fuel rest with
      | some rest, _ => some (.value false, rest)
      | none, some elements =>
        match elements.rest with
        | .mark ')' :: rest => some (elements.tupleKind, rest)
        | _ => none
      | none, none => none
    | .mark '{' :: .mark '}' :: rest => some (.value false, rest)
    | .mark '{' :: rest => do
      let (first, rest) ← readSum fuel rest
      let rest ← match rest with
        | .mark ':' :: rest => readEntries fuel rest
        | .mark ',' :: rest => if startsElement rest then readSet fuel rest else some rest
        | rest => some rest
      match first.isFixed, rest with
      | true, .mark '}' :: rest => return (.value false, rest)
      | _, _ => none
    | _ => none

/-- A literal with or without a sign. -/
def readOperand : Nat → List Lexeme → Option (LiteralKind × List Lexeme)
  | 0, _ => none
  | fuel + 1, lexemes =>
    match lexemes with
    | .mark '+' :: rest | .mark '-' :: rest => do
      let (kind, rest) ← readAtom fuel rest
      return (← kind.withSign?, rest)
    | _ => readAtom fuel lexemes

/-- A literal, or a sum of two. -/
def readSum : Nat → List Lexeme → Option (LiteralKind × List Lexeme)
  | 0, _ => none
  | fuel + 1, lexemes => do
    let (left, rest) ← readOperand fuel lexemes
    match rest with
    | .mark '+' :: rest | .mark '-' :: rest =>
      let (right, rest) ← readAtom fuel rest
      return (← left.sum? right, rest)
    | _ => return (left, rest)

/-- One or more literals between commas. -/
def readElements : Nat → List Lexeme → Option Elements
  | 0, _ => none
  | fuel + 1, lexemes => do
    let (kind, rest) ← readSum fuel lexemes
    match rest with
    | .mark ',' :: rest =>
      if startsElement rest then
        let more ← readElements fuel rest
        return { more with kinds := kind :: more.kinds }
      else
        return ⟨[kind], true, rest⟩
    | _ => return ⟨[kind], false, rest⟩

/-- One or more elements of a set; what follows them is left. -/
def readSet : Nat → List Lexeme → Option (List Lexeme)
  | 0, _ => none
  | fuel + 1, lexemes => do
    let elements ← readElements fuel lexemes
    if elements.kinds.all LiteralKind.isFixed then some elements.rest else none

/-- The value of an entry of a dictionary and the entries behind it; what follows them is left. -/
def readEntries : Nat → List Lexeme → Option (List Lexeme)
  | 0, _ => none
  | fuel + 1, lexemes => do
    let (_, rest) ← readSum fuel lexemes
    match rest with
    | .mark ',' :: rest =>
      if startsElement rest then
        let (key, rest) ← readSum fuel rest
        match key.isFixed, rest with
        | true, .mark ':' :: rest => readEntries fuel rest
        | _, _ => none
      else
        return rest
    | rest => return rest

end

/-- Whether the first line that is neither blank nor a comment is indented. A line may go on behind
a backslash, and then any of its parts may be indented; a form feed starts a line anew. In a comment
nothing matters. -/
def isIndented (comment continued indented : Bool) : List Char → Bool
  | [] => false
  | '\\' :: '\n' :: rest =>
    if comment then isIndented false false false rest
    else isIndented false (continued || indented) indented rest
  | c :: rest =>
    if c == '\n' then isIndented false false false rest
    else if comment || c == '#' then isIndented true continued indented rest
    else if c == ' ' || c == '\t' then isIndented false continued true rest
    else if c.toNat == 12 then isIndented false continued false rest
    else continued || indented

/-- Whether a text is a literal. Elements without brackets make a tuple. -/
def isLiteral (text : List Char) : Bool :=
  let text := Text.unifyBreaks text
  if text.any (·.toNat == 0) || isIndented false false false text then
    false
  else match lexemes 0 text.length text with
  | none => false
  | some found =>
    let isEnd (lexeme : Lexeme) : Bool := lexeme == .lineEnd
    (readElements (4 * found.length + 4) (found.dropWhile isEnd)).any fun elements =>
      elements.rest.all isEnd

end BlockQuery.Terminal
