import BlockQuery.Query.ParseError
import BlockQuery.Text.Blank
import BlockQuery.Text.Letter

/-!
# Scanning the leaves of a query

Scanners read from the front of a character list and return what is left. A
failure records how many characters were left, so that its position follows from
the length of the whole expression.
-/

namespace BlockQuery.Query

open BlockQuery.Text

/-- A failed scan: its cause and the number of characters left at its position. -/
structure Stop where
  cause : ParseCause
  left : Nat
deriving DecidableEq, Repr

/-- A value with the rest of the input, which is shorter than `bound`. -/
structure Scanned (α : Type) (bound : Nat) where
  value : α
  rest : List Char
  shorter : rest.length < bound

/-- A scan of the rest of an input is a scan of the input. -/
def Scanned.widen {α : Type} {bound wider : Nat} (scanned : Scanned α bound)
    (le : bound ≤ wider) : Scanned α wider :=
  ⟨scanned.value, scanned.rest, Nat.lt_of_lt_of_le scanned.shorter le⟩

theorem length_trimLeft_le (s : List Char) : (trimLeft s).length ≤ s.length :=
  (List.dropWhile_sublist _).length_le

/-- Reads one given character. -/
def expect (wanted : Char) : (s : List Char) → Except Stop (Scanned Unit s.length)
  | [] => .error ⟨.expected wanted none, 0⟩
  | c :: rest =>
    if c = wanted then
      .ok ⟨(), rest, Nat.lt_succ_self _⟩
    else
      .error ⟨.expected wanted (some c), rest.length + 1⟩

/-- The text up to the `]]` that closes `depth` nested pairs and the pair around
them, and what follows. A `]]` is looked for before a `[[`. -/
def tagBody : Nat → List Char → Option (List Char × List Char)
  | _, [] => none
  | 0, ']' :: ']' :: rest => some ([], rest)
  | depth + 1, ']' :: ']' :: rest =>
    (tagBody depth rest).map fun (body, after) => (']' :: ']' :: body, after)
  | depth, '[' :: '[' :: rest =>
    (tagBody (depth + 1) rest).map fun (body, after) => ('[' :: '[' :: body, after)
  | depth, c :: rest =>
    (tagBody depth rest).map fun (body, after) => (c :: body, after)

/-- The text up to the first `))`, and what follows. -/
def uidBody : List Char → Option (List Char × List Char)
  | [] => none
  | ')' :: ')' :: rest => some ([], rest)
  | c :: rest => (uidBody rest).map fun (body, after) => (c :: body, after)

/-- The text up to the closing quote, where `\"` stands for a quote and any other
backslash for itself, and what follows. -/
def quotedBody : List Char → Option (List Char × List Char)
  | [] => none
  | '"' :: rest => some ([], rest)
  | '\\' :: '"' :: rest => (quotedBody rest).map fun (body, after) => ('"' :: body, after)
  | c :: rest => (quotedBody rest).map fun (body, after) => (c :: body, after)

theorem tagBody_length {depth : Nat} {s body rest : List Char}
    (found : tagBody depth s = some (body, rest)) : rest.length < s.length := by
  fun_induction tagBody depth s generalizing body rest with
  | case1 => simp at found
  | case2 =>
    simp only [Option.some.injEq, Prod.mk.injEq] at found
    simp only [← found.2, List.length_cons]
    omega
  | case3 _ _ ih | case4 _ _ ih | case5 _ _ _ _ _ _ ih =>
    obtain ⟨⟨inner, after⟩, inner_found, pair_eq⟩ := Option.map_eq_some_iff.1 found
    cases pair_eq
    have := ih inner_found
    simp only [List.length_cons]
    omega

theorem uidBody_length {s body rest : List Char}
    (found : uidBody s = some (body, rest)) : rest.length < s.length := by
  fun_induction uidBody s generalizing body rest with
  | case1 => simp at found
  | case2 =>
    simp only [Option.some.injEq, Prod.mk.injEq] at found
    simp only [← found.2, List.length_cons]
    omega
  | case3 _ _ _ ih =>
    obtain ⟨⟨inner, after⟩, inner_found, pair_eq⟩ := Option.map_eq_some_iff.1 found
    cases pair_eq
    have := ih inner_found
    simp only [List.length_cons]
    omega

theorem quotedBody_length {s body rest : List Char}
    (found : quotedBody s = some (body, rest)) : rest.length < s.length := by
  fun_induction quotedBody s generalizing body rest with
  | case1 => simp at found
  | case2 =>
    simp only [Option.some.injEq, Prod.mk.injEq] at found
    simp only [← found.2, List.length_cons]
    omega
  | case3 _ ih | case4 _ _ _ _ ih =>
    obtain ⟨⟨inner, after⟩, inner_found, pair_eq⟩ := Option.map_eq_some_iff.1 found
    cases pair_eq
    have := ih inner_found
    simp only [List.length_cons]
    omega

/-- Reads a page reference: its title without the blanks around it. -/
def readTag (s : List Char) : Except Stop (Scanned String s.length) := do
  let first ← expect '[' s
  let second ← expect '[' first.rest
  match found : tagBody 0 second.rest with
  | none => .error ⟨.unclosedTag, 0⟩
  | some (body, rest) =>
    if (trim body).isEmpty then
      .error ⟨.emptyTag, s.length⟩
    else
      .ok ⟨String.ofList (trim body), rest,
        Nat.lt_trans (tagBody_length found) (Nat.lt_trans second.shorter first.shorter)⟩

/-- Reads a block reference: its identifier without the blanks around it. -/
def readBlockRef (s : List Char) : Except Stop (Scanned String s.length) := do
  let first ← expect '(' s
  let second ← expect '(' first.rest
  match found : uidBody second.rest with
  | none => .error ⟨.unclosedBlockRef, s.length⟩
  | some (body, rest) =>
    if (trim body).isEmpty then
      .error ⟨.emptyBlockRef, s.length⟩
    else
      .ok ⟨String.ofList (trim body), rest,
        Nat.lt_trans (uidBody_length found) (Nat.lt_trans second.shorter first.shorter)⟩

/-- Reads a text between double quotes. -/
def readQuoted (s : List Char) : Except Stop (Scanned String s.length) := do
  let opened ← expect '"' s
  match found : quotedBody opened.rest with
  | none => .error ⟨.unclosedText, s.length⟩
  | some (body, rest) =>
    .ok ⟨String.ofList body, rest, Nat.lt_trans (quotedBody_length found) opened.shorter⟩

/-- The trimmed text in front of the next closing brace, and what follows. -/
def plainText (s : List Char) : String × List Char :=
  (String.ofList (trim (s.takeWhile (· != '}'))), s.dropWhile (· != '}'))

theorem length_plainText_le (s : List Char) : (plainText s).2.length ≤ s.length :=
  (List.dropWhile_sublist _).length_le

/-- Reads what to search for: a quoted text, or all up to the closing brace. -/
def readSearchText (s : List Char) : Except Stop (Scanned String (s.length + 1)) :=
  if s.head? = some '"' then
    (readQuoted s).map fun scanned => scanned.widen (Nat.le_succ _)
  else
    .ok ⟨(plainText s).1, (plainText s).2, Nat.lt_succ_of_le (length_plainText_le s)⟩

/-- Reads a user: a page reference, or all up to the closing brace. -/
def readUser (s : List Char) : Except Stop (Scanned String (s.length + 1)) :=
  if ['[', '['].isPrefixOf s then
    (readTag s).map fun scanned => scanned.widen (Nat.le_succ _)
  else if (plainText s).1.isEmpty then
    .error ⟨.missingUser, s.length⟩
  else
    .ok ⟨(plainText s).1, (plainText s).2, Nat.lt_succ_of_le (length_plainText_le s)⟩

/-- The operators of two words, which are tried before single words. -/
def twoWordOperators : List Operator :=
  [.createdBy, .editedBy, .dailyNotes]

/-- The lower-case operator name at the front, and what follows it. A name of one
word is a run of letters, which may be empty. -/
def operatorName (s : List Char) : String × List Char :=
  match twoWordOperators.find? fun operator =>
      operator.name.toList == (s.take operator.name.length).map lower with
  | some operator => (operator.name, s.drop operator.name.length)
  | none => (String.ofList ((s.takeWhile isLetter).map lower), s.dropWhile isLetter)

theorem length_operatorName_le (s : List Char) : (operatorName s).2.length ≤ s.length := by
  unfold operatorName
  split
  · exact (List.drop_sublist _ _).length_le
  · exact (List.dropWhile_sublist _).length_le

theorem length_trimLeft_operatorName_le (s : List Char) :
    (trimLeft (operatorName (trimLeft s)).2).length ≤ s.length :=
  Nat.le_trans (length_trimLeft_le _)
    (Nat.le_trans (length_operatorName_le _) (length_trimLeft_le s))

/-- Reads an operator name with its colon, and the blanks around them. -/
def readOperator (s : List Char) : Except Stop (Scanned Operator s.length) := do
  let afterColon ← expect ':' (trimLeft (operatorName (trimLeft s)).2)
  match Operator.ofName? (operatorName (trimLeft s)).1 with
  | none => .error ⟨.unknownOperator (operatorName (trimLeft s)).1, (trimLeft s).length⟩
  | some operator =>
    .ok ⟨operator, trimLeft afterColon.rest,
      Nat.lt_of_le_of_lt (length_trimLeft_le _)
        (Nat.lt_of_lt_of_le afterColon.shorter (length_trimLeft_operatorName_le s))⟩

end BlockQuery.Query
