import BlockQuery.Proofs.Datalog.FormText
import BlockQuery.Text.Digit
import BlockQuery.Text.Find

/-!
# The pattern of daily page titles

A request selects daily pages by a regular expression.  The notation of such an
expression is read into pieces here, as far as the pattern of titles uses it: the
two anchors, characters that stand for themselves, runs of digits and choices
between words.  A pattern finds a text when some part of the text matches its
pieces in order, and the pattern of titles finds exactly a month, a day with an
ordinal suffix and a year of four digits, from the start of the text to its end.
-/

namespace BlockQuery.Datalog.Pattern

/-! ## Notation -/

/-- A piece of a regular expression. -/
inductive Piece
  /-- The start of the text. -/
  | start
  /-- The end of the text. -/
  | finish
  | char (c : Char)
  /-- A run of ASCII digits whose length lies between two bounds. -/
  | digits (least most : Nat)
  | oneOf (words : List (List Char))
deriving DecidableEq, Repr

/-- Whether a character stands for itself. -/
def isPlain (c : Char) : Bool :=
  c.isAlphanum || c == ' ' || c == ','

/-- A bound of a repetition. -/
def bound? (text : List Char) : Option Nat :=
  if text ≠ [] ∧ text.all Char.isDigit then some (Text.decimal text) else none

/-- The bounds of a repetition: one number that is both, or two. -/
def bounds? (text : List Char) : Option (Nat × Nat) :=
  match Text.splitOn ',' text with
  | [exact] => (bound? exact).map fun n => (n, n)
  | [least, most] => (bound? least).bind fun n => (bound? most).map fun m => (n, m)
  | _ => none

/-- The first piece of a notation and what follows it. -/
def next? : List Char → Option (Piece × List Char)
  | '^' :: rest => some (.start, rest)
  | '$' :: rest => some (.finish, rest)
  | '\\' :: 'd' :: '{' :: rest =>
    (Text.cut? ['}'] rest).bind fun (bounds, rest) =>
      (bounds? bounds).map fun (least, most) => (.digits least most, rest)
  | '(' :: rest =>
    (Text.cut? [')'] rest).bind fun (body, rest) =>
      if (Text.splitOn '|' body).all (List.all · isPlain) then
        some (.oneOf (Text.splitOn '|' body), rest)
      else
        none
  | c :: rest => if isPlain c then some (.char c, rest) else none
  | [] => none

/-- The pieces of a notation, at most as many as the given number. -/
def piecesUpTo : Nat → List Char → Option (List Piece)
  | _, [] => some []
  | 0, _ :: _ => none
  | most + 1, text =>
    (next? text).bind fun (piece, rest) => (piecesUpTo most rest).map (piece :: ·)

/-- The pieces of a notation; every piece takes at least one character. -/
def pieces? (text : List Char) : Option (List Piece) :=
  piecesUpTo text.length text

/-! ## Matching -/

/-- The pieces match the middle one of three texts that stand side by side. -/
def Matches : List Piece → List Char → List Char → List Char → Prop
  | [], _, inside, _ => inside = []
  | .start :: pieces, before, inside, after => before = [] ∧ Matches pieces before inside after
  | .finish :: pieces, before, inside, after =>
    inside = [] ∧ after = [] ∧ Matches pieces before inside after
  | .char c :: pieces, before, inside, after =>
    ∃ rest, inside = c :: rest ∧ Matches pieces (before ++ [c]) rest after
  | .digits least most :: pieces, before, inside, after =>
    ∃ run rest, inside = run ++ rest ∧ (∀ c ∈ run, c.isDigit) ∧ least ≤ run.length ∧
      run.length ≤ most ∧ Matches pieces (before ++ run) rest after
  | .oneOf words :: pieces, before, inside, after =>
    ∃ word ∈ words, ∃ rest, inside = word ++ rest ∧ Matches pieces (before ++ word) rest after

/-- A pattern, written as a literal, matches some part of a text. -/
def Finds (pattern text : String) : Prop :=
  ∃ inQuotes pieces before inside after,
    pattern.toList = ['#'] ++ ('"' :: inQuotes ++ ['"']) ∧
    pieces? inQuotes = some pieces ∧
    text.toList = before ++ (inside ++ after) ∧
    Matches pieces before inside after

/-! ## Titles -/

/-- The ordinal suffixes. -/
def suffixes : List (List Char) :=
  ["st".toList, "nd".toList, "rd".toList, "th".toList]

/-- The pieces of the pattern of daily page titles. -/
def dailyTitle : List Piece :=
  [.start, .oneOf (Calendar.monthNames.map String.toList), .char ' ', .digits 1 2,
   .oneOf suffixes, .char ',', .char ' ', .digits 4 4, .finish]

theorem pieces?_dailyTitleLiteral : pieces? dailyTitleLiteral = some dailyTitle := by
  decide +kernel

/-- What the pattern of daily page titles finds. -/
theorem finds_dailyTitlePattern_iff {text : String} :
    Finds dailyTitlePattern text ↔
      ∃ month ∈ Calendar.monthNames, ∃ day suffix year : List Char,
        text.toList = month.toList ++ (' ' :: (day ++ (suffix ++ (',' :: ' ' :: year)))) ∧
        (∀ c ∈ day, c.isDigit) ∧ 1 ≤ day.length ∧ day.length ≤ 2 ∧ suffix ∈ suffixes ∧
        (∀ c ∈ year, c.isDigit) ∧ year.length = 4 := by
  constructor
  · rintro ⟨inQuotes, pieces, before, inside, after, quoted, read, split, found⟩
    rw [dailyTitlePattern_toList] at quoted
    obtain rfl : dailyTitleLiteral = inQuotes := by simpa using quoted
    obtain rfl : dailyTitle = pieces := by simpa [pieces?_dailyTitleLiteral] using read
    -- one part of the text for each piece, from left to right
    obtain ⟨rfl, name, listed, _, rfl, _, rfl, day, _, rfl, dayDigits, enough, few, suffix,
      suffixListed, _, rfl, _, rfl, _, rfl, year, _, rfl, yearDigits, least, most, rfl, rfl, -⟩ :=
      found
    obtain ⟨month, monthListed, rfl⟩ := List.mem_map.mp listed
    refine ⟨month, monthListed, day, suffix, year, ?_, dayDigits, enough, few, suffixListed,
      yearDigits, Nat.le_antisymm most least⟩
    simpa using split
  · rintro ⟨month, listed, day, suffix, year, split, dayDigits, enough, few, suffixListed,
      yearDigits, four⟩
    refine ⟨dailyTitleLiteral, dailyTitle, [], text.toList, [], dailyTitlePattern_toList,
      pieces?_dailyTitleLiteral, by rw [List.append_nil, List.nil_append], ?_⟩
    exact ⟨rfl, month.toList, List.mem_map_of_mem listed, _, split, _, rfl, day, _, rfl, dayDigits,
      enough, few, suffix, suffixListed, _, rfl, _, rfl, _, rfl, year, [],
      (List.append_nil year).symm, yearDigits, four.ge, four.le, rfl, rfl, rfl⟩

end BlockQuery.Datalog.Pattern
