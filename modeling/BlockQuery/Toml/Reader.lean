import BlockQuery.Toml.Scalar

/-!
# Reading TOML

A document is read statement by statement: entries, table headers and headers of
arrays of tables. A table may be opened by one header only, values are never
overwritten, and what an inline table or an array holds is closed; marks on key
paths keep track of this.
-/

namespace BlockQuery.Toml

/-! ### Marks -/

/-- What a mark on a key path forbids. -/
inductive Mark
  /-- The table was opened and may not be opened again. -/
  | opened
  /-- The value was written in one piece and nothing may be added to it. -/
  | closed
deriving DecidableEq, Repr

/-- The marks on key paths. A mark that is deep also holds below its path. -/
abbrev Marks := List (List String × Mark × Bool)

namespace Marks

/-- Whether a path carries a mark, its own or a deep one from above. -/
def has (marks : Marks) (path : List String) (mark : Mark) : Bool :=
  marks.any fun (marked, kind, deep) =>
    kind == mark && (marked == path || (deep && marked.isPrefixOf path))

/-- The marks with one more. -/
def add (marks : Marks) (path : List String) (mark : Mark) (deep : Bool) : Marks :=
  (path, mark, deep) :: marks

/-- The marks without those on a path and below it. -/
def clear (marks : Marks) (path : List String) : Marks :=
  marks.filter fun (marked, _) => !path.isPrefixOf marked

end Marks

/-! ### Tables inside tables -/

/-- Changes the table at a path, creating the tables on the way to it. The path leads through the
last table of an array if `throughArrays`. It fails at any other value. -/
def changeAt (throughArrays : Bool) (change : Fields → Option Fields) :
    List String → Fields → Option Fields
  | [], fields => change fields
  | key :: path, fields =>
    match fields.lookup key with
    | none => (changeAt throughArrays change path []).map fun inner =>
        setField key (.table inner) fields
    | some (.table inner) => (changeAt throughArrays change path inner).map fun inner =>
        setField key (.table inner) fields
    | some (.array items) =>
      match items.getLast? with
      | some (.table inner) =>
        if throughArrays then
          (changeAt throughArrays change path inner).map fun inner =>
            setField key (.array (items.dropLast ++ [.table inner])) fields
        else
          none
      | _ => none
    | some _ => none

/-- Adds an entry unless its key is taken. -/
def addEntry (key : String) (value : Value) (fields : Fields) : Option Fields :=
  match fields.lookup key with
  | none => some (setField key value fields)
  | some _ => none

/-- Adds an empty table to the array of tables under a key. -/
def addTable (key : String) (fields : Fields) : Option Fields :=
  match fields.lookup key with
  | none => some (setField key (.array [.table []]) fields)
  | some (.array items) => some (setField key (.array (items ++ [.table []])) fields)
  | some _ => none

/-- A failure to change a table is an error of the document. -/
def orMalformed {α : Type} (result : Option α) : Except ReadError α :=
  match result with
  | some value => .ok value
  | none => .error .malformed

/-- Whether a value was written in one piece that may not be added to. -/
def Value.isClosed : Value → Bool
  | array _ | table _ => true
  | _ => false

/-! ### Comments -/

/-- The text behind a comment, if one stands here. -/
def skipComment (text : List Char) : Except ReadError (List Char) :=
  match text with
  | '#' :: rest =>
    if (rest.takeWhile (· != '\n')).any isIllegal then
      .error .malformed
    else
      .ok (rest.dropWhile (· != '\n'))
  | text => .ok text

/-- The text behind blanks, line breaks and comments; the fuel bounds their number. -/
def skipGap : Nat → List Char → Except ReadError (List Char)
  | 0, text => .ok text
  | fuel + 1, text => do
    let rest ← skipComment (text.dropWhile isSpaceOrNewline)
    if rest.length < text.length then skipGap fuel rest else return rest

/-- The text behind the gap between two items of an array. -/
def skipItemGap (text : List Char) : Except ReadError (List Char) :=
  skipGap text.length text

/-! ### Values -/

mutual

/-- Reads a value. The fuel bounds the number of values inside it. -/
def readValue : Nat → List Char → Except ReadError (Value × List Char)
  | 0, _ => .error .malformed
  | _ + 1, [] => .error .malformed
  | fuel + 1, c :: text =>
    if c = '[' then do
      let rest ← skipItemGap text
      match rest with
      | ']' :: after => return (.array [], after)
      | rest =>
        let (items, after) ← readItems fuel rest
        return (.array items, after)
    else if c = '{' then
      match skipSpace text with
      | '}' :: after => .ok (.table [], after)
      | rest => do
        let (fields, after) ← readInline fuel [] [] rest
        return (.table fields, after)
    else
      match anyString? (c :: text) with
      | some result => result.map fun (body, rest) => (.string (String.ofList body), rest)
      | none => plainScalar (c :: text)

/-- Reads the items of an array up to its closing bracket. -/
def readItems : Nat → List Char → Except ReadError (List Value × List Char)
  | 0, _ => .error .malformed
  | fuel + 1, text => do
    let (item, rest) ← readValue fuel text
    match ← skipItemGap rest with
    | ']' :: after => return ([item], after)
    | ',' :: more =>
      match ← skipItemGap more with
      | ']' :: after => return ([item], after)
      | more =>
        let (items, after) ← readItems fuel more
        return (item :: items, after)
    | _ => .error .malformed

/-- Reads the entries of an inline table up to its closing brace, after those known. -/
def readInline : Nat → Marks → Fields → List Char → Except ReadError (Fields × List Char)
  | 0, _, _, _ => .error .malformed
  | fuel + 1, marks, known, text => do
    let (path, value, rest) ← readEntry fuel text
    if marks.has path .closed then
      .error .malformed
    else
      let known ← orMalformed
        (changeAt false (addEntry (path.getLast?.getD "") value) path.dropLast known)
      match skipSpace rest with
      | '}' :: after => return (known, after)
      | ',' :: more =>
        let marks := if value.isClosed then marks.add path .closed true else marks
        readInline fuel marks known (skipSpace more)
      | _ => .error .malformed

/-- Reads a key, an equals sign and a value. -/
def readEntry : Nat → List Char → Except ReadError (List String × Value × List Char)
  | 0, _ => .error .malformed
  | fuel + 1, text => do
    let (path, rest) ← key text
    match rest with
    | '=' :: rest =>
      let (value, after) ← readValue fuel (skipSpace rest)
      return (path, value, after)
    | _ => .error .malformed

end

/-! ### Documents -/

/-- What has been read of a document. -/
structure Draft where
  fields : Fields := []
  marks : Marks := []
  /-- Tables that dotted keys of the present section created; they are marked when it ends. -/
  pending : List (List String) := []
  /-- The table that entries belong to. -/
  header : List String := []

namespace Draft

/-- Ends a section: its pending tables are marked as opened. -/
def finish (draft : Draft) : Draft :=
  { draft with
    marks := draft.pending.map (fun path => (path, Mark.opened, false)) ++ draft.marks
    pending := [] }

/-- Opens a table. -/
def openTable (draft : Draft) (path : List String) : Except ReadError Draft :=
  if draft.marks.has path .opened || draft.marks.has path .closed then
    .error .malformed
  else do
    let fields ← orMalformed (changeAt true some path draft.fields)
    return { draft with fields, marks := draft.marks.add path .opened false, header := path }

/-- Adds a table to an array of tables and opens it. -/
def openItem (draft : Draft) (path : List String) : Except ReadError Draft :=
  if draft.marks.has path .closed then
    .error .malformed
  else do
    let fields ← orMalformed
      (changeAt true (addTable (path.getLast?.getD "")) path.dropLast draft.fields)
    return { draft with
      fields
      marks := (draft.marks.clear path).add path .opened false
      header := path }

/-- The tables that a dotted key passes through. -/
def passedTables (draft : Draft) (path : List String) : List (List String) :=
  (List.range' 1 (path.length - 1)).map fun count => draft.header ++ path.take count

/-- Adds an entry to the open table. -/
def enter (draft : Draft) (path : List String) (value : Value) : Except ReadError Draft :=
  let passed := draft.passedTables path
  let parent := draft.header ++ path.dropLast
  if passed.any (draft.marks.has · .opened) || draft.marks.has parent .closed then
    .error .malformed
  else do
    let fields ← orMalformed
      (changeAt true (addEntry (path.getLast?.getD "") value) parent draft.fields)
    let marks := if value.isClosed then
        draft.marks.add (draft.header ++ path) .closed true
      else
        draft.marks
    return { draft with fields, marks, pending := passed ++ draft.pending }

end Draft

/-- Whether a character may start a key. -/
def startsKey (c : Char) : Bool :=
  isBareKeyChar c || c == '"' || c == '\''

/-- Reads one statement, which does not start with a space or a line break. -/
def readStatement (draft : Draft) (text : List Char) : Except ReadError (Draft × List Char) :=
  match text with
  | '[' :: '[' :: rest => do
    let (path, rest) ← key (skipSpace rest)
    let draft ← draft.finish.openItem path
    match rest with
    | ']' :: ']' :: after => return (draft, after)
    | _ => .error .malformed
  | '[' :: rest => do
    let (path, rest) ← key (skipSpace rest)
    let draft ← draft.finish.openTable path
    match rest with
    | ']' :: after => return (draft, after)
    | _ => .error .malformed
  | '#' :: _ => .ok (draft, text)
  | c :: _ =>
    if startsKey c then do
      let (path, value, rest) ← readEntry (text.length + 1) text
      return (← draft.enter path value, rest)
    else
      .error .malformed
  | [] => .ok (draft, [])

/-- Reads the statements of a document; the fuel bounds the number of lines. -/
def readStatements : Nat → Draft → List Char → Except ReadError Draft
  | 0, _, _ => .error .malformed
  | fuel + 1, draft, text =>
    match skipSpace text with
    | [] => .ok draft
    | '\n' :: rest => readStatements fuel draft rest
    | text => do
      let (draft, rest) ← readStatement draft text
      match ← skipComment (skipSpace rest) with
      | [] => return draft
      | '\n' :: rest => readStatements fuel draft rest
      | _ => .error .malformed

/-- The text with every pair of carriage return and line feed as one line feed. -/
def joinLineEnds : List Char → List Char
  | '\r' :: '\n' :: rest => '\n' :: joinLineEnds rest
  | c :: rest => c :: joinLineEnds rest
  | [] => []

/-- Reads a whole document. -/
def read (text : String) : Except ReadError Fields := do
  let text := joinLineEnds text.toList
  let draft ← readStatements (text.length + 1) {} text
  return draft.fields

end BlockQuery.Toml
