import BlockQuery.Datalog.Request
import BlockQuery.Graph.Row
import BlockQuery.Text.Find

/-!
# Block references

A text refers to a block by its nine-character identifier between double round
brackets. References are replaced by the text of their block, whose references
are replaced in turn up to a depth. All references of a text are looked up by one
request; unknown blocks stay as written. Rows for blocks that were not asked for
are expanded like the others.
-/

namespace BlockQuery.Graph

/-! ### References in a text -/

/-- The length of a block identifier. -/
def identifierLength : Nat := 9

/-- Whether a character may stand in a block identifier. -/
def isIdentifierChar (c : Char) : Bool :=
  c.isAlphanum || c == '_' || c == '-'

/-- What opens a reference. -/
def referenceOpen : List Char := ['(', '(']

/-- What closes a reference. -/
def referenceClose : List Char := [')', ')']

/-- The reference at the front of a text: its identifier and what follows it. -/
def referenceAt? (text : List Char) : Option (List Char × List Char) :=
  match Text.dropStart? referenceOpen text with
  | none => none
  | some body =>
    let identifier := body.take identifierLength
    if identifier.length = identifierLength ∧ identifier.all isIdentifierChar then
      (Text.dropStart? referenceClose (body.drop identifierLength)).map fun rest =>
        (identifier, rest)
    else
      none

/-- A text is as long as its start and what follows it. -/
theorem length_dropStart? {start text rest : List Char}
    (h : Text.dropStart? start text = some rest) :
    rest.length + start.length = text.length := by
  rw [Text.dropStart?_eq_some_iff.mp h, List.length_append, Nat.add_comm]

/-- What follows a reference is shorter than the text. -/
theorem length_referenceAt? {text identifier rest : List Char}
    (h : referenceAt? text = some (identifier, rest)) : rest.length < text.length := by
  unfold referenceAt? at h
  split at h
  · contradiction
  · next body hbody =>
    dsimp only at h
    split at h
    · obtain ⟨_, hrest, hpair⟩ := Option.map_eq_some_iff.1 h
      simp only [Prod.mk.injEq] at hpair
      have hopen := length_dropStart? hbody
      have hclose := length_dropStart? hrest
      simp only [referenceOpen, referenceClose, List.length_cons, List.length_nil,
        List.length_drop] at hopen hclose
      rw [hpair.2] at hclose
      omega
    · contradiction

/-- A stretch of a text. -/
inductive Piece
  | plain (c : Char)
  | reference (identifier : List Char)
deriving DecidableEq, Repr

/-- The references of a text, read from left to right, and the characters between them. -/
def pieces (text : List Char) : List Piece :=
  match text with
  | [] => []
  | c :: tail =>
    match h : referenceAt? (c :: tail) with
    | some (identifier, rest) =>
      have : rest.length < (c :: tail).length := length_referenceAt? h
      .reference identifier :: pieces rest
    | none => .plain c :: pieces tail
termination_by text.length
decreasing_by
  · exact this
  · exact Nat.lt_succ_self _

/-- A reference as written. -/
def written (identifier : List Char) : List Char :=
  referenceOpen ++ identifier ++ referenceClose

/-- The identifiers that a text refers to, each once, in the order they appear. -/
def references (text : List Piece) : List String :=
  (text.filterMap fun
    | .plain _ => none
    | .reference identifier => some (String.ofList identifier)).eraseDups

/-! ### Looking blocks up -/

/-- The request for the texts of blocks. -/
def lookupRequest (identifiers : List String) : Datalog.Request where
  text := "[:find ?uid ?string :in $ [?uid ...] " ++
    ":where [?b :block/uid ?uid] [?b :block/string ?string]]"
  arguments := [.arr (identifiers.map .str)]

/-- The numeric value of a cell; truth values count as numbers. -/
def numberOf? : Json → Option Rat
  | .bool value => some (if value then 1 else 0)
  | .int value => some value
  | .real (.finite value) => some value
  | .real .negativeZero => some 0
  | _ => none

/-- Whether two cells identify the same block. -/
def sameIdentifier (a b : Json) : Bool :=
  match a, b with
  | .null, .null => true
  | .str s, .str t => s == t
  | .real (.infinite s), .real (.infinite t) => s == t
  | a, b =>
    match numberOf? a, numberOf? b with
    | some x, some y => x == y
    | _, _ => false

/-- A table of contents with one more entry: a known identifier keeps its place. -/
def setEntry (identifier content : Json) : List (Json × Json) → List (Json × Json)
  | [] => [(identifier, content)]
  | (known, old) :: table =>
    if sameIdentifier known identifier then
      (known, content) :: table
    else
      (known, old) :: setEntry identifier content table

/-- The table with the entry of one row. -/
def addRow (table : List (Json × Json)) (row : Json) : Except Fault (List (Json × Json)) := do
  let identifier ← itemAt row 0
  let content ← itemAt row 1
  match identifier with
  | .arr _ | .obj _ => .error (.notIdentifier identifier.kindName)
  | _ => return setEntry identifier content table

/-- The contents that an answer gives, by identifier. The last row of a block counts. -/
def tableOf (rows : Json) : Except Fault (List (Json × Json)) := do
  (← itemsOf rows).foldlM addRow []

/-- The content of a block in a table. -/
def contentOf? (table : List (Json × Json)) (identifier : String) : Option Json :=
  table.findSome? fun (known, content) =>
    if sameIdentifier known (.str identifier) then some content else none

/-! ### Substitution -/

/-- What a reference is replaced by; an unknown block stays as written. -/
def replacement (table : List (Json × Json)) (identifier : List Char) : Json :=
  (contentOf? table (String.ofList identifier)).getD (.str (String.ofList (written identifier)))

/-- Joins the replacements of all stretches from a position on. Nothing is inserted for null; any
other value that is not a text is a fault at its position. A run of plain characters takes one
position, and `inRun` tells whether it has begun. -/
def substituteFrom (table : List (Json × Json)) (position : Nat) (inRun : Bool) :
    List Piece → Except Fault (List Char)
  | [] => .ok []
  | .plain c :: rest =>
    (substituteFrom table (if inRun then position else position + 1) true rest).map (c :: ·)
  | .reference identifier :: rest =>
    match replacement table identifier with
    | .str text =>
      (substituteFrom table (position + 1) false rest).map (text.toList ++ ·)
    | .null => substituteFrom table position false rest
    | other => .error (.notInsertable position other.kindName)

/-- The text with every known reference replaced by its content. -/
def substitute (table : List (Json × Json)) (text : List Piece) : Except Fault Json :=
  (substituteFrom table 0 false text).map fun characters => .str (String.ofList characters)

/-! ### Expansion -/

/-- How deep references are expanded when nothing else is said. -/
def defaultDepth : Nat := 4

/-- Runs requests in a monad. -/
abbrev Runner (m : Type → Type) := Datalog.Request → ExceptT Fault m Json

/-- A pure result inside a run. -/
def liftFault {m : Type → Type} [Monad m] {α : Type} (result : Except Fault α) :
    ExceptT Fault m α :=
  ExceptT.mk (pure result)

/-- One level deeper, fewer levels are left. -/
theorem levelsLeft_lt {depth maxDepth : Int} (deeper : depth < maxDepth) :
    (maxDepth - (depth + 1)).toNat < (maxDepth - depth).toNat := by
  omega

/-- Replaces the references of a value that should be a text and is `depth` levels deep, down to
`maxDepth`. Empty values are left as they are. -/
def expandFrom {m : Type → Type} [Monad m] (run : Runner m) (depth maxDepth : Int)
    (content : Json) : ExceptT Fault m Json :=
  if depth < maxDepth then
    match content with
    | .str text =>
      let parts := pieces text.toList
      match references parts with
      | [] => pure (.str text)
      | identifiers => do
        let rows ← run (lookupRequest identifiers)
        let table ← liftFault (tableOf rows)
        let expanded ← table.mapM fun (identifier, content) => do
          return (identifier, ← expandFrom run (depth + 1) maxDepth content)
        liftFault (substitute expanded parts)
    | other => if other.isTruthy then throw (.notText other.kindName) else pure other
  else
    pure content
termination_by (maxDepth - depth).toNat
decreasing_by exact levelsLeft_lt ‹depth < maxDepth›

/-- Replaces the references of a value that should be a text, `levels` deep. -/
def expand {m : Type → Type} [Monad m] (run : Runner m) (levels : Nat) (content : Json) :
    ExceptT Fault m Json :=
  expandFrom run 0 levels content

end BlockQuery.Graph
