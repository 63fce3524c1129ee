import BlockQuery.Query
import BlockQuery.Query.Framing
import BlockQuery.Query.Scan

/-!
# Reading queries

A query expression is a page reference, a block reference, or an operator with
its operands between braces. The reader descends through the operators; every
expression it reads shortens the input, which bounds the descent.
-/

namespace BlockQuery.Query

open BlockQuery.Text

theorem Scanned.length_rest_le {α : Type} {n bound : Nat} (scanned : Scanned α (n + 1))
    (lt : n < bound) : scanned.rest.length ≤ bound :=
  Nat.le_of_lt (Nat.lt_of_le_of_lt (Nat.le_of_lt_succ scanned.shorter) lt)

theorem length_le_of_trimLeft_eq {s rest : List Char} (start : trimLeft s = rest) :
    rest.length ≤ s.length :=
  start ▸ length_trimLeft_le s

/-- Reads the two dates of a date window. -/
def readWindow (s : List Char) : Except Stop (Scanned Query s.length) := do
  let start ← readTag s
  let finish ← readTag (trimLeft start.rest)
  .ok ⟨.between start.value finish.value, finish.rest,
    Nat.lt_trans (Nat.lt_of_lt_of_le finish.shorter (length_trimLeft_le _)) start.shorter⟩

/-- Reads the blanks and the closing brace after an operand. -/
def readClosing {bound : Nat} (query : Query) (s : List Char) (le : s.length ≤ bound) :
    Except Stop (Scanned Query bound) := do
  let closed ← expect '}' (trimLeft s)
  .ok ⟨query, closed.rest,
    Nat.lt_of_lt_of_le closed.shorter (Nat.le_trans (length_trimLeft_le s) le)⟩

mutual

/-- Reads one expression, after any blanks. -/
def readExpression (s : List Char) : Except Stop (Scanned Query s.length) :=
  match start : trimLeft s with
  | '{' :: body => do
    let operator ← readOperator body
    have bodyLength : body.length < s.length :=
      length_le_of_trimLeft_eq start
    have operandLength : operator.rest.length < s.length :=
      Nat.lt_trans operator.shorter bodyLength
    match operator.value with
    | .all => do
      let children ← readChildren operator.rest
      if children.value.isEmpty then
        .error ⟨.noChildren .all, children.rest.length⟩
      else
        readClosing (.all children.value) children.rest (children.length_rest_le operandLength)
    | .any => do
      let children ← readChildren operator.rest
      if children.value.isEmpty then
        .error ⟨.noChildren .any, children.rest.length⟩
      else
        readClosing (.any children.value) children.rest (children.length_rest_le operandLength)
    | .not => do
      let child ← readExpression operator.rest
      readClosing (.not child.value) child.rest
        (Nat.le_of_lt (Nat.lt_trans child.shorter operandLength))
    | .between => do
      let window ← readWindow operator.rest
      readClosing window.value window.rest
        (Nat.le_of_lt (Nat.lt_trans window.shorter operandLength))
    | .search => do
      let text ← readSearchText operator.rest
      readClosing (.search text.value) text.rest (text.length_rest_le operandLength)
    | .dailyNotes => readClosing .dailyNotes operator.rest (Nat.le_of_lt operandLength)
    | .touchedBy => do
      let user ← readUser operator.rest
      readClosing (.touchedBy user.value) user.rest (user.length_rest_le operandLength)
    | .createdBy => do
      let user ← readUser operator.rest
      readClosing (.createdBy user.value) user.rest (user.length_rest_le operandLength)
    | .editedBy => do
      let user ← readUser operator.rest
      readClosing (.editedBy user.value) user.rest (user.length_rest_le operandLength)
  | rest => do
    have restLength : rest.length ≤ s.length :=
      length_le_of_trimLeft_eq start
    if ['[', '['].isPrefixOf rest then
      let title ← readTag rest
      .ok ⟨.tag title.value, title.rest, Nat.lt_of_lt_of_le title.shorter restLength⟩
    else if ['(', '('].isPrefixOf rest then
      let uid ← readBlockRef rest
      .ok ⟨.blockRef uid.value, uid.rest, Nat.lt_of_lt_of_le uid.shorter restLength⟩
    else
      .error ⟨.expectedExpression (String.ofList (rest.take 10)), rest.length⟩
termination_by (s.length, 0)

/-- Reads expressions up to a closing brace or the end, and the blanks between. -/
def readChildren (s : List Char) : Except Stop (Scanned (List Query) (s.length + 1)) :=
  match start : trimLeft s with
  | [] => .ok ⟨[], [], Nat.succ_pos _⟩
  | c :: rest => do
    have startLength : rest.length + 1 ≤ s.length :=
      length_le_of_trimLeft_eq start
    if c = '}' then
      .ok ⟨[], c :: rest, Nat.lt_succ_of_le startLength⟩
    else
      let child ← readExpression (c :: rest)
      have childLength : child.rest.length < s.length :=
        Nat.lt_of_lt_of_le child.shorter startLength
      let others ← readChildren child.rest
      .ok ⟨child.value :: others.value, others.rest,
        Nat.lt_succ_of_le (others.length_rest_le childLength)⟩
termination_by (s.length, 1)
decreasing_by
  all_goals simp only [List.length_cons, Prod.lex_def]; omega

end

/-- Reads the name in front of a query, if there is one, and the blanks after it. -/
def readName (s : List Char) : Except Stop (Option String × List Char) :=
  if s.head? = some '"' then
    (readQuoted s).map fun name => (some name.value, trimLeft name.rest)
  else
    .ok (none, s)

/-- Reads a whole query expression with its optional name. -/
def readNamed (s : List Char) : Except Stop NamedQuery := do
  let (name, afterName) ← readName (trimLeft s)
  let query ← readExpression afterName
  let rest := trimLeft query.rest
  if rest.isEmpty then
    .ok ⟨query.value, name⟩
  else
    .error ⟨.trailing (String.ofList rest), rest.length⟩

/-- The refusal that a failed scan of an expression of the given length means. -/
def Stop.toError (stop : Stop) (length : Nat) : ParseError :=
  ⟨stop.cause, length - stop.left⟩

/-- Parses a query, with or without its frame. -/
def parse (text : String) : Except ParseError NamedQuery :=
  let expression := expressionText text.toList
  (readNamed expression).mapError fun stop => stop.toError expression.length

end BlockQuery.Query
