/-!
# Errors of the query reader

A text is refused at a position of the query expression and for a cause. The
wording of every refusal is given here, once.
-/

namespace BlockQuery.Query

/-- The operators that may follow an opening brace. -/
inductive Operator
  | all
  | any
  | not
  | between
  | search
  | dailyNotes
  | touchedBy
  | createdBy
  | editedBy
deriving DecidableEq, Repr

namespace Operator

/-- The spelling of an operator in lower case. -/
def name : Operator → String
  | all => "and"
  | any => "or"
  | not => "not"
  | between => "between"
  | search => "search"
  | dailyNotes => "daily notes"
  | touchedBy => "by"
  | createdBy => "created by"
  | editedBy => "edited by"

/-- All operators. -/
def every : List Operator :=
  [all, any, not, between, search, dailyNotes, touchedBy, createdBy, editedBy]

/-- The operator with the given lower-case spelling. -/
def ofName? (name : String) : Option Operator :=
  every.find? fun operator => operator.name == name

end Operator

/-- Why a text is not a query. -/
inductive ParseCause
  /-- A fixed character is missing; `found` is what stands there instead. -/
  | expected (wanted : Char) (found : Option Char)
  /-- No expression starts here; `found` is the beginning of what does. -/
  | expectedExpression (found : String)
  /-- The name after the opening brace is not an operator. -/
  | unknownOperator (name : String)
  /-- A conjunction or disjunction has no children. -/
  | noChildren (operator : Operator)
  | unclosedTag
  | emptyTag
  | unclosedBlockRef
  | emptyBlockRef
  | missingUser
  | unclosedText
  /-- Something follows the query. -/
  | trailing (rest : String)
deriving DecidableEq, Repr

/-- A refusal: its cause and the character offset in the query expression. -/
structure ParseError where
  cause : ParseCause
  position : Nat
deriving DecidableEq, Repr

/-- What is shown in place of missing input. -/
def endMark : String := "EOF"

/-- The wording of a refusal. -/
def ParseError.message (error : ParseError) : String :=
  match error.cause with
  | .expected wanted found =>
    let shown := (found.map String.singleton).getD endMark
    s!"Expected '{wanted}' at position {error.position}, found '{shown}'"
  | .expectedExpression found =>
    let shown := if found.isEmpty then endMark else found
    s!"Expected '\x7b', '[[', or '((' at position {error.position}, found: \"{shown}\""
  | .unknownOperator name =>
    let shown := if name.isEmpty then "(empty)" else name
    s!"Unknown operator: {shown}"
  | .noChildren operator => s!"{operator.name} operator requires at least one child"
  | .unclosedTag => "Unclosed tag reference"
  | .emptyTag => "Empty tag reference"
  | .unclosedBlockRef => "Unclosed block reference"
  | .emptyBlockRef => "Empty block reference"
  | .missingUser => "Missing user name"
  | .unclosedText => "Unclosed quoted string"
  | .trailing rest => s!"Unexpected content after query: \"{rest}\""

end BlockQuery.Query
