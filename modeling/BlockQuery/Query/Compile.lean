import BlockQuery.Query.Conditions
import BlockQuery.Query.Reader

/-!
# Compiling query blocks

A block's text is read, its dates are resolved, and the request for its matches
is written, in this order: a text that cannot be read is reported as such even if
its dates cannot be resolved either.
-/

namespace BlockQuery

open Datalog

/-- Why a text has no request. -/
inductive CompileError
  | unreadable (error : Query.ParseError)
  | undated (error : Calendar.DateError)
  | unwritable (error : RequestError)

/-- The wording of a compile error. -/
def CompileError.message : CompileError → String
  | unreadable error => error.message
  | undated error => error.message
  | unwritable error => error.message

/-- A query with its conditions. -/
structure Compiled where
  named : NamedQuery
  conditions : Conditions

namespace Compiled

/-- The request for the matches. -/
def find (compiled : Compiled) (options : RequestOptions) : Except RequestError Request :=
  compiled.conditions.clauses.find options defaultSelection

/-- The request for the number of matches. -/
def count (compiled : Compiled) (pageUid : Option String) : Request :=
  compiled.conditions.clauses.count pageUid

end Compiled

/-- Reads the text of a query block and resolves its dates. -/
def compile (clock : Calendar.Clock) (source : String) : Except CompileError Compiled := do
  let named ← (Query.parse source).mapError .unreadable
  let conditions ← (named.query.conditions clock).mapError .undated
  return { named, conditions }

/-- What is known of a query block before it is run. -/
structure Preview where
  query : Query
  name : Option String
  /-- The request for the matches. -/
  request : Request

/-- Compiles the text of a query block without a graph to run it on. -/
def preview (clock : Calendar.Clock) (source : String) (options : Option RequestOptions) :
    Except CompileError Preview := do
  let named ← (Query.parse source).mapError .unreadable
  let conditions ← (named.query.conditions clock).mapError .undated
  let request ← (conditions.clauses.find (options.getD {}) defaultSelection).mapError .unwritable
  return { query := named.query, name := named.name, request }

end BlockQuery
