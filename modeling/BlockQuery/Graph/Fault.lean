import BlockQuery.Graph.Delay
import BlockQuery.Json
import BlockQuery.Text.Integer
import BlockQuery.Text.Quoted

/-!
# Faults

What can go wrong between a request and its matches: the graph refuses or cannot
be reached, or it answers with values of the wrong shape. Every fault is a cause
here, and its wording is given once.
-/

namespace BlockQuery.Graph

/-- A kind of failure, known by its name. -/
structure FailureKind where
  name : String
  nonempty : name ≠ ""
deriving DecidableEq, Repr

/-- A failure of the graph or of the way to it. -/
inductive GraphError
  /-- A failure in the words of whoever ran the request. -/
  | reported (message : String)
  /-- A failure of another kind. -/
  | raised (kind : FailureKind) (message : String)
  /-- The token was rejected. -/
  | unauthorized (graph : String)
  /-- No connection after the last attempt. -/
  | unreachable (url : String) (attempts : Nat) (cause : String)
  /-- No attempt is left to be made. -/
  | exhausted (url : String) (attempts : Nat)
  | tooManyRedirects (graph : String)
  | rateLimited (attempts : Nat)
  /-- The graph answered with an error status. -/
  | refused (graph : String) (status : Int) (body : String)
  /-- The answer is not JSON. -/
  | unreadable (graph : String)
deriving DecidableEq, Repr

/-- How much of an answer is repeated in a message. -/
def excerptLength : Nat := 200

/-- The wording of a failure. -/
def GraphError.message : GraphError → String
  | reported message => message
  | raised _ message => message
  | unauthorized graph =>
    s!"Authentication failed for graph '{graph}'. " ++
      "Check the API token in your config or ROAM_API_TOKEN."
  | unreachable url attempts cause => s!"Request to {url} failed after {attempts} attempts: {cause}"
  | exhausted url attempts => s!"Request to {url} failed after {attempts} attempts"
  | tooManyRedirects graph => s!"Too many redirects for graph '{graph}'"
  | rateLimited attempts => s!"Rate limited by Roam after {attempts} retries. Try again later."
  | refused graph status body =>
    s!"Query against graph '{graph}' failed (HTTP {status}): " ++
      String.ofList (body.toList.take excerptLength)
  | unreadable graph => s!"Invalid JSON from graph '{graph}'"

/-- The name of the kind of a failure. -/
def GraphError.kind : GraphError → String
  | raised kind _ => kind.name
  | unauthorized _ => "GraphAuthError"
  | unreachable .. => "GraphConnectionError"
  | _ => "GraphError"

/-- Why a request has no usable answer. Kinds of values are given by their names. -/
inductive Fault
  | graph (error : GraphError)
  /-- Rows were expected. -/
  | notIterable (kind : String)
  /-- A row was expected. -/
  | notIndexable (kind : String)
  /-- A list has no item at the position asked for. -/
  | listTooShort
  /-- A text has no character at the position asked for. -/
  | textTooShort
  /-- An object has no field at the position asked for. -/
  | noSuchKey (key : Nat)
  /-- A text was expected in place of a value that is not empty. -/
  | notText (kind : String)
  /-- The value cannot identify a block. -/
  | notIdentifier (kind : String)
  /-- The value at a position of the expanded text cannot be inserted into it. -/
  | notInsertable (position : Nat) (kind : String)
  /-- The text of a count is not a number. -/
  | notNumeral (text : String)
  /-- The number of digits of a count is too large. -/
  | tooManyDigits (digits : Nat)
  /-- The value is not a number. -/
  | notNumber (kind : String)
  /-- The number is not finite. -/
  | notFinite (name : String)
  /-- The answer is JSON but not an object. -/
  | notObject (kind : String)
  /-- The location of a redirect is not a URL. -/
  | badLocation (reason : String)
  /-- A delay cannot be spent. -/
  | badDelay (error : DelayError)
deriving DecidableEq, Repr

/-- The wording of a fault. -/
def Fault.message : Fault → String
  | graph error => error.message
  | notIterable kind => s!"'{kind}' object is not iterable"
  | notIndexable kind => s!"'{kind}' object is not subscriptable"
  | listTooShort => "list index out of range"
  | textTooShort => "string index out of range"
  | noSuchKey key => toString key
  | notText kind => s!"expected string or bytes-like object, got '{kind}'"
  | notIdentifier kind => s!"unhashable type: '{kind}'"
  | notInsertable position kind => s!"sequence item {position}: expected str instance, {kind} found"
  | notNumeral text =>
    "invalid literal for int() with base 10: " ++
      String.ofList ((Text.quoted text).toList.take excerptLength)
  | tooManyDigits digits => Text.tooLongMessage digits
  | notNumber kind =>
    s!"int() argument must be a string, a bytes-like object or a real number, not '{kind}'"
  | notFinite name => s!"cannot convert float {name} to integer"
  | notObject kind => s!"'{kind}' object has no attribute 'get'"
  | badLocation reason => reason
  | badDelay error => error.message

/-- The name of the kind of a fault. -/
def Fault.kind : Fault → String
  | graph error => error.kind
  | notIterable _ | notIndexable _ | notText _ | notIdentifier _ | notInsertable .. | notNumber _ =>
    "TypeError"
  | listTooShort | textTooShort => "IndexError"
  | noSuchKey _ => "KeyError"
  | notNumeral _ | tooManyDigits _ | badLocation _ => "ValueError"
  | notFinite name => if name = "NaN" then "ValueError" else "OverflowError"
  | notObject _ => "AttributeError"
  | badDelay .tooLong => "OverflowError"
  | badDelay .undefined => "ValueError"

end BlockQuery.Graph
