import BlockQuery.Datalog.Form
import BlockQuery.Json
import BlockQuery.Text.Integer

/-!
# Requests

A request is the text of a query with the values of its inputs. The find request
asks for the identifier, text and page title of the matching blocks, a part of
them at a time; the count request asks only for their number. Both have the same
inputs and may be restricted to one page. A find request whose numbers have too many
digits is not written.
-/

namespace BlockQuery.Datalog

/-- Conditions as text, with the names of their inputs and the values given to them. -/
structure Clauses where
  forms : List String := []
  inputs : List String := []
  values : List Json := []

/-- Which part of the matches is asked for, in which order, on which page. -/
structure RequestOptions where
  /-- The largest number of matches; nothing and -1 both stand for no bound. -/
  limit : Option Int := none
  offset : Int := 0
  order : Option String := none
  pageUid : Option String := none
deriving DecidableEq, Repr

namespace RequestOptions

/-- Whether the number of matches is bounded. -/
def isBounded (options : RequestOptions) : Bool :=
  options.limit.any (· != -1)

/-- The numbers that are written into a request: the bound, and how many matches are skipped. -/
def numbers (options : RequestOptions) : List Int :=
  (if options.isBounded then options.limit.toList else []) ++
    if 0 < options.offset then [options.offset] else []

/-- Whether all numbers can be written. -/
def isWritable (options : RequestOptions) : Bool :=
  options.numbers.all Text.isWritable

end RequestOptions

/-- Why a request is not written. -/
inductive RequestError
  /-- A number has too many digits. -/
  | longNumber
deriving DecidableEq, Repr

/-- The wording of a request's error. -/
def RequestError.message : RequestError → String
  | longNumber => Text.unwritableMessage

/-- A query text and the values of its inputs. -/
structure Request where
  text : String
  arguments : List Json

/-- The order of matches when none is asked for. -/
def defaultOrder : String := Var.blockUid.name ++ " asc"

/-- What a find request asks for. -/
def defaultSelection : List String :=
  [Var.blockUid, Var.blockText, Var.pageTitle].map Var.name

/-- What every matching block has. -/
def baseForms : List Form :=
  [.fact .subject .blockString (.var .blockText),
   .fact .subject .blockUid (.var .blockUid),
   .fact .subject .blockPage (.var .page)]

/-- The title of the page of a block. -/
def pageTitleForm : Form :=
  .fact .page .nodeTitle (.var .pageTitle)

/-- The restriction to one page. -/
def pageScopeForm : Form :=
  .fact .page .blockUid (.var .targetPage)

/-- The page that a request is restricted to; an empty identifier restricts nothing. -/
def pageScope (pageUid : Option String) : Option String :=
  pageUid.filter (· != "")

/-- The form of the restriction, if there is one. -/
def scopeForms (pageUid : Option String) : List Form :=
  if (pageScope pageUid).isSome then [pageScopeForm] else []

namespace Clauses

/-- The inputs of a request: the database, the inputs of the conditions and the page. -/
def inputSection (clauses : Clauses) (pageUid : Option String) : String :=
  let page := if (pageScope pageUid).isSome then [Var.targetPage.name] else []
  ":in " ++ " ".intercalate ("$" :: clauses.inputs ++ page)

/-- The values of the inputs behind the database. -/
def arguments (clauses : Clauses) (pageUid : Option String) : List Json :=
  clauses.values ++ (pageScope pageUid).toList.map Json.str

/-- The start of a line inside a request. -/
def lineBreak : String := "\n  "

/-- A request of a header and conditions. -/
def request (clauses : Clauses) (pageUid : Option String) (header : List String)
    (forms : List Form) : Request where
  text := "[" ++ " ".intercalate header ++ lineBreak ++ ":where" ++ lineBreak ++
    lineBreak.intercalate (forms.map Form.render ++ clauses.forms) ++ "]"
  arguments := clauses.arguments pageUid

/-- The modifiers that bound, skip and order the matches. -/
def modifiers (options : RequestOptions) : List String :=
  (if options.isBounded then options.limit.toList.map (s!":limit {·}") else []) ++
    (if 0 < options.offset then [s!":offset {options.offset}"] else []) ++
    ((options.order.filter (· != "")).toList.map (s!":order {·}"))

/-- The request for the matching blocks, once its numbers are written. -/
def findRequest (clauses : Clauses) (options : RequestOptions)
    (selection : List String) : Request :=
  clauses.request options.pageUid
    ([":find " ++ " ".intercalate selection, clauses.inputSection options.pageUid] ++
      modifiers options)
    (baseForms ++ pageTitleForm :: scopeForms options.pageUid)

/-- The request for the matching blocks, unless a number cannot be written. -/
def find (clauses : Clauses) (options : RequestOptions) (selection : List String) :
    Except RequestError Request :=
  if options.isWritable then
    .ok (clauses.findRequest options selection)
  else
    .error .longNumber

/-- The request for the number of matching blocks. -/
def count (clauses : Clauses) (pageUid : Option String) : Request :=
  clauses.request pageUid
    [":find (count " ++ Var.subject.name ++ ")", clauses.inputSection pageUid]
    (baseForms ++ scopeForms pageUid)

end Clauses

end BlockQuery.Datalog
