import BlockQuery.Calendar.Resolve
import BlockQuery.Datalog.Request
import BlockQuery.Query

/-!
# Conditions of a query

A query tree becomes a list of forms about the subject. References are numbered
together from left to right, and so are the two dates of every date window; a
node's numbers start behind those of the leaves to its left, which are counted on
the tree. Dates become inputs, each with the timestamp that its text denotes.
-/

namespace BlockQuery

open Datalog

/-- Forms with the variables that are given from outside and their values, in order. -/
structure Conditions where
  forms : List Form := []
  inputs : List (Var × Int) := []
deriving Repr

namespace Conditions

/-- Conditions one after the other. -/
def append (first second : Conditions) : Conditions where
  forms := first.forms ++ second.forms
  inputs := first.inputs ++ second.inputs

/-- The same inputs with all forms grouped and wrapped into one. -/
def wrap (wrapper : Form → Form) (conditions : Conditions) : Conditions where
  forms := [wrapper (Form.group conditions.forms)]
  inputs := conditions.inputs

/-- All of several conditions. -/
def conjunction (parts : List Conditions) : Conditions where
  forms := parts.flatMap forms
  inputs := parts.flatMap inputs

/-- At least one of several conditions. -/
def disjunction (parts : List Conditions) : Conditions where
  forms := [.orJoin (parts.map fun part => Form.group part.forms)]
  inputs := parts.flatMap inputs

/-- The conditions as text. -/
def clauses (conditions : Conditions) : Clauses where
  forms := conditions.forms.map Form.render
  inputs := conditions.inputs.map fun input => input.1.name
  values := conditions.inputs.map fun input => .int input.2

end Conditions

namespace Query

mutual

/-- The number of page and block references in a tree. -/
def refCount : Query → Nat
  | tag _ | blockRef _ => 1
  | all children | any children => refCountEach children
  | not child => refCount child
  | _ => 0

/-- The number of page and block references in several trees. -/
def refCountEach : List Query → Nat
  | [] => 0
  | child :: children => refCount child + refCountEach children

end

mutual

/-- The number of dates in a tree. -/
def dateCount : Query → Nat
  | between .. => 2
  | all children | any children => dateCountEach children
  | not child => dateCount child
  | _ => 0

/-- The number of dates in several trees. -/
def dateCountEach : List Query → Nat
  | [] => 0
  | child :: children => dateCount child + dateCountEach children

end

/-- The subject refers to the entity that has this text under the key. -/
def referenceForms (target : Var) (key : Attribute) (text : String) : List Form :=
  [.fact target key (.text text), .fact .subject .blockRefs (.var target)]

/-- The user under the key of the subject has this name. -/
def userForms (key : Attribute) (person : Var) (user : String) : List Form :=
  [.fact .subject key (.var person), .fact person .displayName (.text user)]

/-- The subject's page has the title of a daily page. -/
def dailyForms : List Form :=
  [.fact .subject .blockPage (.var .dailyPage), .fact .dailyPage .nodeTitle (.var .dailyTitle),
   .isDailyTitle .dailyTitle]

/-- The subject was created between two inputs. -/
def windowForms (start finish : Var) : List Form :=
  [.fact .subject .createTime (.var .createTime), .atLeast .createTime start,
   .atMost .createTime finish]

mutual

/-- The conditions of a tree whose references are numbered from `refs` and whose dates are
numbered from `dates`. -/
def conditionsFrom (clock : Calendar.Clock) (refs dates : Nat) :
    Query → Except Calendar.DateError Conditions
  | tag title => .ok { forms := referenceForms (.pageRef refs) .nodeTitle title }
  | blockRef uid => .ok { forms := referenceForms (.blockRef refs) .blockUid uid }
  | all children => (conditionsEach clock refs dates children).map .conjunction
  | any children => (conditionsEach clock refs dates children).map .disjunction
  | not child => (conditionsFrom clock refs dates child).map (.wrap .not)
  | between start finish => do
    let first ← Calendar.resolve clock start
    let last ← Calendar.resolve clock finish
    return {
      forms := windowForms (.startDate dates) (.endDate (dates + 1))
      inputs := [(.startDate dates, first), (.endDate (dates + 1), Calendar.endOfDay last)] }
  | search text => .ok { forms := [.includes .blockText text] }
  | dailyNotes => .ok { forms := dailyForms }
  | touchedBy user => .ok {
      forms := [.orJoin [.and (userForms .createUser .eitherCreator user),
        .and (userForms .editUser .eitherEditor user)]] }
  | createdBy user => .ok { forms := userForms .createUser .creator user }
  | editedBy user => .ok { forms := userForms .editUser .editor user }

/-- The conditions of several trees, numbered from left to right. -/
def conditionsEach (clock : Calendar.Clock) (refs dates : Nat) :
    List Query → Except Calendar.DateError (List Conditions)
  | [] => .ok []
  | child :: children => do
    let first ← conditionsFrom clock refs dates child
    let rest ← conditionsEach clock (refs + child.refCount) (dates + child.dateCount) children
    return first :: rest

end

/-- The conditions of a whole query. -/
def conditions (clock : Calendar.Clock) (query : Query) :
    Except Calendar.DateError Conditions :=
  query.conditionsFrom clock 0 0

end Query

end BlockQuery
