import BlockQuery.Proofs.Datalog.Coincidence
import Mathlib.Data.Set.Card

/-!
# The parts of a request

A request is put together from lists of texts: what it asks for, its inputs, its
modifiers and its conditions.  The order of the matches may be any text, so these
parts cannot always be told from the whole again; here they are listed beside the
request, whose text they make up.

The parts are read one by one.  The conditions together are a conjunction, the inputs
take the arguments in order, and what is asked for is read from every solution.
-/

namespace BlockQuery.Datalog

/-- The variable that a text is read as. -/
def Var.read? (text : String) : Option Var :=
  ofName? text.toList

/-- A variable is read back from its name. -/
theorem Var.read?_name (v : Var) : read? v.name = some v :=
  v.ofName?_name

/-- The texts that a request is put together from. -/
structure Layout where
  selected : List String
  inputs : List String
  modifiers : List String := []
  conditions : List String

namespace Layout

/-- The text of the whole request. -/
def text (layout : Layout) : String :=
  "[" ++ " ".intercalate ([":find " ++ " ".intercalate layout.selected,
      ":in " ++ " ".intercalate layout.inputs] ++ layout.modifiers) ++
    "\n  " ++ ":where" ++ "\n  " ++ "\n  ".intercalate layout.conditions ++ "]"

/-- The bindings solve the conditions, starting from the inputs with their arguments. -/
def Solves (layout : Layout) (arguments : List Json) (db : Database) (after : Bindings) : Prop :=
  ∃ names vars pairs forms,
    layout.inputs = "$" :: names ∧
    names.mapM Var.read? = some vars ∧
    pairInputs vars arguments = some pairs ∧
    layout.conditions.mapM Form.read? = some forms ∧
    Form.Solve db (.ofPairs pairs) forms after

/-- The values that a variable has in the solutions. -/
def Values (layout : Layout) (arguments : List Json) (db : Database) (v : Var) : Set Value :=
  {x | ∃ after, layout.Solves arguments db after ∧ after v = some x}

/-- The values of what is asked for, one row for all solutions that agree on them. -/
def Rows (layout : Layout) (arguments : List Json) (db : Database) : Set (List Value) :=
  {row | ∃ vars after, layout.selected.mapM Var.read? = some vars ∧
    layout.Solves arguments db after ∧ vars.map after = row.map some}

end Layout

/-- What is written item by item is read item by item. -/
theorem mapM_map_eq_some {α β : Type} {write : α → β} {read : β → Option α}
    (inverse : ∀ a, read (write a) = some a) (items : List α) :
    (items.map write).mapM read = some items := by
  induction items with
  | nil => rfl
  | cons item items ih =>
      rw [List.map_cons, List.mapM_cons, inverse, ih]
      rfl

/-- Inputs and conditions that were written from variables and forms are read as these. -/
theorem Layout.solves_iff {layout : Layout} {arguments : List Json} {vars : List Var}
    {pairs : List (Var × Value)} {forms : List Form}
    (inputs : layout.inputs = "$" :: vars.map Var.name)
    (given : pairInputs vars arguments = some pairs)
    (conditions : layout.conditions = forms.map Form.render) {db : Database} {after : Bindings} :
    layout.Solves arguments db after ↔ Form.Solve db (.ofPairs pairs) forms after := by
  have readVars := mapM_map_eq_some Var.read?_name vars
  have readForms : layout.conditions.mapM Form.read? = some forms := by
    rw [conditions, mapM_map_eq_some Form.read?_render]
  constructor
  · rintro ⟨names, _, _, _, listed, asVars, asPairs, asForms, solved⟩
    cases inputs.symm.trans listed
    cases readVars.symm.trans asVars
    cases given.symm.trans asPairs
    cases readForms.symm.trans asForms
    exact solved
  · intro solved
    exact ⟨_, vars, pairs, forms, inputs, readVars, given, readForms, solved⟩

namespace Clauses

/-- The names of a request's inputs: the database, the inputs of the conditions and the page. -/
def inputNames (clauses : Clauses) (pageUid : Option String) : List String :=
  "$" :: clauses.inputs ++ if (pageScope pageUid).isSome then ["?target-page-uid"] else []

/-- The parts of a find request. -/
def findLayout (clauses : Clauses) (options : RequestOptions) (selection : List String) :
    Layout where
  selected := selection
  inputs := clauses.inputNames options.pageUid
  modifiers := modifiers options
  conditions := (baseForms ++ pageTitleForm :: scopeForms options.pageUid).map Form.render ++
    clauses.forms

/-- The parts of a count request. -/
def countLayout (clauses : Clauses) (pageUid : Option String) : Layout where
  selected := ["(count ?b)"]
  inputs := clauses.inputNames pageUid
  conditions := (baseForms ++ scopeForms pageUid).map Form.render ++ clauses.forms

/-- A find request is put together from its parts. -/
theorem text_findRequest (clauses : Clauses) (options : RequestOptions) (selection : List String) :
    (clauses.findRequest options selection).text = (clauses.findLayout options selection).text :=
  rfl

/-- A count request is put together from its parts. -/
theorem text_count (clauses : Clauses) (pageUid : Option String) :
    (clauses.count pageUid).text = (clauses.countLayout pageUid).text :=
  rfl

end Clauses

end BlockQuery.Datalog
