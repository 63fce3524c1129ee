import BlockQuery.Proofs.Datalog.Answer

/-!
# Variables inside forms

A form is made of data patterns and predicates, joined by connectives.  This
module says where variables occur in them: which a data pattern holds, which a
predicate tests, and which a branch of a disjunction tests although nothing in
the branch binds them.  A branch gets only the subject from outside.

The conditions of a request are texts, so they are read back into forms first.
-/

namespace BlockQuery.Datalog

namespace Form

/-! ## Collecting from several forms -/

section

variable {α : Type} {collect : Form → List α} {each : List Form → List α}

theorem eq_flatMap_of_each (nil : each [] = [])
    (cons : ∀ form forms, each (form :: forms) = collect form ++ each forms)
    (forms : List Form) : each forms = forms.flatMap collect := by
  induction forms with
  | nil => exact nil
  | cons form forms ih => rw [cons, ih, List.flatMap_cons]

/-- Grouped forms hold what each of them holds. -/
theorem collect_group (nil : each [] = [])
    (cons : ∀ form forms, each (form :: forms) = collect form ++ each forms)
    (conjunction : ∀ forms, collect (and forms) = each forms) (forms : List Form) :
    collect (group forms) = each forms := by
  unfold group
  split
  · rw [cons, nil, List.append_nil]
  · exact conjunction forms

end

/-! ## Atoms -/

mutual

/-- The data patterns and predicates of a form, from left to right. -/
def atoms : Form → List Form
  | and forms | orJoin forms => atomsEach forms
  | not form => atoms form
  | atom => [atom]

/-- The data patterns and predicates of several forms, from left to right. -/
def atomsEach : List Form → List Form
  | [] => []
  | form :: forms => atoms form ++ atomsEach forms

end

theorem atomsEach_eq_flatMap (forms : List Form) : atomsEach forms = forms.flatMap atoms :=
  eq_flatMap_of_each rfl (fun _ _ => rfl) forms

theorem atoms_group (forms : List Form) : (group forms).atoms = atomsEach forms :=
  collect_group rfl (fun _ _ => rfl) (fun _ => rfl) forms

/-! ## Variables -/

/-- The variables of a data pattern. -/
def patternVars : Form → List Var
  | fact entity _ value => entity :: value.vars
  | _ => []

/-- The variables that a predicate tests. -/
def testedVars : Form → List Var
  | atLeast value bound | atMost value bound => [value, bound]
  | includes value _ | isDailyTitle value => [value]
  | _ => []

mutual

/-- The variables of a form, once for every place where they stand. -/
def vars : Form → List Var
  | and forms => varsEach forms
  | orJoin branches => .subject :: varsEach branches
  | not form => vars form
  | atom => patternVars atom ++ testedVars atom

/-- The variables of several forms, once for every place where they stand. -/
def varsEach : List Form → List Var
  | [] => []
  | form :: forms => vars form ++ varsEach forms

end

theorem varsEach_eq_flatMap (forms : List Form) :
    varsEach forms = forms.flatMap vars :=
  eq_flatMap_of_each rfl (fun _ _ => rfl) forms

theorem vars_group (forms : List Form) : (group forms).vars = varsEach forms :=
  collect_group rfl (fun _ _ => rfl) (fun _ => rfl) forms

/-! ## Branches -/

mutual

/-- The branches of all disjunctions inside a form. -/
def branches : Form → List Form
  | and forms => branchesEach forms
  | orJoin alternatives => alternatives ++ branchesEach alternatives
  | not form => branches form
  | _ => []

/-- The branches of all disjunctions inside several forms. -/
def branchesEach : List Form → List Form
  | [] => []
  | form :: forms => branches form ++ branchesEach forms

end

theorem branchesEach_eq_flatMap (forms : List Form) :
    branchesEach forms = forms.flatMap branches :=
  eq_flatMap_of_each rfl (fun _ _ => rfl) forms

theorem branches_group (forms : List Form) : (group forms).branches = branchesEach forms :=
  collect_group rfl (fun _ _ => rfl) (fun _ => rfl) forms

/-- The variables that a predicate inside a form tests although no data pattern inside
the form holds them.  The subject does not count, since it is carried in. -/
def openVars (form : Form) : List Var :=
  (form.atoms.flatMap testedVars).filter fun v =>
    v ≠ .subject ∧ v ∉ form.atoms.flatMap patternVars

theorem mem_openVars {form : Form} {v : Var} :
    v ∈ form.openVars ↔ v ∈ form.atoms.flatMap testedVars ∧ v ≠ .subject ∧
      v ∉ form.atoms.flatMap patternVars := by
  rw [openVars, List.mem_filter, decide_eq_true_eq]

/-! ## Reading conditions -/

/-- The form that a text is read as. -/
def read? (text : String) : Option Form :=
  match readTrees text.toList with
  | some [tree] => ofTree? tree
  | _ => none

/-- A form is read back from its text. -/
theorem read?_render (form : Form) : read? form.render = some form := by
  rw [read?, readTrees_render]
  exact ofTree?_tree form

end Form

/-- The forms that the conditions are read as, one for each text. -/
def Clauses.readForms (clauses : Clauses) : Option (List Form) :=
  clauses.forms.mapM Form.read?

/-- Conditions that were written from forms are read as these forms. -/
theorem Clauses.readForms_eq {clauses : Clauses} {forms : List Form}
    (rendered : clauses.forms = forms.map Form.render) : clauses.readForms = some forms := by
  rw [readForms, rendered]
  clear rendered
  induction forms with
  | nil => rfl
  | cons form forms ih =>
      rw [List.map_cons, List.mapM_cons, Form.read?_render, ih]
      rfl

end BlockQuery.Datalog
