import BlockQuery.Proofs.Query.Leaves
import BlockQuery.Proofs.Query.Meaning

/-!
# What branches take from outside

A disjunction hands only the subject to its branches.  A branch is closed when
every other variable that it tests occurs in one of its own data patterns.  Text
searches test the block's text, and date windows test the dates that are given as
inputs; both are bound outside of every branch.  So the branches of a query are
closed exactly when none of these leaves stands below a disjunction, and a branch
that is not closed misses no other variables than these.
-/

namespace BlockQuery.Datalog

/-- Whether a variable is bound by the fixed conditions of a request or given as one of
its dates. -/
def Var.isOuter : Var → Bool
  | blockText | startDate _ | endDate _ => true
  | _ => false

@[simp]
theorem Var.isOuter_subject : Var.subject.isOuter = false :=
  rfl

/-- Of the variables that the atoms test, the outer ones occur in no data pattern and the
others do; there are outer ones exactly if the atoms are exposed. -/
structure Exposed (atoms : List Form) (exposed : Prop) : Prop where
  pattern : ∀ v ∈ atoms.flatMap Form.patternVars, v.isOuter = false
  tested : ∀ v ∈ atoms.flatMap Form.testedVars, v.isOuter ∨ v ∈ atoms.flatMap Form.patternVars
  outer : (∃ v ∈ atoms.flatMap Form.testedVars, v.isOuter) ↔ exposed

namespace Exposed

theorem nil : Exposed [] False where
  pattern v inPatterns := by simp at inPatterns
  tested v inTests := by simp at inTests
  outer := by simp

theorem append {first second : List Form} {left right : Prop} (before : Exposed first left)
    (after : Exposed second right) : Exposed (first ++ second) (left ∨ right) where
  pattern v inPatterns := by
    rw [List.flatMap_append, List.mem_append] at inPatterns
    exact inPatterns.elim (before.pattern v) (after.pattern v)
  tested v inTests := by
    rw [List.flatMap_append, List.mem_append] at inTests
    rw [List.flatMap_append, List.mem_append]
    rcases inTests with inFirst | inSecond
    · exact (before.tested v inFirst).imp_right .inl
    · exact (after.tested v inSecond).imp_right .inr
  outer := by
    rw [List.flatMap_append, ← before.outer, ← after.outer]
    simp only [List.mem_append, or_and_right, exists_or]

theorem congr {atoms : List Form} {exposed other : Prop} (exposes : Exposed atoms exposed)
    (same : exposed ↔ other) : Exposed atoms other :=
  ⟨exposes.pattern, exposes.tested, exposes.outer.trans same⟩

variable {form : Form} {exposed : Prop}

/-- Only outer variables are missing in a form. -/
theorem isOuter_of_mem_openVars (exposes : Exposed form.atoms exposed) {v : Var}
    (isOpen : v ∈ form.openVars) : v.isOuter := by
  rw [Form.mem_openVars] at isOpen
  exact (exposes.tested v isOpen.1).resolve_right isOpen.2.2

/-- Nothing is missing in a form exactly if it is not exposed. -/
theorem openVars_eq_nil_iff (exposes : Exposed form.atoms exposed) :
    form.openVars = [] ↔ ¬ exposed := by
  rw [← exposes.outer, List.eq_nil_iff_forall_not_mem]
  constructor
  · rintro closed ⟨v, inTests, isOuter⟩
    apply closed v
    rw [Form.mem_openVars]
    refine ⟨inTests, ?_, ?_⟩
    · rintro rfl
      cases isOuter
    · intro inPatterns
      cases isOuter.symm.trans (exposes.pattern v inPatterns)
  · intro none v isOpen
    exact none ⟨v, (Form.mem_openVars.mp isOpen).1, exposes.isOuter_of_mem_openVars isOpen⟩

/-- Data patterns alone expose nothing. -/
theorem of_patterns {atoms : List Form} (noTest : atoms.flatMap Form.testedVars = [])
    (inner : ∀ v ∈ atoms.flatMap Form.patternVars, v.isOuter = false) : Exposed atoms False where
  pattern := inner
  tested v inTests := by
    rw [noTest] at inTests
    cases inTests
  outer := by simp [noTest]

end Exposed

/-- The branches miss outer variables only, and they miss none exactly if they are in
scope. -/
structure Sealed (branches : List Form) (inScope : Bool) : Prop where
  missing : ∀ branch ∈ branches, ∀ v ∈ branch.openVars, v.isOuter
  closed_iff : (∀ branch ∈ branches, branch.openVars = []) ↔ inScope

namespace Sealed

theorem nil : Sealed [] true where
  missing branch inBranches := by cases inBranches
  closed_iff := by simp

theorem single {branch : Form} {inScope : Bool}
    (exposes : Exposed branch.atoms (inScope = false)) : Sealed [branch] inScope where
  missing other inBranches := by
    cases List.mem_singleton.mp inBranches
    exact fun v => exposes.isOuter_of_mem_openVars
  closed_iff := by
    rw [List.forall_mem_singleton, exposes.openVars_eq_nil_iff, Bool.not_eq_false]

theorem append {first second : List Form} {left right : Bool} (before : Sealed first left)
    (after : Sealed second right) : Sealed (first ++ second) (left && right) where
  missing branch inBranches :=
    (List.mem_append.mp inBranches).elim (before.missing branch) (after.missing branch)
  closed_iff := by
    rw [List.forall_mem_append, before.closed_iff, after.closed_iff, Bool.and_eq_true]

end Sealed

end BlockQuery.Datalog

namespace BlockQuery.Query

open Datalog

mutual

/-- What may stand below a disjunction may stand anywhere. -/
theorem isScoped_of_false {query : Query} (inScope : query.isScoped false) :
    query.isScoped true := by
  cases query with
  | all children => exact isScopedEach_of_false inScope
  | any children => exact inScope
  | not child =>
      rw [isScoped] at inScope ⊢
      exact isScoped_of_false inScope
  | _ => rfl

/-- The same for several queries. -/
theorem isScopedEach_of_false {children : List Query} (inScope : isScopedEach false children) :
    isScopedEach true children := by
  cases children with
  | nil => rfl
  | cons child children =>
      rw [isScopedEach, Bool.and_eq_true] at inScope ⊢
      exact ⟨isScoped_of_false inScope.1, isScopedEach_of_false inScope.2⟩

end

/-! ## Leaves -/

theorem exposed_reference {target : Var} (inner : target.isOuter = false) (key : Attribute)
    (text : String) : Exposed (Form.atomsEach (referenceForms target key text)) False := by
  apply Exposed.of_patterns rfl
  simp [referenceForms, Form.atomsEach, Form.atoms, Form.patternVars, Term.vars, inner]

theorem exposed_user {person : Var} (inner : person.isOuter = false) (key : Attribute)
    (user : String) : Exposed (Form.atomsEach (userForms key person user)) False := by
  apply Exposed.of_patterns rfl
  simp [userForms, Form.atomsEach, Form.atoms, Form.patternVars, Term.vars, inner]

theorem exposed_daily : Exposed (Form.atomsEach dailyForms) False := by
  constructor <;> decide

theorem exposed_window (start finish : Nat) :
    Exposed (Form.atomsEach (windowForms (.startDate start) (.endDate finish))) True := by
  constructor <;> simp [windowForms, Form.atomsEach, Form.atoms, Form.patternVars, Form.testedVars,
    Term.vars, Var.isOuter]

theorem exposed_search (text : String) :
    Exposed (Form.atomsEach [.includes .blockText text]) True := by
  constructor <;> simp [Form.atomsEach, Form.atoms, Form.patternVars, Form.testedVars, Var.isOuter]

/-! ## Compiled queries -/

/-- The leaves of a query decide what its conditions miss and which of their branches are
closed. -/
theorem sealed_conditions (clock : Calendar.Clock) :
    Compiles clock
      (fun _ _ query conditions =>
        Exposed (Form.atomsEach conditions.forms) (query.isScoped false = false) ∧
          Sealed (Form.branchesEach conditions.forms) (query.isScoped true))
      (fun _ _ children parts =>
        Exposed (parts.flatMap fun part => Form.atomsEach part.forms)
            (isScopedEach false children = false) ∧
          Sealed (parts.flatMap fun part => Form.branchesEach part.forms)
            (isScopedEach true children) ∧
          Sealed (parts.map fun part => Form.group part.forms) (isScopedEach false children)) where
  tag _ _ title := ⟨(exposed_reference rfl .nodeTitle title).congr (by simp [isScoped]), .nil⟩
  blockRef _ _ uid := ⟨(exposed_reference rfl .blockUid uid).congr (by simp [isScoped]), .nil⟩
  all _ _ children parts each := by
    rw [atomsEach_conjunction, each_conjunction Form.branchesEach_eq_flatMap]
    exact ⟨each.1, each.2.1⟩
  any _ _ children parts each := by
    rcases each with ⟨exposes, below, branches⟩
    have inner : Form.branchesEach (Conditions.disjunction parts).forms =
        (parts.map fun part => Form.group part.forms) ++
          parts.flatMap fun part => Form.branchesEach part.forms := by
      rw [Conditions.disjunction, Form.branchesEach, Form.branchesEach, Form.branches,
        List.append_nil, Form.branchesEach_eq_flatMap, List.flatMap_map]
      simp only [Form.branches_group]
    have scope : (isScopedEach false children && isScopedEach true children) =
        isScopedEach false children := by
      cases narrow : isScopedEach false children with
      | false => rfl
      | true => rw [Bool.true_and, isScopedEach_of_false narrow]
    rw [atomsEach_disjunction, inner]
    refine ⟨exposes, ?_⟩
    rw [isScoped, ← scope]
    exact branches.append below
  not _ _ child conditions inner := by
    rw [atomsEach_negation, each_negation Form.branchesEach_eq_flatMap (fun _ => rfl)
      Form.branches_group]
    exact inner
  between _ _ _ _ _ _ _ _ := ⟨(exposed_window _ _).congr (by simp [isScoped]), .nil⟩
  search _ _ text := ⟨(exposed_search text).congr (by simp [isScoped]), .nil⟩
  dailyNotes _ _ := ⟨exposed_daily.congr (by simp [isScoped]), .nil⟩
  touchedBy _ _ user := by
    have created : Exposed (Form.atoms (.and (userForms .createUser .eitherCreator user)))
        (true = false) := (exposed_user rfl .createUser user).congr (by simp)
    have edited : Exposed (Form.atoms (.and (userForms .editUser .eitherEditor user)))
        (true = false) := (exposed_user rfl .editUser user).congr (by simp)
    refine ⟨(created.append edited).congr (by simp [isScoped]), ?_⟩
    exact (Sealed.single created).append (Sealed.single edited)
  createdBy _ _ user := ⟨(exposed_user rfl .createUser user).congr (by simp [isScoped]), .nil⟩
  editedBy _ _ user := ⟨(exposed_user rfl .editUser user).congr (by simp [isScoped]), .nil⟩
  nil _ _ := ⟨Exposed.nil.congr (by simp [isScopedEach]), .nil, .nil⟩
  cons _ _ child children conditions parts first rest := by
    rcases rest with ⟨exposes, below, branches⟩
    have branch : Exposed (Form.group conditions.forms).atoms (child.isScoped false = false) := by
      rw [Form.atoms_group]
      exact first.1
    refine ⟨(first.1.append exposes).congr ?_, first.2.append below,
      (Sealed.single branch).append branches⟩
    rw [isScopedEach, Bool.and_eq_false_iff]

/-- Every branch of the conditions of a query is closed exactly if no text search and no
date window of the query stands below a disjunction; and what a branch misses is the
text of the block or a date. -/
theorem branches_closed_iff_isScoped {clock : Calendar.Clock} {query : Query}
    {conditions : Conditions} (ok : query.conditions clock = .ok conditions) :
    ∃ forms, conditions.clauses.readForms = some forms ∧
      ((∀ branch ∈ Form.branchesEach forms, branch.openVars = []) ↔ query.isScoped true) ∧
      ∀ branch ∈ Form.branchesEach forms, ∀ v ∈ branch.openVars, v.isOuter := by
  have branches := ((sealed_conditions clock).holds query ok).2
  exact ⟨conditions.forms, Clauses.readForms_eq rfl, branches.closed_iff, branches.missing⟩

/-- A search beside a disjunction leaves the branches closed. -/
theorem branches_closed_iff_isScoped_beside :
    ∃ conditions forms,
      (all [search "draft", any [tag "a", not dailyNotes]]).conditions newYear =
        .ok conditions ∧
      conditions.clauses.readForms = some forms ∧
      ∀ branch ∈ Form.branchesEach forms, branch.openVars = [] := by
  have compiled : ∃ conditions,
      (all [search "draft", any [tag "a", not dailyNotes]]).conditions newYear =
        .ok conditions := ⟨_, rfl⟩
  rcases compiled with ⟨conditions, ok⟩
  rcases branches_closed_iff_isScoped ok with ⟨forms, read, closed, _⟩
  exact ⟨conditions, forms, ok, read, closed.mpr rfl⟩

/-- A search below a disjunction tests the text of the block, which its branch does not
bind. -/
theorem search_branch_not_closed :
    ∃ conditions forms,
      (any [search "x", tag "a"]).conditions newYear = .ok conditions ∧
      conditions.clauses.readForms = some forms ∧
      ∃ branch ∈ Form.branchesEach forms, branch.openVars = [.blockText] := by
  refine ⟨_, _, rfl, Clauses.readForms_eq rfl, .includes .blockText "x", ?_, ?_⟩
  · exact List.mem_cons_self
  · decide

end BlockQuery.Query
