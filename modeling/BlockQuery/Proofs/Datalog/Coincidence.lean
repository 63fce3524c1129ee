import BlockQuery.Proofs.Datalog.Occurrence

/-!
# Variables that do not matter

Whether a form holds depends on the variables that occur in it and on no others.  So a
condition on a variable that occurs nowhere else may be added to a request or left out:
every solution of the other conditions can be kept as it is, with a value for the new
variable.
-/

namespace BlockQuery.Datalog

namespace Bindings

/-- The bindings give the same values to all variables but one. -/
def AgreeOff (v : Var) (first second : Bindings) : Prop :=
  ∀ w, w ≠ v → first w = second w

/-- The bindings without a value for one variable. -/
def erase (bindings : Bindings) (v : Var) : Bindings :=
  fun w => if w = v then none else bindings w

theorem set_of_ne {bindings : Bindings} {v w : Var} (other : w ≠ v) (x : Value) :
    bindings.set v x w = bindings w :=
  if_neg other

theorem erase_of_ne {bindings : Bindings} {v w : Var} (other : w ≠ v) :
    bindings.erase v w = bindings w :=
  if_neg other

theorem agreeOff_set (bindings : Bindings) (v : Var) (x : Value) :
    AgreeOff v bindings (bindings.set v x) :=
  fun _ other => (set_of_ne other x).symm

theorem agreeOff_erase (bindings : Bindings) (v : Var) :
    AgreeOff v bindings (bindings.erase v) :=
  fun _ other => (erase_of_ne other).symm

section

variable {v : Var} {first second : Bindings}

theorem AgreeOff.symm (agree : AgreeOff v first second) : AgreeOff v second first :=
  fun w other => (agree w other).symm

/-- An extension by other variables is one of the other bindings too. -/
theorem AgreeOff.exists_extends (agree : AgreeOff v first second) {vars : List Var}
    (absent : v ∉ vars) {after : Bindings} (extension : first.Extends vars after) :
    ∃ moved, second.Extends vars moved ∧ AgreeOff v after moved := by
  refine ⟨fun w => if w = v then second v else after w, ⟨?_, ?_⟩, ?_⟩
  · intro w x bound
    dsimp only
    split
    · next same => rw [← same, bound]
    · next other => exact extension.keeps w x ((agree w other).trans bound)
  · intro w
    split
    · next same => simp [same, absent]
    · next other => rw [extension.binds, agree w other]
  · intro w other
    exact (if_neg other).symm

end

end Bindings

namespace Form

mutual

/-- The variables that a form binds occur in it. -/
theorem mem_vars_of_mem_binders (form : Form) {v : Var} (binds : v ∈ binders form) :
    v ∈ vars form := by
  cases form with
  | fact entity key value => exact List.mem_append_left _ binds
  | and forms => exact mem_varsEach_of_mem_bindersEach forms binds
  | orJoin branches =>
      cases List.mem_singleton.mp binds
      exact List.mem_cons_self
  | _ => cases binds

/-- The variables that several forms bind occur in them. -/
theorem mem_varsEach_of_mem_bindersEach (forms : List Form) {v : Var}
    (binds : v ∈ bindersEach forms) : v ∈ varsEach forms := by
  cases forms with
  | nil => cases binds
  | cons form forms =>
      rcases List.mem_append.mp binds with inFirst | inRest
      · exact List.mem_append_left _ (mem_vars_of_mem_binders form inFirst)
      · exact List.mem_append_right _ (mem_varsEach_of_mem_bindersEach forms inRest)

end

/-- The value of a term without the variable. -/
theorem value_eq_of_agreeOff {v : Var} {first second : Bindings}
    (agree : Bindings.AgreeOff v first second) {term : Term} (absent : v ∉ term.vars) :
    term.value first = term.value second := by
  cases term with
  | var w => exact agree w fun same => absent (List.mem_singleton.mpr same.symm)
  | text s => rfl

mutual

/-- A form without the variable holds of the other bindings too. -/
theorem holds_of_agreeOff {db : Database} {v : Var} {first second : Bindings}
    (agree : Bindings.AgreeOff v first second) (form : Form) (absent : v ∉ vars form)
    (holds : Holds db first form) : Holds db second form := by
  have at_of_mem : ∀ {w}, w ∈ vars form → first w = second w := by
    intro w occurs
    exact agree w fun same => absent (same ▸ occurs)
  cases form with
  | fact entity key value =>
      rcases holds with ⟨id, x, entityBound, valueBound, has⟩
      refine ⟨id, x, (at_of_mem List.mem_cons_self).symm.trans entityBound, ?_, has⟩
      rw [← value_eq_of_agreeOff agree fun inValue => absent (List.mem_append_left _
        (List.mem_cons_of_mem _ inValue))]
      exact valueBound
  | atLeast value bound =>
      rcases holds with ⟨m, n, valueBound, boundBound, less⟩
      exact ⟨m, n, (at_of_mem List.mem_cons_self).symm.trans valueBound,
        (at_of_mem (List.mem_cons_of_mem _ List.mem_cons_self)).symm.trans boundBound, less⟩
  | atMost value bound =>
      rcases holds with ⟨m, n, valueBound, boundBound, less⟩
      exact ⟨m, n, (at_of_mem List.mem_cons_self).symm.trans valueBound,
        (at_of_mem (List.mem_cons_of_mem _ List.mem_cons_self)).symm.trans boundBound, less⟩
  | includes value part =>
      rcases holds with ⟨s, bound, contains⟩
      exact ⟨s, (at_of_mem List.mem_cons_self).symm.trans bound, contains⟩
  | isDailyTitle value =>
      rcases holds with ⟨s, bound, found⟩
      exact ⟨s, (at_of_mem List.mem_cons_self).symm.trans bound, found⟩
  | and forms => exact holdEach_of_agreeOff agree forms absent holds
  | orJoin branches =>
      -- the branches see the subject alone, which is not the variable
      have carried : first.only .subject = second.only .subject := by
        funext w
        unfold Bindings.only
        split
        · next same =>
            subst same
            exact at_of_mem List.mem_cons_self
        · rfl
      rw [Holds] at holds ⊢
      rwa [← carried]
  | not form =>
      rintro ⟨after, extension, inner⟩
      have free : v ∉ binders form := fun binds => absent (mem_vars_of_mem_binders form binds)
      rcases agree.symm.exists_extends free extension with ⟨moved, beyond, same⟩
      exact holds ⟨moved, beyond, holds_of_agreeOff same form absent inner⟩

/-- Forms without the variable hold of the other bindings too. -/
theorem holdEach_of_agreeOff {db : Database} {v : Var} {first second : Bindings}
    (agree : Bindings.AgreeOff v first second) (forms : List Form) (absent : v ∉ varsEach forms)
    (hold : HoldEach db first forms) : HoldEach db second forms := by
  cases forms with
  | nil => trivial
  | cons form forms =>
      exact ⟨holds_of_agreeOff agree form (fun occurs => absent (List.mem_append_left _ occurs))
          hold.1,
        holdEach_of_agreeOff agree forms (fun occurs => absent (List.mem_append_right _ occurs))
          hold.2⟩

end

/-! ## Conditions on a new variable -/

section

variable {db : Database} {given bindings : Bindings} {before after : List Form} {form : Form}
  {v : Var}

/-- The form is the only one that binds the variable, and binds no other variable that is new. -/
structure Introduces (form : Form) (v : Var) (others : List Form) : Prop where
  binds : v ∈ binders form
  known : ∀ w ∈ binders form, w ≠ v → w ∈ bindersEach others
  absent : v ∉ varsEach others

theorem Introduces.mem_bindersEach_iff (introduces : Introduces form v (before ++ after)) {w : Var}
    (other : w ≠ v) :
    w ∈ bindersEach (before ++ form :: after) ↔ w ∈ bindersEach (before ++ after) := by
  have known : w ∈ binders form → w ∈ bindersEach before ∨ w ∈ bindersEach after := by
    intro binds
    have inOthers := introduces.known w binds other
    rwa [bindersEach_append, List.mem_append] at inOthers
  rw [bindersEach_append, bindersEach_append, bindersEach, List.mem_append, List.mem_append,
    List.mem_append]
  tauto

/-- A condition on a new variable may be left out. -/
theorem Introduces.solve_erase (introduces : Introduces form v (before ++ after))
    (free : given v = none) (solved : Solve db given (before ++ form :: after) bindings) :
    Solve db given (before ++ after) (bindings.erase v) := by
  rcases solved with ⟨extension, hold⟩
  rw [holdEach_append, HoldEach] at hold
  have others : HoldEach db bindings (before ++ after) := holdEach_append.mpr ⟨hold.1, hold.2.2⟩
  refine ⟨⟨?_, ?_⟩, holdEach_of_agreeOff (bindings.agreeOff_erase v) _ introduces.absent others⟩
  · intro w x bound
    have other : w ≠ v := by
      rintro rfl
      cases free.symm.trans bound
    rw [Bindings.erase_of_ne other]
    exact extension.keeps w x bound
  · intro w
    by_cases same : w = v
    · subst same
      have unbound : w ∉ bindersEach (before ++ after) := fun binds =>
        introduces.absent (mem_varsEach_of_mem_bindersEach _ binds)
      simp [Bindings.erase, free, unbound]
    · rw [Bindings.erase_of_ne same, extension.binds, introduces.mem_bindersEach_iff same]

/-- A condition on a new variable may be added, with a value for which it holds. -/
theorem Introduces.solve_set (introduces : Introduces form v (before ++ after))
    (free : given v = none) (solved : Solve db given (before ++ after) bindings) {x : Value}
    (holds : Holds db (bindings.set v x) form) :
    Solve db given (before ++ form :: after) (bindings.set v x) := by
  rcases solved with ⟨extension, hold⟩
  have others := holdEach_of_agreeOff (bindings.agreeOff_set v x) _ introduces.absent hold
  rw [holdEach_append] at others
  refine ⟨⟨?_, ?_⟩, holdEach_append.mpr ⟨others.1, holds, others.2⟩⟩
  · intro w y bound
    have other : w ≠ v := by
      rintro rfl
      cases free.symm.trans bound
    rw [Bindings.set_of_ne other]
    exact extension.keeps w y bound
  · intro w
    by_cases same : w = v
    · subst same
      have binds : w ∈ bindersEach (before ++ form :: after) := by
        rw [bindersEach_append, bindersEach]
        exact List.mem_append_right _ (List.mem_append_left _ introduces.binds)
      simp [Bindings.set, binds]
    · rw [Bindings.set_of_ne same, extension.binds, introduces.mem_bindersEach_iff same]

end

end Form

end BlockQuery.Datalog
