import BlockQuery.Datalog.Form

/-!
# Satisfaction of forms

A database is a finite list of facts.  Forms are read against bindings, which
give values to some of the variables.  A data pattern binds its variables; a
predicate holds only of variables that are bound.  A negation holds when its
form has no solution that extends the bindings around it, and a disjunction
holds when some branch has a solution that extends the subject alone.

A solution binds exactly the variables of the data patterns at its own level.
Variables that occur below a negation or in a branch only are not bound outside
of it.
-/

namespace BlockQuery.Datalog

/-- What facts hold and variables stand for. -/
inductive Value
  | entity (id : Nat)
  | text (s : String)
  | number (n : Int)
deriving DecidableEq, Repr

/-- An entity has a value under a key. -/
structure Fact where
  entity : Nat
  key : String
  value : Value
deriving DecidableEq, Repr

/-- Finitely many facts, and how regular expressions are found in texts. -/
structure Database where
  facts : List Fact
  finds : String → String → Prop

namespace Database

/-- The entity has the value under an attribute. -/
def Has (db : Database) (entity : Nat) (key : Attribute) (value : Value) : Prop :=
  ⟨entity, key.name, value⟩ ∈ db.facts

instance (db : Database) (entity : Nat) (key : Attribute) (value : Value) :
    Decidable (db.Has entity key value) :=
  inferInstanceAs (Decidable (_ ∈ db.facts))

/-- Every attribute except the references of a block has at most one value per
entity. -/
def SingleValued (db : Database) : Prop :=
  ∀ key, key ≠ .blockRefs → ∀ entity x y, db.Has entity key x → db.Has entity key y → x = y

theorem singleValued_of_facts {db : Database}
    (single : ∀ first ∈ db.facts, ∀ second ∈ db.facts, first.entity = second.entity →
      first.key = second.key → first.key ≠ Attribute.blockRefs.name →
      first.value = second.value) : db.SingleValued := by
  intro key notRefs entity x y hasFirst hasSecond
  have named : key.name ≠ Attribute.blockRefs.name := by
    revert notRefs
    cases key <;> decide
  exact single _ hasFirst _ hasSecond rfl rfl named

end Database

/-- Values for some of the variables. -/
abbrev Bindings := Var → Option Value

namespace Bindings

/-- No variable has a value. -/
def empty : Bindings :=
  fun _ => none

/-- The bindings with one variable set. -/
def set (bindings : Bindings) (v : Var) (x : Value) : Bindings :=
  fun w => if w = v then some x else bindings w

/-- The variables of the pairs have the values of the pairs. -/
def ofPairs : List (Var × Value) → Bindings
  | [] => empty
  | (v, x) :: pairs => (ofPairs pairs).set v x

/-- The bindings without all variables but one. -/
def only (bindings : Bindings) (v : Var) : Bindings :=
  fun w => if w = v then bindings w else none

/-- The first bindings, completed by the second. -/
def orElse (first second : Bindings) : Bindings :=
  fun v => (first v).or (second v)

/-- The second bindings have the values of the first. -/
def Within (first second : Bindings) : Prop :=
  ∀ v x, first v = some x → second v = some x

/-- The second bindings have the values of the first, and values for exactly the
given variables besides. -/
structure Extends (before : Bindings) (vars : List Var) (after : Bindings) : Prop where
  keeps : before.Within after
  binds : ∀ v, (after v).isSome ↔ (before v).isSome ∨ v ∈ vars

theorem mem_of_ofPairs {pairs : List (Var × Value)} {v : Var} {x : Value}
    (bound : ofPairs pairs v = some x) : (v, x) ∈ pairs := by
  induction pairs with
  | nil => cases bound
  | cons pair pairs ih =>
      rw [ofPairs, set] at bound
      split at bound
      · next same =>
          cases same
          cases bound
          exact List.mem_cons_self
      · exact List.mem_cons_of_mem pair (ih bound)

theorem isSome_ofPairs {pairs : List (Var × Value)} {v : Var} :
    (ofPairs pairs v).isSome ↔ v ∈ pairs.map Prod.fst := by
  induction pairs with
  | nil => simp [ofPairs, empty]
  | cons pair pairs ih =>
      rw [ofPairs, set, List.map_cons, List.mem_cons, ← ih]
      split <;> simp [*]

theorem ofPairs_of_mem {pairs : List (Var × Value)} (distinct : (pairs.map Prod.fst).Nodup)
    {v : Var} {x : Value} (inPairs : (v, x) ∈ pairs) : ofPairs pairs v = some x := by
  induction pairs with
  | nil => cases inPairs
  | cons pair pairs ih =>
      rw [List.map_cons, List.nodup_cons] at distinct
      rw [ofPairs, set]
      rcases List.mem_cons.mp inPairs with rfl | inRest
      · exact if_pos rfl
      · have differ : v ≠ pair.1 := by
          rintro rfl
          exact distinct.1 (List.mem_map.mpr ⟨_, inRest, rfl⟩)
        rw [if_neg differ]
        exact ih distinct.2 inRest

theorem Within.trans {first second third : Bindings} (left : first.Within second)
    (right : second.Within third) : first.Within third :=
  fun v x bound => right v x (left v x bound)

theorem within_orElse (first second : Bindings) : first.Within (first.orElse second) := by
  intro v x bound
  rw [orElse, bound, Option.some_or]

theorem isSome_orElse (first second : Bindings) (v : Var) :
    (first.orElse second v).isSome ↔ (first v).isSome ∨ (second v).isSome := by
  rw [orElse, Option.isSome_or, Bool.or_eq_true]

theorem eq_some_of_orElse {first second : Bindings} {v : Var} {x : Value}
    (bound : first.orElse second v = some x) : first v = some x ∨ second v = some x := by
  rw [orElse, Option.or_eq_some_iff] at bound
  exact bound.imp id And.right

end Bindings

/-- The variables of a term. -/
def Term.vars : Term → List Var
  | var v => [v]
  | text _ => []

/-- The value of a term. -/
def Term.value (bindings : Bindings) : Term → Option Value
  | var v => bindings v
  | text s => some (.text s)

namespace Form

mutual

/-- The variables that a form binds. -/
def binders : Form → List Var
  | fact entity _ value => entity :: value.vars
  | and forms => bindersEach forms
  | orJoin _ => [.subject]
  | _ => []

/-- The variables that several forms bind. -/
def bindersEach : List Form → List Var
  | [] => []
  | form :: forms => binders form ++ bindersEach forms

end

mutual

/-- The form holds of the bindings. -/
def Holds (db : Database) (bindings : Bindings) : Form → Prop
  | fact entity key value => ∃ id x, bindings entity = some (.entity id) ∧
      value.value bindings = some x ∧ db.Has id key x
  | atLeast value bound => ∃ m n, bindings value = some (.number m) ∧
      bindings bound = some (.number n) ∧ n ≤ m
  | atMost value bound => ∃ m n, bindings value = some (.number m) ∧
      bindings bound = some (.number n) ∧ m ≤ n
  | includes value part => ∃ s, bindings value = some (.text s) ∧ part.toList <:+: s.toList
  | isDailyTitle value => ∃ s, bindings value = some (.text s) ∧ db.finds dailyTitlePattern s
  | and forms => HoldEach db bindings forms
  | orJoin branches => HoldSome db (bindings.only .subject) branches
  | not form => ¬ ∃ after, bindings.Extends (binders form) after ∧ Holds db after form

/-- Each of the forms holds of the bindings. -/
def HoldEach (db : Database) (bindings : Bindings) : List Form → Prop
  | [] => True
  | form :: forms => Holds db bindings form ∧ HoldEach db bindings forms

/-- Some of the forms has a solution that extends the bindings. -/
def HoldSome (db : Database) (bindings : Bindings) : List Form → Prop
  | [] => False
  | form :: forms =>
    (∃ after, bindings.Extends (binders form) after ∧ Holds db after form) ∨
      HoldSome db bindings forms

end

/-- The bindings solve the forms, starting from other bindings. -/
def Solve (db : Database) (before : Bindings) (forms : List Form) (after : Bindings) : Prop :=
  before.Extends (bindersEach forms) after ∧ HoldEach db after forms

/-- A solution with a given value for a variable is one that starts with it. -/
theorem solve_set_iff {db : Database} {before after : Bindings} {forms : List Form} {v : Var}
    {x : Value} (inBinders : v ∈ bindersEach forms) (free : before v = none) :
    Solve db (before.set v x) forms after ↔ Solve db before forms after ∧ after v = some x := by
  constructor
  · rintro ⟨extension, hold⟩
    have bound : after v = some x := extension.keeps v x (if_pos rfl)
    refine ⟨⟨⟨?_, ?_⟩, hold⟩, bound⟩
    · intro w y boundBefore
      apply extension.keeps
      have differ : w ≠ v := by
        rintro rfl
        cases free.symm.trans boundBefore
      rw [Bindings.set, if_neg differ]
      exact boundBefore
    · intro w
      rw [extension.binds, Bindings.set]
      split
      · next same => simp [same, inBinders]
      · rfl
  · rintro ⟨⟨extension, hold⟩, bound⟩
    refine ⟨⟨?_, ?_⟩, hold⟩
    · intro w y boundBefore
      rw [Bindings.set] at boundBefore
      split at boundBefore
      · next same =>
          cases boundBefore
          rw [same, bound]
      · exact extension.keeps w y boundBefore
    · intro w
      rw [extension.binds, Bindings.set]
      split
      · next same => simp [same, inBinders]
      · rfl

theorem bindersEach_append (first second : List Form) :
    bindersEach (first ++ second) = bindersEach first ++ bindersEach second := by
  induction first with
  | nil => rfl
  | cons form forms ih => rw [List.cons_append, bindersEach, bindersEach, ih, List.append_assoc]

theorem holdEach_append {db : Database} {bindings : Bindings} {first second : List Form} :
    HoldEach db bindings (first ++ second) ↔
      HoldEach db bindings first ∧ HoldEach db bindings second := by
  induction first with
  | nil => simp [HoldEach]
  | cons form forms ih => rw [List.cons_append, HoldEach, HoldEach, ih, and_assoc]

theorem holdSome_iff {db : Database} {bindings : Bindings} {branches : List Form} :
    HoldSome db bindings branches ↔
      ∃ branch ∈ branches, ∃ after, bindings.Extends (binders branch) after ∧
        Holds db after branch := by
  induction branches with
  | nil => simp [HoldSome]
  | cons branch branches ih => simp [HoldSome, ih]

/-- A data pattern about a known entity. -/
theorem holds_fact_iff {db : Database} {bindings : Bindings} {entity : Var} {id : Nat}
    (known : bindings entity = some (.entity id)) {key : Attribute} {value : Term} :
    Holds db bindings (fact entity key value) ↔
      ∃ x, value.value bindings = some x ∧ db.Has id key x := by
  simp [Holds, known]

theorem binders_group (forms : List Form) : binders (group forms) = bindersEach forms := by
  unfold group
  split
  · rw [bindersEach, bindersEach, List.append_nil]
  · rw [binders]

theorem holds_group {db : Database} {bindings : Bindings} {forms : List Form} :
    Holds db bindings (group forms) ↔ HoldEach db bindings forms := by
  unfold group
  split
  · rw [HoldEach, HoldEach, and_true]
  · rw [Holds]

/-- A negation holds when its forms have no solution. -/
theorem holds_not_group {db : Database} {bindings : Bindings} {forms : List Form} :
    Holds db bindings (not (group forms)) ↔ ¬ ∃ after, Solve db bindings forms after := by
  simp only [Holds, binders_group, holds_group, Solve]

/-- A disjunction holds when the forms of some branch have a solution. -/
theorem holds_orJoin_group {db : Database} {bindings : Bindings} {parts : List (List Form)} :
    Holds db bindings (orJoin (parts.map group)) ↔
      ∃ part ∈ parts, ∃ after, Solve db (bindings.only .subject) part after := by
  rw [Holds, holdSome_iff]
  constructor
  · rintro ⟨branch, inBranches, after, solved⟩
    rcases List.mem_map.mp inBranches with ⟨part, inParts, rfl⟩
    rw [binders_group, holds_group] at solved
    exact ⟨part, inParts, after, solved⟩
  · rintro ⟨part, inParts, after, solved⟩
    refine ⟨group part, List.mem_map_of_mem inParts, after, ?_⟩
    rw [binders_group, holds_group]
    exact solved

mutual

/-- A form that holds has values for the variables that it binds. -/
theorem isSome_of_holds {db : Database} {bindings : Bindings}
    (subject : (bindings .subject).isSome) (form : Form) (holds : Holds db bindings form)
    {v : Var} (inBinders : v ∈ binders form) : (bindings v).isSome := by
  cases form with
  | fact entity key value =>
      rcases holds with ⟨id, x, entityBound, valueBound, _⟩
      rcases List.mem_cons.mp inBinders with rfl | inValue
      · rw [entityBound]
        rfl
      · cases value with
        | var w =>
            cases List.mem_singleton.mp inValue
            exact Option.isSome_of_mem valueBound
        | text s => cases inValue
  | and forms => exact isSome_of_holdEach subject forms holds inBinders
  | orJoin branches =>
      cases List.mem_singleton.mp inBinders
      exact subject
  | _ => cases inBinders

/-- Forms that hold have values for the variables that they bind. -/
theorem isSome_of_holdEach {db : Database} {bindings : Bindings}
    (subject : (bindings .subject).isSome) (forms : List Form)
    (hold : HoldEach db bindings forms) {v : Var} (inBinders : v ∈ bindersEach forms) :
    (bindings v).isSome := by
  cases forms with
  | nil => cases inBinders
  | cons form forms =>
      rcases List.mem_append.mp inBinders with inFirst | inRest
      · exact isSome_of_holds subject form hold.1 inFirst
      · exact isSome_of_holdEach subject forms hold.2 inRest

end

end Form

end BlockQuery.Datalog
