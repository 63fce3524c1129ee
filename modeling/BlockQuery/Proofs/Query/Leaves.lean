import BlockQuery.Proofs.Datalog.Occurrence
import BlockQuery.Proofs.Query.Compilation

/-!
# The share of a leaf

Operators join the conditions of their operands and add none of their own.  So
the data patterns and predicates of a query's conditions are those of its leaves,
one leaf after the other.  The numbers that a leaf uses are the numbers of
references and of date windows in front of it; the counters of the compilation
agree with these.
-/

namespace BlockQuery.Query

open Datalog

mutual

/-- The leaves of a tree, from left to right. -/
def leaves : Query → List Query
  | all children | any children => leavesEach children
  | not child => leaves child
  | leaf => [leaf]

/-- The leaves of several trees, from left to right. -/
def leavesEach : List Query → List Query
  | [] => []
  | child :: children => leaves child ++ leavesEach children

end

/-- Whether a leaf asks for a reference to a page or a block. -/
def isReference : Query → Bool
  | tag _ | blockRef _ => true
  | _ => false

/-- The texts of the two dates of a date window. -/
def window? : Query → Option (String × String)
  | between start finish => some (start, finish)
  | _ => none

/-- Whether a leaf is a date window. -/
def isWindow (leaf : Query) : Bool :=
  leaf.window?.isSome

/-- The conditions of a leaf with so many references and date windows in front of it. -/
def share (refs windows : Nat) : Query → List Form
  | tag title => referenceForms (.pageRef refs) .nodeTitle title
  | blockRef uid => referenceForms (.blockRef refs) .blockUid uid
  | between .. => windowForms (.startDate (2 * windows)) (.endDate (2 * windows + 1))
  | search text => [.includes .blockText text]
  | dailyNotes => dailyForms
  | touchedBy user =>
    userForms .createUser .eitherCreator user ++ userForms .editUser .eitherEditor user
  | createdBy user => userForms .createUser .creator user
  | editedBy user => userForms .editUser .editor user
  | all _ | any _ | not _ => []

/-- The conditions of each of several leaves, with so many references and date windows in
front of the first. -/
def shares (refs windows : Nat) : List Query → List (List Form)
  | [] => []
  | leaf :: leaves =>
    leaf.share refs windows ::
      shares (refs + [leaf].countP isReference) (windows + [leaf].countP isWindow) leaves

/-! ## Counters -/

mutual

/-- The references of a tree are counted among its leaves. -/
theorem refCount_eq_countP (query : Query) : query.refCount = query.leaves.countP isReference := by
  cases query with
  | all children | any children => exact refCountEach_eq_countP children
  | not child => exact refCount_eq_countP child
  | _ => rfl

/-- The references of several trees are counted among their leaves. -/
theorem refCountEach_eq_countP (children : List Query) :
    refCountEach children = (leavesEach children).countP isReference := by
  cases children with
  | nil => rfl
  | cons child children =>
      rw [refCountEach, leavesEach, List.countP_append, refCount_eq_countP child,
        refCountEach_eq_countP children]

end

mutual

/-- Every date window of a tree has two dates. -/
theorem dateCount_eq_countP (query : Query) :
    query.dateCount = 2 * query.leaves.countP isWindow := by
  cases query with
  | all children | any children => exact dateCountEach_eq_countP children
  | not child => exact dateCount_eq_countP child
  | _ => rfl

/-- Every date window of several trees has two dates. -/
theorem dateCountEach_eq_countP (children : List Query) :
    dateCountEach children = 2 * (leavesEach children).countP isWindow := by
  cases children with
  | nil => rfl
  | cons child children =>
      rw [dateCountEach, leavesEach, List.countP_append, Nat.mul_add, dateCount_eq_countP child,
        dateCountEach_eq_countP children]

end

/-! ## Shares -/

theorem shares_append (refs windows : Nat) (first second : List Query) :
    shares refs windows (first ++ second) =
      shares refs windows first ++
        shares (refs + first.countP isReference) (windows + first.countP isWindow) second := by
  induction first generalizing refs windows with
  | nil => rfl
  | cons leaf first ih =>
      rw [List.cons_append, shares, shares, ih, List.cons_append, Nat.add_assoc, Nat.add_assoc,
        ← List.countP_append, ← List.countP_append, List.singleton_append]

/-- The number of a leaf is the number of leaves of its kind in front of it. -/
theorem getElem?_shares (refs windows : Nat) (leaves : List Query) (place : Nat) :
    (shares refs windows leaves)[place]? = leaves[place]?.map fun leaf =>
      leaf.share (refs + (leaves.take place).countP isReference)
        (windows + (leaves.take place).countP isWindow) := by
  induction leaves generalizing refs windows place with
  | nil => rfl
  | cons leaf leaves ih =>
      cases place with
      | zero => rfl
      | succ place =>
          rw [shares, List.getElem?_cons_succ, ih, List.getElem?_cons_succ, List.take_succ_cons,
            Nat.add_assoc, Nat.add_assoc, ← List.countP_append, ← List.countP_append,
            List.singleton_append]

/-! ## Conditions of operators -/

section

variable {α : Type} {collect : Form → List α} {each : List Form → List α}

/-- A conjunction holds what its operands hold. -/
theorem each_conjunction (flat : ∀ forms, each forms = forms.flatMap collect)
    (parts : List Conditions) :
    each (Conditions.conjunction parts).forms = parts.flatMap fun part => each part.forms := by
  rw [Conditions.conjunction, flat, List.flatMap_assoc]
  simp only [flat]

/-- A negation holds what its operand holds, if negating and grouping forms add nothing. -/
theorem each_negation (flat : ∀ forms, each forms = forms.flatMap collect)
    (negated : ∀ form, collect (.not form) = collect form)
    (grouped : ∀ forms, collect (Form.group forms) = each forms) (conditions : Conditions) :
    each (conditions.wrap .not).forms = each conditions.forms := by
  rw [Conditions.wrap, flat, List.flatMap_singleton, negated, grouped]

end

theorem atomsEach_conjunction (parts : List Conditions) :
    Form.atomsEach (Conditions.conjunction parts).forms =
      parts.flatMap fun part => Form.atomsEach part.forms :=
  each_conjunction Form.atomsEach_eq_flatMap parts

theorem atomsEach_disjunction (parts : List Conditions) :
    Form.atomsEach (Conditions.disjunction parts).forms =
      parts.flatMap fun part => Form.atomsEach part.forms := by
  rw [Conditions.disjunction, Form.atomsEach, Form.atomsEach, Form.atoms, List.append_nil,
    Form.atomsEach_eq_flatMap, List.flatMap_map]
  simp only [Form.atoms_group]

theorem atomsEach_negation (conditions : Conditions) :
    Form.atomsEach (conditions.wrap .not).forms = Form.atomsEach conditions.forms :=
  each_negation Form.atomsEach_eq_flatMap (fun _ => rfl) Form.atoms_group conditions

/-- The conditions of a query are the shares of its leaves. -/
theorem atoms_conditions (clock : Calendar.Clock) :
    Compiles clock
      (fun refs dates query conditions => ∀ windows, dates = 2 * windows →
        Form.atomsEach conditions.forms = (shares refs windows query.leaves).flatten)
      (fun refs dates children parts => ∀ windows, dates = 2 * windows →
        (parts.flatMap fun part => Form.atomsEach part.forms) =
          (shares refs windows (leavesEach children)).flatten) where
  tag _ _ _ _ _ := rfl
  blockRef _ _ _ _ _ := rfl
  all _ _ children parts each windows even := by
    rw [atomsEach_conjunction, each windows even, leaves]
  any _ _ children parts each windows even := by
    rw [atomsEach_disjunction, each windows even, leaves]
  not _ _ child conditions inner windows even := by
    rw [atomsEach_negation, inner windows even, leaves]
  between _ _ _ _ _ _ _ _ _ even := by
    subst even
    rfl
  search _ _ _ _ _ := rfl
  dailyNotes _ _ _ _ := rfl
  touchedBy _ _ _ _ _ := rfl
  createdBy _ _ _ _ _ := rfl
  editedBy _ _ _ _ _ := rfl
  nil _ _ _ _ := rfl
  cons refs dates child children conditions parts first rest windows even := by
    have behind : dates + child.dateCount =
        2 * (windows + child.leaves.countP isWindow) := by
      rw [even, dateCount_eq_countP, Nat.mul_add]
    rw [List.flatMap_cons, first windows even, rest _ behind, leavesEach, shares_append,
      List.flatten_append, refCount_eq_countP]

end BlockQuery.Query
