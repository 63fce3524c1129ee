import BlockQuery.Proofs.Query.DateInputs
import Mathlib.Logic.Relation

/-!
# Nested conjunctions

A conjunction inside of a conjunction adds nothing: its children may stand in its
place.  Neither does a conjunction of a single child.  The conditions of a query do
not show such a conjunction, wherever it stands: the forms and their numbers, the
inputs and their values are the same without it, and so is the error if a date cannot
be resolved.

A disjunction and a negation do show how many forms an operand has, and all leaves
are numbered together.  So what is carried through a tree is that two operands have
as many references and dates and the same conditions from every number on.
-/

namespace BlockQuery.Query

open Datalog

/-- A conjunction that adds nothing is left out at one place of a tree. -/
inductive Merges : Query → Query → Prop
  /-- The children of a conjunction inside of a conjunction stand in its place. -/
  | splice (before inner after : List Query) :
    Merges (all (before ++ all inner :: after)) (all (before ++ inner ++ after))
  /-- The only child of a conjunction stands in its place. -/
  | unwrap (child : Query) : Merges (all [child]) child
  | inAll (before after : List Query) {child merged : Query} : Merges child merged →
    Merges (all (before ++ child :: after)) (all (before ++ merged :: after))
  | inAny (before after : List Query) {child merged : Query} : Merges child merged →
    Merges (any (before ++ child :: after)) (any (before ++ merged :: after))
  | inNot {child merged : Query} : Merges child merged → Merges (not child) (not merged)

/-! ## Several trees in a row -/

theorem refCountEach_append (first second : List Query) :
    refCountEach (first ++ second) = refCountEach first + refCountEach second := by
  induction first with
  | nil => rw [List.nil_append, refCountEach, Nat.zero_add]
  | cons child first ih => rw [List.cons_append, refCountEach, refCountEach, ih, Nat.add_assoc]

theorem dateCountEach_append (first second : List Query) :
    dateCountEach (first ++ second) = dateCountEach first + dateCountEach second := by
  induction first with
  | nil => rw [List.nil_append, dateCountEach, Nat.zero_add]
  | cons child first ih => rw [List.cons_append, dateCountEach, dateCountEach, ih, Nat.add_assoc]

/-- The numbers of later trees start behind those of the earlier ones. -/
theorem conditionsEach_append (clock : Calendar.Clock) (refs dates : Nat)
    (first second : List Query) :
    conditionsEach clock refs dates (first ++ second) = (do
      let before ← conditionsEach clock refs dates first
      let after ← conditionsEach clock (refs + refCountEach first) (dates + dateCountEach first)
        second
      return before ++ after) := by
  induction first generalizing refs dates with
  | nil =>
      rw [List.nil_append, conditionsEach, refCountEach, dateCountEach]
      exact (bind_pure _).symm
  | cons child first ih =>
      rw [List.cons_append, conditionsEach, conditionsEach, ih, refCountEach, dateCountEach,
        Nat.add_assoc, Nat.add_assoc]
      simp only [bind_assoc, pure_bind, List.cons_append]

/-! ## Trees that stand for each other -/

/-- Two trees have as many references and dates, and the same conditions whatever numbers
these start from. -/
structure Interchangeable (first second : Query) : Prop where
  refCount : first.refCount = second.refCount
  dateCount : first.dateCount = second.dateCount
  conditionsFrom : ∀ clock refs dates,
    first.conditionsFrom clock refs dates = second.conditionsFrom clock refs dates

namespace Interchangeable

variable {child merged : Query}

theorem refCountEach_eq (same : Interchangeable child merged) (before after : List Query) :
    refCountEach (before ++ child :: after) = refCountEach (before ++ merged :: after) := by
  rw [refCountEach_append, refCountEach_append, refCountEach, refCountEach, same.refCount]

theorem dateCountEach_eq (same : Interchangeable child merged) (before after : List Query) :
    dateCountEach (before ++ child :: after) = dateCountEach (before ++ merged :: after) := by
  rw [dateCountEach_append, dateCountEach_append, dateCountEach, dateCountEach, same.dateCount]

/-- One of several trees is replaced. -/
theorem conditionsEach_eq (same : Interchangeable child merged) (clock : Calendar.Clock)
    (refs dates : Nat) (before after : List Query) :
    conditionsEach clock refs dates (before ++ child :: after) =
      conditionsEach clock refs dates (before ++ merged :: after) := by
  rw [conditionsEach_append, conditionsEach_append]
  simp only [conditionsEach, same.refCount, same.dateCount, same.conditionsFrom]

theorem inAll (same : Interchangeable child merged) (before after : List Query) :
    Interchangeable (all (before ++ child :: after)) (all (before ++ merged :: after)) where
  refCount := same.refCountEach_eq before after
  dateCount := same.dateCountEach_eq before after
  conditionsFrom clock refs dates :=
    congrArg (Except.map Conditions.conjunction)
      (same.conditionsEach_eq clock refs dates before after)

theorem inAny (same : Interchangeable child merged) (before after : List Query) :
    Interchangeable (any (before ++ child :: after)) (any (before ++ merged :: after)) where
  refCount := same.refCountEach_eq before after
  dateCount := same.dateCountEach_eq before after
  conditionsFrom clock refs dates :=
    congrArg (Except.map Conditions.disjunction)
      (same.conditionsEach_eq clock refs dates before after)

theorem inNot (same : Interchangeable child merged) :
    Interchangeable (not child) (not merged) where
  refCount := same.refCount
  dateCount := same.dateCount
  conditionsFrom clock refs dates :=
    congrArg (Except.map (Conditions.wrap .not)) (same.conditionsFrom clock refs dates)

end Interchangeable

/-! ## Conjunctions that add nothing -/

theorem conjunction_singleton (conditions : Conditions) :
    Conditions.conjunction [conditions] = conditions := by
  cases conditions
  simp [Conditions.conjunction]

/-- A conjunction counts in a conjunction as its parts do. -/
theorem conjunction_splice (before inner after : List Conditions) :
    Conditions.conjunction (before ++ Conditions.conjunction inner :: after) =
      Conditions.conjunction (before ++ (inner ++ after)) := by
  simp [Conditions.conjunction]

theorem interchangeable_unwrap (child : Query) : Interchangeable (all [child]) child where
  refCount := Nat.add_zero _
  dateCount := Nat.add_zero _
  conditionsFrom clock refs dates := by
    rw [conditionsFrom, conditionsEach, conditionsEach]
    cases child.conditionsFrom clock refs dates with
    | error e => rfl
    | ok conditions => exact congrArg Except.ok (conjunction_singleton conditions)

theorem interchangeable_splice (before inner after : List Query) :
    Interchangeable (all (before ++ all inner :: after)) (all (before ++ inner ++ after)) where
  refCount := by
    simp only [refCount, refCountEach, refCountEach_append, Nat.add_assoc]
  dateCount := by
    simp only [dateCount, dateCountEach, dateCountEach_append, Nat.add_assoc]
  conditionsFrom clock refs dates := by
    rw [conditionsFrom, conditionsFrom, List.append_assoc, conditionsEach_append,
      conditionsEach_append, conditionsEach, conditionsFrom, conditionsEach_append, refCount,
      dateCount]
    -- Both sides resolve the dates of the three stretches in the same order.
    cases conditionsEach clock refs dates before with
    | error e => rfl
    | ok front =>
        cases conditionsEach clock (refs + refCountEach before) (dates + dateCountEach before)
          inner with
        | error e => rfl
        | ok parts =>
            cases conditionsEach clock (refs + refCountEach before + refCountEach inner)
              (dates + dateCountEach before + dateCountEach inner) after with
            | error e => rfl
            | ok back => exact congrArg Except.ok (conjunction_splice front parts back)

/-- Leaving out a conjunction at one place keeps the numbers and the conditions. -/
theorem Merges.interchangeable {query merged : Query} (step : Merges query merged) :
    Interchangeable query merged := by
  induction step with
  | splice before inner after => exact interchangeable_splice before inner after
  | unwrap child => exact interchangeable_unwrap child
  | inAll before after _ same => exact same.inAll before after
  | inAny before after _ same => exact same.inAny before after
  | inNot _ same => exact same.inNot

/-- Conjunctions that add nothing may be left out and put in at any places: the conditions of
the query stay the same, and so does its error if it has one. -/
theorem conditions_eq_of_merges {query other : Query}
    (nested : Relation.EqvGen Merges query other) (clock : Calendar.Clock) :
    query.conditions clock = other.conditions clock := by
  induction nested with
  | rel _ _ step => exact step.interchangeable.conditionsFrom clock 0 0
  | refl => rfl
  | symm _ _ _ same => exact same.symm
  | trans _ _ _ _ _ first second => exact first.trans second

/-- Conjunctions below a negation in a disjunction, one of them empty. -/
def nestedConjunctions : Query :=
  any [not (all [tag "a", all [tag "b", between "today" "today"], all []]),
    all [all [blockRef "c"]]]

/-- The same without the conjunctions that add nothing. -/
def mergedConjunctions : Query :=
  any [not (all [tag "a", tag "b", between "today" "today"]), blockRef "c"]

theorem merges_nestedConjunctions :
    Relation.EqvGen Merges nestedConjunctions mergedConjunctions := by
  apply Relation.EqvGen.trans
  · exact .rel _ _ (.inAny [] _ (.inNot (.splice [tag "a"] [tag "b", between "today" "today"] _)))
  apply Relation.EqvGen.trans
  · exact .rel _ _ (.inAny [] _ (.inNot
      (.splice [tag "a", tag "b", between "today" "today"] [] [])))
  apply Relation.EqvGen.trans
  · exact .rel _ _ (.inAny [_] [] (.unwrap (all [blockRef "c"])))
  · exact .rel _ _ (.inAny [_] [] (.unwrap (blockRef "c")))

/-- Three references and two dates keep their numbers when four conjunctions are left out. -/
theorem conditions_eq_of_merges_nestedConjunctions :
    Relation.EqvGen Merges nestedConjunctions mergedConjunctions ∧
      nestedConjunctions.conditions newYear = mergedConjunctions.conditions newYear ∧
      ∃ conditions, nestedConjunctions.conditions newYear = .ok conditions ∧
        conditions.clauses.inputs = ["?start-date-0", "?end-date-1"] := by
  have same := conditions_eq_of_merges merges_nestedConjunctions newYear
  have merged : mergedConjunctions.conditions newYear = .ok (.disjunction
      [.wrap .not (.conjunction
        [{ forms := referenceForms (.pageRef 0) .nodeTitle "a" },
         { forms := referenceForms (.pageRef 1) .nodeTitle "b" },
         { forms := windowForms (.startDate 0) (.endDate 1)
           inputs := [(.startDate 0, 1767225600000), (.endDate 1, 1767311999999)] }]),
       { forms := referenceForms (.blockRef 2) .blockUid "c" }]) := by
    simp only [mergedConjunctions, conditions, conditionsFrom, conditionsEach,
      resolve_today_newYear]
    rfl
  exact ⟨merges_nestedConjunctions, same, _, same.trans merged, rfl⟩

end BlockQuery.Query
