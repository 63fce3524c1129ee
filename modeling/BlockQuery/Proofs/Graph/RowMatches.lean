import BlockQuery.Graph.Execution
import BlockQuery.Proofs.Outcome
import Mathlib.Data.List.Forall2

/-!
# Rows and counts of an answer

An answer may be any value.  This module says, for an engine whose requests have no
effects, when a row of an answer becomes a match and when not, when all rows do, and
which number of matches an answer to a count request stands for.  Where there is a
fault, it is the fault of the first row that has one.
-/

namespace BlockQuery.Graph

open Datalog

/-! ## Computations without effects -/

/-- A chained computation is a chained result. -/
theorem run_bind {ε α β : Type} (first : ExceptT ε Id α) (next : α → ExceptT ε Id β) :
    (first >>= next).run.run = first.run.run >>= fun a => (next a).run.run := by
  change Id.run (ExceptT.bindCont next first.run.run) = _
  cases first.run.run with
  | error e => rfl
  | ok a => rfl

theorem run_adapt {ε δ α : Type} (f : ε → δ) (result : ExceptT ε Id α) :
    (result.adapt f).run.run = result.run.run.mapError f :=
  rfl

theorem run_liftFault {α : Type} (result : Except Fault α) :
    (liftFault result : ExceptT Fault Id α).run.run = result :=
  rfl

namespace Engine

variable (engine : Engine Id)

/-- The answer to a request. -/
def answer (request : Request) : Except Fault Json :=
  (engine.run request).run.run

/-- The text with its references expanded. -/
def expanded (text : Json) : Except Fault Json :=
  (engine.expandText text).run.run

/-! ## Rows -/

/-- The row becomes the match: its first item is the identifier, its second one is expanded,
and its third one is the title, if there is one. -/
structure Gives (row : Json) (found : Match) : Prop where
  uid : itemAt row 0 = .ok found.uid
  content : ∃ text, itemAt row 1 = .ok text ∧ engine.expanded text = .ok found.content
  title : itemAt row 2 = .ok found.pageTitle ∨
    (∃ fault, itemAt row 2 = .error fault) ∧ found.pageTitle = .null

/-- The row becomes no match. -/
inductive Spoils (row : Json) : Fault → Prop
  | noUid {fault : Fault} : itemAt row 0 = .error fault → Spoils row fault
  | noText {uid : Json} {fault : Fault} : itemAt row 0 = .ok uid →
      itemAt row 1 = .error fault → Spoils row fault
  | refused {uid text : Json} {fault : Fault} : itemAt row 0 = .ok uid →
      itemAt row 1 = .ok text → engine.expanded text = .error fault → Spoils row fault

variable {engine} {row : Json}

theorem run_matchOf : (engine.matchOf row).run.run = (itemAt row 0 >>= fun uid =>
    itemAt row 1 >>= fun text => engine.expanded text >>= fun content =>
      .ok ⟨uid, content, ((itemAt row 2).toOption).getD .null⟩) := by
  rw [matchOf, run_bind, run_liftFault]
  simp only [run_bind, run_liftFault]
  rfl

theorem getD_toOption_eq_iff {ε : Type} {result : Except ε Json} {value : Json} :
    result.toOption.getD .null = value ↔
      result = .ok value ∨ (∃ e, result = .error e) ∧ value = .null := by
  cases result with
  | error e => simp [Except.toOption, eq_comm]
  | ok a => simp [Except.toOption]

theorem matchOf_eq_ok_iff {found : Match} :
    (engine.matchOf row).run.run = .ok found ↔ engine.Gives row found := by
  rw [run_matchOf]
  simp only [bind_eq_ok_iff]
  constructor
  · rintro ⟨uid, uidOk, text, textOk, content, contentOk, ⟨⟩⟩
    exact ⟨uidOk, ⟨text, textOk, contentOk⟩, getD_toOption_eq_iff.mp rfl⟩
  · rintro ⟨uidOk, ⟨text, textOk, contentOk⟩, title⟩
    refine ⟨found.uid, uidOk, text, textOk, found.content, contentOk, ?_⟩
    rw [getD_toOption_eq_iff.mpr title]

theorem matchOf_eq_error_iff {fault : Fault} :
    (engine.matchOf row).run.run = .error fault ↔ engine.Spoils row fault := by
  rw [run_matchOf]
  simp only [bind_eq_error_iff]
  constructor
  · rintro (noUid | ⟨uid, uidOk, noText | ⟨text, textOk, refused | ⟨content, _, ⟨⟩⟩⟩⟩)
    · exact .noUid noUid
    · exact .noText uidOk noText
    · exact .refused uidOk textOk refused
  · rintro (noUid | ⟨uidOk, noText⟩ | ⟨uidOk, textOk, refused⟩)
    · exact .inl noUid
    · exact .inr ⟨_, uidOk, .inl noText⟩
    · exact .inr ⟨_, uidOk, .inr ⟨_, textOk, .inl refused⟩⟩

/-- There is a row without a match, and all rows in front of it have one. -/
def FirstSpoils (engine : Engine Id) (rows : List Json) (fault : Fault) : Prop :=
  ∃ before row after, rows = before ++ row :: after ∧
    (∀ other ∈ before, ∃ found, engine.Gives other found) ∧ engine.Spoils row fault

theorem mapM_matchOf_cons (rows : List Json) :
    ((row :: rows).mapM engine.matchOf).run.run =
      ((engine.matchOf row).run.run >>= fun found =>
        (rows.mapM engine.matchOf).run.run >>= fun others => .ok (found :: others)) := by
  rw [List.mapM_cons, run_bind]
  simp only [run_bind]
  rfl

/-- Rows that all become matches become them one by one. -/
theorem mapM_matchOf_eq_ok_iff {rows : List Json} {all : List Match} :
    (rows.mapM engine.matchOf).run.run = .ok all ↔ List.Forall₂ engine.Gives rows all := by
  induction rows generalizing all with
  | nil =>
      constructor
      · rintro ⟨⟩
        exact .nil
      · rintro ⟨⟩
        rfl
  | cons row rows ih =>
      rw [mapM_matchOf_cons, bind_eq_ok_iff]
      constructor
      · rintro ⟨found, foundOk, rest⟩
        rw [bind_eq_ok_iff] at rest
        rcases rest with ⟨others, othersOk, ⟨⟩⟩
        exact .cons (matchOf_eq_ok_iff.mp foundOk) (ih.mp othersOk)
      · rintro (_ | ⟨gives, each⟩)
        refine ⟨_, matchOf_eq_ok_iff.mpr gives, ?_⟩
        rw [ih.mpr each]
        rfl

/-- The first row that becomes no match decides the fault. -/
theorem mapM_matchOf_eq_error_iff {rows : List Json} {fault : Fault} :
    (rows.mapM engine.matchOf).run.run = .error fault ↔ engine.FirstSpoils rows fault := by
  induction rows with
  | nil =>
      constructor
      · rintro ⟨⟩
      · rintro ⟨before, row, after, split, _⟩
        simp at split
  | cons row rows ih =>
      rw [mapM_matchOf_cons, bind_eq_error_iff]
      constructor
      · rintro (spoils | ⟨found, foundOk, rest⟩)
        · exact ⟨[], row, rows, rfl, by simp, matchOf_eq_error_iff.mp spoils⟩
        · rw [bind_eq_error_iff] at rest
          rcases rest with later | ⟨others, _, ⟨⟩⟩
          rcases ih.mp later with ⟨before, spoilt, after, rfl, each, spoils⟩
          refine ⟨row :: before, spoilt, after, rfl, ?_, spoils⟩
          rw [List.forall_mem_cons]
          exact ⟨⟨found, matchOf_eq_ok_iff.mp foundOk⟩, each⟩
      · rintro ⟨before, spoilt, after, split, each, spoils⟩
        cases before with
        | nil =>
            cases split
            exact .inl (matchOf_eq_error_iff.mpr spoils)
        | cons first before =>
            cases split
            rw [List.forall_mem_cons] at each
            rcases each.1 with ⟨found, gives⟩
            refine .inr ⟨found, matchOf_eq_ok_iff.mpr gives, ?_⟩
            rw [ih.mpr ⟨before, spoilt, after, rfl, each.2, spoils⟩]
            rfl

/-! ## Counts -/

/-- The number in an answer to a count request: what the first cell of the first row is
converted to, or zero without rows or cells. -/
inductive CountIs (rows : Json) : Int → Prop
  | noRows : rows.isTruthy = false → CountIs rows 0
  | noCells {row : Json} : rows.isTruthy → itemAt rows 0 = .ok row → row.isTruthy = false →
      CountIs rows 0
  | cell {row cell : Json} {number : Int} : rows.isTruthy → itemAt rows 0 = .ok row →
      row.isTruthy → itemAt row 0 = .ok cell → integerOf cell = .ok number → CountIs rows number

theorem countOf_eq_ok_iff {rows : Json} {number : Int} :
    countOf rows = .ok number ↔ CountIs rows number := by
  rw [countOf]
  constructor
  · intro counted
    split at counted
    · next truthy =>
        rw [bind_eq_ok_iff] at counted
        rcases counted with ⟨row, rowOk, counted⟩
        split at counted
        · next filled =>
            rw [bind_eq_ok_iff] at counted
            rcases counted with ⟨cell, cellOk, numberOk⟩
            exact .cell truthy rowOk filled cellOk numberOk
        · next empty =>
            cases counted
            exact .noCells truthy rowOk (Bool.not_eq_true _ ▸ empty)
    · next falsy =>
        cases counted
        exact .noRows (Bool.not_eq_true _ ▸ falsy)
  · rintro (falsy | ⟨truthy, rowOk, empty⟩ | ⟨truthy, rowOk, filled, cellOk, numberOk⟩)
    · rw [falsy]
      rfl
    · rw [if_pos truthy, rowOk]
      change (if _ then _ else _) = _
      rw [empty]
      rfl
    · rw [if_pos truthy, rowOk]
      change (if _ then _ else _) = _
      rw [if_pos filled, cellOk]
      exact numberOk

theorem isBounded_iff {options : RequestOptions} :
    options.isBounded ↔ ¬ (options.limit = none ∨ options.limit = some (-1)) := by
  cases limit : options.limit with
  | none => simp [RequestOptions.isBounded, limit]
  | some bound => simp [RequestOptions.isBounded, limit]

/-- The number of all matches. Without a bound all of them are at hand. -/
def Totals (engine : Engine Id) (conditions : Conditions) (options : RequestOptions)
    (all : List Match) (total : Int) : Prop :=
  if options.limit = none ∨ options.limit = some (-1) then
    total = all.length
  else
    ∃ rows, engine.answer (conditions.clauses.count options.pageUid) = .ok rows ∧
      CountIs rows total

/-- The matches are not all at hand, and they cannot be counted. -/
def Miscounts (engine : Engine Id) (conditions : Conditions) (options : RequestOptions)
    (fault : Fault) : Prop :=
  ¬ (options.limit = none ∨ options.limit = some (-1)) ∧
    (engine.answer (conditions.clauses.count options.pageUid) = .error fault ∨
      ∃ rows, engine.answer (conditions.clauses.count options.pageUid) = .ok rows ∧
        countOf rows = .error fault)

/-- What the count request gives to a run without effects. -/
def counted (engine : Engine Id) (conditions : Conditions) (options : RequestOptions) :
    Option (Except Fault Json) :=
  if options.isBounded then
    some (engine.answer (conditions.clauses.count options.pageUid))
  else
    none

section

variable {conditions : Conditions} {options : RequestOptions} {all : List Match}

theorem totalOf_eq_ok_iff {total : Int} :
    totalOf all (engine.counted conditions options) = .ok total ↔
      engine.Totals conditions options all total := by
  by_cases unbounded : options.limit = none ∨ options.limit = some (-1)
  · have free : ¬ options.isBounded := fun bounded => isBounded_iff.mp bounded unbounded
    rw [counted, if_neg free, Totals, if_pos unbounded]
    constructor
    · rintro ⟨⟩
      rfl
    · rintro rfl
      rfl
  · rw [counted, if_pos (isBounded_iff.mpr unbounded), Totals, if_neg unbounded, totalOf,
      bind_eq_ok_iff]
    simp only [countOf_eq_ok_iff]

theorem totalOf_eq_error_iff {fault : Fault} :
    totalOf all (engine.counted conditions options) = .error fault ↔
      engine.Miscounts conditions options fault := by
  by_cases unbounded : options.limit = none ∨ options.limit = some (-1)
  · have free : ¬ options.isBounded := fun bounded => isBounded_iff.mp bounded unbounded
    rw [counted, if_neg free, Miscounts]
    constructor
    · rintro ⟨⟩
    · rintro ⟨bounded, _⟩
      exact absurd unbounded bounded
  · rw [counted, if_pos (isBounded_iff.mpr unbounded), Miscounts, totalOf, bind_eq_error_iff,
      and_iff_right unbounded]

end

end Engine

end BlockQuery.Graph
