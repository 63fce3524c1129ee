import BlockQuery.Proofs.Calendar.Ordinal
import BlockQuery.Proofs.Datalog.RequestNumbers
import BlockQuery.Proofs.Outcome
import BlockQuery.Query.Compile

/-!
# Induction over compiled queries

Whatever is said about the conditions of a query follows the recursion that
makes them.  This recursion is taken apart here once: a property that holds of
every leaf and passes from operands to their operator holds of every query
whose dates can be resolved.  The text of a query block is compiled if it can be
read and its dates can be resolved, and it is shown if its request can be written
as well.
-/

namespace BlockQuery.Query

open Datalog

/-- A property of compiled queries that every step of the compilation keeps.
`P` speaks of a tree and its conditions, `Q` of several trees and the conditions
of each; both know the first free numbers of references and dates. -/
structure Compiles (clock : Calendar.Clock) (P : Nat → Nat → Query → Conditions → Prop)
    (Q : Nat → Nat → List Query → List Conditions → Prop) : Prop where
  tag : ∀ refs dates title,
    P refs dates (.tag title) { forms := referenceForms (.pageRef refs) .nodeTitle title }
  blockRef : ∀ refs dates uid,
    P refs dates (.blockRef uid) { forms := referenceForms (.blockRef refs) .blockUid uid }
  all : ∀ refs dates children parts, Q refs dates children parts →
    P refs dates (.all children) (.conjunction parts)
  any : ∀ refs dates children parts, Q refs dates children parts →
    P refs dates (.any children) (.disjunction parts)
  not : ∀ refs dates child conditions, P refs dates child conditions →
    P refs dates (.not child) (conditions.wrap .not)
  between : ∀ refs dates start finish first last,
    Calendar.resolve clock start = .ok first → Calendar.resolve clock finish = .ok last →
    P refs dates (.between start finish)
      { forms := windowForms (.startDate dates) (.endDate (dates + 1))
        inputs := [(.startDate dates, first), (.endDate (dates + 1), Calendar.endOfDay last)] }
  search : ∀ refs dates text,
    P refs dates (.search text) { forms := [.includes .blockText text] }
  dailyNotes : ∀ refs dates, P refs dates .dailyNotes { forms := dailyForms }
  touchedBy : ∀ refs dates user,
    P refs dates (.touchedBy user)
      { forms := [.orJoin [.and (userForms .createUser .eitherCreator user),
          .and (userForms .editUser .eitherEditor user)]] }
  createdBy : ∀ refs dates user,
    P refs dates (.createdBy user) { forms := userForms .createUser .creator user }
  editedBy : ∀ refs dates user,
    P refs dates (.editedBy user) { forms := userForms .editUser .editor user }
  nil : ∀ refs dates, Q refs dates [] []
  cons : ∀ refs dates child children conditions parts, P refs dates child conditions →
    Q (refs + child.refCount) (dates + child.dateCount) children parts →
    Q refs dates (child :: children) (conditions :: parts)

namespace Compiles

variable {clock : Calendar.Clock} {P : Nat → Nat → Query → Conditions → Prop}
  {Q : Nat → Nat → List Query → List Conditions → Prop}

mutual

/-- What every step keeps holds of every query with conditions. -/
theorem holds (steps : Compiles clock P Q) (query : Query) {refs dates : Nat}
    {conditions : Conditions} (ok : query.conditionsFrom clock refs dates = .ok conditions) :
    P refs dates query conditions := by
  cases query with
  | tag title =>
      cases ok
      exact steps.tag refs dates title
  | blockRef uid =>
      cases ok
      exact steps.blockRef refs dates uid
  | all children =>
      rw [conditionsFrom, map_eq_ok_iff] at ok
      rcases ok with ⟨parts, ok, rfl⟩
      exact steps.all refs dates children parts (holdsEach steps children ok)
  | any children =>
      rw [conditionsFrom, map_eq_ok_iff] at ok
      rcases ok with ⟨parts, ok, rfl⟩
      exact steps.any refs dates children parts (holdsEach steps children ok)
  | not child =>
      rw [conditionsFrom, map_eq_ok_iff] at ok
      rcases ok with ⟨conditions, ok, rfl⟩
      exact steps.not refs dates child conditions (holds steps child ok)
  | between start finish =>
      rw [conditionsFrom, bind_eq_ok_iff] at ok
      rcases ok with ⟨first, firstOk, ok⟩
      rw [bind_eq_ok_iff] at ok
      rcases ok with ⟨last, lastOk, ok⟩
      cases ok
      exact steps.between refs dates start finish first last firstOk lastOk
  | search text =>
      cases ok
      exact steps.search refs dates text
  | dailyNotes =>
      cases ok
      exact steps.dailyNotes refs dates
  | touchedBy user =>
      cases ok
      exact steps.touchedBy refs dates user
  | createdBy user =>
      cases ok
      exact steps.createdBy refs dates user
  | editedBy user =>
      cases ok
      exact steps.editedBy refs dates user

/-- What every step keeps holds of several queries with conditions. -/
theorem holdsEach (steps : Compiles clock P Q) (children : List Query) {refs dates : Nat}
    {parts : List Conditions} (ok : conditionsEach clock refs dates children = .ok parts) :
    Q refs dates children parts := by
  cases children with
  | nil =>
      cases ok
      exact steps.nil refs dates
  | cons child children =>
      rw [conditionsEach, bind_eq_ok_iff] at ok
      rcases ok with ⟨conditions, firstOk, ok⟩
      rw [bind_eq_ok_iff] at ok
      rcases ok with ⟨parts, restOk, ok⟩
      cases ok
      exact steps.cons refs dates child children conditions parts (holds steps child firstOk)
        (holdsEach steps children restOk)

end

end Compiles

/-- Midnight of 1 January 2026, where local time is universal time: a clock for closed instances. -/
def newYear : Calendar.Clock :=
  ⟨.midnight (.on 2026 1 1) none, .universal⟩

end BlockQuery.Query

namespace BlockQuery

open Datalog

section

variable {clock : Calendar.Clock} {source : String} {compiled : Compiled} {error : CompileError}

theorem compile_eq_ok_iff :
    compile clock source = .ok compiled ↔ Query.parse source = .ok compiled.named ∧
      compiled.named.query.conditions clock = .ok compiled.conditions := by
  rw [compile, bind_eq_ok_iff]
  simp only [bind_eq_ok_iff, mapError_eq_ok_iff]
  constructor
  · rintro ⟨named, parsed, conditions, dated, ⟨⟩⟩
    exact ⟨parsed, dated⟩
  · rintro ⟨parsed, dated⟩
    exact ⟨compiled.named, parsed, compiled.conditions, dated, rfl⟩

theorem compile_eq_error_iff :
    compile clock source = .error error ↔
      (∃ cause, Query.parse source = .error cause ∧ error = .unreadable cause) ∨
        ∃ named cause, Query.parse source = .ok named ∧
          named.query.conditions clock = .error cause ∧ error = .undated cause := by
  rw [compile, bind_eq_error_iff]
  simp only [bind_eq_error_iff, mapError_eq_ok_iff, mapError_eq_error_iff]
  constructor
  · rintro (⟨cause, unreadable, rfl⟩ | ⟨named, parsed, ⟨cause, undated, rfl⟩ | ⟨_, _, ⟨⟩⟩⟩)
    · exact .inl ⟨cause, unreadable, rfl⟩
    · exact .inr ⟨named, cause, parsed, undated, rfl⟩
  · rintro (⟨cause, unreadable, rfl⟩ | ⟨named, cause, parsed, undated, rfl⟩)
    · exact .inl ⟨cause, unreadable, rfl⟩
    · exact .inr ⟨named, parsed, .inl ⟨cause, undated, rfl⟩⟩

variable {asked : Option RequestOptions} {shown : Preview}

/-- A preview is what is compiled, with its request. -/
theorem preview_eq_bind (clock : Calendar.Clock) (source : String)
    (asked : Option RequestOptions) :
    preview clock source asked = compile clock source >>= fun compiled =>
      (compiled.find (asked.getD {})).mapError .unwritable >>= fun request =>
        .ok ⟨compiled.named.query, compiled.named.name, request⟩ := by
  unfold preview compile
  rw [bind_assoc]
  refine bind_congr fun named => ?_
  rw [bind_assoc]
  rfl

theorem preview_eq_ok_iff :
    preview clock source asked = .ok shown ↔
      ∃ compiled, compile clock source = .ok compiled ∧
        ∃ request, compiled.find (asked.getD {}) = .ok request ∧
          shown = ⟨compiled.named.query, compiled.named.name, request⟩ := by
  rw [preview_eq_bind]
  simp only [bind_eq_ok_iff, mapError_eq_ok_iff, Except.ok.injEq, @eq_comm _ shown]

theorem preview_eq_error_iff :
    preview clock source asked = .error error ↔
      compile clock source = .error error ∨
        ∃ compiled, compile clock source = .ok compiled ∧ ¬ (asked.getD {}).Writable ∧
          error = .unwritable .longNumber := by
  rw [preview_eq_bind, bind_eq_error_iff]
  refine or_congr_right (exists_congr fun compiled => and_congr_right fun _ => ?_)
  rw [bind_eq_error_iff, mapError_eq_error_iff]
  constructor
  · rintro (⟨_, refused, rfl⟩ | ⟨_, _, ⟨⟩⟩)
    obtain ⟨long, rfl⟩ := Clauses.find_eq_error_iff.mp refused
    exact ⟨long, rfl⟩
  · rintro ⟨long, rfl⟩
    exact .inl ⟨_, Clauses.find_eq_error_iff.mpr ⟨long, rfl⟩, rfl⟩

end

end BlockQuery
