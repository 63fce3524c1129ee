import BlockQuery.Graph.OutcomeJson
import BlockQuery.Proofs.Graph.RowMatches
import BlockQuery.Proofs.Query.Canonical
import BlockQuery.Proofs.Query.Compilation

/-!
# How runs end

A run goes through stages: reading, dates, writing the main request, its answer, the
workers, the rows and the count.  It finds matches exactly if every stage goes well,
one match for every row.  Otherwise it fails with the error of the first stage that
does not.
-/

namespace BlockQuery.Graph

open Datalog

namespace Engine

/-! ## Stages -/

/-- The request for the matches. -/
def mainRequest (conditions : Conditions) (options : RequestOptions) : Request :=
  conditions.clauses.findRequest (findOptions options) defaultSelection

theorem writable_findOptions_iff {options : RequestOptions} :
    (findOptions options).Writable ↔ options.Writable :=
  ⟨fun writable => ⟨writable.limit, writable.offset⟩,
    fun writable => ⟨writable.limit, writable.offset⟩⟩

/-- What a run does with the rows of its main request. -/
def settle {m : Type → Type} [Monad m] (engine : Engine m) (compiled : Compiled)
    (options : RequestOptions) (rows : Json) : ExceptT RunError m Outcome := do
  if engine.workers ≤ 0 then
    throw .noWorkers
  let counted ← engine.countRows compiled options
  let found ← (engine.matchesOf rows).adapt .fault
  let total ← (liftFault (totalOf found counted) : ExceptT Fault m Int).adapt .fault
  return .found found total (mainRequest compiled.conditions options).text

section

variable {m : Type → Type} [Monad m] [LawfulMonad m] {options : RequestOptions}

/-- A main request that can be written is sent. -/
theorem runCompiled_of_writable (engine : Engine m) (compiled : Compiled)
    (writable : options.Writable) :
    engine.runCompiled compiled options =
      (engine.run (mainRequest compiled.conditions options)).adapt .fault >>=
        engine.settle compiled options := by
  have made : compiled.find (findOptions options) =
      .ok (mainRequest compiled.conditions options) :=
    Clauses.find_eq_ok_iff.mpr ⟨writable_findOptions_iff.mpr writable, rfl⟩
  rw [runCompiled, made]
  exact pure_bind (m := ExceptT RunError m) _ _

/-- A main request that cannot be written is an error of its own. -/
theorem runCompiled_of_not_writable (engine : Engine m) (compiled : Compiled)
    (long : ¬ options.Writable) :
    engine.runCompiled compiled options = throw (.compile (.unwritable .longNumber)) := by
  have refused : compiled.find (findOptions options) = .error .longNumber :=
    Clauses.find_eq_error_iff.mpr ⟨fun writable => long (writable_findOptions_iff.mp writable), rfl⟩
  rw [runCompiled, refused]
  apply ExceptT.ext
  rw [ExceptT.run_bind, ExceptT.run_mk, pure_bind, ExceptT.run_throw]
  rfl

end

variable {engine : Engine Id}

/-- What the rows of an answer become. -/
def gather (engine : Engine Id) (conditions : Conditions) (options : RequestOptions)
    (rows : Json) : Except RunError Outcome :=
  (itemsOf rows >>= fun items => (items.mapM engine.matchOf).run.run).mapError .fault >>=
    fun all => (totalOf all (engine.counted conditions options)).mapError .fault >>=
      fun total => .ok (.found all total (mainRequest conditions options).text)

theorem run_settle (engine : Engine Id) (compiled : Compiled) (options : RequestOptions)
    (rows : Json) :
    (engine.settle compiled options rows).run.run =
      if engine.workers ≤ 0 then .error .noWorkers
      else engine.gather compiled.conditions options rows := by
  have becomes : (engine.matchesOf rows).run.run =
      itemsOf rows >>= fun items => (items.mapM engine.matchOf).run.run := by
    rw [matchesOf, run_bind, run_liftFault]
  rw [settle]
  split
  · rfl
  · simp only [run_bind, run_adapt, run_liftFault, becomes]
    rfl

section

variable {conditions : Conditions} {options : RequestOptions} {rows : Json}

theorem gather_eq_ok_iff {outcome : Outcome} :
    engine.gather conditions options rows = .ok outcome ↔
      ∃ items all total, itemsOf rows = .ok items ∧ List.Forall₂ engine.Gives items all ∧
        engine.Totals conditions options all total ∧
        outcome = .found all total (mainRequest conditions options).text := by
  rw [gather, bind_eq_ok_iff]
  simp only [bind_eq_ok_iff, mapError_eq_ok_iff, mapM_matchOf_eq_ok_iff, totalOf_eq_ok_iff]
  constructor
  · rintro ⟨all, ⟨items, iterable, each⟩, total, counted, ⟨⟩⟩
    exact ⟨items, all, total, iterable, each, counted, rfl⟩
  · rintro ⟨items, all, total, iterable, each, counted, rfl⟩
    exact ⟨all, ⟨items, iterable, each⟩, total, counted, rfl⟩

theorem gather_eq_error_iff {error : RunError} :
    engine.gather conditions options rows = .error error ↔
      ∃ fault, error = .fault fault ∧ (itemsOf rows = .error fault ∨
        ∃ items, itemsOf rows = .ok items ∧ (engine.FirstSpoils items fault ∨
          ∃ all, List.Forall₂ engine.Gives items all ∧
            engine.Miscounts conditions options fault)) := by
  rw [gather, bind_eq_error_iff]
  simp only [bind_eq_error_iff, mapError_eq_error_iff, mapError_eq_ok_iff, bind_eq_ok_iff,
    mapM_matchOf_eq_ok_iff, mapM_matchOf_eq_error_iff, totalOf_eq_error_iff]
  constructor
  · rintro (⟨fault, noRows | ⟨items, iterable, spoils⟩, rfl⟩ |
      ⟨all, ⟨items, iterable, each⟩, ⟨fault, miscounts, rfl⟩ | ⟨_, _, ⟨⟩⟩⟩)
    · exact ⟨fault, rfl, .inl noRows⟩
    · exact ⟨fault, rfl, .inr ⟨items, iterable, .inl spoils⟩⟩
    · exact ⟨fault, rfl, .inr ⟨items, iterable, .inr ⟨all, each, miscounts⟩⟩⟩
  · rintro ⟨fault, rfl, noRows | ⟨items, iterable, spoils | ⟨all, each, miscounts⟩⟩⟩
    · exact .inl ⟨fault, .inl noRows, rfl⟩
    · exact .inl ⟨fault, .inr ⟨items, iterable, spoils⟩, rfl⟩
    · exact .inr ⟨all, ⟨items, iterable, each⟩, .inl ⟨fault, miscounts, rfl⟩⟩

variable {compiled : Compiled}

theorem runCompiled_eq_ok_iff {outcome : Outcome} :
    (engine.runCompiled compiled options).run.run = .ok outcome ↔
      options.Writable ∧
        ∃ rows, engine.answer (mainRequest compiled.conditions options) = .ok rows ∧
          0 < engine.workers ∧ engine.gather compiled.conditions options rows = .ok outcome := by
  by_cases writable : options.Writable
  · rw [runCompiled_of_writable engine compiled writable, run_bind, bind_eq_ok_iff,
      and_iff_right writable]
    simp only [run_adapt, mapError_eq_ok_iff, run_settle]
    refine exists_congr fun rows => and_congr_right fun _ => ?_
    split
    · next few => simp [Int.not_lt.mpr few]
    · next enough => simp [Int.not_le.mp enough]
  · rw [runCompiled_of_not_writable engine compiled writable]
    constructor
    · rintro ⟨⟩
    · rintro ⟨few, -⟩
      exact absurd few writable

theorem runCompiled_eq_error_iff {error : RunError} :
    (engine.runCompiled compiled options).run.run = .error error ↔
      ¬ options.Writable ∧ error = .compile (.unwritable .longNumber) ∨
      options.Writable ∧
        ((∃ fault, engine.answer (mainRequest compiled.conditions options) = .error fault ∧
            error = .fault fault) ∨
          ∃ rows, engine.answer (mainRequest compiled.conditions options) = .ok rows ∧
            (engine.workers ≤ 0 ∧ error = .noWorkers ∨
              0 < engine.workers ∧
                engine.gather compiled.conditions options rows = .error error)) := by
  by_cases writable : options.Writable
  · rw [runCompiled_of_writable engine compiled writable, run_bind, bind_eq_error_iff]
    simp only [run_adapt, mapError_eq_ok_iff, mapError_eq_error_iff, run_settle, writable,
      not_true_eq_false, false_and, false_or, true_and]
    refine or_congr (by simp only [eq_comm]; rfl)
      (exists_congr fun rows => and_congr_right fun _ => ?_)
    split
    · next few => simp [few, Int.not_lt.mpr few, eq_comm]
    · next enough => simp [Int.not_le.mp enough, enough]
  · rw [runCompiled_of_not_writable engine compiled writable]
    constructor
    · rintro ⟨⟩
      exact .inl ⟨writable, rfl⟩
    · rintro (⟨-, rfl⟩ | ⟨few, -⟩)
      · rfl
      · exact absurd few writable

end

/-- The source can be read and its dates can be resolved. -/
def CompilesTo (engine : Engine Id) (source : String) (conditions : Conditions) : Prop :=
  ∃ named, Query.parse source = .ok named ∧
    named.query.conditions engine.clock = .ok conditions

/-- The source is compiled, its main request is written and answered with these rows, and there are
workers. -/
structure Answered (engine : Engine Id) (source : String) (options : RequestOptions)
    (conditions : Conditions) (rows : Json) : Prop where
  compiled : engine.CompilesTo source conditions
  writable : options.Writable
  main : engine.answer (mainRequest conditions options) = .ok rows
  workers : 0 < engine.workers

/-- Every stage of a run goes well: every row becomes a match and the matches are counted. -/
def Finds (engine : Engine Id) (source : String) (options : RequestOptions) (all : List Match)
    (total : Int) (query : String) : Prop :=
  ∃ conditions rows items, engine.Answered source options conditions rows ∧
    itemsOf rows = .ok items ∧ List.Forall₂ engine.Gives items all ∧
    engine.Totals conditions options all total ∧ query = (mainRequest conditions options).text

/-- The first error of a run: all stages in front of it went well. -/
inductive RunsInto (engine : Engine Id) (source : String) (options : RequestOptions) :
    RunError → Prop
  | unreadable {error : Query.ParseError} : Query.parse source = .error error →
      RunsInto engine source options (.compile (.unreadable error))
  | undated {named : NamedQuery} {error : Calendar.DateError} : Query.parse source = .ok named →
      named.query.conditions engine.clock = .error error →
      RunsInto engine source options (.compile (.undated error))
  | unwritten {conditions : Conditions} : engine.CompilesTo source conditions →
      ¬ options.Writable → RunsInto engine source options (.compile (.unwritable .longNumber))
  | unanswered {conditions : Conditions} {fault : Fault} : engine.CompilesTo source conditions →
      options.Writable → engine.answer (mainRequest conditions options) = .error fault →
      RunsInto engine source options (.fault fault)
  | noWorkers {conditions : Conditions} {rows : Json} : engine.CompilesTo source conditions →
      options.Writable → engine.answer (mainRequest conditions options) = .ok rows →
      engine.workers ≤ 0 → RunsInto engine source options .noWorkers
  | noRows {conditions : Conditions} {rows : Json} {fault : Fault} :
      engine.Answered source options conditions rows → itemsOf rows = .error fault →
      RunsInto engine source options (.fault fault)
  | spoiltRow {conditions : Conditions} {rows : Json} {items : List Json} {fault : Fault} :
      engine.Answered source options conditions rows → itemsOf rows = .ok items →
      engine.FirstSpoils items fault → RunsInto engine source options (.fault fault)
  | miscounted {conditions : Conditions} {rows : Json} {items : List Json} {all : List Match}
      {fault : Fault} :
      engine.Answered source options conditions rows → itemsOf rows = .ok items →
      List.Forall₂ engine.Gives items all → engine.Miscounts conditions options fault →
      RunsInto engine source options (.fault fault)

/-- A run of the text of a query block, before its error becomes a message. -/
def attempt (engine : Engine Id) (source : String) (options : RequestOptions) :
    Except RunError Outcome :=
  (compile engine.clock source).mapError .compile >>= fun compiled =>
    (engine.runCompiled compiled options).run.run

theorem run_execute (engine : Engine Id) (source : String) (options : RequestOptions) :
    (engine.execute source options).run =
      match engine.attempt source options with
      | .ok outcome => outcome
      | .error error => .failed error.message := by
  unfold execute attempt
  cases compile engine.clock source with
  | error e => rfl
  | ok compiled =>
      change Id.run (match (engine.runCompiled compiled options).run.run with
          | .ok outcome => pure outcome
          | .error error => pure (.failed error.message)) =
        match (engine.runCompiled compiled options).run.run with
        | .ok outcome => outcome
        | .error error => .failed error.message
      cases (engine.runCompiled compiled options).run.run with
      | error e => rfl
      | ok outcome => rfl

section

variable {source : String} {options : RequestOptions}

/-- A run ends with matches exactly if every stage goes well. -/
theorem attempt_eq_ok_iff {outcome : Outcome} :
    engine.attempt source options = .ok outcome ↔
      ∃ all total query, outcome = .found all total query ∧
        engine.Finds source options all total query := by
  rw [attempt, bind_eq_ok_iff]
  simp only [mapError_eq_ok_iff, compile_eq_ok_iff, runCompiled_eq_ok_iff, gather_eq_ok_iff]
  constructor
  · rintro ⟨⟨named, conditions⟩, ⟨parsed, dated⟩, writable, rows, main, workers, items, all, total,
      iterable, each, counted, rfl⟩
    exact ⟨all, total, _, rfl, conditions, rows, items,
      ⟨⟨named, parsed, dated⟩, writable, main, workers⟩, iterable, each, counted, rfl⟩
  · rintro ⟨all, total, _, rfl, conditions, rows, items,
      ⟨⟨named, parsed, dated⟩, writable, main, workers⟩, iterable, each, counted, rfl⟩
    exact ⟨⟨named, conditions⟩, ⟨parsed, dated⟩, writable, rows, main, workers, items, all, total,
      iterable, each, counted, rfl⟩

/-- A run fails with the error of its first stage that does not go well. -/
theorem attempt_eq_error_iff {error : RunError} :
    engine.attempt source options = .error error ↔ engine.RunsInto source options error := by
  rw [attempt, bind_eq_error_iff]
  simp only [mapError_eq_error_iff, mapError_eq_ok_iff, compile_eq_ok_iff, compile_eq_error_iff,
    runCompiled_eq_error_iff, gather_eq_error_iff]
  constructor
  · rintro (⟨_, ⟨cause, unreadable, rfl⟩ | ⟨named, cause, parsed, undated, rfl⟩, rfl⟩ |
      ⟨⟨named, conditions⟩, ⟨parsed, dated⟩, failed⟩)
    · exact .unreadable unreadable
    · exact .undated parsed undated
    · have compiled : engine.CompilesTo source conditions := ⟨named, parsed, dated⟩
      rcases failed with ⟨long, rfl⟩ | ⟨writable, ⟨fault, unanswered, rfl⟩ |
        ⟨rows, main, ⟨few, rfl⟩ | ⟨workers, failed⟩⟩⟩
      · exact .unwritten compiled long
      · exact .unanswered compiled writable unanswered
      · exact .noWorkers compiled writable main few
      · have answered : engine.Answered source options conditions rows :=
          ⟨compiled, writable, main, workers⟩
        rcases failed with
          ⟨fault, rfl, noRows | ⟨items, iterable, spoils | ⟨all, each, miscounts⟩⟩⟩
        · exact .noRows answered noRows
        · exact .spoiltRow answered iterable spoils
        · exact .miscounted answered iterable each miscounts
  · -- the witnesses of each stage are those of the stages in front of it and its own
    intro into
    cases into with
    | unreadable unreadable => exact .inl ⟨_, .inl ⟨_, unreadable, rfl⟩, rfl⟩
    | undated parsed undated => exact .inl ⟨_, .inr ⟨_, _, parsed, undated, rfl⟩, rfl⟩
    | @unwritten conditions compiled long =>
        rcases compiled with ⟨named, compiled⟩
        exact .inr ⟨⟨named, conditions⟩, compiled, .inl ⟨long, rfl⟩⟩
    | @unanswered conditions fault compiled writable unanswered =>
        rcases compiled with ⟨named, compiled⟩
        exact .inr ⟨⟨named, conditions⟩, compiled,
          .inr ⟨writable, .inl ⟨fault, unanswered, rfl⟩⟩⟩
    | @noWorkers conditions rows compiled writable main few =>
        rcases compiled with ⟨named, compiled⟩
        exact .inr ⟨⟨named, conditions⟩, compiled,
          .inr ⟨writable, .inr ⟨rows, main, .inl ⟨few, rfl⟩⟩⟩⟩
    | @noRows conditions rows fault answered noRows =>
        rcases answered with ⟨⟨named, compiled⟩, writable, main, workers⟩
        exact .inr ⟨⟨named, conditions⟩, compiled,
          .inr ⟨writable, .inr ⟨rows, main, .inr ⟨workers, fault, rfl, .inl noRows⟩⟩⟩⟩
    | @spoiltRow conditions rows items fault answered iterable spoils =>
        rcases answered with ⟨⟨named, compiled⟩, writable, main, workers⟩
        exact .inr ⟨⟨named, conditions⟩, compiled, .inr ⟨writable,
          .inr ⟨rows, main, .inr ⟨workers, fault, rfl, .inr ⟨items, iterable, .inl spoils⟩⟩⟩⟩⟩
    | @miscounted conditions rows items all fault answered iterable each miscounts =>
        rcases answered with ⟨⟨named, compiled⟩, writable, main, workers⟩
        exact .inr ⟨⟨named, conditions⟩, compiled, .inr ⟨writable, .inr ⟨rows, main,
          .inr ⟨workers, fault, rfl, .inr ⟨items, iterable, .inr ⟨all, each, miscounts⟩⟩⟩⟩⟩⟩

end

end Engine

/-! ## Messages -/

theorem append_ne_empty {first second : String} (nonempty : first ≠ "" ∨ second ≠ "") :
    first ++ second ≠ "" := by
  intro empty
  rw [String.append_eq_empty_iff] at empty
  exact nonempty.elim (· empty.1) (· empty.2)

theorem parseMessage_ne_empty (error : Query.ParseError) : error.message ≠ "" := by
  rcases error with ⟨cause, position⟩
  cases cause with
  | unknownOperator name => exact append_ne_empty (.inl (by decide))
  | expected wanted found => exact append_ne_empty (.inr (by decide))
  | expectedExpression found => exact append_ne_empty (.inr (by decide))
  | noChildren operator => exact append_ne_empty (.inr (by decide))
  | trailing rest => exact append_ne_empty (.inr (by decide))
  | _ => simp [Query.ParseError.message]

theorem dateMessage_ne_empty (error : Calendar.DateError) : error.message ≠ "" := by
  cases error with
  | unreadable text => exact append_ne_empty (.inl (by decide))
  | outOfRange cause =>
      cases cause with
      | tooManyDigits digits =>
          exact append_ne_empty (.inr (append_ne_empty (.inr (by decide))))
      | longSpan days => exact append_ne_empty (.inr (by decide))
      | yearOutside year => exact append_ne_empty (.inr (by decide))
      | _ => decide

theorem kind_ne_empty (fault : Fault) : fault.kind ≠ "" := by
  cases fault with
  | graph error =>
      cases error with
      | raised kind message => exact kind.nonempty
      | _ => simp [Fault.kind, GraphError.kind]
  | notFinite name =>
      change (if name = "NaN" then "ValueError" else "OverflowError") ≠ ""
      split <;> decide
  | badDelay error => cases error <;> decide
  | _ => simp [Fault.kind]

/-- A failed run always says something. -/
theorem RunError.message_ne_empty (error : RunError) : error.message ≠ "" := by
  cases error with
  | compile error =>
      cases error with
      | unreadable error => exact parseMessage_ne_empty error
      | undated error => exact dateMessage_ne_empty error
      | unwritable error => exact append_ne_empty (.inr (by decide))
  | noWorkers => decide
  | fault fault =>
      rw [message]
      split
      · exact kind_ne_empty fault
      · next filled => simpa using filled

namespace Engine

variable {engine : Engine Id} {source : String} {options : RequestOptions}

theorem run_execute_eq_found_iff {all : List Match} {total : Int} {query : String} :
    (engine.execute source options).run = .found all total query ↔
      engine.attempt source options = .ok (.found all total query) := by
  rw [run_execute]
  cases engine.attempt source options with
  | error error => simp
  | ok outcome => simp

theorem run_execute_eq_failed_iff {message : String} :
    (engine.execute source options).run = .failed message ↔
      ∃ error, engine.attempt source options = .error error ∧ error.message = message := by
  rw [run_execute]
  cases ended : engine.attempt source options with
  | error error => simp
  | ok outcome =>
      rcases attempt_eq_ok_iff.mp ended with ⟨all, total, query, rfl, _⟩
      simp

/-- A run always ends with an outcome.  It ends with matches exactly if every stage goes well, the
writing of the main request among them; otherwise it has the message of its first error, which is
never empty, and neither matches nor a number of matches nor the text of the request. -/
theorem execute_eq_iff (engine : Engine Id) (source : String) (options : RequestOptions) :
    (∀ all total query, (engine.execute source options).run = .found all total query ↔
      engine.Finds source options all total query) ∧
    (∀ message, (engine.execute source options).run = .failed message ↔
      ∃ error, engine.RunsInto source options error ∧ error.message = message) ∧
    ∀ message, (engine.execute source options).run = .failed message →
      message ≠ "" ∧ ∀ includeQuery, (engine.execute source options).run.fields includeQuery =
        [("success", .bool false), ("matches", .arr []), ("message", .str message)] := by
  refine ⟨?_, ?_, ?_⟩
  · intro all total query
    rw [run_execute_eq_found_iff, attempt_eq_ok_iff]
    constructor
    · rintro ⟨_, _, _, ⟨⟩, finds⟩
      exact finds
    · intro finds
      exact ⟨all, total, query, rfl, finds⟩
  · intro message
    simp only [run_execute_eq_failed_iff, attempt_eq_error_iff]
  · intro message ended
    rcases run_execute_eq_failed_iff.mp ended with ⟨error, _, rfl⟩
    refine ⟨error.message_ne_empty, ?_⟩
    intro includeQuery
    rw [ended]
    rfl

/-! ## A bound with too many digits -/

/-- A query with a name, which has no part in requests. -/
def tagged : NamedQuery :=
  ⟨.all [.tag "a", .search "b"], some "n"⟩

theorem tagged_wellFormed : tagged.WellFormed := by
  refine ⟨⟨by simp, ⟨⟨by decide, by decide⟩, by decide⟩, .inl (by decide), trivial⟩, ?_⟩
  rintro _ ⟨⟩
  decide

/-- An engine whose requests are all answered, with no rows. -/
def emptyEngine : Engine Id :=
  ofRunner (fun _ => pure (.arr [])) none Query.newYear

/-- The first bound that cannot be written. -/
def longBound : RequestOptions :=
  { limit := some (Nat.pow 10 Text.maxDigits : Nat) }

theorem not_writable_longBound : ¬ longBound.Writable := by
  intro writable
  have bounded (n : Nat) : (n : Int) ≠ -1 := by omega
  exact Text.not_fewDigits_pow (writable.limit _ rfl (bounded _))

/-- Although the text is compiled, every request would be answered and there are workers, there is
no outcome with matches. -/
theorem execute_longBound :
    (∃ conditions, emptyEngine.CompilesTo (Query.canonicalBlock tagged) conditions) ∧
    (∀ request, emptyEngine.answer request = .ok (.arr [])) ∧ 0 < emptyEngine.workers ∧
    (emptyEngine.execute (Query.canonicalBlock tagged) longBound).run =
      .failed Text.unwritableMessage := by
  obtain ⟨conditions, dated⟩ :
      ∃ conditions, tagged.query.conditions emptyEngine.clock = .ok conditions := ⟨_, rfl⟩
  have compiled : emptyEngine.CompilesTo (Query.canonicalBlock tagged) conditions :=
    ⟨tagged, Query.parse_canonicalBlock tagged_wellFormed, dated⟩
  refine ⟨⟨conditions, compiled⟩, fun _ => rfl, by decide, run_execute_eq_failed_iff.mpr ?_⟩
  exact ⟨_, attempt_eq_error_iff.mpr (.unwritten compiled not_writable_longBound), rfl⟩

end Engine

end BlockQuery.Graph
