import BlockQuery.Proofs.Graph.RunOutcome

/-!
# The requests of a run

A query block is compiled in three places: to be run, to be shown by an engine, and
to be shown without one.  What is shown is what is run: a run that can be compiled
starts with exactly the request of the preview, goes on with the count of the same
conditions if the matches are bounded, and looks up references only after that.  A
block that cannot be previewed is not run at all.  An engine that keeps a log of its
requests makes this visible.
-/

namespace BlockQuery.Graph

open Datalog

/-! ## Computations that add to a log -/

section

variable {ε δ α β : Type} {allowed : Request → Prop}

/-- The computation only adds to the log. -/
def Extends (computation : ExceptT ε (StateM (List Request)) α) : Prop :=
  ∀ log, log <+: (computation.run.run log).2

/-- The computation only adds to the log, and what it adds is allowed. -/
def Adds (allowed : Request → Prop) (computation : ExceptT ε (StateM (List Request)) α) : Prop :=
  ∀ log, ∃ added, (computation.run.run log).2 = log ++ added ∧
    ∀ request ∈ added, allowed request

theorem extends_iff_adds {computation : ExceptT ε (StateM (List Request)) α} :
    Extends computation ↔ Adds (fun _ => True) computation := by
  apply forall_congr'
  intro log
  constructor
  · rintro ⟨added, same⟩
    exact ⟨added, same.symm, fun _ _ => trivial⟩
  · rintro ⟨added, same, -⟩
    exact ⟨added, same.symm⟩

/-- A computation that leaves the log alone. -/
theorem adds_of_same {computation : ExceptT ε (StateM (List Request)) α}
    (same : ∀ log, (computation.run.run log).2 = log) : Adds allowed computation := by
  intro log
  refine ⟨[], ?_, List.forall_mem_nil _⟩
  rw [same, List.append_nil]

theorem adds_pure (value : α) :
    Adds allowed (pure value : ExceptT ε (StateM (List Request)) α) :=
  adds_of_same fun _ => rfl

theorem adds_throw (error : ε) :
    Adds allowed (throw error : ExceptT ε (StateM (List Request)) α) :=
  adds_of_same fun _ => rfl

theorem adds_liftFault (result : Except Fault α) :
    Adds allowed (liftFault result : ExceptT Fault (StateM (List Request)) α) :=
  adds_of_same fun _ => rfl

theorem Adds.adapt {computation : ExceptT ε (StateM (List Request)) α}
    (adds : Adds allowed computation) (f : ε → δ) : Adds allowed (computation.adapt f) :=
  adds

theorem Adds.bind {first : ExceptT ε (StateM (List Request)) α}
    {next : α → ExceptT ε (StateM (List Request)) β} (adds : Adds allowed first)
    (goesOn : ∀ value, Adds allowed (next value)) : Adds allowed (first >>= next) := by
  intro log
  obtain ⟨added, start, fine⟩ := adds log
  rcases ended : first.run.run log with ⟨error | value, later⟩
  · rw [run_bind_of_error ended]
    rw [ended] at start
    exact ⟨added, start, fine⟩
  · rw [run_bind_of_ok ended]
    rw [ended] at start
    dsimp only at start
    obtain ⟨others, rest, othersFine⟩ := goesOn value later
    refine ⟨added ++ others, ?_, List.forall_mem_append.mpr ⟨fine, othersFine⟩⟩
    rw [rest, start, List.append_assoc]

theorem adds_mapM {step : α → ExceptT ε (StateM (List Request)) β} {items : List α}
    (each : ∀ item ∈ items, Adds allowed (step item)) : Adds allowed (items.mapM step) := by
  induction items with
  | nil => exact adds_pure _
  | cons item items ih =>
      rw [List.mapM_cons]
      apply (each item (.head _)).bind
      intro value
      apply (ih fun other listed => each other (.tail _ listed)).bind
      intro values
      exact adds_pure _

end

/-! ## Engines that keep a log -/

/-- The runner adds every request to the log, and nothing else. -/
def Logs (run : Runner (StateM (List Request))) : Prop :=
  ∀ request log, ((run request).run.run log).2 = log ++ [request]

theorem Logs.adds {run : Runner (StateM (List Request))} (logs : Logs run)
    {allowed : Request → Prop} {request : Request} (fine : allowed request) :
    Adds allowed (run request) := by
  intro log
  exact ⟨[request], logs request log, List.forall_mem_singleton.mpr fine⟩

/-- The request looks up the texts of blocks. -/
def IsLookup (request : Request) : Prop :=
  ∃ identifiers, request = lookupRequest identifiers

/-- Expanding references makes requests for the texts of blocks only. -/
theorem Logs.adds_expandFrom {run : Runner (StateM (List Request))} (logs : Logs run)
    (levels : Nat) {depth maxDepth : Int} (left : (maxDepth - depth).toNat = levels)
    (content : Json) : Adds IsLookup (expandFrom run depth maxDepth content) := by
  induction levels generalizing depth content with
  | zero =>
      have deepest : ¬ depth < maxDepth := by omega
      rw [expandFrom.eq_def, if_neg deepest]
      exact adds_pure _
  | succ levels ih =>
      have deeper : depth < maxDepth := by omega
      rw [expandFrom.eq_def, if_pos deeper]
      split
      · dsimp only
        split
        · exact adds_pure _
        · apply (logs.adds ⟨_, rfl⟩).bind
          intro rows
          apply (adds_liftFault _).bind
          intro table
          refine (adds_mapM ?_).bind fun expanded => adds_liftFault _
          rintro ⟨identifier, content⟩ -
          exact (ih (by omega) content).bind fun value => adds_pure _
      · split
        · exact adds_throw _
        · exact adds_pure _

namespace Engine

/-- The engine keeps a log of its requests; expanding a text may make requests of its own. -/
structure KeepsLog (engine : Engine (StateM (List Request))) : Prop where
  run : Logs engine.run
  expandText : ∀ content, Extends (engine.expandText content)

theorem adds_expandText_ofRunner {run : Runner (StateM (List Request))} (logs : Logs run)
    (depth : Option Nat) (clock : Calendar.Clock) (content : Json) :
    Adds IsLookup ((ofRunner run depth clock).expandText content) := by
  cases depth with
  | none => exact adds_pure content
  | some levels => exact logs.adds_expandFrom _ rfl content

theorem keepsLog_ofRunner {run : Runner (StateM (List Request))} (logs : Logs run)
    (depth : Option Nat) (clock : Calendar.Clock) : (ofRunner run depth clock).KeepsLog := by
  refine ⟨logs, ?_⟩
  intro content log
  obtain ⟨added, same, -⟩ := adds_expandText_ofRunner logs depth clock content log
  exact ⟨added, same.symm⟩

/-! ## Stages -/

section

variable {engine : Engine (StateM (List Request))} {source : String} {compiled : Compiled}
  {options : RequestOptions}

theorem adds_matchesOf {allowed : Request → Prop}
    (expands : ∀ content, Adds allowed (engine.expandText content)) (rows : Json) :
    Adds allowed (engine.matchesOf rows) := by
  apply (adds_liftFault _).bind
  intro items
  apply adds_mapM
  intro row _
  apply (adds_liftFault _).bind
  intro uid
  apply (adds_liftFault _).bind
  intro content
  apply (expands content).bind
  intro expanded
  exact adds_pure _

/-- The request for the number of matches, if there is one. -/
def countRequests (compiled : Compiled) (options : RequestOptions) : List Request :=
  if options.isBounded then [compiled.count options.pageUid] else []

theorem countRows_log (logs : Logs engine.run) (log : List Request) :
    ((engine.countRows compiled options).run log).2 = log ++ countRequests compiled options := by
  unfold countRows countRequests
  split
  · exact logs (compiled.count options.pageUid) log
  · exact (List.append_nil log).symm

/-- The matches are counted before their texts are expanded, and nothing else is requested. -/
theorem settle_log (logs : Logs engine.run) {allowed : Request → Prop}
    (expands : ∀ content, Adds allowed (engine.expandText content)) (workers : 0 < engine.workers)
    (rows : Json) (log : List Request) :
    ∃ added, ((engine.settle compiled options rows).run.run log).2 =
        log ++ countRequests compiled options ++ added ∧
      ∀ request ∈ added, allowed request := by
  have adds : ∀ counted, Adds allowed (do
      let found ← (engine.matchesOf rows).adapt RunError.fault
      let total ← (liftFault (totalOf found counted) :
        ExceptT Fault (StateM (List Request)) Int).adapt .fault
      return Outcome.found found total (mainRequest compiled.conditions options).text) := by
    intro counted
    apply ((adds_matchesOf expands rows).adapt _).bind
    intro found
    apply ((adds_liftFault _).adapt _).bind
    intro total
    exact adds_pure _
  -- the log behind the count is the one that the rest starts with
  rw [settle, if_neg (Int.not_le.mpr workers), ← countRows_log logs log]
  exact adds _ _

theorem KeepsLog.prefix_settle (keeps : engine.KeepsLog) (workers : 0 < engine.workers)
    (rows : Json) (log : List Request) :
    log ++ countRequests compiled options <+:
      ((engine.settle compiled options rows).run.run log).2 := by
  have expands := fun content => extends_iff_adds.mp (keeps.expandText content)
  obtain ⟨added, same, -⟩ := settle_log keeps.run expands workers rows log
  exact ⟨added, same.symm⟩

theorem settle_of_no_workers (few : engine.workers ≤ 0) (rows : Json) (log : List Request) :
    (engine.settle compiled options rows).run.run log = (.error .noWorkers, log) := by
  rw [settle, if_pos few]
  rfl

theorem KeepsLog.extends_settle (keeps : engine.KeepsLog) (rows : Json) :
    Extends (engine.settle compiled options rows) := by
  intro log
  by_cases few : engine.workers ≤ 0
  · exact ⟨[], by rw [settle_of_no_workers few, List.append_nil]⟩
  · exact (List.prefix_append _ _).trans (keeps.prefix_settle (Int.not_le.mp few) rows log)

theorem exists_found_of_settle {rows : Json} {log : List Request} {outcome : Outcome}
    (ended : ((engine.settle compiled options rows).run.run log).1 = .ok outcome) :
    ∃ all total, outcome = .found all total (mainRequest compiled.conditions options).text := by
  by_cases few : engine.workers ≤ 0
  · rw [settle_of_no_workers few] at ended
    cases ended
  · rw [settle, if_neg few] at ended
    obtain ⟨counted, _, ended⟩ := exists_of_run_bind_ok ended
    obtain ⟨found, _, ended⟩ := exists_of_run_bind_ok ended
    obtain ⟨total, _, ended⟩ := exists_of_run_bind_ok ended
    exact ⟨found, total, (Except.ok.inj ended).symm⟩

/-! ## Runs -/

/-- A run ends with its main request if that fails. -/
theorem KeepsLog.runCompiled_of_error (keeps : engine.KeepsLog) (writable : options.Writable)
    {log : List Request} {fault : Fault}
    (answer : ((engine.run (mainRequest compiled.conditions options)).run.run log).1 =
      .error fault) :
    (engine.runCompiled compiled options).run.run log =
      (.error (.fault fault), log ++ [mainRequest compiled.conditions options]) := by
  rw [runCompiled_of_writable engine compiled writable]
  apply run_bind_of_error
  rw [run_run_adapt, answer, keeps.run]
  rfl

theorem KeepsLog.runCompiled_of_ok (keeps : engine.KeepsLog) (writable : options.Writable)
    {log : List Request} {rows : Json}
    (answer : ((engine.run (mainRequest compiled.conditions options)).run.run log).1 = .ok rows) :
    (engine.runCompiled compiled options).run.run log =
      (engine.settle compiled options rows).run.run
        (log ++ [mainRequest compiled.conditions options]) := by
  rw [runCompiled_of_writable engine compiled writable]
  apply run_bind_of_ok
  rw [run_run_adapt, answer, keeps.run]
  rfl

/-- A run starts with its main request. -/
theorem KeepsLog.prefix_runCompiled (keeps : engine.KeepsLog) (writable : options.Writable)
    (log : List Request) :
    log ++ [mainRequest compiled.conditions options] <+:
      ((engine.runCompiled compiled options).run.run log).2 := by
  cases answer : ((engine.run (mainRequest compiled.conditions options)).run.run log).1 with
  | error fault => exact ⟨[], by rw [keeps.runCompiled_of_error writable answer, List.append_nil]⟩
  | ok rows =>
      rw [keeps.runCompiled_of_ok writable answer]
      exact keeps.extends_settle rows _

/-- A run goes on with the count of a bounded number of matches. -/
theorem KeepsLog.prefix_runCompiled_count (keeps : engine.KeepsLog) (writable : options.Writable)
    (bounded : options.isBounded) (workers : 0 < engine.workers) {log : List Request} {rows : Json}
    (answer : ((engine.run (mainRequest compiled.conditions options)).run.run log).1 = .ok rows) :
    log ++ [mainRequest compiled.conditions options] ++ [compiled.count options.pageUid] <+:
      ((engine.runCompiled compiled options).run.run log).2 := by
  have counts : countRequests compiled options = [compiled.count options.pageUid] :=
    if_pos bounded
  rw [keeps.runCompiled_of_ok writable answer, ← counts]
  exact keeps.prefix_settle workers rows _

theorem KeepsLog.text_of_runCompiled (keeps : engine.KeepsLog) {log : List Request}
    {outcome : Outcome}
    (ended : ((engine.runCompiled compiled options).run.run log).1 = .ok outcome) :
    ∃ all total, outcome = .found all total (mainRequest compiled.conditions options).text := by
  by_cases writable : options.Writable
  · cases answer : ((engine.run (mainRequest compiled.conditions options)).run.run log).1 with
    | error fault =>
        rw [keeps.runCompiled_of_error writable answer] at ended
        cases ended
    | ok rows =>
        rw [keeps.runCompiled_of_ok writable answer] at ended
        exact exists_found_of_settle ended
  · rw [runCompiled_of_not_writable engine compiled writable] at ended
    cases ended

theorem execute_of_uncompiled {error : CompileError}
    (uncompiled : compile engine.clock source = .error error) (log : List Request) :
    (engine.execute source options).run log = (.failed error.message, log) := by
  unfold execute
  rw [uncompiled]
  rfl

theorem execute_of_ok (ok : compile engine.clock source = .ok compiled) {outcome : Outcome}
    {log later : List Request}
    (ended : (engine.runCompiled compiled options).run.run log = (.ok outcome, later)) :
    (engine.execute source options).run log = (outcome, later) := by
  unfold execute
  rw [ok]
  dsimp only
  rw [StateT.run_bind, ended]
  rfl

theorem execute_of_error (ok : compile engine.clock source = .ok compiled) {error : RunError}
    {log later : List Request}
    (ended : (engine.runCompiled compiled options).run.run log = (.error error, later)) :
    (engine.execute source options).run log = (.failed error.message, later) := by
  unfold execute
  rw [ok]
  dsimp only
  rw [StateT.run_bind, ended]
  rfl

/-- A main request that cannot be written is not sent, and nothing else is. -/
theorem execute_of_not_writable (ok : compile engine.clock source = .ok compiled)
    (long : ¬ options.Writable) (log : List Request) :
    (engine.execute source options).run log = (.failed Text.unwritableMessage, log) := by
  have ended : (engine.runCompiled compiled options).run.run log =
      (.error (.compile (.unwritable .longNumber)), log) := by
    rw [runCompiled_of_not_writable engine compiled long]
    rfl
  exact execute_of_error ok ended

/-- The log of a run is the log of its compiled query, and matches come with the text of the
main request. -/
theorem KeepsLog.execute_of_compiled (keeps : engine.KeepsLog)
    (ok : compile engine.clock source = .ok compiled) (log : List Request) :
    ((engine.execute source options).run log).2 =
      ((engine.runCompiled compiled options).run.run log).2 ∧
    ∀ all total query, ((engine.execute source options).run log).1 = .found all total query →
      query = (mainRequest compiled.conditions options).text := by
  rcases ended : (engine.runCompiled compiled options).run.run log with ⟨error | outcome, later⟩
  · rw [execute_of_error ok ended]
    refine ⟨rfl, ?_⟩
    rintro all total query ⟨⟩
  · rw [execute_of_ok ok ended]
    refine ⟨rfl, ?_⟩
    rintro all total query rfl
    obtain ⟨_, _, same⟩ := keeps.text_of_runCompiled (congrArg Prod.fst ended)
    cases same
    rfl

/-! ## Previews -/

/-- The options with the default order in place of none or an empty one. -/
def ordered (options : RequestOptions) : RequestOptions :=
  if options.order = none ∨ options.order = some "" then
    { options with order := some "?block-uid asc" }
  else
    options

theorem findOptions_eq_ordered : findOptions options = ordered options := by
  rcases options with ⟨limit, offset, _ | order, pageUid⟩
  · rfl
  · by_cases empty : order = ""
    · subst empty
      rfl
    · have kept : (some order).filter (· != "") = some order := by simp [Option.filter, empty]
      simp [findOptions, ordered, empty, kept]

theorem writable_ordered_iff : (ordered options).Writable ↔ options.Writable := by
  rw [← findOptions_eq_ordered, writable_findOptions_iff]

end

/-- What is shown is what is run.  A block without a preview makes no request and fails with the
message that the preview has.  Otherwise the first request is the one of the preview, matches come
with its text, and if the matches are bounded, the main request is answered and there are workers,
then the second request counts the matches of the same conditions on the same page.  The engine's
own preview is the one without options. -/
theorem execute_runs_preview (engine : Engine (StateM (List Request))) (keeps : engine.KeepsLog)
    (source : String) (options : RequestOptions) (log : List Request) :
    (∀ error, BlockQuery.preview engine.clock source (some (ordered options)) = .error error →
      error.message ≠ "" ∧
      (engine.execute source options).run log = (.failed error.message, log)) ∧
    (∀ shown, BlockQuery.preview engine.clock source (some (ordered options)) = .ok shown →
      ∃ outcome later,
        (engine.execute source options).run log = (outcome, log ++ shown.request :: later) ∧
        (∀ all total query, outcome = .found all total query → query = shown.request.text) ∧
        ∀ rows, options.limit ≠ none → options.limit ≠ some (-1) → 0 < engine.workers →
          ((engine.run shown.request).run.run log).1 = .ok rows →
          ∃ conditions, shown.query.conditions engine.clock = .ok conditions ∧
            conditions.clauses.find (ordered options) defaultSelection = .ok shown.request ∧
            later.head? = some (conditions.clauses.count options.pageUid)) ∧
    engine.preview source = BlockQuery.preview engine.clock source none := by
  refine ⟨?_, ?_, rfl⟩
  · intro error unshown
    refine ⟨(RunError.compile error).message_ne_empty, ?_⟩
    obtain uncompiled | ⟨compiled, ok, long, rfl⟩ := preview_eq_error_iff.mp unshown
    · exact execute_of_uncompiled uncompiled log
    · exact execute_of_not_writable ok (fun writable => long (writable_ordered_iff.mpr writable)) log
  · intro shown isShown
    obtain ⟨compiled, ok, request, made, rfl⟩ := preview_eq_ok_iff.mp isShown
    obtain ⟨stated, rfl⟩ := Clauses.find_eq_ok_iff.mp made
    have writable := writable_ordered_iff.mp stated
    have main : compiled.conditions.clauses.findRequest ((some (ordered options)).getD {})
        defaultSelection = mainRequest compiled.conditions options := by
      rw [Option.getD_some, ← findOptions_eq_ordered, mainRequest]
    rw [main]
    obtain ⟨sameLog, text⟩ := keeps.execute_of_compiled ok log
    have first : log ++ [mainRequest compiled.conditions options] <+: _ :=
      keeps.prefix_runCompiled writable log
    obtain ⟨later, split⟩ := first
    refine ⟨((engine.execute source options).run log).1, later, ?_, text, ?_⟩
    · have requests : ((engine.execute source options).run log).2 =
          log ++ mainRequest compiled.conditions options :: later := by
        rw [sameLog, ← split, List.append_assoc, List.singleton_append]
      exact Prod.ext rfl requests
    · intro rows limited bounded workers answer
      refine ⟨compiled.conditions, (compile_eq_ok_iff.mp ok).2, main ▸ made, ?_⟩
      have second := keeps.prefix_runCompiled_count writable
        (isBounded_iff.mpr (not_or.mpr ⟨limited, bounded⟩)) workers answer
      -- both prefixes are those of one log, so the count comes first in what follows
      rw [← split, List.prefix_append_right_inj] at second
      obtain ⟨lookups, rfl⟩ := second
      rfl

/-- A runner that keeps a log and answers with one row, whose text has a reference. -/
def recorder : Runner (StateM (List Request)) := fun request => do
  modify (· ++ [request])
  return .arr [.arr [.str "block-one", .str "((block-two))"]]

theorem logs_recorder : Logs recorder :=
  fun _ _ => rfl

theorem execute_runs_preview_recorded :
    ∃ shown outcome later,
      BlockQuery.preview Query.newYear (Query.canonicalBlock tagged)
        (some (ordered ⟨some 5, 0, none, none⟩)) = .ok shown ∧
      ((ofRunner recorder (some 1) Query.newYear).execute (Query.canonicalBlock tagged)
        ⟨some 5, 0, none, none⟩).run [] = (outcome, shown.request :: later) ∧
      ∃ conditions, shown.query.conditions Query.newYear = .ok conditions ∧
        conditions.clauses.find ⟨some 5, 0, some "?block-uid asc", none⟩ defaultSelection =
          .ok shown.request ∧
        later.head? = some (conditions.clauses.count none) := by
  have compiled : ∃ conditions, tagged.query.conditions Query.newYear = .ok conditions := ⟨_, rfl⟩
  obtain ⟨conditions, dated⟩ := compiled
  have writable : (ordered ⟨some 5, 0, none, none⟩).Writable :=
    writable_ordered_iff.mpr (RequestOptions.writable_of_small (by decide) (by decide) _ _)
  obtain ⟨request, made⟩ : ∃ request, conditions.clauses.find
      ((some (ordered ⟨some 5, 0, none, none⟩)).getD {}) defaultSelection = .ok request :=
    ⟨_, Clauses.find_eq_ok_iff.mpr ⟨writable, rfl⟩⟩
  have shown := preview_eq_ok_iff.mpr ⟨⟨tagged, conditions⟩,
    compile_eq_ok_iff.mpr ⟨Query.parse_canonicalBlock tagged_wellFormed, dated⟩, request, made, rfl⟩
  obtain ⟨outcome, later, ended, -, counts⟩ :=
    (execute_runs_preview (ofRunner recorder (some 1) Query.newYear)
      (keepsLog_ofRunner logs_recorder _ _) (Query.canonicalBlock tagged) ⟨some 5, 0, none, none⟩
      []).2.1 _ shown
  exact ⟨_, outcome, later, shown, ended,
    counts _ (by decide) (by decide) (by decide) rfl⟩

end Engine

end BlockQuery.Graph
