import BlockQuery.Command.Arguments
import BlockQuery.Files.FileTree
import BlockQuery.Proofs.Datalog.RequestLayout
import BlockQuery.Proofs.Graph.RequestLog
import BlockQuery.Settings.Load

/-!
# The bounds of requests

How many matches are asked for is said by the command line or by the settings, and both
take -1 for all matches.  Only positive numbers come to the graph: a request has a limit
exactly if a positive number is asked for, skips matches exactly if a positive number is
to be skipped, and always has an order.  The matches are counted exactly if their number
is limited.  A number with too many digits keeps the graph from being asked at all.
-/

namespace BlockQuery

open BlockQuery.Datalog BlockQuery.Graph

/-! ## Limits that are accepted -/

/-- A number of matches, or -1 for all of them. -/
def IsLimit (n : Int) : Prop :=
  n = -1 ∨ 1 ≤ n

theorem Settings.isLimit_of_validate {settings : Settings} {warnings : List String}
    (valid : settings.validate = .ok warnings) : IsLimit settings.defaultLimit := by
  unfold validate at valid
  split at valid
  · cases valid
  · next inRange =>
      unfold IsLimit
      omega

/-- Settings are checked after they are put together, with or without a file. -/
theorem Settings.exists_validate_of_load {σ : Type} {fs : Files.FileSystem (StateM σ)}
    {around : Surroundings} {written : Option String} {state : σ} {loaded : Loaded}
    (returned : ((load fs around written).run.run state).1 = .ok loaded) :
    ∃ warnings, loaded.settings.validate = .ok warnings := by
  unfold load at returned
  obtain ⟨path, later, returned⟩ := exists_of_run_bind_ok returned
  obtain ⟨kind, later, returned⟩ := exists_of_run_bind_ok returned
  cases kind with
  | none =>
      have made : withoutFile around path = .ok loaded := returned
      obtain ⟨warnings, valid, ⟨⟩⟩ := bind_eq_ok_iff.mp made
      exact ⟨warnings, mapError_eq_ok_iff.mp valid⟩
  | some kind =>
      obtain ⟨text, later, returned⟩ := exists_of_run_bind_ok returned
      have made : ofText around path text = .ok loaded := returned
      obtain ⟨document, -, made⟩ := bind_eq_ok_iff.mp made
      obtain ⟨settings, -, made⟩ := bind_eq_ok_iff.mp made
      obtain ⟨warnings, valid, ⟨⟩⟩ := bind_eq_ok_iff.mp made
      exact ⟨warnings, mapError_eq_ok_iff.mp valid⟩

theorem Command.isLimit_of_acceptLimit {label : String} {limit n : Int}
    (accepted : acceptLimit label limit = .ok n) : IsLimit n := by
  unfold acceptLimit at accepted
  split at accepted
  · cases accepted
  · next inRange =>
      cases accepted
      unfold IsLimit
      omega

/-- The number of matches that is asked for on the command line or else by the settings. -/
theorem isLimit_getD {σ : Type} {fs : Files.FileSystem (StateM σ)}
    {around : Settings.Surroundings} {written : Option String} {state : σ}
    {loaded : Settings.Loaded}
    (returned : ((Settings.load fs around written).run.run state).1 = .ok loaded)
    {limit : Option Int} (accepted : ∀ n ∈ limit, ∃ label, Command.acceptLimit label n = .ok n) :
    IsLimit (limit.getD loaded.settings.defaultLimit) := by
  cases limit with
  | none =>
      obtain ⟨warnings, valid⟩ := Settings.exists_validate_of_load returned
      exact Settings.isLimit_of_validate valid
  | some n =>
      obtain ⟨label, same⟩ := accepted n rfl
      exact Command.isLimit_of_acceptLimit same

/-! ## Modifiers -/

/-- The number if it is positive. -/
def positive? (n : Int) : Option Int :=
  if 1 ≤ n then some n else none

theorem positive?_eq_some_iff {n m : Int} : positive? n = some m ↔ n = m ∧ 1 ≤ m := by
  unfold positive?
  split
  · next positive =>
      constructor
      · rintro ⟨⟩
        exact ⟨rfl, positive⟩
      · rintro ⟨rfl, -⟩
        rfl
  · next other =>
      constructor
      · rintro ⟨⟩
      · rintro ⟨rfl, positive⟩
        exact absurd positive other

theorem Datalog.RequestOptions.isBounded_eq_isSome {options : RequestOptions} {limit : Int}
    (limited : options.limit = some limit) (isLimit : IsLimit limit) :
    options.isBounded = (positive? limit).isSome := by
  rw [RequestOptions.isBounded, limited, Option.any_some]
  rcases isLimit with rfl | positive
  · rfl
  · have bounded : limit ≠ -1 := by omega
    simp [positive?, positive, bounded]

/-- Only positive numbers have to be written. -/
theorem Datalog.RequestOptions.writable_iff_positive {options : RequestOptions} {limit : Int}
    (limited : options.limit = some limit) (isLimit : IsLimit limit) :
    options.Writable ↔
      ∀ n ∈ (positive? limit).toList ++ (positive? options.offset).toList, Text.FewDigits n := by
  simp only [List.mem_append, Option.mem_toList, positive?_eq_some_iff]
  constructor
  · rintro writable n (⟨rfl, positive⟩ | ⟨rfl, positive⟩)
    · exact writable.limit _ limited (by omega)
    · exact writable.offset (by omega)
  · intro few
    refine ⟨?_, fun positive => few _ (.inr ⟨rfl, positive⟩)⟩
    intro n given bounded
    obtain rfl : limit = n := Option.some.inj (limited.symm.trans given)
    exact few _ (.inl ⟨rfl, isLimit.resolve_left bounded⟩)

/-- A limit and a number of matches to skip are written if they are positive. -/
theorem Datalog.Clauses.modifiers_eq {options : RequestOptions} {limit : Int} {order : String}
    (limited : options.limit = some limit) (isLimit : IsLimit limit)
    (ordered : options.order = some order) (made : order ≠ "") :
    Clauses.modifiers options =
      (positive? limit).toList.map (fun n => s!":limit {n}") ++
        (positive? options.offset).toList.map (fun n => s!":offset {n}") ++
        [s!":order {order}"] := by
  have limits : (if options.isBounded then options.limit.toList.map (s!":limit {·}") else []) =
      (positive? limit).toList.map (fun n => s!":limit {n}") := by
    rw [options.isBounded_eq_isSome limited isLimit, limited]
    unfold positive?
    split
    · rfl
    · rfl
  have skips : (if 0 < options.offset then [s!":offset {options.offset}"] else []) =
      (positive? options.offset).toList.map (fun n => s!":offset {n}") := by
    unfold positive?
    split
    · next positive =>
        rw [if_pos (show 1 ≤ options.offset from positive)]
        rfl
    · next other =>
        rw [if_neg (show ¬ 1 ≤ options.offset from other)]
        rfl
  have orders : (options.order.filter (· != "")).toList.map (s!":order {·}") =
      [s!":order {order}"] := by
    rw [ordered, Option.filter_some_pos (by simp [made])]
    rfl
  rw [Clauses.modifiers, limits, skips, orders]

/-! ## Orders -/

theorem filter_getD_ne_empty (first : Option String) {second : String} (made : second ≠ "") :
    (first.filter (· != "")).getD second ≠ "" := by
  cases kept : first.filter (· != "") with
  | none => exact made
  | some text =>
      have nonempty := (Option.filter_eq_some_iff.mp kept).2
      simpa using nonempty

/-- Falling back from one text to the next is looking for the first that is not empty. -/
theorem find?_getD_cons (first : Option String) (second : String) (others : List String) :
    (first.getD "" :: second :: others).find? (· != "") =
      ((first.filter (· != "")).getD second :: others).find? (· != "") := by
  cases first with
  | none => rfl
  | some text =>
      by_cases empty : text = ""
      · subst empty
        rfl
      · have kept : (some text).filter (· != "") = some text := by simp [Option.filter, empty]
        simp [kept, empty]

/-- The order of the matches is the first that is not empty: the one asked for, the one of the
settings or the default. -/
theorem Settings.exists_order (settings : Settings) (limit : Option Int) (offset : Int)
    (order pageUid : Option String) :
    ∃ sorting, (Engine.findOptions (settings.requestOptions limit offset order pageUid)).order =
        some sorting ∧
      [order.getD "", settings.order, defaultOrder].find? (· != "") = some sorting := by
  refine ⟨_, rfl, ?_⟩
  have stated := find?_getD_cons (some ((order.filter (· != "")).getD settings.order))
    defaultOrder []
  rw [Option.getD_some] at stated
  rw [find?_getD_cons, stated]
  apply List.find?_cons_of_pos
  have made : defaultOrder ≠ "" := by decide
  simpa using filter_getD_ne_empty _ made

/-! ## Requests -/

theorem exists_count_text (compiled : Compiled) (pageUid : Option String) :
    ∃ tail, (compiled.count pageUid).text.toList = '[' :: (":find (count ".toList ++ tail) := by
  rw [Compiled.count, Clauses.count, Clauses.toList_request_text, List.map_cons,
    List.map_singleton, List.intercalate_cons_cons, String.toList_append, String.toList_append]
  simp only [List.append_assoc, List.singleton_append]
  exact ⟨_, rfl⟩

/-- Matches are not counted by the requests that look up texts. -/
theorem not_isLookup_count (compiled : Compiled) (pageUid : Option String) :
    ¬ IsLookup (compiled.count pageUid) := by
  rintro ⟨identifiers, same⟩
  obtain ⟨tail, written⟩ := exists_count_text compiled pageUid
  rw [same] at written
  -- the text does not depend on the blocks that are looked up
  change (lookupRequest []).text.toList = _ at written
  have starts := congrArg (List.take 8) written
  rw [List.take_succ_cons, List.take_append_of_le_length (by decide)] at starts
  exact absurd starts (by decide +kernel)

/-! ## Runs -/

namespace Graph.Engine

/-- An engine with the given number of workers. -/
def staffed {m : Type → Type} [Monad m] (run : Runner m) (depth : Option Nat)
    (clock : Calendar.Clock) (workers : Int) : Engine m :=
  { ofRunner run depth clock with workers := workers }

section

variable {run : Runner (StateM (List Request))} {source : String} {compiled : Compiled}
  {options : RequestOptions} {log : List Request}

theorem keepsLog_staffed (logs : Logs run) (depth : Option Nat) (clock : Calendar.Clock)
    (workers : Int) : (staffed run depth clock workers).KeepsLog :=
  have keeps := keepsLog_ofRunner logs depth clock
  ⟨keeps.run, keeps.expandText⟩

/-- The main request is sent before all others. -/
theorem main_prefix_execute (logs : Logs run) (depth : Option Nat) {clock : Calendar.Clock}
    {workers : Int} (ok : compile clock source = .ok compiled) (writable : options.Writable) :
    log ++ [mainRequest compiled.conditions options] <+:
      (((staffed run depth clock workers).execute source options).run log).2 := by
  have keeps := keepsLog_staffed logs depth clock workers
  rw [(keeps.execute_of_compiled ok log).1]
  exact keeps.prefix_runCompiled writable log

/-- If the main request is answered, then the matches are counted if they are bounded, and after
that blocks are looked up. -/
theorem exists_lookups (logs : Logs run) (depth : Option Nat) {clock : Calendar.Clock}
    {workers : Int} (enough : 0 < workers) (ok : compile clock source = .ok compiled)
    (writable : options.Writable) {rows : Json}
    (answer : ((run (mainRequest compiled.conditions options)).run.run log).1 = .ok rows) :
    ∃ lookups, (((staffed run depth clock workers).execute source options).run log).2 =
        log ++ [mainRequest compiled.conditions options] ++ countRequests compiled options ++
          lookups ∧
      ∀ request ∈ lookups, IsLookup request := by
  have keeps := keepsLog_staffed logs depth clock workers
  have expands : ∀ content, Adds IsLookup ((staffed run depth clock workers).expandText content) :=
    adds_expandText_ofRunner logs depth clock
  rw [(keeps.execute_of_compiled ok log).1, keeps.runCompiled_of_ok writable answer]
  exact settle_log keeps.run expands enough rows _

/-- The matches are counted exactly if they are bounded. -/
theorem count_mem_iff {lookups : List Request} (each : ∀ request ∈ lookups, IsLookup request) :
    compiled.count options.pageUid ∈ countRequests compiled options ++ lookups ↔
      options.isBounded := by
  rw [List.mem_append, countRequests]
  constructor
  · rintro (counted | looked)
    · split at counted
      · assumption
      · cases counted
    · exact absurd (each _ looked) (not_isLookup_count compiled options.pageUid)
  · intro bounded
    rw [if_pos bounded]
    exact .inl List.mem_cons_self

end

end Graph.Engine

open BlockQuery.Graph.Engine

/-- A request for matches is limited exactly if a positive number of them is asked for on the
command line or else by the settings, skips exactly a positive number of matches, and is always
ordered.  If it is answered and there are workers, the matches are counted exactly if their number
is limited.  If one of the numbers has too many digits, nothing is sent. -/
theorem execute_sends_positive_bounds {σ : Type} (fs : Files.FileSystem (StateM σ))
    (around : Settings.Surroundings) (written : Option String) (state : σ)
    (loaded : Settings.Loaded)
    (returned : ((Settings.load fs around written).run.run state).1 = .ok loaded)
    (limit : Option Int)
    (accepted : ∀ n ∈ limit, ∃ label, Command.acceptLimit label n = .ok n)
    (offset : Int) (order pageUid : Option String) (run : Runner (StateM (List Request)))
    (logs : Logs run) (depth : Option Nat) (clock : Calendar.Clock) (workers : Int)
    (source : String) (compiled : Compiled) (ok : compile clock source = .ok compiled)
    (log : List Request) :
    ∃ (bound skip : Option Int) (sorting : String),
      (∀ n, bound = some n ↔ limit.getD loaded.settings.defaultLimit = n ∧ 1 ≤ n) ∧
      (∀ n, skip = some n ↔ offset = n ∧ 1 ≤ n) ∧
      sorting ≠ "" ∧
      [order.getD "", loaded.settings.order, defaultOrder].find? (· != "") = some sorting ∧
      ((∀ n ∈ bound.toList ++ skip.toList, Text.FewDigits n) →
        ∃ (main : Request) (later : List Request),
          main.text = Datalog.Layout.text
            { selected := ["?block-uid", "?block-str", "?page-title"]
              inputs := compiled.conditions.clauses.inputNames pageUid
              modifiers := bound.toList.map (fun n => s!":limit {n}") ++
                skip.toList.map (fun n => s!":offset {n}") ++ [s!":order {sorting}"]
              conditions :=
                (baseForms ++ pageTitleForm :: scopeForms pageUid).map Form.render ++
                  compiled.conditions.clauses.forms } ∧
          (((staffed run depth clock workers).execute source
            (loaded.settings.requestOptions limit offset order pageUid)).run log).2 =
              log ++ main :: later ∧
          ∀ rows, ((run main).run.run log).1 = .ok rows → 0 < workers →
            (compiled.count pageUid ∈ later ↔ bound.isSome)) ∧
      ((∃ n ∈ bound.toList ++ skip.toList, ¬ Text.FewDigits n) →
        ((staffed run depth clock workers).execute source
          (loaded.settings.requestOptions limit offset order pageUid)).run log =
            (.failed Text.unwritableMessage, log)) := by
  have isLimit := isLimit_getD returned accepted
  obtain ⟨sorting, ordered, first⟩ := loaded.settings.exists_order limit offset order pageUid
  have made : sorting ≠ "" := by simpa using List.find?_some first
  let options := loaded.settings.requestOptions limit offset order pageUid
  have stated : options.Writable ↔ _ := options.writable_iff_positive rfl isLimit
  refine ⟨positive? (limit.getD loaded.settings.defaultLimit), positive? offset, sorting,
    fun n => positive?_eq_some_iff, fun n => positive?_eq_some_iff, made, first, ?_, ?_⟩
  · intro few
    have writable := stated.mpr few
    obtain ⟨later, requests⟩ := main_prefix_execute logs depth ok writable
    refine ⟨mainRequest compiled.conditions options, later, ?_, ?_, ?_⟩
    · rw [mainRequest, Clauses.text_findRequest, Clauses.findLayout,
        Clauses.modifiers_eq rfl isLimit ordered made]
      rfl
    · rw [List.append_cons]
      exact requests.symm
    · intro rows answer enough
      obtain ⟨lookups, same, each⟩ := exists_lookups logs depth enough ok writable answer
      have split : later = countRequests compiled options ++ lookups := by
        rw [← requests, List.append_assoc _ _ lookups, List.append_right_inj] at same
        exact same
      have bounded : options.isBounded =
          (positive? (limit.getD loaded.settings.defaultLimit)).isSome :=
        options.isBounded_eq_isSome rfl isLimit
      rw [split, ← bounded]
      exact count_mem_iff each
  · rintro ⟨n, written, many⟩
    exact execute_of_not_writable ok (fun writable => many (stated.mp writable n written)) log

/-- A settings file with a limit and an empty order. -/
def shelf : Files.FileTree :=
  let path := Settings.defaultPath .root
  [(path, .file 0o600 "[query]\ndefault_limit = 20\norder_by = \"\"\n"),
    (path.parent, .directory 0o700), (path.parent.parent, .directory 0o755)]

theorem exists_load_shelf :
    ∃ loaded, ((Settings.load (Files.FileTree.system "") ⟨.root, .root, fun _ => none⟩
        none).run.run shelf).1 = .ok loaded ∧
      loaded.settings.defaultLimit = 20 ∧ loaded.settings.order = "" := by
  have values : ((Settings.load (Files.FileTree.system "") ⟨.root, .root, fun _ => none⟩
      none).run.run shelf).1.toOption.map
        (fun loaded => (loaded.settings.defaultLimit, loaded.settings.order)) = some (20, "") := by
    decide +kernel
  obtain ⟨loaded, returned, same⟩ := Option.map_eq_some_iff.mp values
  rw [Prod.mk.injEq] at same
  exact ⟨loaded, toOption_eq_some_iff.mp returned, same⟩

theorem execute_sends_positive_bounds_shelf :
    ∃ loaded compiled main later,
      ((Settings.load (Files.FileTree.system "") ⟨.root, .root, fun _ => none⟩
        none).run.run shelf).1 = .ok loaded ∧
      compile Query.newYear (Query.canonicalBlock tagged) = .ok compiled ∧
      main.text = Datalog.Layout.text
        { selected := ["?block-uid", "?block-str", "?page-title"]
          inputs := ["$"]
          modifiers := [":limit 20", ":offset 5", ":order ?block-uid asc"]
          conditions :=
            (baseForms ++ [pageTitleForm]).map Form.render ++ compiled.conditions.clauses.forms } ∧
      (((staffed recorder (some 1) Query.newYear 8).execute (Query.canonicalBlock tagged)
        (loaded.settings.requestOptions none 5 none none)).run []).2 = main :: later ∧
      compiled.count none ∈ later := by
  obtain ⟨loaded, returned, limit, order⟩ := exists_load_shelf
  obtain ⟨conditions, dated, noInputs⟩ : ∃ conditions,
      tagged.query.conditions Query.newYear = .ok conditions ∧ conditions.inputs = [] :=
    ⟨_, rfl, rfl⟩
  have ok : compile Query.newYear (Query.canonicalBlock tagged) = .ok ⟨tagged, conditions⟩ :=
    compile_eq_ok_iff.mpr ⟨Query.parse_canonicalBlock tagged_wellFormed, dated⟩
  obtain ⟨bound, skip, sorting, bound_iff, skip_iff, -, first, sends, -⟩ :=
    execute_sends_positive_bounds _ _ none shelf loaded returned none (by simp) 5 none none recorder
      logs_recorder (some 1) Query.newYear 8 _ _ ok []
  have bounded : bound = some 20 := (bound_iff 20).mpr ⟨limit, by decide⟩
  have skipped : skip = some 5 := (skip_iff 5).mpr ⟨rfl, by decide⟩
  have sorted : sorting = "?block-uid asc" := by
    rw [order] at first
    exact (Option.some.inj first).symm
  subst bounded skipped sorted
  have few : ∀ n ∈ (some 20 : Option Int).toList ++ (some 5 : Option Int).toList,
      Text.FewDigits n := by
    intro n written
    have small : ∀ n ∈ [(20 : Int), 5], n.natAbs < 100 := by decide
    exact Text.fewDigits_of_small (small n written)
  have names : conditions.clauses.inputNames none = ["$"] := by
    simp [Clauses.inputNames, Conditions.clauses, noInputs, pageScope]
  obtain ⟨main, later, text, requests, counts⟩ := sends few
  refine ⟨loaded, _, main, later, returned, ok, ?_, requests, (counts _ rfl (by decide)).mpr rfl⟩
  rw [text, names]
  rfl

end BlockQuery
