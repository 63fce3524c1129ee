import BlockQuery.Proofs.Graph.RequestLog
import Mathlib.Algebra.BigOperators.Group.Finset.Piecewise
import Mathlib.Algebra.Order.BigOperators.Group.Finset

/-!
# Lookups level by level

Expanding the references of a text looks its blocks up by one request and then goes
on with every text of the answer, one level deeper.  So the lookups of an expansion
are those of a tree, made from the top down and from left to right: a lookup stands
below another if it is made for a text of the other's answer.

A level has as many lookups as the answers of the level above have texts with
references.  It has one for every text, and not one for all of them: there is at most
one lookup for every level exactly if no answer above the last level has two such
texts.
-/

namespace BlockQuery.Graph

open Datalog

/-! ## Records of lookups -/

/-- The text of a value, if it has references to look up. -/
def askingText? : Json → Option String
  | .str text => if references (pieces text.toList) = [] then none else some text
  | _ => none

/-- The texts of an answer that have references to look up, in the order of its table. -/
def askingTexts (answer : Except Fault Json) : List String :=
  match answer >>= tableOf with
  | .ok table => table.filterMap fun entry => askingText? entry.2
  | .error _ => []

theorem askingTexts_of_table {rows : Json} {table : List (Json × Json)}
    (made : tableOf rows = .ok table) :
    askingTexts (.ok rows) = table.filterMap fun entry => askingText? entry.2 := by
  have same : (Except.ok rows >>= tableOf) = .ok table := made
  rw [askingTexts, same]

theorem references_ne_nil_of_askingText? {content : Json} {text : String}
    (asks : askingText? content = some text) : references (pieces text.toList) ≠ [] := by
  unfold askingText? at asks
  split at asks
  · split at asks
    · cases asks
    · next some =>
        cases asks
        exact some
  · cases asks

theorem references_ne_nil_of_mem_askingTexts {answer : Except Fault Json} {text : String}
    (asks : text ∈ askingTexts answer) : references (pieces text.toList) ≠ [] := by
  unfold askingTexts at asks
  split at asks
  · obtain ⟨entry, -, found⟩ := List.mem_filterMap.mp asks
    exact references_ne_nil_of_askingText? found
  · cases asks

/-- Of repeated items only the first one is kept. -/
theorem nodup_eraseDups {α : Type} [BEq α] [LawfulBEq α] (items : List α) :
    items.eraseDups.Nodup := by
  induction length : items.length using Nat.strongRecOn generalizing items with
  | ind n ih =>
      cases items with
      | nil => exact List.nodup_nil
      | cons item items =>
          have fewer : (items.filter fun other => !other == item).length < n := by
            rw [← length, List.length_cons]
            exact Nat.lt_succ_of_le (List.length_filter_le _ _)
          rw [List.eraseDups_cons, List.nodup_cons]
          refine ⟨?_, ih _ fewer _ rfl⟩
          simp [List.mem_eraseDups]

theorem nodup_references (parts : List Piece) : (references parts).Nodup :=
  nodup_eraseDups _

/-- A lookup: how many levels it lies below the first one, the text that it is made for, and the
answer that it gets. -/
structure Lookup where
  level : Nat
  text : String
  answer : Except Fault Json

namespace Lookup

/-- The blocks that are looked up. -/
def identifiers (lookup : Lookup) : List String :=
  references (pieces lookup.text.toList)

/-- The request of a lookup. -/
def request (lookup : Lookup) : Request :=
  lookupRequest lookup.identifiers

/-- The lookup as seen from one level higher. -/
def deeper (lookup : Lookup) : Lookup :=
  { lookup with level := lookup.level + 1 }

end Lookup

/-- The texts that are looked up at a level. -/
def textsAt (record : List Lookup) (level : Nat) : List String :=
  (record.filter fun lookup => lookup.level = level).map Lookup.text

/-- The texts with references in the answers to the lookups of a level. -/
def askedAt (record : List Lookup) (level : Nat) : List String :=
  (record.filter fun lookup => lookup.level = level).flatMap fun lookup =>
    askingTexts lookup.answer

/-- The lookups go down level by level, at most `levels` deep.  At the top they are made for the
given texts, and below for the texts of the answers one level higher, in this order.  A part of
them may be missing at the end unless the expansion has returned. -/
structure Descends (returned : Prop) (levels : Nat) (tops : List String) (record : List Lookup) :
    Prop where
  inside : ∀ lookup ∈ record, lookup.level < levels
  top : 0 < levels → textsAt record 0 <+: tops ∧ (returned → textsAt record 0 = tops)
  below : ∀ level, level + 1 < levels → textsAt record (level + 1) <+: askedAt record level ∧
    (returned → textsAt record (level + 1) = askedAt record level)

section

variable {returned : Prop} {levels : Nat} {tops : List String} {record : List Lookup}

theorem textsAt_append (first second : List Lookup) (level : Nat) :
    textsAt (first ++ second) level = textsAt first level ++ textsAt second level := by
  rw [textsAt, List.filter_append, List.map_append]
  rfl

theorem askedAt_append (first second : List Lookup) (level : Nat) :
    askedAt (first ++ second) level = askedAt first level ++ askedAt second level := by
  rw [askedAt, List.filter_append, List.flatMap_append]
  rfl

theorem textsAt_deeper_zero (record : List Lookup) : textsAt (record.map .deeper) 0 = [] := by
  simp [textsAt, List.filter_map, Lookup.deeper, Function.comp_def]

theorem textsAt_deeper (record : List Lookup) (level : Nat) :
    textsAt (record.map .deeper) (level + 1) = textsAt record level := by
  simp [textsAt, List.filter_map, Lookup.deeper, Function.comp_def]

theorem askedAt_deeper_zero (record : List Lookup) : askedAt (record.map .deeper) 0 = [] := by
  simp [askedAt, List.filter_map, Lookup.deeper, Function.comp_def]

theorem askedAt_deeper (record : List Lookup) (level : Nat) :
    askedAt (record.map .deeper) (level + 1) = askedAt record level := by
  simp [askedAt, List.filter_map, List.flatMap_map, Lookup.deeper, Function.comp_def]

namespace Descends

/-- No lookups, where there is nothing to look up or the expansion fails before it. -/
theorem nil (nothing : returned → 0 < levels → tops = []) : Descends returned levels tops [] where
  inside := List.forall_mem_nil _
  top deep := ⟨List.nil_prefix, fun ended => (nothing ended deep).symm⟩
  below _ _ := ⟨List.nil_prefix, fun _ => rfl⟩

theorem mono {other : Prop} (descends : Descends returned levels tops record)
    (weaker : other → returned) : Descends other levels tops record where
  inside := descends.inside
  top deep := ⟨(descends.top deep).1, fun ended => (descends.top deep).2 (weaker ended)⟩
  below level deep :=
    ⟨(descends.below level deep).1, fun ended => (descends.below level deep).2 (weaker ended)⟩

/-- Where an expansion fails, nothing is looked up for what stands behind. -/
theorem broken (descends : Descends returned levels tops record) (behind : List String)
    (failed : ¬ returned) : Descends returned levels (tops ++ behind) record where
  inside := descends.inside
  top deep :=
    ⟨(descends.top deep).1.trans (List.prefix_append _ _), fun ended => absurd ended failed⟩
  below := descends.below

/-- The lookups of one expansion behind those of another that has returned. -/
theorem append {others : List String} {later : List Lookup} (ended : returned)
    (descends : Descends returned levels tops record) {last : Prop}
    (goesOn : Descends last levels others later) :
    Descends last levels (tops ++ others) (record ++ later) where
  inside := List.forall_mem_append.mpr ⟨descends.inside, goesOn.inside⟩
  top deep := by
    rw [textsAt_append, (descends.top deep).2 ended]
    exact ⟨(List.prefix_append_right_inj _).mpr (goesOn.top deep).1,
      fun complete => by rw [(goesOn.top deep).2 complete]⟩
  below level deep := by
    rw [textsAt_append, askedAt_append, (descends.below level deep).2 ended]
    exact ⟨(List.prefix_append_right_inj _).mpr (goesOn.below level deep).1,
      fun complete => by rw [(goesOn.below level deep).2 complete]⟩

/-- A lookup on top of those for the texts of its answer. -/
theorem cons {text : String} {answer : Except Fault Json}
    (descends : Descends returned levels (askingTexts answer) record) :
    Descends returned (levels + 1) [text] (⟨0, text, answer⟩ :: record.map .deeper) where
  inside := by
    simp only [List.forall_mem_cons, List.forall_mem_map]
    exact ⟨Nat.succ_pos _, fun lookup made => Nat.succ_lt_succ (descends.inside lookup made)⟩
  top _ := by
    have top : textsAt (⟨0, text, answer⟩ :: record.map .deeper) 0 = [text] := by
      change text :: textsAt (record.map .deeper) 0 = [text]
      rw [textsAt_deeper_zero]
    exact ⟨by rw [top], fun _ => top⟩
  below level deep := by
    have texts : textsAt (⟨0, text, answer⟩ :: record.map .deeper) (level + 1) =
        textsAt record level :=
      textsAt_deeper record level
    rw [texts]
    cases level with
    | zero =>
        have asked : askedAt (⟨0, text, answer⟩ :: record.map .deeper) 0 = askingTexts answer := by
          change askingTexts answer ++ askedAt (record.map .deeper) 0 = _
          rw [askedAt_deeper_zero, List.append_nil]
        rw [asked]
        exact descends.top (Nat.lt_of_succ_lt_succ deep)
    | succ level =>
        have asked : askedAt (⟨0, text, answer⟩ :: record.map .deeper) (level + 1) =
            askedAt record level :=
          askedAt_deeper record level
        rw [asked]
        exact descends.below level (Nat.lt_of_succ_lt_succ deep)

end Descends

end

/-! ## Expansions and their records -/

section

variable {σ α β : Type}

/-- The runner with a log of all requests beside its own state. -/
def recorded (run : Runner (StateM σ)) : Runner (StateM (σ × List Request)) := fun request =>
  ExceptT.mk fun now =>
    let answered := (run request).run.run now.1
    (answered.1, (answered.2, now.2 ++ [request]))

/-- The second computation does what the first one does, beside a log. -/
def Mirrors (plain : ExceptT Fault (StateM σ) α)
    (logged : ExceptT Fault (StateM (σ × List Request)) α) : Prop :=
  ∀ state log, ∃ later,
    logged.run.run (state, log) = ((plain.run.run state).1, ((plain.run.run state).2, later))

theorem mirrors_of_quiet {plain : ExceptT Fault (StateM σ) α}
    {logged : ExceptT Fault (StateM (σ × List Request)) α} {outcome : Except Fault α}
    (quiet : ∀ state, plain.run.run state = (outcome, state))
    (still : ∀ now, logged.run.run now = (outcome, now)) : Mirrors plain logged := by
  intro state log
  exact ⟨log, by rw [quiet, still]⟩

theorem Mirrors.bind {plain : ExceptT Fault (StateM σ) α}
    {logged : ExceptT Fault (StateM (σ × List Request)) α}
    {next : α → ExceptT Fault (StateM σ) β}
    {loggedNext : α → ExceptT Fault (StateM (σ × List Request)) β} (mirrors : Mirrors plain logged)
    (goesOn : ∀ value, Mirrors (next value) (loggedNext value)) :
    Mirrors (plain >>= next) (logged >>= loggedNext) := by
  intro state log
  obtain ⟨later, ran⟩ := mirrors state log
  rcases ended : plain.run.run state with ⟨fault | value, middle⟩
  · rw [ended] at ran
    exact ⟨later, by rw [run_bind_of_error ran, run_bind_of_error ended]⟩
  · rw [ended] at ran
    rw [run_bind_of_ok ran, run_bind_of_ok ended]
    exact goesOn value middle later

theorem mirrors_mapM {plain : α → ExceptT Fault (StateM σ) β}
    {logged : α → ExceptT Fault (StateM (σ × List Request)) β} (items : List α)
    (each : ∀ item, Mirrors (plain item) (logged item)) :
    Mirrors (items.mapM plain) (items.mapM logged) := by
  induction items with
  | nil => exact mirrors_of_quiet (fun _ => rfl) fun _ => rfl
  | cons item items ih =>
      rw [List.mapM_cons, List.mapM_cons]
      apply (each item).bind
      intro value
      apply ih.bind
      intro values
      exact mirrors_of_quiet (fun _ => rfl) fun _ => rfl

/-- A log changes nothing about an expansion. -/
theorem mirrors_expandFrom (run : Runner (StateM σ)) (levels : Nat) {depth maxDepth : Int}
    (left : (maxDepth - depth).toNat = levels) (content : Json) :
    Mirrors (expandFrom run depth maxDepth content)
      (expandFrom (recorded run) depth maxDepth content) := by
  induction levels generalizing depth content with
  | zero =>
      have deepest : ¬ depth < maxDepth := by omega
      rw [expandFrom.eq_def, if_neg deepest, expandFrom.eq_def, if_neg deepest]
      exact mirrors_of_quiet (fun _ => rfl) fun _ => rfl
  | succ levels ih =>
      have deeper : depth < maxDepth := by omega
      rw [expandFrom.eq_def, if_pos deeper, expandFrom.eq_def, if_pos deeper]
      split
      · dsimp only
        split
        · exact mirrors_of_quiet (fun _ => rfl) fun _ => rfl
        · have asked : ∀ request, Mirrors (run request) (recorded run request) :=
            fun request state log => ⟨log ++ [request], rfl⟩
          apply (asked _).bind
          intro rows
          apply (mirrors_of_quiet (fun _ => rfl) fun _ => rfl).bind
          intro table
          refine (mirrors_mapM table ?_).bind fun expanded =>
            mirrors_of_quiet (fun _ => rfl) fun _ => rfl
          rintro ⟨identifier, content⟩
          exact (ih (by omega) content).bind fun value =>
            mirrors_of_quiet (fun _ => rfl) fun _ => rfl
      · split
        · exact mirrors_of_quiet (fun _ => rfl) fun _ => rfl
        · exact mirrors_of_quiet (fun _ => rfl) fun _ => rfl

/-- The runner gives the answers of these lookups, one after the other. -/
inductive Transcript (run : Runner (StateM σ)) : σ → List Lookup → σ → Prop
  | nil (state : σ) : Transcript run state [] state
  | cons {lookup : Lookup} {state next final : σ} {rest : List Lookup}
      (answered : (run lookup.request).run.run state = (lookup.answer, next))
      (goesOn : Transcript run next rest final) : Transcript run state (lookup :: rest) final

variable {run : Runner (StateM σ)}

theorem Transcript.append {state next final : σ} {first second : List Lookup}
    (before : Transcript run state first next) (behind : Transcript run next second final) :
    Transcript run state (first ++ second) final := by
  induction before with
  | nil => exact behind
  | cons answered _ ih => exact .cons answered (ih behind)

theorem Transcript.deeper {state final : σ} {record : List Lookup}
    (transcript : Transcript run state record final) :
    Transcript run state (record.map .deeper) final := by
  induction transcript with
  | nil => exact .nil _
  | cons answered _ ih => exact .cons answered ih

theorem map_request_deeper (record : List Lookup) :
    (record.map .deeper).map Lookup.request = record.map Lookup.request := by
  rw [List.map_map]
  rfl

/-- The computation makes lookups that descend from the given texts, and no other requests. -/
def Looks (run : Runner (StateM σ)) (levels : Nat) (tops : List String)
    (computation : ExceptT Fault (StateM (σ × List Request)) α) : Prop :=
  ∀ state log, ∃ outcome final record,
    computation.run.run (state, log) = (outcome, (final, log ++ record.map Lookup.request)) ∧
      Transcript run state record final ∧
      Descends (∃ value, outcome = .ok value) levels tops record

/-- A computation without requests. -/
theorem looks_of_quiet {levels : Nat} {tops : List String}
    {computation : ExceptT Fault (StateM (σ × List Request)) α} {outcome : Except Fault α}
    (quiet : ∀ now, computation.run.run now = (outcome, now))
    (nothing : (∃ value, outcome = .ok value) → 0 < levels → tops = []) :
    Looks run levels tops computation := by
  intro state log
  refine ⟨outcome, state, [], ?_, .nil state, .nil nothing⟩
  rw [quiet, List.map_nil, List.append_nil]

theorem Looks.bind_quiet {levels : Nat} {tops : List String}
    {first : ExceptT Fault (StateM (σ × List Request)) α}
    {next : α → ExceptT Fault (StateM (σ × List Request)) β} {outcome : α → Except Fault β}
    (looks : Looks run levels tops first)
    (quiet : ∀ value now, (next value).run.run now = (outcome value, now)) :
    Looks run levels tops (first >>= next) := by
  intro state log
  obtain ⟨ended, final, record, ran, transcript, descends⟩ := looks state log
  cases ended with
  | error fault =>
      refine ⟨.error fault, final, record, run_bind_of_error ran next, transcript, ?_⟩
      apply descends.mono
      rintro ⟨_, ⟨⟩⟩
  | ok value =>
      refine ⟨outcome value, final, record, ?_, transcript, descends.mono fun _ => ⟨value, rfl⟩⟩
      rw [run_bind_of_ok ran, quiet]

/-- One computation after the other; what is behind one that fails makes no lookups. -/
theorem looks_mapM {levels : Nat} {step : α → ExceptT Fault (StateM (σ × List Request)) β}
    {tops : α → List String} {items : List α}
    (each : ∀ item ∈ items, Looks run levels (tops item) (step item)) :
    Looks run levels (items.flatMap tops) (items.mapM step) := by
  induction items with
  | nil => exact looks_of_quiet (fun _ => rfl) fun _ _ => rfl
  | cons item items ih =>
      intro state log
      rw [List.mapM_cons, List.flatMap_cons]
      obtain ⟨ended, middle, record, ran, transcript, descends⟩ := each item (.head _) state log
      cases ended with
      | error fault =>
          refine ⟨.error fault, middle, record, run_bind_of_error ran _, transcript, ?_⟩
          apply (descends.broken _ _).mono
          · rintro ⟨_, ⟨⟩⟩
          · rintro ⟨_, ⟨⟩⟩
      | ok value =>
          have others : Looks run levels (items.flatMap tops)
              (do return value :: (← items.mapM step)) :=
            (ih fun other listed => each other (.tail _ listed)).bind_quiet fun _ _ => rfl
          obtain ⟨outcome, final, later, goesOn, behind, lower⟩ :=
            others middle (log ++ record.map Lookup.request)
          refine ⟨outcome, final, record ++ later, ?_, transcript.append behind,
            descends.append ⟨value, rfl⟩ lower⟩
          rw [run_bind_of_ok ran, List.map_append, ← List.append_assoc]
          exact goesOn

/-- A lookup for a text, and what follows from its answer one level deeper. -/
theorem looks_lookup {levels : Nat} {text : String}
    {next : Json → ExceptT Fault (StateM (σ × List Request)) β}
    (goesOn : ∀ rows, Looks run levels (askingTexts (.ok rows)) (next rows)) :
    Looks run (levels + 1) [text]
      (recorded run (lookupRequest (references (pieces text.toList))) >>= next) := by
  intro state log
  rcases answered : (run (lookupRequest (references (pieces text.toList)))).run.run state with
    ⟨fault | rows, later⟩
  · have ran : (recorded run (lookupRequest (references (pieces text.toList)))).run.run
        (state, log) = (.error fault,
          (later, log ++ [lookupRequest (references (pieces text.toList))])) := by
      change (_, (_, _)) = _
      rw [answered]
    refine ⟨.error fault, later, [⟨0, text, .error fault⟩], run_bind_of_error ran _,
      .cons answered (.nil later), .cons (.nil ?_)⟩
    exact fun _ _ => rfl
  · have ran : (recorded run (lookupRequest (references (pieces text.toList)))).run.run
        (state, log) = (.ok rows,
          (later, log ++ [lookupRequest (references (pieces text.toList))])) := by
      change (_, (_, _)) = _
      rw [answered]
    obtain ⟨outcome, final, record, rest, transcript, descends⟩ := goesOn rows later
      (log ++ [lookupRequest (references (pieces text.toList))])
    refine ⟨outcome, final, ⟨0, text, .ok rows⟩ :: record.map .deeper, ?_,
      .cons answered transcript.deeper, descends.cons⟩
    rw [run_bind_of_ok ran, rest, List.map_cons, map_request_deeper, List.append_assoc]
    rfl

/-- The lookups of an expansion descend from its text. -/
theorem looks_expandFrom (run : Runner (StateM σ)) (levels : Nat) {depth maxDepth : Int}
    (left : (maxDepth - depth).toNat = levels) (content : Json) :
    Looks run levels (askingText? content).toList
      (expandFrom (recorded run) depth maxDepth content) := by
  induction levels generalizing depth content with
  | zero =>
      have deepest : ¬ depth < maxDepth := by omega
      rw [expandFrom.eq_def, if_neg deepest]
      exact looks_of_quiet (fun _ => rfl) fun _ deep => absurd deep (Nat.lt_irrefl 0)
  | succ levels ih =>
      have deeper : depth < maxDepth := by omega
      rw [expandFrom.eq_def, if_pos deeper]
      split
      · next text =>
          dsimp only
          split
          · next none =>
              rw [askingText?, if_pos none]
              exact looks_of_quiet (fun _ => rfl) fun _ _ => rfl
          · next some =>
              rw [askingText?, if_neg some]
              apply looks_lookup
              intro rows
              cases made : tableOf rows with
              | error fault =>
                  apply looks_of_quiet (fun _ => rfl)
                  rintro ⟨_, ⟨⟩⟩
              | ok table =>
                  rw [askingTexts_of_table made, List.filterMap_eq_flatMap_toList]
                  refine (looks_mapM ?_).bind_quiet fun _ _ => rfl
                  rintro ⟨identifier, content⟩ -
                  exact (ih (by omega) content).bind_quiet fun _ _ => rfl
      · next other =>
          have silent : askingText? content = none := by
            unfold askingText?
            split
            · next text => exact absurd rfl (other text)
            · rfl
          rw [silent]
          split
          · exact looks_of_quiet (fun _ => rfl) fun _ _ => rfl
          · exact looks_of_quiet (fun _ => rfl) fun _ _ => rfl

end

/-! ## Lookups of a level -/

section

variable {returned : Prop} {levels : Nat} {tops : List String} {record : List Lookup}

theorem mem_textsAt {lookup : Lookup} (made : lookup ∈ record) :
    lookup.text ∈ textsAt record lookup.level :=
  List.mem_map_of_mem (List.mem_filter.mpr ⟨made, decide_eq_true rfl⟩)

/-- Every lookup asks for some blocks. -/
theorem Descends.identifiers_ne_nil (descends : Descends returned levels tops record)
    (asking : ∀ text ∈ tops, references (pieces text.toList) ≠ []) :
    ∀ lookup ∈ record, lookup.identifiers ≠ [] := by
  intro lookup made
  have deep := descends.inside lookup made
  have here := mem_textsAt made
  cases high : lookup.level with
  | zero =>
      rw [high] at deep here
      exact asking _ ((descends.top deep).1.subset here)
  | succ level =>
      rw [high] at deep here
      obtain ⟨above, -, asked⟩ := List.mem_flatMap.mp ((descends.below level deep).1.subset here)
      exact references_ne_nil_of_mem_askingTexts asked

/-- The lookups, counted level by level. -/
theorem length_eq_sum_textsAt (inside : ∀ lookup ∈ record, lookup.level < levels) :
    record.length = ∑ level ∈ Finset.range levels, (textsAt record level).length := by
  induction record with
  | nil => simp [textsAt]
  | cons lookup record ih =>
      rw [List.forall_mem_cons] at inside
      have split : ∀ level, (textsAt (lookup :: record) level).length =
          (if lookup.level = level then 1 else 0) + (textsAt record level).length := by
        intro level
        rw [← List.singleton_append, textsAt_append, List.length_append]
        congr 1
        by_cases here : lookup.level = level <;> simp [textsAt, here]
      simp only [split, Finset.sum_add_distrib, ← ih inside.2, List.length_cons]
      rw [Finset.sum_ite_eq, if_pos (Finset.mem_range.mpr inside.1), Nat.add_comm]

/-- No answer above the last level has two texts with references. -/
def Unbranched (levels : Nat) (record : List Lookup) : Prop :=
  ∀ lookup ∈ record, lookup.level + 1 < levels → (askingTexts lookup.answer).length ≤ 1

/-- There is at most one lookup for every level. -/
def OnePerLevel (record : List Lookup) : Prop :=
  ∀ level, (textsAt record level).length ≤ 1

theorem Unbranched.length_askedAt_le (narrow : Unbranched levels record) {level : Nat}
    (deep : level + 1 < levels) :
    (askedAt record level).length ≤ (textsAt record level).length := by
  have each : ∀ count ∈ (record.filter fun lookup => lookup.level = level).map
      (fun lookup => (askingTexts lookup.answer).length), count ≤ 1 := by
    simp only [List.forall_mem_map, List.mem_filter, decide_eq_true_eq]
    rintro lookup ⟨made, rfl⟩
    exact narrow lookup made deep
  rw [askedAt, textsAt, List.length_flatMap]
  simpa using List.sum_le_card_nsmul _ 1 each

/-- Answers with at most one text that has references leave one lookup for a level. -/
theorem Descends.onePerLevel (descends : Descends returned levels tops record)
    (single : tops.length ≤ 1) (narrow : Unbranched levels record) : OnePerLevel record := by
  intro level
  by_cases deep : level < levels
  · induction level with
    | zero => exact (descends.top deep).1.length_le.trans single
    | succ level ih =>
        calc
          (textsAt record (level + 1)).length ≤ (askedAt record level).length :=
            (descends.below level deep).1.length_le
          _ ≤ (textsAt record level).length := narrow.length_askedAt_le deep
          _ ≤ 1 := ih (Nat.lt_of_succ_lt deep)
  · have none : textsAt record level = [] := by
      simp only [textsAt, List.map_eq_nil_iff, List.filter_eq_nil_iff, decide_eq_true_eq]
      rintro lookup made rfl
      exact deep (descends.inside lookup made)
    rw [none]
    exact Nat.zero_le 1

/-- One lookup for a level leaves answers with at most one text that has references. -/
theorem Descends.unbranched (descends : Descends returned levels tops record) (ended : returned)
    (single : OnePerLevel record) : Unbranched levels record := by
  intro lookup made deep
  have among : (askingTexts lookup.answer).Sublist (askedAt record lookup.level) := by
    rw [askedAt, List.flatMap_def]
    apply List.sublist_flatten_of_mem
    exact List.mem_map_of_mem (List.mem_filter.mpr ⟨made, decide_eq_true rfl⟩)
  calc
    (askingTexts lookup.answer).length ≤ (askedAt record lookup.level).length := among.length_le
    _ = (textsAt record (lookup.level + 1)).length := by
      rw [(descends.below lookup.level deep).2 ended]
    _ ≤ 1 := single _

theorem OnePerLevel.length_le (single : OnePerLevel record)
    (inside : ∀ lookup ∈ record, lookup.level < levels) : record.length ≤ levels := by
  rw [length_eq_sum_textsAt inside]
  calc
    _ ≤ ∑ _level ∈ Finset.range levels, 1 := Finset.sum_le_sum fun level _ => single level
    _ = levels := by simp

end

theorem length_askingText?_le (content : Json) : (askingText? content).toList.length ≤ 1 := by
  cases askingText? content <;> simp

/-- Expansion makes one lookup for every text with references that it comes to above the deepest
level, and it asks for different blocks each time, at least for one.  There is at most one lookup
for every level, and so not more than there are levels, if no answer above the last level has two
texts with references; and only then if the expansion returns. -/
theorem one_lookup_per_level_iff_unbranched {σ : Type} (run : Runner (StateM σ)) (content : Json)
    (depth maxDepth : Int) (state : σ) :
    ∃ outcome final record,
      (expandFrom run depth maxDepth content).run.run state = (outcome, final) ∧
      (expandFrom (recorded run) depth maxDepth content).run.run (state, []) =
        (outcome, (final, record.map Lookup.request)) ∧
      Transcript run state record final ∧
      Descends (∃ value, outcome = .ok value) (max 0 (maxDepth - depth)).toNat
        (askingText? content).toList record ∧
      (∀ lookup ∈ record, lookup.identifiers ≠ [] ∧ lookup.identifiers.Nodup) ∧
      record.length = ∑ level ∈ Finset.range (max 0 (maxDepth - depth)).toNat,
        (textsAt record level).length ∧
      (Unbranched (max 0 (maxDepth - depth)).toNat record →
        OnePerLevel record ∧ record.length ≤ (max 0 (maxDepth - depth)).toNat) ∧
      ((∃ value, outcome = .ok value) → OnePerLevel record →
        Unbranched (max 0 (maxDepth - depth)).toNat record) := by
  have left : (maxDepth - depth).toNat = (max 0 (maxDepth - depth)).toNat := by omega
  obtain ⟨outcome, final, record, ran, transcript, descends⟩ :=
    looks_expandFrom run _ left content state []
  have same : (expandFrom run depth maxDepth content).run.run state = (outcome, final) := by
    obtain ⟨log, mirrored⟩ := mirrors_expandFrom run _ left content state []
    rw [ran] at mirrored
    injection mirrored with outcome_eq states_eq
    injection states_eq with final_eq
    rw [outcome_eq, final_eq]
    rfl
  have asking : ∀ text ∈ (askingText? content).toList, references (pieces text.toList) ≠ [] :=
    fun text top => references_ne_nil_of_askingText? (Option.mem_toList.mp top)
  refine ⟨outcome, final, record, same, ran, transcript, descends, ?_,
    length_eq_sum_textsAt descends.inside, ?_, descends.unbranched⟩
  · intro lookup made
    exact ⟨descends.identifiers_ne_nil asking lookup made, nodup_references _⟩
  · intro narrow
    have single := descends.onePerLevel (length_askingText?_le content) narrow
    exact ⟨single, single.length_le descends.inside⟩

/-- A runner that gives the rows of the known blocks that it is asked for. -/
def bookRunner (entries : List (String × String)) : Runner (StateM Unit) := fun request =>
  let rowOf (identifier : Json) : Option Json := match identifier with
    | .str name => (entries.lookup name).map fun text => .arr [.str name, .str text]
    | _ => none
  match request.arguments with
  | [.arr asked] => return .arr (asked.filterMap rowOf)
  | _ => return .arr []

/-- Two blocks that refer to the same block. -/
def fork : List (String × String) :=
  [("block-one", "((block-six))"), ("block-two", "((block-six))"), ("block-six", "6")]

/-- Two blocks of one answer are looked into one by one, although there are two levels only. -/
theorem fork_lookups_exceed_levels :
    ¬ ((expandFrom (recorded (bookRunner fork)) 0 2 (.str "((block-one)) ((block-two))")).run.run
      ((), [])).2.2.length ≤ (max 0 ((2 : Int) - 0)).toNat := by
  decide +kernel

end BlockQuery.Graph
