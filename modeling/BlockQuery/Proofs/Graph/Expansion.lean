import BlockQuery.Proofs.Graph.ReferencePlaces
import Mathlib.Data.List.Forall2

/-!
# Expansion of references

Expanding the references of a text asks for all of its blocks at once, makes a table
of the rows that come back, expands every entry of it and then scans the text again.
If the rows say what the blocks hold, the result is the text with every reference
replaced by the expansion of its block, level by level.  Nothing is assumed about
the order of the rows, about rows that are repeated or not asked for, or about the
blocks: they may refer to each other in circles.
-/

namespace BlockQuery.Graph

/-- The text with its references replaced `levels` deep.  A reference to an unknown block stays
as written. -/
def expansion (blocks : String → Option String) : Nat → List Char → List Char
  | 0, text => text
  | levels + 1, text =>
    replaceReferences (fun identifier =>
      match blocks (String.ofList identifier) with
      | some content => expansion blocks levels content.toList
      | none => written identifier) text

/-! ## Answers to lookups -/

/-- The rows of an answer hold these identifiers and texts. -/
def Lists (answer : Json) (entries : List (String × String)) : Prop :=
  ∃ rows, itemsOf answer = .ok rows ∧ List.Forall₂ (fun row entry =>
    itemAt row 0 = .ok (.str entry.1) ∧ itemAt row 1 = .ok (.str entry.2)) rows entries

/-- The runner answers every lookup with rows.  For a block that was asked for, the last row
holds its text, and there is no row if it is unknown. -/
def LooksUp {σ : Type} (run : Runner (StateM σ)) (blocks : String → Option String) : Prop :=
  ∀ identifiers state, ∃ answer entries,
    ((run (lookupRequest identifiers)).run.run state).1 = .ok answer ∧ Lists answer entries ∧
      ∀ identifier ∈ identifiers, entries.reverse.lookup identifier = blocks identifier

theorem sameIdentifier_str_iff {known : Json} {identifier : String} :
    sameIdentifier known (.str identifier) ↔ known = .str identifier := by
  cases known <;> simp [sameIdentifier, numberOf?]

theorem contentOf?_cons (known content : Json) (table : List (Json × Json)) (identifier : String) :
    contentOf? ((known, content) :: table) identifier =
      if sameIdentifier known (.str identifier) then some content
      else contentOf? table identifier := by
  cases same : sameIdentifier known (.str identifier) <;> simp [contentOf?, same]

theorem contentOf?_setEntry (identifier other : String) (content : Json)
    (table : List (Json × Json)) :
    contentOf? (setEntry (.str identifier) content table) other =
      if identifier = other then some content else contentOf? table other := by
  induction table with
  | nil =>
      rw [setEntry, contentOf?_cons]
      simp [sameIdentifier]
  | cons entry table ih =>
      rcases entry with ⟨known, old⟩
      rw [setEntry]
      by_cases same : sameIdentifier known (.str identifier)
      · obtain rfl := sameIdentifier_str_iff.mp same
        rw [if_pos same, contentOf?_cons, contentOf?_cons]
        by_cases here : identifier = other <;> simp [sameIdentifier, here]
      · rw [if_neg same, contentOf?_cons, contentOf?_cons, ih]
        by_cases here : identifier = other
        · subst here
          rw [if_neg same, if_pos rfl, if_pos rfl]
        · simp [here]

/-- The table of rows with these identifiers and texts. -/
def tableFrom (table : List (Json × Json)) (entries : List (String × String)) :
    List (Json × Json) :=
  entries.foldl (fun table entry => setEntry (.str entry.1) (.str entry.2) table) table

/-- The last row of a block counts. -/
theorem contentOf?_tableFrom (table : List (Json × Json)) (entries : List (String × String))
    (identifier : String) :
    contentOf? (tableFrom table entries) identifier =
      ((entries.reverse.lookup identifier).map Json.str).or (contentOf? table identifier) := by
  induction entries generalizing table with
  | nil => rfl
  | cons entry entries ih =>
      rcases entry with ⟨known, text⟩
      rw [tableFrom, List.foldl_cons, ← tableFrom, ih, contentOf?_setEntry, List.reverse_cons,
        List.lookup_append]
      cases entries.reverse.lookup identifier with
      | some last => rfl
      | none =>
          by_cases same : identifier = known
          · simp [same]
          · simp [List.lookup_cons, beq_eq_false_iff_ne.mpr same, Ne.symm same]

theorem foldlM_addRow {rows : List Json} {entries : List (String × String)}
    (listed : List.Forall₂ (fun row entry =>
      itemAt row 0 = .ok (.str entry.1) ∧ itemAt row 1 = .ok (.str entry.2)) rows entries)
    (table : List (Json × Json)) :
    rows.foldlM addRow table = .ok (tableFrom table entries) := by
  induction listed generalizing table with
  | nil => rfl
  | @cons row entry rows entries holds _ ih =>
      have added : addRow table row = .ok (setEntry (.str entry.1) (.str entry.2) table) := by
        rw [addRow, holds.1, holds.2]
        rfl
      rw [List.foldlM_cons, added]
      exact ih _

theorem Lists.tableOf_eq {answer : Json} {entries : List (String × String)}
    (listed : Lists answer entries) : tableOf answer = .ok (tableFrom [] entries) := by
  rcases listed with ⟨rows, items, each⟩
  rw [tableOf, items]
  exact foldlM_addRow each []

/-- All contents of a table are texts. -/
def HoldsTexts (table : List (Json × Json)) : Prop :=
  ∀ entry ∈ table, ∃ text, entry.2 = .str text

theorem HoldsTexts.setEntry {table : List (Json × Json)} (texts : HoldsTexts table)
    (identifier : Json) (text : String) : HoldsTexts (setEntry identifier (.str text) table) := by
  induction table with
  | nil =>
      intro entry found
      rw [Graph.setEntry, List.mem_singleton] at found
      exact ⟨text, found ▸ rfl⟩
  | cons first table ih =>
      rcases first with ⟨known, old⟩
      have others : HoldsTexts table := fun entry found => texts entry (.tail _ found)
      intro entry found
      rw [Graph.setEntry] at found
      split at found
      · rcases List.mem_cons.mp found with rfl | found
        · exact ⟨text, rfl⟩
        · exact others entry found
      · rcases List.mem_cons.mp found with rfl | found
        · exact texts _ (.head _)
        · exact ih others entry found

theorem holdsTexts_tableFrom {table : List (Json × Json)} (texts : HoldsTexts table)
    (entries : List (String × String)) : HoldsTexts (tableFrom table entries) := by
  induction entries generalizing table with
  | nil => exact texts
  | cons entry entries ih => exact ih (texts.setEntry _ _)

/-! ## Computations that return -/

section

variable {σ α β : Type}

/-- The computation returns the value, whatever state it starts in. -/
def Returns (computation : ExceptT Fault (StateM σ) α) (value : α) : Prop :=
  ∀ state, (computation.run.run state).1 = .ok value

theorem fst_run_bind {first : ExceptT Fault (StateM σ) α} {state : σ} {value : α}
    (ended : (first.run.run state).1 = .ok value) (next : α → ExceptT Fault (StateM σ) β) :
    ((first >>= next).run.run state).1 =
      ((next value).run.run (first.run.run state).2).1 := by
  change ((ExceptT.bindCont next (first.run.run state).1).run (first.run.run state).2).1 = _
  rw [ended]
  rfl

theorem Returns.bind {first : ExceptT Fault (StateM σ) α} {value : α}
    {next : α → ExceptT Fault (StateM σ) β} {result : β} (returns : Returns first value)
    (goesOn : Returns (next value) result) : Returns (first >>= next) result := by
  intro state
  rw [fst_run_bind (returns state)]
  exact goesOn _

theorem returns_pure (value : α) : Returns (pure value : ExceptT Fault (StateM σ) α) value :=
  fun _ => rfl

theorem returns_liftFault {result : Except Fault α} {value : α} (ok : result = .ok value) :
    Returns (liftFault result : ExceptT Fault (StateM σ) α) value := by
  subst ok
  exact fun _ => rfl

/-- One computation after the other. -/
theorem returns_mapM {step : α → ExceptT Fault (StateM σ) β} {result : α → β} {items : List α}
    (each : ∀ item ∈ items, Returns (step item) (result item)) :
    Returns (items.mapM step) (items.map result) := by
  induction items with
  | nil => exact returns_pure _
  | cons item items ih =>
      rw [List.mapM_cons]
      apply (each item (.head _)).bind
      apply (ih fun other found => each other (.tail _ found)).bind
      exact returns_pure _

end

/-! ## Substitution -/

/-- A text stands for its references' contents when all of these are texts. -/
theorem substituteFrom_eq_ok {table : List (Json × Json)} {replace : List Char → List Char}
    {parts : List Piece} (known : ∀ identifier, .reference identifier ∈ parts →
      replacement table identifier = .str (String.ofList (replace identifier)))
    (position : Nat) (inRun : Bool) :
    substituteFrom table position inRun parts = .ok (parts.flatMap (Piece.replaced replace)) := by
  induction parts generalizing position inRun with
  | nil => rfl
  | cons part parts ih =>
      have others := ih fun identifier found => known identifier (.tail _ found)
      cases part with
      | plain c =>
          rw [substituteFrom, others]
          rfl
      | reference identifier =>
          rw [substituteFrom, known identifier (.head _)]
          dsimp only
          rw [others, String.toList_ofList]
          rfl

theorem mem_references_iff {parts : List Piece} {identifier : List Char} :
    String.ofList identifier ∈ references parts ↔ .reference identifier ∈ parts := by
  rw [references, List.mem_eraseDups, List.mem_filterMap]
  constructor
  · rintro ⟨part, found, named⟩
    cases part with
    | plain c => cases named
    | reference other =>
        obtain rfl : other = identifier := String.ofList_injective (Option.some.inj named)
        exact found
  · intro found
    exact ⟨_, found, rfl⟩

/-- A text without references is its own expansion. -/
theorem expansion_of_references_nil {text : List Char} (none : references (pieces text) = [])
    (blocks : String → Option String) (levels : Nat) : expansion blocks levels text = text := by
  cases levels with
  | zero => rfl
  | succ levels =>
      rw [expansion, replaceReferences_eq_flatMap]
      conv_rhs => rw [← flatMap_written_pieces text]
      apply List.flatMap_congr
      intro part found
      cases part with
      | plain c => rfl
      | reference identifier =>
          have asked := mem_references_iff.mpr found
          rw [none] at asked
          cases asked

/-! ## Expansion level by level -/

section

variable {σ : Type} {run : Runner (StateM σ)} {blocks : String → Option String}

/-- The value with the references of a text expanded. -/
def expandedText (blocks : String → Option String) (levels : Nat) : Json → Json
  | .str text => .str (String.ofList (expansion blocks levels text.toList))
  | other => other

theorem contentOf?_expanded (levels : Nat) (table : List (Json × Json)) (identifier : String) :
    contentOf? (table.map fun entry => (entry.1, expandedText blocks levels entry.2)) identifier =
      (contentOf? table identifier).map (expandedText blocks levels) := by
  induction table with
  | nil => rfl
  | cons entry table ih =>
      rcases entry with ⟨known, content⟩
      rw [List.map_cons, contentOf?_cons, contentOf?_cons, ih]
      split <;> rfl

/-- The table of an answer, its contents expanded, replaces every reference that was asked for. -/
theorem substitute_expanded {entries : List (String × String)} {text : String}
    (agree : ∀ identifier ∈ references (pieces text.toList),
      entries.reverse.lookup identifier = blocks identifier) (levels : Nat) :
    substitute ((tableFrom [] entries).map fun entry =>
        (entry.1, expandedText blocks levels entry.2)) (pieces text.toList) =
      .ok (expandedText blocks (levels + 1) (.str text)) := by
  have known : ∀ identifier, .reference identifier ∈ pieces text.toList →
      replacement ((tableFrom [] entries).map fun entry =>
          (entry.1, expandedText blocks levels entry.2)) identifier =
        .str (String.ofList (match blocks (String.ofList identifier) with
          | some content => expansion blocks levels content.toList
          | none => written identifier)) := by
    intro identifier found
    rw [replacement, contentOf?_expanded, contentOf?_tableFrom,
      agree _ (mem_references_iff.mpr found)]
    cases blocks (String.ofList identifier) <;> rfl
  rw [expandedText, expansion, replaceReferences_eq_flatMap, substitute,
    substituteFrom_eq_ok known]
  rfl

/-- Expansion replaces references level by level. -/
theorem returns_expandFrom (faithful : LooksUp run blocks) (levels : Nat) {depth maxDepth : Int}
    (left : (maxDepth - depth).toNat = levels) (text : String) :
    Returns (expandFrom run depth maxDepth (.str text))
      (expandedText blocks levels (.str text)) := by
  induction levels generalizing depth text with
  | zero =>
      have deepest : ¬ depth < maxDepth := by omega
      rw [expandFrom, if_neg deepest, expandedText, expansion, String.ofList_toList]
      exact returns_pure _
  | succ levels ih =>
      have deeper : depth < maxDepth := by omega
      rw [expandFrom, if_pos deeper]
      dsimp only
      split
      · next none =>
          rw [expandedText, expansion_of_references_nil none, String.ofList_toList]
          exact returns_pure _
      · intro state
        rcases faithful (references (pieces text.toList)) state with
          ⟨answer, entries, answered, listed, agree⟩
        have contents : ∀ entry ∈ tableFrom [] entries,
            Returns (do return (entry.1, ← expandFrom run (depth + 1) maxDepth entry.2))
              (entry.1, expandedText blocks levels entry.2) := by
          intro entry found
          rcases holdsTexts_tableFrom (fun _ => (absurd · List.not_mem_nil)) entries entry found
            with ⟨content, holds⟩
          rw [holds]
          exact (ih (by omega) content).bind (returns_pure _)
        rw [fst_run_bind answered]
        apply (returns_liftFault listed.tableOf_eq).bind
        apply (returns_mapM contents).bind
        exact returns_liftFault (substitute_expanded agree levels)

end

/-- Expanding the references of a text from a depth down to a deepest one gives the text with
all references replaced, level by level, for as many levels as are left. -/
theorem expandFrom_eq_expansion {σ : Type} {run : Runner (StateM σ)}
    {blocks : String → Option String} (faithful : LooksUp run blocks) (text : String)
    (depth maxDepth : Int) (state : σ) :
    ((expandFrom run depth maxDepth (.str text)).run.run state).1 =
      .ok (.str (String.ofList
        (expansion blocks (max 0 (maxDepth - depth)).toNat text.toList))) :=
  returns_expandFrom faithful _ (by omega) text state

/-- A runner that gives all of its rows whatever it is asked for, and counts the requests. -/
def listRunner (entries : List (String × String)) : Runner (StateM Nat) := fun _ => do
  modify (· + 1)
  return .arr (entries.map fun entry => .arr [.str entry.1, .str entry.2])

theorem looksUp_listRunner (entries : List (String × String)) :
    LooksUp (listRunner entries) fun identifier => entries.reverse.lookup identifier := by
  intro identifiers state
  refine ⟨_, entries, rfl, ⟨_, rfl, ?_⟩, fun _ _ => rfl⟩
  rw [List.forall₂_map_left_iff, List.forall₂_same]
  exact fun _ _ => ⟨rfl, rfl⟩

/-- Two blocks that refer to each other, the first one in two versions. -/
def circle : List (String × String) :=
  [("block-one", "old"), ("block-two", "(((block-one)))"), ("block-one", "1((block-two))")]

/-- A circle is followed as deep as it is expanded; an unknown block stays as written. -/
theorem expandFrom_eq_expansion_circle :
    ((expandFrom (listRunner circle) 1 4 (.str "((block-one)) ((no--block))")).run.run 0).1 =
      .ok (.str "1(1((block-two))) ((no--block))") := by
  have three : String.ofList (expansion (fun identifier => circle.reverse.lookup identifier)
      (max 0 ((4 : Int) - 1)).toNat "((block-one)) ((no--block))".toList) =
      "1(1((block-two))) ((no--block))" := by
    decide +kernel
  rw [expandFrom_eq_expansion (looksUp_listRunner circle), three]

end BlockQuery.Graph
