import BlockQuery.Proofs.Query.BlockLayout

/-!
# Blocks that are lost

An opening that is never closed takes the rest of the document with it, also the complete
blocks there.  It is the only way to lose one: a complete block is found where it stands,
or it stands inside of a block that is found, exactly if no opening in front of it stays
open.  Openings inside of a complete block are closed in it, so none of them is in the way.
-/

namespace BlockQuery.Query

open BlockQuery.Text

/-! ## Openings that stay open -/

/-- The text starts with an opening, but not with a complete block. -/
def StaysOpen (tail : List Char) : Prop :=
  frameStart <+: tail ∧ ∀ block, IsComplete block → ¬ block <+: tail

/-- An opening stays open exactly if its scan comes to the end of the text. -/
theorem staysOpen_frameStart_iff {inside : List Char} :
    StaysOpen (frameStart ++ inside) ↔ balanced 1 inside = none := by
  constructor
  · rintro ⟨-, none⟩
    cases scanned : balanced 1 inside with
    | none => rfl
    | some found =>
        obtain ⟨split, complete⟩ := balanced_eq_some_iff_isComplete.mp scanned
        refine absurd ?_ (none _ complete)
        rw [split, ← List.append_assoc]
        exact List.prefix_append _ _
  · intro unclosed
    refine ⟨List.prefix_append _ _, ?_⟩
    rintro block ⟨body, rfl, closes⟩ starts
    rw [List.prefix_append_right_inj] at starts
    obtain ⟨after, rfl⟩ := starts
    rw [balanced_eq_some_iff.mpr ⟨rfl, closes⟩] at unclosed
    cases unclosed

theorem exists_rest_of_more {depth : Nat} {c : Char} {front s : List Char}
    (starts : front <+: c :: s) (more : front.count '{' + depth < front.count '}') :
    ∃ rest, front = c :: rest ∧ rest <+: s := by
  cases front with
  | nil => cases more
  | cons d rest =>
      obtain ⟨rfl, goesOn⟩ := List.cons_prefix_cons.mp starts
      exact ⟨rest, rfl, goesOn⟩

/-- A scan stops at the latest where more braces are closed than were open. -/
theorem balanced_ne_none {depth : Nat} {front s : List Char} (starts : front <+: s)
    (more : front.count '{' + depth < front.count '}') : balanced depth s ≠ none := by
  fun_induction balanced depth s generalizing front with
  | case1 depth =>
      rw [List.prefix_nil.mp starts] at more
      cases more
  | case2 depth s ih =>
      obtain ⟨rest, rfl, goesOn⟩ := exists_rest_of_more starts more
      rw [List.count_cons_self, List.count_cons_of_ne (by decide)] at more
      rw [Ne, Option.map_eq_none_iff]
      exact ih goesOn (by omega)
  | case3 s => simp
  | case4 s _ _ ih =>
      obtain ⟨rest, rfl, goesOn⟩ := exists_rest_of_more starts more
      rw [List.count_cons_self, List.count_cons_of_ne (by decide)] at more
      rw [Ne, Option.map_eq_none_iff]
      exact ih goesOn (by omega)
  | case5 depth c s notOpen notClose ih =>
      obtain ⟨rest, rfl, goesOn⟩ := exists_rest_of_more starts more
      rw [List.count_cons_of_ne notOpen, List.count_cons_of_ne notClose] at more
      rw [Ne, Option.map_eq_none_iff]
      exact ih goesOn more

/-! ## Braces of complete blocks -/

theorem count_open_frameStart (s : List Char) :
    (frameStart ++ s).count '{' = s.count '{' + 2 := by
  have opened : frameStart.count '{' = 2 := by decide
  rw [List.count_append, opened, Nat.add_comm]

theorem count_close_frameStart (s : List Char) :
    (frameStart ++ s).count '}' = s.count '}' := by
  have closed : frameStart.count '}' = 0 := by decide
  rw [List.count_append, closed, Nat.zero_add]

theorem IsComplete.count_eq {block : List Char} (complete : IsComplete block) :
    block.count '}' = block.count '{' := by
  obtain ⟨inside, rfl, closes⟩ := complete
  rw [count_open_frameStart, count_close_frameStart, closes.ends]

/-- Inside of a complete block there is always an open brace. -/
theorem IsComplete.count_lt {front tail : List Char} (complete : IsComplete (front ++ tail))
    (begun : front ≠ []) (made : tail ≠ []) : front.count '}' < front.count '{' := by
  obtain ⟨inside, split, closes⟩ := complete
  rcases List.append_eq_append_iff.mp split with ⟨shared, opening, -⟩ | ⟨body, rfl, rest⟩
  · -- the opening starts with its braces and closes none
    have within : ∀ n < 13, 0 < n →
        (frameStart.take n).count '}' < (frameStart.take n).count '{' := by decide
    have size : front.length + shared.length = 12 := by
      rw [← List.length_append, ← opening]
      rfl
    have taken : frameStart.take front.length = front := by rw [opening, List.take_left]
    have counted := within front.length (by omega) (List.length_pos_iff.mpr begun)
    rwa [taken] at counted
  · rw [count_open_frameStart, count_close_frameStart]
    exact closes.early body tail rest made

/-- Openings inside of a complete block are closed in it. -/
theorem IsComplete.not_staysOpen {front tail : List Char} (complete : IsComplete (front ++ tail))
    (made : tail ≠ []) (after : List Char) : ¬ StaysOpen (tail ++ after) := by
  intro stays
  rcases eq_or_ne front [] with rfl | begun
  · exact stays.2 tail complete (List.prefix_append _ _)
  · -- more braces are closed in the tail than opened, so it does not end within the opening
    have inner := complete.count_lt begun made
    have outer := complete.count_eq
    rw [List.count_append, List.count_append] at outer
    have closing : '}' ∈ tail := List.count_pos_iff.mp (by omega)
    rcases List.prefix_or_prefix_of_prefix stays.1 (List.prefix_append tail after) with
      ⟨inside, rfl⟩ | short
    · rw [count_open_frameStart, count_close_frameStart] at outer
      rw [List.append_assoc, staysOpen_frameStart_iff] at stays
      exact balanced_ne_none (List.prefix_append inside after) (by omega) stays
    · exact absurd (short.subset closing) (by decide)

/-! ## Places -/

namespace Layout

/-- The blocks with the places where they start, counted from a first one. -/
def places : Layout → Nat → List (Nat × List Char)
  | rest _, _ => []
  | block gap found after, start =>
    (start + gap.length, found) :: after.places (start + gap.length + found.length)

theorem map_snd_places (layout : Layout) (start : Nat) :
    (layout.places start).map Prod.snd = layout.blocks := by
  induction layout generalizing start with
  | rest gap => rfl
  | block gap found after ih => rw [places, List.map_cons, ih, blocks]

/-- The place is inside of a block that starts before it. -/
def Covers (layout : Layout) (start i : Nat) : Prop :=
  ∃ place ∈ layout.places start, place.1 < i ∧ i < place.1 + place.2.length

theorem drop_text (gap found : List Char) (after : Layout) (i : Nat) :
    (block gap found after).text.drop (gap.length + found.length + i) = after.text.drop i := by
  rw [text, Nat.add_assoc, List.drop_length_add_append, List.drop_length_add_append]

end Layout

/-- In a text without openings none starts, also if a frame follows it. -/
theorem length_le_of_opens {clear rest : List Char} (before : ¬ frameStart <:+: clear) {i : Nat}
    (opens : frameStart <+: (clear ++ (frameStart ++ rest)).drop i) : clear.length ≤ i := by
  by_contra inFront
  have inside : i < clear.length := Nat.not_le.mp inFront
  rw [List.drop_append_of_le_length (Nat.le_of_lt inside)] at opens
  refine not_frameStart_isPrefix rest ?_ ?_ opens
  · intro occurs
    exact before (occurs.trans (List.drop_suffix i clear).isInfix)
  · intro empty
    exact inFront (List.drop_eq_nil_iff.mp empty)

namespace Layout.Scanned

/-- In a layout that starts with a block, no opening stands in front of it. -/
theorem length_gap_le {gap found : List Char} {after : Layout}
    (scanned : (Layout.block gap found after).Scanned) {i : Nat}
    (opens : frameStart <+: (Layout.block gap found after).text.drop i) : gap.length ≤ i := by
  obtain ⟨clear, ⟨inside, rfl, -⟩, -⟩ := scanned
  rw [Layout.text, List.append_assoc] at opens
  exact length_le_of_opens clear opens

/-- A complete block with no open opening in front of it is found or covered. -/
theorem found_or_covers {layout : Layout} (scanned : layout.Scanned) {start i : Nat}
    {block : List Char} (complete : IsComplete block) (stands : block <+: layout.text.drop i)
    (closed : ∀ j < i, ¬ StaysOpen (layout.text.drop j)) :
    (start + i, block) ∈ layout.places start ∨ layout.Covers start (start + i) := by
  induction layout generalizing start i with
  | rest gap =>
      -- there is no complete block behind the last one that is found
      have opens := complete.opens.trans stands
      rcases scanned with clear | ⟨clear, inside, rfl, before, unclosed⟩
      · exact absurd (opens.isInfix.trans (List.drop_suffix i gap).isInfix) clear
      · have stays : StaysOpen ((clear ++ (frameStart ++ inside)).drop clear.length) := by
          rwa [List.drop_left, staysOpen_frameStart_iff]
        rcases Nat.eq_or_lt_of_le (length_le_of_opens before opens) with rfl | later
        · exact absurd stands (stays.2 block complete)
        · exact absurd stays (closed _ later)
  | block gap found after ih =>
      have inFront := scanned.length_gap_le (complete.opens.trans stands)
      obtain ⟨-, foundComplete, others⟩ := scanned
      rcases Nat.lt_or_ge i (gap.length + found.length) with inside | behind
      · rcases Nat.eq_or_lt_of_le inFront with rfl | later
        · left
          rw [Layout.text, List.drop_left] at stands
          obtain ⟨rest, same⟩ := stands
          rw [complete.eq_of_append foundComplete same]
          exact List.mem_cons_self
        · right
          refine ⟨_, List.mem_cons_self, ?_⟩
          dsimp only
          omega
      · obtain ⟨k, rfl⟩ := Nat.exists_eq_add_of_le behind
        rw [Layout.drop_text] at stands
        have closedThere : ∀ j < k, ¬ StaysOpen (after.text.drop j) := by
          intro j earlier
          rw [← Layout.drop_text gap found after j]
          exact closed _ (by omega)
        have same : start + (gap.length + found.length + k) =
            start + gap.length + found.length + k := by omega
        rw [same]
        rcases ih others stands closedThere with listed | ⟨place, listed, covers⟩
        · exact .inl (List.mem_cons_of_mem _ listed)
        · exact .inr ⟨place, List.mem_cons_of_mem _ listed, covers⟩

/-- Blocks are found only in front of an opening that stays open. -/
theorem place_le_of_staysOpen {layout : Layout} (scanned : layout.Scanned) {start j : Nat}
    {place : Nat × List Char} (stays : StaysOpen (layout.text.drop j))
    (listed : place ∈ layout.places start) : place.1 + place.2.length ≤ start + j := by
  induction layout generalizing start j with
  | rest gap => cases listed
  | block gap found after ih =>
      have inFront := scanned.length_gap_le stays.1
      obtain ⟨-, complete, others⟩ := scanned
      rcases Nat.lt_or_ge j (gap.length + found.length) with inside | behind
      · -- the opening would be inside of the block
        obtain ⟨k, rfl⟩ := Nat.exists_eq_add_of_le inFront
        have within : k < found.length := by omega
        rw [Layout.text, List.drop_length_add_append,
          List.drop_append_of_le_length (Nat.le_of_lt within)] at stays
        rw [← List.take_append_drop k found] at complete
        refine absurd stays (complete.not_staysOpen ?_ _)
        intro empty
        exact absurd (List.drop_eq_nil_iff.mp empty) (Nat.not_le.mpr within)
      · obtain ⟨k, rfl⟩ := Nat.exists_eq_add_of_le behind
        rw [Layout.drop_text] at stays
        cases listed with
        | head =>
            dsimp only
            omega
        | tail _ listed =>
            have bound := ih others stays listed
            omega

end Layout.Scanned

/-- The blocks that are found have places in the document such that a complete block of the
document is one of them, or starts inside of one, exactly if no opening in front of it stays
open. -/
theorem complete_found_iff_closed (document : String) :
    ∃ layout : Layout, layout.text = document.toList ∧
      (layout.places 0).map (fun place => String.ofList place.2) = blocks document ∧
      ∀ i block, IsComplete block → block <+: document.toList.drop i →
        (((i, block) ∈ layout.places 0 ∨ layout.Covers 0 i) ↔
          ∀ j < i, ¬ StaysOpen (document.toList.drop j)) := by
  obtain ⟨layout, laidOut, scanned⟩ := exists_scanned document.toList
  refine ⟨layout, laidOut, ?_, ?_⟩
  · rw [blocks, ← laidOut, scanned.blocksIn_text, ← layout.map_snd_places 0, List.map_map]
    rfl
  · intro i block complete stands
    rw [← laidOut] at stands ⊢
    constructor
    · rintro (listed | ⟨place, listed, covers⟩) j earlier stays
      · have bound := scanned.place_le_of_staysOpen stays listed
        dsimp only at bound
        omega
      · have bound := scanned.place_le_of_staysOpen stays listed
        omega
    · intro closed
      have recovered : (0 + i, block) ∈ layout.places 0 ∨ layout.Covers 0 (0 + i) :=
        scanned.found_or_covers complete stands closed
      rwa [Nat.zero_add] at recovered

/-- An opening that stays open and a complete block behind it. -/
def swallowing : String :=
  "\x7b\x7b[[query]]: \x7b\x7b[[query]]: [[a]]\x7d\x7d"

/-- The block that is lost. -/
def swallowed : List Char :=
  "\x7b\x7b[[query]]: [[a]]\x7d\x7d".toList

theorem swallowed_complete : IsComplete swallowed := by
  decide

theorem complete_found_iff_closed_swallowing :
    swallowed <+: swallowing.toList.drop 13 ∧ StaysOpen (swallowing.toList.drop 0) ∧
      ∃ layout : Layout, layout.text = swallowing.toList ∧
        ¬ ((13, swallowed) ∈ layout.places 0 ∨ layout.Covers 0 13) := by
  have stands : swallowed <+: swallowing.toList.drop 13 := by decide +kernel
  have stays : StaysOpen (swallowing.toList.drop 0) :=
    staysOpen_frameStart_iff.mpr (by decide +kernel : balanced 1 (' ' :: swallowed) = none)
  obtain ⟨layout, laidOut, -, found_iff⟩ := complete_found_iff_closed swallowing
  refine ⟨stands, stays, layout, laidOut, ?_⟩
  rw [found_iff 13 swallowed swallowed_complete stands]
  intro closed
  exact closed 0 (by decide) stays

/-- A complete block is lost behind an opening that stays open. -/
theorem blocks_swallowing_eq_nil :
    IsComplete swallowed ∧ swallowed <+: swallowing.toList.drop 13 ∧ blocks swallowing = [] := by
  have scanned : (Layout.rest (frameStart ++ ' ' :: swallowed)).Scanned :=
    .inr ⟨[], ' ' :: swallowed, rfl, by decide, by decide +kernel⟩
  have written : swallowing.toList = frameStart ++ ' ' :: swallowed := by decide +kernel
  refine ⟨swallowed_complete, by decide +kernel, ?_⟩
  rw [blocks, written]
  exact congrArg (List.map String.ofList) scanned.blocksIn_text

end BlockQuery.Query
