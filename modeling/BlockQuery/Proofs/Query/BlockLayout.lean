import BlockQuery.Proofs.Query.BlockScan
import BlockQuery.Proofs.Text.Blank
import Mathlib.Data.List.Infix

/-!
# The layout of a document

A document is text and blocks in turn.  Every document has a layout that the scan follows:
no opening stands in the texts between its blocks, its blocks are complete, and the last
text has no opening or has one that is never closed.  The blocks of a document are those
of this layout, so documents that are put together from complete blocks and from texts
without openings are taken apart again.
-/

namespace BlockQuery.Query

open BlockQuery.Text

/-! ## Complete blocks -/

/-- An opening whose braces are closed by the last character and not before. -/
def IsComplete (block : List Char) : Prop :=
  ∃ inside, block = frameStart ++ inside ∧ Closes 2 inside

/-- A block is complete exactly if the scan from its opening stops at its end. -/
theorem scan_iff_isComplete {block : List Char} :
    (∃ inside ∈ dropStart? frameStart block, balanced 1 inside = some (inside, [])) ↔
      IsComplete block := by
  constructor
  · rintro ⟨inside, opened, scanned⟩
    exact ⟨inside, dropStart?_eq_some_iff.mp opened, (balanced_eq_some_iff.mp scanned).2⟩
  · rintro ⟨inside, rfl, closes⟩
    have whole : balanced 1 inside = some (inside, []) :=
      balanced_eq_some_iff.mpr ⟨(List.append_nil inside).symm, closes⟩
    exact ⟨inside, dropStart?_append frameStart inside, whole⟩

instance (block : List Char) : Decidable (IsComplete block) :=
  decidable_of_iff _ scan_iff_isComplete

theorem IsComplete.opens {block : List Char} (complete : IsComplete block) :
    frameStart <+: block := by
  obtain ⟨inside, rfl, _⟩ := complete
  exact List.prefix_append _ _

/-- The scan behind an opening ends where a complete block ends. -/
theorem balanced_eq_some_iff_isComplete {inside body after : List Char} :
    balanced 1 inside = some (body, after) ↔
      inside = body ++ after ∧ IsComplete (frameStart ++ body) := by
  rw [balanced_eq_some_iff]
  constructor
  · rintro ⟨split, closes⟩
    exact ⟨split, body, rfl, closes⟩
  · rintro ⟨split, other, same, closes⟩
    rw [List.append_right_inj] at same
    exact ⟨split, same ▸ closes⟩

/-- Complete blocks are no proper starts of one another. -/
theorem IsComplete.eq_of_append {first second after rest : List Char}
    (complete : IsComplete first) (other : IsComplete second)
    (same : first ++ after = second ++ rest) : first = second := by
  obtain ⟨inside, rfl, closes⟩ := complete
  obtain ⟨body, rfl, otherCloses⟩ := other
  rw [List.append_assoc, List.append_assoc, List.append_right_inj] at same
  have scanned : balanced 1 (inside ++ after) = some (inside, after) :=
    balanced_eq_some_iff.mpr ⟨rfl, closes⟩
  have again : balanced 1 (inside ++ after) = some (body, rest) :=
    balanced_eq_some_iff.mpr ⟨same, otherCloses⟩
  rw [scanned, Option.some.injEq, Prod.mk.injEq] at again
  rw [again.1]

/-- A complete block is recognised as a query block. -/
theorem IsComplete.isBlock {block : List Char} (complete : IsComplete block) :
    isBlock (String.ofList block) = true := by
  obtain ⟨inside, rfl, _⟩ := complete
  have solid : SolidStart (frameStart ++ inside) := by
    rintro c ⟨⟩
    rfl
  have lowered : frameStart.map lower = frameStart := by decide
  rw [Query.isBlock, String.toList_ofList, solid.trimLeft_eq, List.map_append, lowered,
    List.isPrefixOf_iff_prefix]
  exact List.prefix_append _ _

/-! ## Layouts -/

/-- Text and blocks in turn, with text at both ends. -/
inductive Layout
  | rest (gap : List Char)
  | block (gap found : List Char) (after : Layout)

namespace Layout

/-- The document that is laid out. -/
def text : Layout → List Char
  | rest gap => gap
  | block gap found after => gap ++ (found ++ after.text)

/-- The blocks, from left to right. -/
def blocks : Layout → List (List Char)
  | rest _ => []
  | block _ found after => found :: after.blocks

/-- The texts around the blocks, from left to right. -/
def gaps : Layout → List (List Char)
  | rest gap => [gap]
  | block gap _ after => gap :: after.gaps

/-- The layout that the scan of a document follows.  Behind the last block there may be an
opening that is never closed. -/
def Scanned : Layout → Prop
  | rest gap => ¬ frameStart <:+: gap ∨ ∃ clear inside, gap = clear ++ (frameStart ++ inside) ∧
      ¬ frameStart <:+: clear ∧ balanced 1 inside = none
  | block gap found after => ¬ frameStart <:+: gap ∧ IsComplete found ∧ after.Scanned

/-- Complete blocks between texts without openings are scanned. -/
theorem scanned_of_clear {layout : Layout} (complete : ∀ found ∈ layout.blocks, IsComplete found)
    (clear : ∀ gap ∈ layout.gaps, ¬ frameStart <:+: gap) : layout.Scanned := by
  induction layout with
  | rest gap => exact .inl (clear gap (.head _))
  | block gap found after ih =>
      refine ⟨clear gap (.head _), complete found (.head _), ?_⟩
      apply ih
      · intro other listed
        exact complete other (.tail _ listed)
      · intro other listed
        exact clear other (.tail _ listed)

theorem Scanned.isComplete {layout : Layout} (scanned : layout.Scanned) {found : List Char}
    (listed : found ∈ layout.blocks) : IsComplete found := by
  induction layout with
  | rest gap => cases listed
  | block gap first after ih =>
      obtain ⟨_, complete, others⟩ := scanned
      cases listed with
      | head => exact complete
      | tail _ listed => exact ih others listed

/-- The scan finds the blocks of the layout that it follows. -/
theorem Scanned.blocksIn_text {layout : Layout} (scanned : layout.Scanned) :
    blocksIn layout.text = layout.blocks := by
  induction layout with
  | rest gap =>
      rcases scanned with clear | ⟨clear, inside, rfl, clearBefore, unclosed⟩
      · exact blocksIn_of_clear clear
      · rw [text, blocksIn_append clearBefore, blocksIn_frameStart, unclosed]
        rfl
  | block gap found after ih =>
      obtain ⟨clear, ⟨inside, rfl, closes⟩, others⟩ := scanned
      have closed : balanced 1 (inside ++ after.text) = some (inside, after.text) :=
        balanced_eq_some_iff.mpr ⟨rfl, closes⟩
      rw [text, List.append_assoc, blocksIn_append clear, blocksIn_frameStart, closed,
        Option.elim_some, ih others, blocks]

end Layout

/-- A text with an opening has a leftmost one. -/
theorem exists_leftmost {text : List Char} (opens : frameStart <:+: text) :
    ∃ clear inside, text = clear ++ (frameStart ++ inside) ∧ ¬ frameStart <:+: clear := by
  induction text with
  | nil => exact absurd opens (by decide)
  | cons c text ih =>
      by_cases starts : frameStart <+: c :: text
      · obtain ⟨inside, split⟩ := starts
        exact ⟨[], inside, split.symm, by decide⟩
      · rw [List.infix_cons_iff, or_iff_right starts] at opens
        obtain ⟨clear, inside, rfl, before⟩ := ih opens
        refine ⟨c :: clear, inside, rfl, ?_⟩
        rw [List.infix_cons_iff, not_or]
        refine ⟨?_, before⟩
        intro early
        exact starts (early.trans (List.prefix_append (c :: clear) _))

/-- Every document has a layout that the scan follows. -/
theorem exists_scanned (text : List Char) :
    ∃ layout : Layout, layout.text = text ∧ layout.Scanned := by
  induction size : text.length using Nat.strong_induction_on generalizing text with
  | _ size' ih =>
      subst size
      by_cases opens : frameStart <:+: text
      · obtain ⟨clear, inside, rfl, before⟩ := exists_leftmost opens
        cases scanned : balanced 1 inside with
        | none =>
            exact ⟨.rest (clear ++ (frameStart ++ inside)), rfl,
              .inr ⟨clear, inside, rfl, before, scanned⟩⟩
        | some found =>
            obtain ⟨body, after⟩ := found
            have shorter : after.length < (clear ++ (frameStart ++ inside)).length := by
              have := balanced_length scanned
              simp only [List.length_append]
              omega
            obtain ⟨layout, rfl, others⟩ := ih _ shorter after rfl
            obtain ⟨rfl, complete⟩ := balanced_eq_some_iff_isComplete.mp scanned
            refine ⟨.block clear (frameStart ++ body) layout, ?_, before, complete, others⟩
            rw [Layout.text, List.append_assoc]
      · exact ⟨.rest text, rfl, .inl opens⟩

/-! ## Documents taken apart -/

/-- A complete block is its own only block. -/
theorem IsComplete.blocksIn_eq {block : List Char} (complete : IsComplete block) :
    blocksIn block = [block] := by
  have scanned : (Layout.block [] block (.rest [])).Scanned :=
    ⟨by decide, complete, .inl (by decide)⟩
  have found := scanned.blocksIn_text
  rwa [Layout.text, Layout.text, List.nil_append, List.append_nil] at found

/-- A document that is put together from complete blocks and from texts without openings is taken
apart into these blocks.  The blocks of any document stand in it from left to right without
overlapping; each is complete, is recognised as a query block and is its own only block. -/
theorem blocks_take_apart (layout : Layout) (document : String) :
    ((∀ found ∈ layout.blocks, IsComplete found) →
      (∀ gap ∈ layout.gaps, ¬ frameStart <:+: gap) →
      blocks (String.ofList layout.text) = layout.blocks.map String.ofList) ∧
    (∃ places : Layout, String.ofList places.text = document ∧
      places.blocks.map String.ofList = blocks document) ∧
    ∀ found ∈ blocks document,
      IsComplete found.toList ∧ isBlock found = true ∧ blocks found = [found] := by
  obtain ⟨places, laidOut, scanned⟩ := exists_scanned document.toList
  have same : blocks document = places.blocks.map String.ofList := by
    rw [blocks, ← laidOut, scanned.blocksIn_text]
  refine ⟨?_, ⟨places, ?_, same.symm⟩, ?_⟩
  · intro complete clear
    rw [blocks, String.toList_ofList, (Layout.scanned_of_clear complete clear).blocksIn_text]
  · rw [laidOut, String.ofList_toList]
  · intro found listed
    rw [same, List.mem_map] at listed
    obtain ⟨block, inPlace, rfl⟩ := listed
    have complete := scanned.isComplete inPlace
    rw [String.toList_ofList]
    refine ⟨complete, complete.isBlock, ?_⟩
    rw [blocks, String.toList_ofList, complete.blocksIn_eq, List.map_singleton]

/-- A block that holds a block, behind a text that ends like an opening, and a block right behind
it. -/
def entangled : Layout :=
  .block "\x7d \x7b\x7b[[query]]".toList
    "\x7b\x7b[[query]]:\x7b\x7b[[query]]:\x7d\x7d\x7d\x7d".toList
    (.block [] "\x7b\x7b[[query]]: \x7bor: [[a]]\x7d\x7d\x7d".toList
      (.rest "\x7d\x7d \x7b\x7b[[q".toList))

theorem blocks_take_apart_entangled :
    (∀ found ∈ entangled.blocks, IsComplete found) ∧
      (∀ gap ∈ entangled.gaps, ¬ frameStart <:+: gap) ∧
      blocks (String.ofList entangled.text) = entangled.blocks.map String.ofList ∧
      ∃ found ∈ blocks (String.ofList entangled.text), found.toList.length = 28 ∧
        isBlock found = true ∧ blocks found = [found] := by
  have complete : ∀ found ∈ entangled.blocks, IsComplete found := by decide +kernel
  have clear : ∀ gap ∈ entangled.gaps, ¬ frameStart <:+: gap := by decide +kernel
  obtain ⟨found, -, each⟩ := blocks_take_apart entangled (String.ofList entangled.text)
  have first : String.ofList (frameStart ++ (frameStart ++ (frameEnd ++ frameEnd))) ∈
      blocks (String.ofList entangled.text) := by
    rw [found complete clear]
    exact List.mem_cons_self
  refine ⟨complete, clear, found complete clear, _, first, by decide +kernel, ?_⟩
  exact (each _ first).2

end BlockQuery.Query
