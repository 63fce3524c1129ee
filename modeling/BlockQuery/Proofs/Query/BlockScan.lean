import BlockQuery.Query.Block

/-!
# Scanning for query blocks

A block is found at the leftmost opening of a frame and ends at the brace that brings
the count of open braces to zero for the first time.  The opening of a frame does not
overlap itself, so no opening is found across the border between a text without any
and a frame that follows it.
-/

namespace BlockQuery.Query

open BlockQuery.Text

/-! ## Counting braces -/

/-- The number of open braces, `depth` in front of the text, is zero behind its last character
and not before. -/
structure Closes (depth : Nat) (s : List Char) : Prop where
  ends : s.count '}' = s.count '{' + depth
  early : ∀ front tail, s = front ++ tail → tail ≠ [] → front.count '}' < front.count '{' + depth

section

variable {depth : Nat} {c : Char} {s : List Char}

theorem not_closes_nil : ¬ Closes (depth + 1) [] := by
  rintro ⟨ends, _⟩
  simp at ends

/-- The first character changes the count, and the rest of the text goes on from there. -/
theorem closes_cons_iff {next : Nat}
    (step : ∀ t : List Char, ((c :: t).count '}' = (c :: t).count '{' + depth ↔
        t.count '}' = t.count '{' + next) ∧
      ((c :: t).count '}' < (c :: t).count '{' + depth ↔ t.count '}' < t.count '{' + next))
    (positive : 0 < depth) : Closes depth (c :: s) ↔ Closes next s := by
  constructor
  · rintro ⟨ends, early⟩
    refine ⟨(step s).1.mp ends, ?_⟩
    intro front tail split left
    exact (step front).2.mp (early (c :: front) tail (congrArg (c :: ·) split) left)
  · rintro ⟨ends, early⟩
    refine ⟨(step s).1.mpr ends, ?_⟩
    intro front tail split left
    cases front with
    | nil => simpa using positive
    | cons d front =>
        rw [List.cons_append, List.cons.injEq] at split
        rcases split with ⟨rfl, split⟩
        exact (step front).2.mpr (early front tail split left)

theorem closes_open_iff : Closes (depth + 1) ('{' :: s) ↔ Closes (depth + 2) s := by
  apply closes_cons_iff _ (Nat.succ_pos depth)
  intro t
  simp only [List.count_cons_self, List.count_cons_of_ne (show '{' ≠ '}' by decide)]
  omega

theorem closes_close_iff : Closes (depth + 2) ('}' :: s) ↔ Closes (depth + 1) s := by
  apply closes_cons_iff _ (Nat.succ_pos (depth + 1))
  intro t
  simp only [List.count_cons_self, List.count_cons_of_ne (show '}' ≠ '{' by decide)]
  omega

/-- The last open brace is closed by the last character. -/
theorem closes_last_iff : Closes 1 ('}' :: s) ↔ s = [] := by
  constructor
  · rintro ⟨_, early⟩
    cases s with
    | nil => rfl
    | cons d s =>
        have counted := early ['}'] (d :: s) rfl (List.cons_ne_nil d s)
        simp at counted
  · rintro rfl
    refine ⟨rfl, ?_⟩
    intro front tail split left
    cases front with
    | nil => simp
    | cons d front =>
        rw [List.cons_append, List.cons.injEq] at split
        exact absurd (List.append_eq_nil_iff.mp split.2.symm).2 left

theorem closes_other_iff (notOpen : c ≠ '{') (notClose : c ≠ '}') :
    Closes (depth + 1) (c :: s) ↔ Closes (depth + 1) s := by
  apply closes_cons_iff _ (Nat.succ_pos depth)
  intro t
  rw [List.count_cons_of_ne notOpen, List.count_cons_of_ne notClose]
  exact ⟨Iff.rfl, Iff.rfl⟩

end

/-- A scan that goes on behind its first character. -/
theorem map_balanced_eq_some_iff {depth next : Nat} {c : Char} {s body rest : List Char}
    (scanned : ∀ {inner after}, balanced next s = some (inner, after) ↔
      s = inner ++ after ∧ Closes (next + 1) inner)
    (closes : ∀ {t}, Closes (depth + 1) (c :: t) ↔ Closes (next + 1) t) :
    (balanced next s).map (fun (inner, after) => (c :: inner, after)) = some (body, rest) ↔
      c :: s = body ++ rest ∧ Closes (depth + 1) body := by
  rw [Option.map_eq_some_iff]
  constructor
  · rintro ⟨⟨inner, after⟩, found, ⟨⟩⟩
    rcases scanned.mp found with ⟨rfl, closed⟩
    exact ⟨rfl, closes.mpr closed⟩
  · rintro ⟨split, closed⟩
    cases body with
    | nil => exact absurd closed not_closes_nil
    | cons d body =>
        rw [List.cons_append, List.cons.injEq] at split
        rcases split with ⟨rfl, rfl⟩
        exact ⟨(body, rest), scanned.mpr ⟨rfl, closes.mp closed⟩, rfl⟩

/-- The scan cuts a text behind the character that closes the last open brace. -/
theorem balanced_eq_some_iff {depth : Nat} {s body rest : List Char} :
    balanced depth s = some (body, rest) ↔ s = body ++ rest ∧ Closes (depth + 1) body := by
  fun_induction balanced depth s generalizing body rest with
  | case1 depth =>
      constructor
      · rintro ⟨⟩
      · rintro ⟨split, closed⟩
        rw [(List.append_eq_nil_iff.mp split.symm).1] at closed
        exact absurd closed not_closes_nil
  | case2 depth s ih => exact map_balanced_eq_some_iff ih closes_open_iff
  | case3 s =>
      constructor
      · rintro ⟨⟩
        exact ⟨rfl, closes_last_iff.mpr rfl⟩
      · rintro ⟨split, closed⟩
        cases body with
        | nil => exact absurd closed not_closes_nil
        | cons d body =>
            rw [List.cons_append, List.cons.injEq] at split
            rcases split with ⟨rfl, rfl⟩
            rw [closes_last_iff.mp closed, List.nil_append]
  | case4 s notOpen depth ih => exact map_balanced_eq_some_iff ih closes_close_iff
  | case5 depth c s notOpen notClose ih =>
      exact map_balanced_eq_some_iff ih (closes_other_iff notOpen notClose)

/-! ## Openings -/

/-- The opening of a frame does not overlap itself. -/
theorem not_frameStart_drop : ∀ n < 12, 0 < n → ¬ frameStart.drop n <+: frameStart := by
  decide

/-- No opening starts in a text without openings, also if a frame follows it. -/
theorem not_frameStart_isPrefix {s : List Char} (after : List Char)
    (clear : ¬ frameStart <:+: s) (made : s ≠ []) :
    ¬ frameStart <+: s ++ (frameStart ++ after) := by
  intro starts
  have size : frameStart.length = 12 := by decide
  have first : s <+: s ++ (frameStart ++ after) := List.prefix_append _ _
  have positive := List.length_pos_iff.mpr made
  rcases Nat.lt_or_ge s.length 12 with short | long
  · -- the rest of the opening would lie over the start of the next one
    obtain ⟨rest, split⟩ := List.prefix_of_prefix_length_le first starts (by omega)
    have rest_eq : rest = frameStart.drop s.length := by rw [← split, List.drop_left]
    have overlaps : rest <+: frameStart ++ after := by
      rw [← split, List.prefix_append_right_inj] at starts
      rwa [← split]
    have within := List.prefix_of_prefix_length_le overlaps (List.prefix_append frameStart after)
      (by rw [rest_eq, List.length_drop]; omega)
    exact not_frameStart_drop s.length short positive (rest_eq ▸ within)
  · have within := List.prefix_of_prefix_length_le starts first (by omega)
    exact clear within.isInfix

/-! ## Blocks of a document -/

theorem blocksIn_cons {c : Char} {s : List Char} (other : ¬ frameStart <+: c :: s) :
    blocksIn (c :: s) = blocksIn s := by
  rw [blocksIn]
  split
  · rfl
  · next inside opened => exact absurd ⟨inside, (dropStart?_eq_some_iff.mp opened).symm⟩ other

/-- There are no blocks without an opening. -/
theorem blocksIn_of_clear {s : List Char} (clear : ¬ frameStart <:+: s) : blocksIn s = [] := by
  induction s with
  | nil => rw [blocksIn]
  | cons c s ih =>
      rw [List.infix_cons_iff, not_or] at clear
      rw [blocksIn_cons clear.1, ih clear.2]

/-- What stands in front of the first opening does not matter. -/
theorem blocksIn_append {before : List Char} (clear : ¬ frameStart <:+: before)
    (after : List Char) :
    blocksIn (before ++ (frameStart ++ after)) = blocksIn (frameStart ++ after) := by
  induction before with
  | nil => rfl
  | cons c before ih =>
      have other := not_frameStart_isPrefix after clear (List.cons_ne_nil c before)
      rw [List.infix_cons_iff, not_or] at clear
      rw [List.cons_append] at other ⊢
      rw [blocksIn_cons other, ih clear.2]

theorem frameStart_append_ne_nil (inside : List Char) : frameStart ++ inside ≠ [] := by
  intro empty
  exact absurd (List.append_eq_nil_iff.mp empty).1 (by decide)

/-- A frame that is closed is a block.  Without a closing brace there are no blocks from there
on. -/
theorem blocksIn_frameStart (inside : List Char) :
    blocksIn (frameStart ++ inside) =
      (balanced 1 inside).elim [] fun found => (frameStart ++ found.1) :: blocksIn found.2 := by
  have opened := dropStart?_append frameStart inside
  obtain ⟨c, s, split⟩ := List.exists_cons_of_ne_nil (frameStart_append_ne_nil inside)
  rw [split] at opened ⊢
  rw [blocksIn]
  split
  · next missing =>
      rw [opened] at missing
      cases missing
  · next found =>
      cases opened.symm.trans found
      split
      · next unclosed => rw [unclosed, Option.elim_none]
      · next closed =>
          dsimp only
          rw [closed, Option.elim_some]

/-- Between texts without openings, a frame is found as the only block exactly if its braces are
closed at its end and not before. -/
theorem blocksIn_eq_singleton_iff {before inside after : List Char}
    (clearBefore : ¬ frameStart <:+: before) (clearAfter : ¬ frameStart <:+: after) :
    blocksIn (before ++ (frameStart ++ (inside ++ after))) = [frameStart ++ inside] ↔
      Closes 2 inside := by
  rw [blocksIn_append clearBefore, blocksIn_frameStart]
  constructor
  · intro same
    cases scanned : balanced 1 (inside ++ after) with
    | none =>
        rw [scanned, Option.elim_none] at same
        cases same
    | some found =>
        rw [scanned, Option.elim_some, List.cons.injEq, List.append_right_inj] at same
        rw [← same.1]
        exact (balanced_eq_some_iff.mp scanned).2
  · intro closes
    rw [balanced_eq_some_iff.mpr ⟨rfl, closes⟩, Option.elim_some, blocksIn_of_clear clearAfter]

end BlockQuery.Query
