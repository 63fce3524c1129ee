import BlockQuery.Text.Find

/-!
# Lines of a text

A text of lines has a line break behind each of them.  A marker without line breaks
occurs in such a text only inside of a line, so the leftmost occurrence is found by
going through the lines, and replacing a line that is the marker leaves all other
lines alone.
-/

namespace BlockQuery.Text

/-- The text of lines, each with a line break behind it. -/
def unlines (lines : List (List Char)) : List Char :=
  lines.flatMap (· ++ ['\n'])

theorem unlines_cons (line : List Char) (lines : List (List Char)) :
    unlines (line :: lines) = line ++ '\n' :: unlines lines := by
  simp [unlines]

theorem unlines_append (lines more : List (List Char)) :
    unlines (lines ++ more) = unlines lines ++ unlines more :=
  List.flatMap_append

theorem toList_join_lines (lines : List String) :
    (String.join (lines.map (· ++ "\n"))).toList = unlines (lines.map String.toList) := by
  induction lines with
  | nil => rfl
  | cons line lines ih =>
      rw [List.map_cons, List.map_cons, unlines_cons, ← ih]
      simp

/-! ## Taking a text apart -/

theorem splitOn_append {separator : Char} {piece : List Char} (absent : separator ∉ piece)
    (rest : List Char) :
    splitOn separator (piece ++ separator :: rest) = piece :: splitOn separator rest := by
  induction piece with
  | nil => rw [List.nil_append, splitOn, if_pos rfl]
  | cons c piece ih =>
      rw [List.mem_cons, not_or] at absent
      rw [List.cons_append, splitOn, if_neg (Ne.symm absent.1), ih absent.2]

/-- A text of lines is taken apart at its line breaks; nothing stands behind the last one. -/
theorem splitOn_unlines {lines : List (List Char)} (unbroken : ∀ line ∈ lines, '\n' ∉ line) :
    splitOn '\n' (unlines lines) = lines ++ [[]] := by
  induction lines with
  | nil => rfl
  | cons line lines ih =>
      rw [List.forall_mem_cons] at unbroken
      rw [unlines_cons, splitOn_append unbroken.1, ih unbroken.2, List.cons_append]

/-! ## Replacing a line -/

section

variable {marker : List Char}

/-- A start without line breaks ends in front of the first one. -/
theorem prefix_of_prefix_line (unbroken : '\n' ∉ marker) {line rest : List Char}
    (starts : marker <+: line ++ '\n' :: rest) : marker <+: line := by
  have whole : line ++ ['\n'] <+: line ++ '\n' :: rest := ⟨rest, by simp⟩
  rcases List.prefix_or_prefix_of_prefix starts whole with inside | beyond
  · rcases List.prefix_concat_iff.mp inside with rfl | inside
    · exact absurd (by simp) unbroken
    · exact inside
  · exact absurd (beyond.subset (by simp)) unbroken

theorem dropStart?_eq_none {text : List Char} (apart : ¬ marker <+: text) :
    dropStart? marker text = none := by
  cases found : dropStart? marker text with
  | none => rfl
  | some rest => exact absurd ⟨rest, (dropStart?_eq_some_iff.mp found).symm⟩ apart

variable (nonempty : marker ≠ []) (unbroken : '\n' ∉ marker)
include nonempty unbroken

/-- A marker that is not in a line is looked for behind it. -/
theorem cut?_line {line : List Char} (absent : ¬ marker <:+: line) (rest : List Char) :
    cut? marker (line ++ '\n' :: rest) =
      (cut? marker rest).map fun (before, after) => (line ++ '\n' :: before, after) := by
  induction line with
  | nil =>
      have apart : ¬ marker <+: [] ++ '\n' :: rest := fun starts =>
        nonempty (List.prefix_nil.mp (prefix_of_prefix_line unbroken starts))
      rw [List.nil_append] at apart ⊢
      rw [cut?, dropStart?_eq_none apart]
      simp
  | cons c line ih =>
      rw [List.infix_cons_iff, not_or] at absent
      have apart : ¬ marker <+: c :: line ++ '\n' :: rest := fun starts =>
        absent.1 (prefix_of_prefix_line unbroken starts)
      rw [List.cons_append] at apart ⊢
      rw [cut?, dropStart?_eq_none apart, ih absent.2]
      cases cut? marker rest <;> simp

theorem cut?_unlines {before : List (List Char)} (absent : ∀ line ∈ before, ¬ marker <:+: line)
    (after : List (List Char)) :
    cut? marker (unlines (before ++ marker :: after)) =
      some (unlines before, '\n' :: unlines after) := by
  induction before with
  | nil =>
      have here : cut? marker ([] ++ (marker ++ '\n' :: unlines after)) =
          some ([], '\n' :: unlines after) := by
        apply cut?_append
        intro front tail split proper
        exact absurd (List.append_eq_nil_iff.mp split.symm).2 proper
      rw [List.nil_append, unlines_cons]
      exact here
  | cons line before ih =>
      rw [List.forall_mem_cons] at absent
      rw [List.cons_append, unlines_cons, cut?_line nonempty unbroken absent.1, ih absent.2,
        unlines_cons]
      rfl

/-- Replacing a line that no earlier line contains leaves all other lines alone. -/
theorem replaceFirst_unlines {before : List (List Char)}
    (absent : ∀ line ∈ before, ¬ marker <:+: line) (replacement : List Char)
    (after : List (List Char)) :
    replaceFirst marker replacement (unlines (before ++ marker :: after)) =
      unlines (before ++ replacement :: after) := by
  rw [replaceFirst, cut?_unlines nonempty unbroken absent]
  simp [unlines_append, unlines_cons]

end

end BlockQuery.Text
