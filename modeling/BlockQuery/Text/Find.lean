/-!
# Finding one text in another

A marker is found at its leftmost occurrence. `cut?` gives the texts before and
after it, from which replacement and containment follow.
-/

namespace BlockQuery.Text

/-- What follows `start` when the text begins with it. -/
def dropStart? : List Char → List Char → Option (List Char)
  | [], text => some text
  | _ :: _, [] => none
  | c :: start, d :: text => if c = d then dropStart? start text else none

theorem dropStart?_append (start rest : List Char) :
    dropStart? start (start ++ rest) = some rest := by
  induction start with
  | nil => rfl
  | cons c start ih => rw [List.cons_append, dropStart?, if_pos rfl, ih]

theorem dropStart?_eq_some_iff {start text rest : List Char} :
    dropStart? start text = some rest ↔ text = start ++ rest := by
  induction start generalizing text with
  | nil => simp [dropStart?]
  | cons c start ih =>
    cases text with
    | nil => simp [dropStart?]
    | cons d text =>
      rw [dropStart?]
      split
      · next same => simp [ih, same]
      · next other => simp [Ne.symm other]

/-- The texts before and after the leftmost occurrence of `marker`. -/
def cut? (marker : List Char) : List Char → Option (List Char × List Char)
  | [] => if marker = [] then some ([], []) else none
  | c :: text =>
    match dropStart? marker (c :: text) with
    | some after => some ([], after)
    | none => (cut? marker text).map fun (before, after) => (c :: before, after)

/-- A cut is made at a marker that starts nowhere before. -/
theorem cut?_append {marker before : List Char} (after : List Char)
    (leftmost : ∀ front tail, before = front ++ tail → tail ≠ [] →
      ¬ marker <+: tail ++ (marker ++ after)) :
    cut? marker (before ++ (marker ++ after)) = some (before, after) := by
  induction before with
  | nil =>
    cases marker with
    | nil => cases after <;> rfl
    | cons c marker =>
      have found := dropStart?_append (c :: marker) after
      rw [List.cons_append] at found
      rw [List.nil_append, List.cons_append, cut?, found]
  | cons c before ih =>
    have later : dropStart? marker (c :: (before ++ (marker ++ after))) = none := by
      cases found : dropStart? marker (c :: (before ++ (marker ++ after))) with
      | none => rfl
      | some rest =>
        have starts := dropStart?_eq_some_iff.mp found
        exact absurd ⟨rest, starts.symm⟩ (leftmost [] (c :: before) rfl (List.cons_ne_nil c before))
    have rest := ih fun front tail split => leftmost (c :: front) tail (congrArg (c :: ·) split)
    rw [List.cons_append, cut?, later]
    simp [rest]

/-- Whether `marker` occurs in the text. -/
def contains (marker text : List Char) : Bool :=
  (cut? marker text).isSome

theorem contains_iff {marker text : List Char} : contains marker text ↔ marker <:+: text := by
  unfold contains
  induction text with
  | nil => simp [cut?]
  | cons c text ih =>
    rw [cut?, List.infix_cons_iff]
    cases found : dropStart? marker (c :: text) with
    | some rest => simp [dropStart?_eq_some_iff.mp found]
    | none =>
      have apart : ¬ marker <+: c :: text := by
        rintro ⟨rest, starts⟩
        rw [dropStart?_eq_some_iff.mpr starts.symm] at found
        cases found
      simp [apart, ← ih]

/-- The text with the leftmost occurrence of `marker` replaced. -/
def replaceFirst (marker replacement text : List Char) : List Char :=
  match cut? marker text with
  | some (before, after) => before ++ replacement ++ after
  | none => text

/-- The pieces of a text between the occurrences of a separator. -/
def splitOn (separator : Char) : List Char → List (List Char)
  | [] => [[]]
  | c :: text =>
    if c = separator then
      [] :: splitOn separator text
    else
      match splitOn separator text with
      | piece :: pieces => (c :: piece) :: pieces
      | [] => [[c]]

/-- The text without the given character at its end. -/
def dropEnd (c : Char) (text : List Char) : List Char :=
  (text.reverse.dropWhile (· == c)).reverse

/-- What is dropped is all of the character at the end. -/
theorem dropEnd_eq_iff {c : Char} {text front : List Char} :
    dropEnd c text = front ↔
      (∃ count, text = front ++ List.replicate count c) ∧ ¬ [c] <:+ front := by
  constructor
  · rintro rfl
    have dropped : text.reverse.takeWhile (· == c) =
        List.replicate (text.reverse.takeWhile (· == c)).length c := by
      refine List.eq_replicate_iff.mpr ⟨rfl, fun d member => ?_⟩
      exact eq_of_beq (List.all_eq_true.mp List.all_takeWhile d member)
    have whole := congrArg List.reverse
      (List.takeWhile_append_dropWhile (p := (· == c)) (l := text.reverse))
    rw [dropped, List.reverse_append, List.reverse_replicate, List.reverse_reverse] at whole
    refine ⟨⟨_, whole.symm⟩, ?_⟩
    intro ends
    rw [dropEnd, ← List.reverse_prefix, List.reverse_reverse] at ends
    obtain ⟨rest, split⟩ := ends
    have first := List.head?_dropWhile_not (· == c) text.reverse
    simp [← split] at first
  · rintro ⟨⟨count, rfl⟩, bare⟩
    have kept : front.reverse.dropWhile (· == c) = front.reverse := by
      cases reversed : front.reverse with
      | nil => rfl
      | cons d rest =>
          refine List.dropWhile_cons_of_neg fun same => bare ?_
          rw [← List.reverse_prefix, reversed, eq_of_beq same]
          exact ⟨rest, rfl⟩
    rw [dropEnd, List.reverse_append, List.reverse_replicate,
      List.dropWhile_append_of_pos (by simp), kept, List.reverse_reverse]

end BlockQuery.Text
