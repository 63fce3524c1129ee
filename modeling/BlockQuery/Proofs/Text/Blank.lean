import BlockQuery.Text.Blank
import Mathlib.Data.List.TakeWhile

/-!
# Blanks around a text

Trimming takes exactly the blanks off the ends of a text.  A text that starts
and ends with characters that are not blank comes back from every padding.
-/

namespace BlockQuery.Text

/-- The ranges of the blanks. -/
def blankRanges : List (Nat × Nat) :=
  [(0x09, 0x0D), (0x1C, 0x20), (0x85, 0x85), (0xA0, 0xA0), (0x1680, 0x1680), (0x2000, 0x200A),
   (0x2028, 0x2029), (0x202F, 0x202F), (0x205F, 0x205F), (0x3000, 0x3000)]

theorem exists_range_of_isBlank {c : Char} (blank : isBlank c) :
    ∃ range ∈ blankRanges, range.1 ≤ c.toNat ∧ c.toNat ≤ range.2 := by
  simp [isBlank] at blank
  simp only [blankRanges, List.mem_cons, List.not_mem_nil, or_false, exists_eq_or_imp,
    exists_eq_left]
  omega

/-- Nothing but blanks. -/
def Blanks (s : List Char) : Prop :=
  s.all isBlank = true

@[simp]
theorem blanks_nil : Blanks [] :=
  rfl

@[simp]
theorem blanks_cons {c : Char} {s : List Char} :
    Blanks (c :: s) ↔ isBlank c = true ∧ Blanks s := by
  rw [Blanks, List.all_cons, Bool.and_eq_true]
  rfl

theorem blanks_space : Blanks [' '] :=
  rfl

@[simp]
theorem blanks_append {first second : List Char} :
    Blanks (first ++ second) ↔ Blanks first ∧ Blanks second := by
  rw [Blanks, List.all_append, Bool.and_eq_true]
  rfl

@[simp]
theorem blanks_reverse {s : List Char} : Blanks s.reverse ↔ Blanks s := by
  rw [Blanks, List.all_reverse]
  rfl

theorem blanks_takeWhile (s : List Char) : Blanks (s.takeWhile isBlank) :=
  List.all_takeWhile

/-- A text is some blanks and the text without leading blanks. -/
theorem exists_blanks_trimLeft (s : List Char) :
    ∃ blanks, Blanks blanks ∧ s = blanks ++ trimLeft s :=
  ⟨s.takeWhile isBlank, blanks_takeWhile s, List.takeWhile_append_dropWhile.symm⟩

/-- The text does not start with a blank. -/
def SolidStart (s : List Char) : Prop :=
  ∀ c ∈ s.head?, isBlank c = false

theorem solidStart_trimLeft (s : List Char) : SolidStart (trimLeft s) := by
  intro c first
  have notBlank := List.head?_dropWhile_not isBlank s
  rw [trimLeft] at first
  rw [first] at notBlank
  simpa using notBlank

theorem SolidStart.trimLeft_eq {s : List Char} (solid : SolidStart s) : trimLeft s = s := by
  cases s with
  | nil => rfl
  | cons c s => rw [trimLeft, List.dropWhile_cons_of_neg (by simp [solid c rfl])]

@[simp]
theorem trimLeft_trimLeft (s : List Char) : trimLeft (trimLeft s) = trimLeft s :=
  (solidStart_trimLeft s).trimLeft_eq

theorem trimLeft_append {blanks : List Char} (blank : Blanks blanks) (s : List Char) :
    trimLeft (blanks ++ s) = trimLeft s := by
  rw [trimLeft, List.dropWhile_append_of_pos (List.all_eq_true.mp blank)]
  rfl

/-- Leading blanks go, and what does not start with a blank stays. -/
theorem trimLeft_append_solid {blanks s : List Char} (blank : Blanks blanks)
    (solid : SolidStart s) : trimLeft (blanks ++ s) = s := by
  rw [trimLeft_append blank, solid.trimLeft_eq]

theorem trimLeft_eq_nil_iff {s : List Char} : trimLeft s = [] ↔ Blanks s := by
  rw [trimLeft, List.dropWhile_eq_nil_iff, Blanks, List.all_eq_true]

theorem trimRight_append {blanks : List Char} (blank : Blanks blanks) (s : List Char) :
    trimRight (s ++ blanks) = trimRight s := by
  rw [trimRight, List.reverse_append, trimLeft_append (blanks_reverse.mpr blank)]
  rfl

/-- A text is the text without trailing blanks and some blanks. -/
theorem exists_trimRight_blanks (s : List Char) :
    ∃ blanks, Blanks blanks ∧ s = trimRight s ++ blanks := by
  rcases exists_blanks_trimLeft s.reverse with ⟨blanks, blank, split⟩
  refine ⟨blanks.reverse, blanks_reverse.mpr blank, ?_⟩
  rw [trimRight, ← List.reverse_append, ← split, List.reverse_reverse]

theorem solidStart_of_append {s blanks : List Char} (solid : SolidStart (s ++ blanks)) :
    SolidStart s := by
  intro c first
  apply solid c
  rw [List.head?_append, first, Option.some_or]
  rfl

theorem solidStart_trim (s : List Char) : SolidStart (trim s) := by
  rcases exists_trimRight_blanks (trimLeft s) with ⟨blanks, _, split⟩
  have solid := solidStart_trimLeft s
  rw [split] at solid
  exact solidStart_of_append solid

theorem trimRight_trimRight (s : List Char) : trimRight (trimRight s) = trimRight s := by
  have solid := solidStart_trimLeft s.reverse
  rw [trimRight, trimRight, List.reverse_reverse, solid.trimLeft_eq]

/-- What is trimmed has no blanks around it. -/
theorem trim_trim (s : List Char) : trim (trim s) = trim s := by
  rw [trim, (solidStart_trim s).trimLeft_eq, trim, trimRight_trimRight]

/-- A text between characters that are not blank. -/
theorem trim_eq_self {s : List Char} (start : SolidStart s) (ending : SolidStart s.reverse) :
    trim s = s := by
  rw [trim, start.trimLeft_eq, trimRight, ending.trimLeft_eq, List.reverse_reverse]

/-- A text is its trimmed text between blanks. -/
theorem exists_trim (s : List Char) :
    ∃ before after, Blanks before ∧ Blanks after ∧ s = before ++ (trim s ++ after) := by
  rcases exists_blanks_trimLeft s with ⟨before, beforeBlank, left⟩
  rcases exists_trimRight_blanks (trimLeft s) with ⟨after, afterBlank, right⟩
  refine ⟨before, after, beforeBlank, afterBlank, ?_⟩
  rw [trim, ← right, ← left]

/-- Padding goes, and a text without blanks around it stays. -/
theorem trim_pad {before s after : List Char} (beforeBlank : Blanks before)
    (afterBlank : Blanks after) (stripped : trim s = s) :
    trim (before ++ (s ++ after)) = s := by
  have solid : SolidStart s := stripped ▸ solidStart_trim s
  have ending : trimRight s = s := by
    rw [trim, solid.trimLeft_eq] at stripped
    exact stripped
  rw [trim, trimLeft_append beforeBlank]
  cases s with
  | nil => rw [List.nil_append, trimLeft_eq_nil_iff.mpr afterBlank, ending]
  | cons c s =>
      have solidLonger : SolidStart (c :: s ++ after) := solid
      rw [solidLonger.trimLeft_eq, trimRight_append afterBlank, ending]

theorem trim_trimLeft (s : List Char) : trim (trimLeft s) = trim s := by
  rw [trim, trimLeft_trimLeft, trim]

/-- Blanks in front of a text do not matter. -/
theorem trim_blanks_append {blanks : List Char} (blank : Blanks blanks) (s : List Char) :
    trim (blanks ++ s) = trim s := by
  rw [trim, trimLeft_append blank, trim]

/-- Blanks behind a text do not matter. -/
theorem trim_append_blanks (s : List Char) {blanks : List Char} (blank : Blanks blanks) :
    trim (s ++ blanks) = trim s := by
  rcases exists_trim s with ⟨before, after, beforeBlank, afterBlank, cut⟩
  have padded := trim_pad beforeBlank (blanks_append.mpr ⟨afterBlank, blank⟩) (trim_trim s)
  calc
    trim (s ++ blanks) = trim (before ++ (trim s ++ after) ++ blanks) := by rw [← cut]
    _ = trim (before ++ (trim s ++ (after ++ blanks))) := by simp only [List.append_assoc]
    _ = trim s := padded

/-- A text in front of a character that is not blank. -/
theorem trimLeft_append_cons {c : Char} (solid : isBlank c = false) (s rest : List Char) :
    trimLeft (s ++ c :: rest) = trimLeft s ++ c :: rest := by
  rcases exists_blanks_trimLeft s with ⟨blanks, blank, cut⟩
  have solidStart : SolidStart (trimLeft s ++ c :: rest) := by
    intro d first
    cases left : trimLeft s with
    | nil =>
        rw [left] at first
        cases first
        exact solid
    | cons e others =>
        rw [left] at first
        apply solidStart_trimLeft s d
        rw [left]
        exact first
  have whole : s ++ c :: rest = blanks ++ (trimLeft s ++ c :: rest) := by
    rw [← List.append_assoc, ← cut]
  rw [whole, trimLeft_append_solid blank solidStart]

end BlockQuery.Text
