import BlockQuery.Text.Blank

/-!
# Words of a text

No word crosses a blank, so the words of a text are those in front of a blank and
those behind it.  A text without blanks is one word.  The words hold all characters
that are not blank, and collapsing the blanks of a text leaves its words alone.
-/

namespace BlockQuery.Text

theorem words_nil : words [] = [] := by
  rw [words.eq_def]

theorem words_blank {c : Char} (blank : isBlank c) (s : List Char) :
    words (c :: s) = words s := by
  rw [words.eq_def]
  exact if_pos blank

theorem words_singleton {c : Char} (solid : isBlank c = false) : words [c] = [[c]] := by
  simp only [words.eq_def [c], solid, Bool.false_eq_true, if_false, words.eq_def []]

/-- A character in front of a blank is a word. -/
theorem words_alone {c d : Char} (solid : isBlank c = false) (blank : isBlank d) (s : List Char) :
    words (c :: d :: s) = [c] :: words (d :: s) := by
  cases found : words (d :: s) with
  | nil => simp only [words.eq_def (c :: d :: s), solid, found, Bool.false_eq_true, if_false]
  | cons word others =>
      simp only [words.eq_def (c :: d :: s), solid, blank, found, Bool.false_eq_true, if_false,
        if_true]

/-- A word goes on with the character in front of it. -/
theorem words_longer {c d : Char} (solid : isBlank c = false) (next : isBlank d = false)
    {s word : List Char} {others : List (List Char)} (found : words (d :: s) = word :: others) :
    words (c :: d :: s) = (c :: word) :: others := by
  simp only [words.eq_def (c :: d :: s), solid, next, found, Bool.false_eq_true, if_false]

theorem words_solid {c : Char} (solid : isBlank c = false) (s : List Char) :
    ∃ word others, words (c :: s) = word :: others := by
  cases s with
  | nil => exact ⟨[c], [], words_singleton solid⟩
  | cons d s =>
      cases next : isBlank d with
      | true => exact ⟨[c], _, words_alone solid next s⟩
      | false =>
          rcases words_solid next s with ⟨word, others, found⟩
          exact ⟨c :: word, others, words_longer solid next found⟩

/-- The words of two texts with a blank between them. -/
theorem words_append_blank {c : Char} (blank : isBlank c) (first second : List Char) :
    words (first ++ c :: second) = words first ++ words second := by
  induction first with
  | nil => exact words_blank blank second
  | cons d first ih =>
      cases solid : isBlank d with
      | true =>
          rw [List.cons_append, words_blank solid, words_blank solid, ih]
      | false =>
          -- the word that starts here ends at once or goes on in the rest
          cases first with
          | nil =>
              rw [List.singleton_append, words_alone solid blank, words_blank blank,
                words_singleton solid]
              rfl
          | cons e first =>
              cases next : isBlank e with
              | true =>
                  rw [List.cons_append, List.cons_append, words_alone solid next,
                    words_alone solid next, ← List.cons_append, ih, List.cons_append]
              | false =>
                  rcases words_solid next first with ⟨word, others, found⟩
                  rw [found, List.cons_append, List.cons_append] at ih
                  rw [words_longer solid next found, List.cons_append, List.cons_append,
                    words_longer solid next ih, List.cons_append]

/-- The words of texts with a space between neighbours. -/
theorem words_intercalate (texts : List (List Char)) :
    words ([' '].intercalate texts) = texts.flatMap words := by
  induction texts with
  | nil => rfl
  | cons text texts ih =>
      cases texts with
      | nil => rw [List.intercalate_singleton, List.flatMap_singleton]
      | cons next texts =>
          rw [List.intercalate_cons_cons, List.append_assoc, List.singleton_append,
            words_append_blank rfl, ih]
          rfl

/-- A text of at least one character and without blanks. -/
structure IsWord (s : List Char) : Prop where
  nonempty : s ≠ []
  solid : ∀ c ∈ s, isBlank c = false

theorem isWord_of_all {s : List Char} (nonempty : s ≠ []) (solid : s.all (!isBlank ·)) :
    IsWord s := by
  refine ⟨nonempty, ?_⟩
  intro c inWord
  rw [← Bool.not_eq_true']
  exact List.all_eq_true.mp solid c inWord

theorem IsWord.words_eq {s : List Char} (isWord : IsWord s) : words s = [s] := by
  rcases isWord with ⟨nonempty, solid⟩
  induction s with
  | nil => contradiction
  | cons c s ih =>
      have first : isBlank c = false := solid c List.mem_cons_self
      cases s with
      | nil => exact words_singleton first
      | cons d s =>
          have others : ∀ e ∈ d :: s, isBlank e = false := fun e inWord =>
            solid e (List.mem_cons_of_mem c inWord)
          exact words_longer first (others d List.mem_cons_self)
            (ih (List.cons_ne_nil d s) others)

theorem IsWord.append {s t : List Char} (isWord : IsWord s) (solid : ∀ c ∈ t, isBlank c = false) :
    IsWord (s ++ t) := by
  refine ⟨List.append_ne_nil_of_left_ne_nil isWord.nonempty t, ?_⟩
  intro c inText
  rcases List.mem_append.mp inText with inWord | inRest
  · exact isWord.solid c inWord
  · exact solid c inRest

/-- The words hold the characters that are not blank, in order. -/
theorem flatten_words (s : List Char) : (words s).flatten = s.filter (!isBlank ·) := by
  induction s with
  | nil => rw [words_nil]; rfl
  | cons c s ih =>
      cases solid : isBlank c with
      | true => simp [words_blank solid, ih, solid]
      | false =>
          cases s with
          | nil => simp [words_singleton solid, solid]
          | cons d s =>
              cases next : isBlank d with
              | true => simp [words_alone solid next, ih, solid]
              | false =>
                  obtain ⟨word, others, found⟩ := words_solid next s
                  rw [found, List.flatten_cons] at ih
                  rw [words_longer solid next found, List.flatten_cons, List.cons_append, ih]
                  simp [solid]

theorem nil_notMem_words (s : List Char) : [] ∉ words s := by
  induction s with
  | nil => simp [words_nil]
  | cons c s ih =>
      cases solid : isBlank c with
      | true => rwa [words_blank solid]
      | false =>
          cases s with
          | nil => simp [words_singleton solid]
          | cons d s =>
              cases next : isBlank d with
              | true => simp [words_alone solid next, ih]
              | false =>
                  obtain ⟨word, others, found⟩ := words_solid next s
                  rw [found, List.mem_cons, not_or] at ih
                  simp [words_longer solid next found, ih.2]

theorem isWord_of_mem_words {s word : List Char} (inText : word ∈ words s) : IsWord word := by
  refine ⟨?_, ?_⟩
  · rintro rfl
    exact nil_notMem_words s inText
  · intro c inWord
    have kept : c ∈ s.filter (!isBlank ·) := by
      rw [← flatten_words]
      exact List.mem_flatten_of_mem inText inWord
    simpa using (List.mem_filter.mp kept).2

/-- A character that is not blank is in a word. -/
theorem exists_word_of_mem {s : List Char} {c : Char} (inText : c ∈ s) (solid : isBlank c = false) :
    ∃ word ∈ words s, c ∈ word := by
  rw [← List.mem_flatten, flatten_words, List.mem_filter, solid]
  exact ⟨inText, rfl⟩

/-- Words are taken apart no further. -/
theorem flatMap_words {texts : List (List Char)} (each : ∀ text ∈ texts, IsWord text) :
    texts.flatMap words = texts := by
  induction texts with
  | nil => rfl
  | cons text texts ih =>
      rw [List.forall_mem_cons] at each
      rw [List.flatMap_cons, each.1.words_eq, ih each.2, List.singleton_append]

/-- Words with a space between neighbours are left as they are. -/
theorem collapse_intercalate {texts : List (List Char)} (each : ∀ text ∈ texts, IsWord text) :
    collapse ([' '].intercalate texts) = [' '].intercalate texts := by
  rw [collapse, words_intercalate, flatMap_words each]

section Joined

variable {word : List Char} (isWord : IsWord word) {c : Char} (solid : isBlank c = false)
  (s : List Char)
include isWord solid

/-- A word goes on until the next blank. -/
theorem words_append_solid {next : List Char} {others : List (List Char)}
    (found : words (c :: s) = next :: others) :
    words (word ++ c :: s) = (word ++ next) :: others := by
  rcases isWord with ⟨nonempty, eachSolid⟩
  induction word with
  | nil => contradiction
  | cons d word ih =>
      rw [List.forall_mem_cons] at eachSolid
      cases word with
      | nil => exact words_longer eachSolid.1 solid found
      | cons e word =>
          exact words_longer eachSolid.1 (eachSolid.2 e List.mem_cons_self)
            (ih (List.cons_ne_nil e word) eachSolid.2)

theorem collapse_append_solid : collapse (word ++ c :: s) = word ++ collapse (c :: s) := by
  obtain ⟨next, others, found⟩ := words_solid solid s
  rw [collapse, collapse, words_append_solid isWord solid s found, found]
  cases others with
  | nil => simp
  | cons other others => simp [List.intercalate_cons_cons]

/-- Blanks between words become one space. -/
theorem collapse_append_blanks {run : List Char} (nonempty : run ≠ [])
    (blank : ∀ d ∈ run, isBlank d) :
    collapse (word ++ (run ++ c :: s)) = word ++ ' ' :: collapse (c :: s) := by
  have dropped {before : List Char} (each : ∀ d ∈ before, isBlank d) :
      words (before ++ c :: s) = words (c :: s) := by
    induction before with
    | nil => rfl
    | cons d before ih =>
        rw [List.forall_mem_cons] at each
        rw [List.cons_append, words_blank each.1, ih each.2]
  obtain ⟨d, run, rfl⟩ := List.exists_cons_of_ne_nil nonempty
  rw [List.forall_mem_cons] at blank
  obtain ⟨next, others, found⟩ := words_solid solid s
  rw [collapse, List.cons_append, words_append_blank blank.1, isWord.words_eq, dropped blank.2,
    collapse, found, List.singleton_append, List.intercalate_cons_cons]
  simp

end Joined

theorem words_collapse (s : List Char) : words (collapse s) = words s := by
  rw [collapse, words_intercalate, flatMap_words fun _ => isWord_of_mem_words]

end BlockQuery.Text
