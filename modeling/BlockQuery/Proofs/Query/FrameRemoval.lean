import BlockQuery.Proofs.Query.Canonical

/-!
# Queries with and without their frame

A text can be read as a frame in several ways, since the blanks behind the opening may be
counted to the query or not.  All ways give the same query, which is the one that the query
text without a frame gives, unless this text is a frame itself: only one frame is taken off.
Blanks around a text do not matter.
-/

namespace BlockQuery.Query

open BlockQuery.Text

/-! ## Readings -/

/-- The text is a frame with these blanks behind its opening and with this body, which is not
empty. -/
structure ReadsAsFrame (text blanks body : List Char) : Prop where
  blank : Blanks blanks
  made : body ≠ []
  split : text = framed (blanks ++ body)

/-- The text can be read as a frame. -/
def IsFramed (text : List Char) : Prop :=
  ∃ blanks body, ReadsAsFrame text blanks body

/-- A frame is taken off exactly from the texts that can be read as one. -/
theorem unframe?_eq_none_iff {text : List Char} : unframe? text = none ↔ ¬ IsFramed text := by
  constructor
  · rintro unframed ⟨blanks, body, blank, made, rfl⟩
    have nonempty : blanks ++ body ≠ [] := by simp [made]
    rw [unframe?_framed nonempty] at unframed
    cases unframed
  · intro bare
    unfold unframe?
    split
    · rfl
    · next after opened =>
        split
        · next closes =>
            obtain ⟨inside, rfl⟩ := List.isSuffixOf_iff_suffix.mp closes.1
            have made : inside ≠ [] := by
              rintro rfl
              exact absurd closes.2 (Nat.lt_irrefl _)
            exact absurd ⟨[], inside, blanks_nil, made, dropStart?_eq_some_iff.mp opened⟩ bare
        · rfl

/-- Every way to read a text as a frame gives the same query text. -/
theorem ReadsAsFrame.expressionText_eq {text blanks body : List Char}
    (reading : ReadsAsFrame (trim text) blanks body) : expressionText text = trim body := by
  obtain ⟨blank, made, split⟩ := reading
  have nonempty : blanks ++ body ≠ [] := by simp [made]
  rw [expressionText, split, unframe?_framed nonempty]
  exact trim_blanks_append blank body

theorem length_trim_le (text : List Char) : (trim text).length ≤ text.length := by
  obtain ⟨before, after, -, -, split⟩ := exists_trim text
  have size := congrArg List.length split
  rw [List.length_append, List.length_append] at size
  omega

/-- A text that is no frame stands for itself, and no frame does. -/
theorem expressionText_eq_trim_iff {text : List Char} :
    expressionText text = trim text ↔ ¬ IsFramed (trim text) := by
  constructor
  · rintro same ⟨blanks, body, reading⟩
    have size := congrArg List.length reading.split
    rw [← same, reading.expressionText_eq] at size
    have shorter := length_trim_le body
    simp only [framed, List.length_append] at size
    have opening : frameStart.length = 12 := by decide
    omega
  · intro bare
    rw [expressionText, unframe?_eq_none_iff.mpr bare]

/-! ## Padding -/

theorem expressionText_pad {before after : List Char} (beforeBlank : Blanks before)
    (afterBlank : Blanks after) (text : List Char) :
    expressionText (before ++ (text ++ after)) = expressionText text := by
  have same : trim (before ++ (text ++ after)) = trim text := by
    rw [trim_blanks_append beforeBlank, trim_append_blanks text afterBlank]
  rw [expressionText, expressionText, same]

/-- Parsing depends on the query text only, also in what is refused and where. -/
theorem parse_congr {first second : List Char}
    (same : expressionText first = expressionText second) :
    parse (String.ofList first) = parse (String.ofList second) := by
  rw [parse, parse, String.toList_ofList, String.toList_ofList, same]

/-- A frame with blanks behind its opening stands for its query text without blanks around it.  So
does the query text on its own exactly if it is no frame, and then both are parsed with the same
result.  Blanks around any text change nothing. -/
theorem parse_framed_eq_parse_bare (expression blanks : List Char) (blank : Blanks blanks)
    (made : blanks ++ expression ≠ []) :
    expressionText (framed (blanks ++ expression)) = trim expression ∧
    (expressionText expression = trim expression ↔ ¬ IsFramed (trim expression)) ∧
    (¬ IsFramed (trim expression) →
      parse (String.ofList (framed (blanks ++ expression))) = parse (String.ofList expression)) ∧
    ∀ text before after, Blanks before → Blanks after →
      expressionText (before ++ (text ++ after)) = expressionText text ∧
      parse (String.ofList (before ++ (text ++ after))) = parse (String.ofList text) := by
  have inside : expressionText (framed (blanks ++ expression)) = trim expression := by
    rw [expressionText_framed made, trim_blanks_append blank]
  refine ⟨inside, expressionText_eq_trim_iff, ?_, ?_⟩
  · intro bare
    exact parse_congr (inside.trans (expressionText_eq_trim_iff.mpr bare).symm)
  · intro text before after beforeBlank afterBlank
    have same := expressionText_pad beforeBlank afterBlank text
    exact ⟨same, parse_congr same⟩

/-- A query text with blanks around it and more braces at its end than it opens. -/
def overclosed : List Char :=
  "\n\x7bnot: [[a]]\x7d\x7d\x7d\n".toList

theorem parse_framed_eq_parse_bare_overclosed :
    ¬ IsFramed (trim overclosed) ∧
      parse (String.ofList (framed ([' ', '\t'] ++ overclosed))) =
        parse (String.ofList overclosed) := by
  have bare : ¬ IsFramed (trim overclosed) := unframe?_eq_none_iff.mp (by decide)
  exact ⟨bare, (parse_framed_eq_parse_bare overclosed [' ', '\t'] rfl (by decide)).2.2.1 bare⟩

end BlockQuery.Query
