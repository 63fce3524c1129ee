import BlockQuery.Proofs.Graph.Expansion

/-!
# How deep expansion goes

A text that refers to no known block is not changed by expansion.  Any other text
is as high as the highest block that it refers to, and one level more.  Blocks that
refer to each other in a circle have no height.

If a text has a height, so many levels are enough: with more of them its expansion
stays the same.  Every reference to a known block has then been replaced, in the text
and in every block that is reached from it.  What replaced texts and the characters
around them may spell together is no such reference: replacing goes by the texts as
they are written in the blocks.
-/

namespace BlockQuery.Graph

/-! ## Heights -/

section

variable {blocks : String → Option String} {text : List Char}

/-- The texts of the known blocks that a text refers to, place by place. -/
def referredTexts (blocks : String → Option String) (text : List Char) : List String :=
  (List.range text.length).filterMap fun place =>
    (identifierAt? text place).bind fun identifier => blocks (String.ofList identifier)

/-- The height of a text: zero if it refers to no known block, and otherwise one more than the
largest height of these blocks. -/
inductive HasHeight (blocks : String → Option String) : List Char → Nat → Prop
  | flat {text : List Char} (none : referredTexts blocks text = []) : HasHeight blocks text 0
  | above {text : List Char} (heights : String → Nat) (highest : String)
    (each : ∀ content ∈ referredTexts blocks text,
      HasHeight blocks content.toList (heights content))
    (refers : highest ∈ referredTexts blocks text)
    (largest : ∀ content ∈ referredTexts blocks text, heights content ≤ heights highest) :
    HasHeight blocks text (heights highest + 1)

/-- The text with every reference to a known block replaced by the text of the block, in which
every such reference has been replaced before.  There is no end to the depth. -/
inductive Resolves (blocks : String → Option String) : List Char → List Char → Prop
  | intro {text : List Char} {replace : List Char → List Char}
    (known : ∀ place identifier content, identifierAt? text place = some identifier →
      blocks (String.ofList identifier) = some content →
      Resolves blocks content.toList (replace identifier))
    (unknown : ∀ place identifier, identifierAt? text place = some identifier →
      blocks (String.ofList identifier) = none → replace identifier = written identifier) :
    Resolves blocks text (replaceReferences replace text)

theorem lt_length_of_identifierAt? {identifier : List Char} {place : Nat}
    (found : identifierAt? text place = some identifier) : place < text.length :=
  (List.getElem?_eq_some_iff.mp (open_of_identifierAt? found).1).1

theorem mem_referredTexts {identifier : List Char} {content : String} {place : Nat}
    (found : identifierAt? text place = some identifier)
    (known : blocks (String.ofList identifier) = some content) :
    content ∈ referredTexts blocks text := by
  rw [referredTexts, List.mem_filterMap]
  refine ⟨place, List.mem_range.mpr (lt_length_of_identifierAt? found), ?_⟩
  rw [found]
  exact known

/-! ## Replacing the same references -/

/-- Only what references of the text are replaced by counts. -/
theorem replaceReferences_congr {first second : List Char → List Char}
    (agree : ∀ place identifier, identifierAt? text place = some identifier →
      first identifier = second identifier) :
    replaceReferences first text = replaceReferences second text := by
  apply List.flatMap_congr
  intro place _
  unfold replacedAt
  split
  · next identifier found => exact agree place identifier found
  · rfl

/-- A text with its references replaced by themselves. -/
theorem replaceReferences_written (text : List Char) : replaceReferences written text = text := by
  rw [replaceReferences_eq_flatMap, flatMap_written_pieces]

/-- What one level of expansion replaces a reference by. -/
def expandedReference (blocks : String → Option String) (levels : Nat)
    (identifier : List Char) : List Char :=
  match blocks (String.ofList identifier) with
  | some content => expansion blocks levels content.toList
  | none => written identifier

theorem expansion_succ (blocks : String → Option String) (levels : Nat) (text : List Char) :
    expansion blocks (levels + 1) text =
      replaceReferences (expandedReference blocks levels) text :=
  rfl

theorem expandedReference_of_some {levels : Nat} {identifier : List Char} {content : String}
    (known : blocks (String.ofList identifier) = some content) :
    expandedReference blocks levels identifier = expansion blocks levels content.toList := by
  rw [expandedReference, known]

theorem expandedReference_of_none {levels : Nat} {identifier : List Char}
    (unknown : blocks (String.ofList identifier) = none) :
    expandedReference blocks levels identifier = written identifier := by
  rw [expandedReference, unknown]

/-- Expansions of the blocks that a text refers to make up its own. -/
theorem expansion_succ_congr {first second : Nat}
    (agree : ∀ content ∈ referredTexts blocks text,
      expansion blocks first content.toList = expansion blocks second content.toList) :
    expansion blocks (first + 1) text = expansion blocks (second + 1) text := by
  rw [expansion_succ, expansion_succ]
  apply replaceReferences_congr
  intro place identifier found
  cases known : blocks (String.ofList identifier) with
  | none => rw [expandedReference_of_none known, expandedReference_of_none known]
  | some content =>
      rw [expandedReference_of_some known, expandedReference_of_some known]
      exact agree content (mem_referredTexts found known)

/-! ## Enough levels -/

/-- A text that refers to no known block is its own expansion. -/
theorem expansion_of_referredTexts_nil (none : referredTexts blocks text = []) (levels : Nat) :
    expansion blocks levels text = text := by
  cases levels with
  | zero => rfl
  | succ levels =>
      rw [expansion_succ]
      conv_rhs => rw [← replaceReferences_written text]
      apply replaceReferences_congr
      intro place identifier found
      cases known : blocks (String.ofList identifier) with
      | none => exact expandedReference_of_none known
      | some content =>
          have refers := mem_referredTexts found known
          rw [none] at refers
          cases refers

namespace HasHeight

/-- Levels beyond the height of a text make no difference. -/
theorem expansion_eq {height levels : Nat} (finite : HasHeight blocks text height)
    (enough : height ≤ levels) : expansion blocks levels text = expansion blocks height text := by
  induction finite generalizing levels with
  | flat none => rw [expansion_of_referredTexts_nil none, expansion_of_referredTexts_nil none]
  | above heights highest _ _ largest ih =>
      obtain ⟨levels, rfl⟩ := Nat.exists_eq_add_of_le' (Nat.le_of_add_left_le enough)
      apply expansion_succ_congr
      intro content refers
      have below := largest content refers
      rw [ih content refers (by omega), ih content refers below]

/-- With as many levels as its height a text is resolved. -/
theorem resolves_expansion {height : Nat} (finite : HasHeight blocks text height) :
    Resolves blocks text (expansion blocks height text) := by
  induction finite with
  | @flat text none =>
      rw [expansion_of_referredTexts_nil none]
      conv_rhs => rw [← replaceReferences_written text]
      refine .intro ?_ fun _ _ _ _ => rfl
      intro place identifier content found known
      have refers := mem_referredTexts found known
      rw [none] at refers
      cases refers
  | above heights highest each _ largest ih =>
      rw [expansion_succ]
      refine .intro ?_ fun _ _ _ unknown => expandedReference_of_none unknown
      intro place identifier content found known
      have refers := mem_referredTexts found known
      rw [expandedReference_of_some known,
        (each content refers).expansion_eq (largest content refers)]
      exact ih content refers

end HasHeight

end

/-- Expansion of a text stabilises at its height: with any number of levels from there on it
returns the same text, in which no reference to a known block is left to be replaced. -/
theorem expandFrom_stabilises {σ : Type} {run : Runner (StateM σ)}
    {blocks : String → Option String} (faithful : LooksUp run blocks) {text : String}
    {height : Nat} (finite : HasHeight blocks text.toList height) {depth maxDepth : Int}
    (deep : depth + height ≤ maxDepth) (state other : σ) :
    ((expandFrom run depth maxDepth (.str text)).run.run state).1 =
        ((expandFrom run depth (depth + height) (.str text)).run.run other).1 ∧
      ∃ result : String,
        ((expandFrom run depth maxDepth (.str text)).run.run state).1 = .ok (.str result) ∧
          Resolves blocks text.toList result.toList := by
  have stable : ∀ {deepest : Int}, depth + height ≤ deepest → ∀ start,
      ((expandFrom run depth deepest (.str text)).run.run start).1 =
        .ok (.str (String.ofList (expansion blocks height text.toList))) := by
    intro deepest enough start
    have left := returns_expandFrom faithful (deepest - depth).toNat rfl text start
    rwa [expandedText, finite.expansion_eq (by omega)] at left
  refine ⟨(stable deep state).trans (stable (Int.le_refl _) other).symm, _, stable deep state, ?_⟩
  rw [String.toList_ofList]
  exact finite.resolves_expansion

/-- The text of a block among entries, of which the last one counts. -/
def lastText (entries : List (String × String)) (identifier : String) : Option String :=
  entries.reverse.lookup identifier

/-- A block that opens a bracket, and one that refers to another. -/
def brackets : List (String × String) :=
  [("block-one", "("), ("block-two", "2((block-six))"), ("block-six", "6")]

/-- A text of height two.  Behind the bracket of the first block stands what makes a reference
of it. -/
def besideBracket : String :=
  "(((block-one))block-two)) ((block-two)) ((no--block))"

theorem hasHeight_besideBracket :
    HasHeight (lastText brackets) besideBracket.toList 2 := by
  have flat : ∀ content ∈ ["(", "6"], HasHeight (lastText brackets) content.toList 0 := by
    intro content inFlat
    apply HasHeight.flat
    simp only [List.mem_cons, List.not_mem_nil, or_false] at inFlat
    rcases inFlat with rfl | rfl <;> decide +kernel
  have second : referredTexts (lastText brackets) "2((block-six))".toList = ["6"] := by
    decide +kernel
  have whole : referredTexts (lastText brackets) besideBracket.toList =
      ["(", "2((block-six))"] := by
    decide +kernel
  have one : HasHeight (lastText brackets) "2((block-six))".toList 1 := by
    refine .above (fun _ => 0) "6" ?_ ?_ fun _ _ => Nat.le_refl 0
    · intro content refers
      rw [second] at refers
      exact flat content (List.mem_cons_of_mem _ refers)
    · rw [second]
      exact List.mem_cons_self
  refine .above (fun content => if content = "(" then 0 else 1) "2((block-six))" ?_ ?_ ?_
  · rw [whole]
    intro content refers
    simp only [List.mem_cons, List.not_mem_nil, or_false] at refers
    rcases refers with rfl | rfl
    · exact flat "(" List.mem_cons_self
    · exact one
  · rw [whole]
    exact List.mem_cons_of_mem _ List.mem_cons_self
  · intro content _
    split <;> decide

/-- Thirty-nine levels give what two do.  The reference that the bracket makes is no reference
of the text: it stays. -/
theorem expandFrom_stabilises_besideBracket :
    HasHeight (lastText brackets) besideBracket.toList 2 ∧
      ((expandFrom (listRunner brackets) 1 40 (.str besideBracket)).run.run 0).1 =
        .ok (.str "((block-two)) 26 ((no--block))") := by
  have faithful : LooksUp (listRunner brackets) (lastText brackets) := looksUp_listRunner brackets
  have deep : (1 : Int) + (2 : Nat) ≤ 40 := by decide
  have stable := expandFrom_stabilises faithful hasHeight_besideBracket deep 0 0
  have two : ((expandFrom (listRunner brackets) 1 (1 + (2 : Nat)) (.str besideBracket)).run.run
      0).1 = .ok (expandedText (lastText brackets) 2 (.str besideBracket)) :=
    returns_expandFrom faithful 2 rfl besideBracket 0
  have replaced : String.ofList (expansion (lastText brackets) 2 besideBracket.toList) =
      "((block-two)) 26 ((no--block))" := by
    decide +kernel
  rw [expandedText, replaced] at two
  exact ⟨hasHeight_besideBracket, stable.1.trans two⟩

end BlockQuery.Graph
