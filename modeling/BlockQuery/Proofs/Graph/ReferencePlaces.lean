import BlockQuery.Graph.Reference

/-!
# Places of references

A reference may start at any place of a text.  Two references never overlap, since
the brackets of one cannot be the identifier of another.  So it makes no difference
whether all references are replaced at once, place by place, or whether the text is
scanned from left to right and goes on behind every reference found.
-/

namespace BlockQuery.Graph

/-! ## References at a place -/

/-- Whether characters identify a block. -/
def isIdentifier (identifier : List Char) : Bool :=
  identifier.length == identifierLength && identifier.all isIdentifierChar

/-- The length of a reference as written. -/
def referenceLength : Nat :=
  referenceOpen.length + identifierLength + referenceClose.length

/-- The identifier of the reference that starts at a place of a text. -/
def identifierAt? (text : List Char) (place : Nat) : Option (List Char) :=
  let identifier := (text.drop (place + referenceOpen.length)).take identifierLength
  if isIdentifier identifier ∧ written identifier <+: text.drop place then
    some identifier
  else
    none

/-- Whether a place lies behind the start of a reference, but not behind its end. -/
def isInside (text : List Char) (place : Nat) : Bool :=
  (List.range place).any fun start =>
    (identifierAt? text start).isSome && decide (place < start + referenceLength)

/-- What stands in place of one character when all references are replaced: the replacement of
the reference that starts there, nothing inside of a reference, and otherwise the character. -/
def replacedAt (replace : List Char → List Char) (text : List Char) (place : Nat) : List Char :=
  match identifierAt? text place with
  | some identifier => replace identifier
  | none => if isInside text place then [] else text[place]?.toList

/-- The text with all of its references replaced at once. -/
def replaceReferences (replace : List Char → List Char) (text : List Char) : List Char :=
  (List.range text.length).flatMap (replacedAt replace text)

theorem isIdentifier_iff {identifier : List Char} :
    isIdentifier identifier ↔
      identifier.length = identifierLength ∧ identifier.all isIdentifierChar := by
  simp [isIdentifier]

theorem length_written {identifier : List Char} (valid : isIdentifier identifier) :
    (written identifier).length = referenceLength := by
  rw [written, List.length_append, List.length_append, (isIdentifier_iff.mp valid).1,
    referenceLength]

theorem identifierAt?_eq_some_iff {text identifier : List Char} {place : Nat} :
    identifierAt? text place = some identifier ↔
      isIdentifier identifier ∧ written identifier <+: text.drop place := by
  have between (valid : isIdentifier identifier)
      (found : written identifier <+: text.drop place) :
      (text.drop (place + referenceOpen.length)).take identifierLength = identifier := by
    rcases found with ⟨rest, shape⟩
    rw [← List.drop_drop, ← shape, written, List.append_assoc, List.append_assoc,
      List.drop_left, ← (isIdentifier_iff.mp valid).1, List.take_left]
  unfold identifierAt?
  constructor
  · intro found
    dsimp only at found
    split at found
    · next holds =>
        cases found
        exact holds
    · cases found
  · rintro ⟨valid, found⟩
    rw [between valid found, if_pos ⟨valid, found⟩]

/-- A reference starts with two round brackets. -/
theorem open_of_identifierAt? {text identifier : List Char} {place : Nat}
    (found : identifierAt? text place = some identifier) :
    text[place]? = some '(' ∧ text[place + 1]? = some '(' := by
  rcases (identifierAt?_eq_some_iff.mp found).2 with ⟨rest, shape⟩
  rw [← Nat.add_zero place, Nat.add_assoc, ← List.getElem?_drop, ← List.getElem?_drop, ← shape]
  exact ⟨rfl, rfl⟩

/-- Behind a stretch of a text, references start where they start in the rest alone. -/
theorem identifierAt?_append_length (front rest : List Char) (place : Nat) :
    identifierAt? (front ++ rest) (front.length + place) = identifierAt? rest place := by
  rw [identifierAt?, identifierAt?, Nat.add_assoc, List.drop_length_add_append,
    List.drop_length_add_append]

/-! ## References do not overlap -/

/-- The characters of an identifier are no brackets. -/
theorem getElem?_written_ne_open {identifier : List Char} (valid : isIdentifier identifier)
    (rest : List Char) {place : Nat} (behind : 2 ≤ place) (within : place < referenceLength) :
    (written identifier ++ rest)[place]? ≠ some '(' := by
  have size : identifier.length = 9 := (isIdentifier_iff.mp valid).1
  have length : referenceLength = 13 := rfl
  obtain ⟨inner, rfl⟩ := Nat.exists_eq_add_of_le behind
  have shape : (written identifier ++ rest)[2 + inner]? =
      (identifier ++ (referenceClose ++ rest))[inner]? := by
    rw [Nat.add_comm, written, List.append_assoc, List.append_assoc]
    rfl
  rw [shape]
  rcases Nat.lt_or_ge inner 9 with inIdentifier | inClose
  · rw [List.getElem?_append_left (size.symm ▸ inIdentifier)]
    intro bracket
    have allowed := List.all_eq_true.mp (isIdentifier_iff.mp valid).2 _
      (List.mem_of_getElem? bracket)
    exact absurd allowed (by decide)
  · rw [List.getElem?_append_right (size.symm ▸ inClose), size]
    have last : inner - 9 = 0 ∨ inner - 9 = 1 := by omega
    rcases last with last | last <;> simp [last, referenceClose]

/-- No character of a reference but its first one starts a reference. -/
theorem identifierAt?_written_append {identifier : List Char} (valid : isIdentifier identifier)
    (rest : List Char) {place : Nat} (behind : 0 < place) (within : place < referenceLength) :
    identifierAt? (written identifier ++ rest) place = none := by
  cases found : identifierAt? (written identifier ++ rest) place with
  | none => rfl
  | some other =>
      have opens := open_of_identifierAt? found
      rcases Nat.lt_or_ge 1 place with later | first
      · exact absurd opens.1 (getElem?_written_ne_open valid rest later within)
      · have second : place = 1 := Nat.le_antisymm first behind
        subst second
        exact absurd opens.2 (getElem?_written_ne_open valid rest (Nat.le_refl 2) (by decide))

/-! ## Replacing stretch by stretch -/

section

variable {front rest : List Char}

/-- No reference that starts in the front stretch of a text reaches into the rest. -/
def Separates (front rest : List Char) : Prop :=
  ∀ start < front.length, (identifierAt? (front ++ rest) start).isSome →
    start + referenceLength ≤ front.length

theorem isInside_append_length (apart : Separates front rest) (place : Nat) :
    isInside (front ++ rest) (front.length + place) = isInside rest place := by
  rw [isInside, isInside, Bool.eq_iff_iff]
  simp only [List.any_eq_true, List.mem_range, Bool.and_eq_true, decide_eq_true_eq]
  constructor
  · rintro ⟨start, before, found, covers⟩
    have behind : front.length ≤ start := by
      apply Nat.le_of_not_lt
      intro inFront
      have closes := apart start inFront found
      omega
    obtain ⟨start, rfl⟩ := Nat.exists_eq_add_of_le behind
    rw [identifierAt?_append_length] at found
    exact ⟨start, by omega, found, by omega⟩
  · rintro ⟨start, before, found, covers⟩
    refine ⟨front.length + start, by omega, ?_, by omega⟩
    rwa [identifierAt?_append_length]

/-- A stretch that no reference leaves is replaced on its own. -/
theorem replaceReferences_append (replace : List Char → List Char)
    (apart : Separates front rest) :
    replaceReferences replace (front ++ rest) =
      (List.range front.length).flatMap (replacedAt replace (front ++ rest)) ++
        replaceReferences replace rest := by
  have shifted (place : Nat) : replacedAt replace (front ++ rest) (front.length + place) =
      replacedAt replace rest place := by
    rw [replacedAt, replacedAt, identifierAt?_append_length, isInside_append_length apart,
      List.getElem?_append_right (Nat.le_add_right _ _), Nat.add_sub_cancel_left]
  rw [replaceReferences, List.length_append, List.range_add, List.flatMap_append,
    List.flatMap_map, replaceReferences]
  simp only [shifted]

end

/-- A character that starts no reference stays. -/
theorem replaceReferences_cons (replace : List Char → List Char) {c : Char} {rest : List Char}
    (plain : identifierAt? (c :: rest) 0 = none) :
    replaceReferences replace (c :: rest) = c :: replaceReferences replace rest := by
  have apart : Separates [c] rest := by
    intro start first found
    obtain rfl : start = 0 := by simpa using first
    rw [List.singleton_append, plain] at found
    cases found
  have kept : replacedAt replace (c :: rest) 0 = [c] := by
    rw [replacedAt, plain]
    rfl
  rw [← List.singleton_append, replaceReferences_append replace apart]
  simp [kept]

/-- A reference at the front is replaced. -/
theorem replaceReferences_written_append (replace : List Char → List Char)
    {identifier : List Char} (valid : isIdentifier identifier) (rest : List Char) :
    replaceReferences replace (written identifier ++ rest) =
      replace identifier ++ replaceReferences replace rest := by
  have first : identifierAt? (written identifier ++ rest) 0 = some identifier :=
    identifierAt?_eq_some_iff.mpr ⟨valid, List.prefix_append _ _⟩
  have apart : Separates (written identifier) rest := by
    intro start within found
    rw [length_written valid] at within ⊢
    rcases Nat.eq_zero_or_pos start with rfl | behind
    · exact Nat.le_of_eq (Nat.zero_add _)
    · rw [identifierAt?_written_append valid rest behind within] at found
      cases found
  have dropped : ∀ place ∈ List.range (referenceLength - 1),
      replacedAt replace (written identifier ++ rest) (place + 1) = [] := by
    intro place within
    have within : place + 1 < referenceLength := by
      have := List.mem_range.mp within
      omega
    have inside : isInside (written identifier ++ rest) (place + 1) := by
      rw [isInside, List.any_eq_true]
      refine ⟨0, List.mem_range.mpr (Nat.succ_pos place), ?_⟩
      simp [first, within]
    rw [replacedAt, identifierAt?_written_append valid rest (Nat.succ_pos place) within]
    exact if_pos inside
  rw [replaceReferences_append replace apart, length_written valid,
    show referenceLength = (referenceLength - 1) + 1 from rfl, List.range_succ_eq_map,
    List.flatMap_cons, List.flatMap_map, List.flatMap_eq_nil_iff.mpr dropped, List.append_nil,
    replacedAt, first]

/-! ## Scanning -/

theorem referenceAt?_eq_some_iff {text identifier rest : List Char} :
    referenceAt? text = some (identifier, rest) ↔
      isIdentifier identifier ∧ text = written identifier ++ rest := by
  constructor
  · intro found
    unfold referenceAt? at found
    split at found
    · cases found
    · next body opened =>
        dsimp only at found
        split at found
        · next valid =>
            rcases Option.map_eq_some_iff.mp found with ⟨rest, closed, pair⟩
            cases pair
            refine ⟨isIdentifier_iff.mpr valid, ?_⟩
            rw [Text.dropStart?_eq_some_iff.mp opened, written, List.append_assoc,
              List.append_assoc, ← Text.dropStart?_eq_some_iff.mp closed, List.take_append_drop]
        · cases found
  · rintro ⟨valid, rfl⟩
    have size := (isIdentifier_iff.mp valid).1
    rw [written, List.append_assoc, List.append_assoc, referenceAt?, Text.dropStart?_append]
    dsimp only
    rw [← size, List.take_left, List.drop_left, if_pos ⟨rfl, (isIdentifier_iff.mp valid).2⟩,
      Text.dropStart?_append]
    rfl

/-- What a stretch of a text is replaced by. -/
def Piece.replaced (replace : List Char → List Char) : Piece → List Char
  | plain c => [c]
  | reference identifier => replace identifier

theorem pieces_of_some {c : Char} {tail identifier rest : List Char}
    (found : referenceAt? (c :: tail) = some (identifier, rest)) :
    pieces (c :: tail) = .reference identifier :: pieces rest := by
  rw [pieces]
  split
  · next same =>
      cases found.symm.trans same
      rfl
  · next plain => cases found.symm.trans plain

theorem pieces_of_none {c : Char} {tail : List Char} (plain : referenceAt? (c :: tail) = none) :
    pieces (c :: tail) = .plain c :: pieces tail := by
  rw [pieces]
  split
  · next found => cases plain.symm.trans found
  · rfl

theorem identifierAt?_zero_of_none {text : List Char} (plain : referenceAt? text = none) :
    identifierAt? text 0 = none := by
  cases found : identifierAt? text 0 with
  | none => rfl
  | some identifier =>
      rcases identifierAt?_eq_some_iff.mp found with ⟨valid, rest, shape⟩
      have reference := referenceAt?_eq_some_iff.mpr ⟨valid, shape.symm⟩
      cases plain.symm.trans reference

/-- Scanning a text from left to right finds every reference. -/
theorem replaceReferences_eq_flatMap (replace : List Char → List Char) (text : List Char) :
    replaceReferences replace text = (pieces text).flatMap (Piece.replaced replace) := by
  induction text using pieces.induct with
  | case1 =>
      rw [pieces]
      rfl
  | case2 c tail identifier rest found shorter ih =>
      rcases referenceAt?_eq_some_iff.mp found with ⟨valid, shape⟩
      rw [pieces_of_some found, List.flatMap_cons, ← ih, shape,
        replaceReferences_written_append replace valid]
      rfl
  | case3 c tail plain ih =>
      rw [pieces_of_none plain, List.flatMap_cons, ← ih,
        replaceReferences_cons replace (identifierAt?_zero_of_none plain)]
      rfl

/-- The stretches of a text make up the text. -/
theorem flatMap_written_pieces (text : List Char) :
    (pieces text).flatMap (Piece.replaced written) = text := by
  induction text using pieces.induct with
  | case1 =>
      rw [pieces]
      rfl
  | case2 c tail identifier rest found shorter ih =>
      rw [pieces_of_some found, List.flatMap_cons, ih, (referenceAt?_eq_some_iff.mp found).2]
      rfl
  | case3 c tail plain ih =>
      rw [pieces_of_none plain, List.flatMap_cons, ih]
      rfl

end BlockQuery.Graph
