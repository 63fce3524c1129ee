import BlockQuery.Proofs.Query.Scanning
import BlockQuery.Proofs.Text.Letter

/-!
# Operator names

The name in front of a colon is found without looking at the colon: names of two
words are tried first, and a name of one word is as many letters as there are.
No name starts like a name of two words except this name itself, so the first
try never misleads.
-/

namespace BlockQuery.Query

open BlockQuery.Text

/-! ## Small letters -/

/-- Texts without `k` have the same capital letters whether or not the Kelvin sign
is one. -/
theorem map_lower_eq_iff {text name : List Char} (noK : 'k' ∉ name) (noKelvin : kelvin ∉ name) :
    text.map lower = name ↔ text.map Char.toLower = name := by
  by_cases isKelvin : kelvin ∈ text
  · constructor
    · rintro rfl
      exact absurd (List.mem_map.mpr ⟨kelvin, isKelvin, rfl⟩) noK
    · rintro rfl
      exact absurd (List.mem_map.mpr ⟨kelvin, isKelvin, rfl⟩) noKelvin
  · have same : text.map lower = text.map Char.toLower := by
      apply List.map_congr_left
      intro c inText
      apply lower_of_ne
      rintro rfl
      exact isKelvin inText
    rw [same]

/-! ## Names -/

namespace Operator

theorem spellsOperator_iff {operator : Operator} {text : List Char} :
    SpellsOperator operator text ↔ text.map lower = operator.name.toList := by
  rw [SpellsOperator, map_lower_eq_iff]
  · cases operator <;> decide
  · cases operator <;> decide

theorem ofName?_name (operator : Operator) : ofName? operator.name = some operator := by
  cases operator <;> decide

theorem eq_of_ofName? {name : String} {operator : Operator}
    (found : ofName? name = some operator) : operator.name = name := by
  have matched := List.find?_some found
  simpa using matched

/-- A name of two words and another name have different first letters. -/
theorem head?_name_ne {first second : Operator} (twoWords : first ∈ twoWordOperators)
    (differ : first ≠ second) : first.name.toList.head? ≠ second.name.toList.head? := by
  simp only [twoWordOperators, List.mem_cons, List.not_mem_nil, or_false] at twoWords
  revert differ
  rcases twoWords with rfl | rfl | rfl <;> cases second <;> decide

theorem name_letters {operator : Operator} (oneWord : operator ∉ twoWordOperators) :
    operator.name.toList.all isLetter := by
  revert oneWord
  cases operator <;> decide

theorem name_ne_nil (operator : Operator) : operator.name.toList ≠ [] := by
  cases operator <;> decide

end Operator

theorem SpellsOperator.solid {operator : Operator} {name : List Char}
    (spelled : SpellsOperator operator name) : Solid name := by
  have first : (name.map Char.toLower).head?.all isLetter := by
    rw [spelled]
    cases operator <;> rfl
  cases name with
  | nil => exact absurd spelled.symm (Operator.name_ne_nil operator)
  | cons c name => exact .intro (isBlank_of_isLetter (isLetter_of_toLower first))

/-- The name of two words that a text starts with is the name that it spells. -/
theorem startsWith_iff {operator first : Operator} {name : List Char}
    (spelled : SpellsOperator operator name) (twoWords : first ∈ twoWordOperators)
    (rest : List Char) :
    first.name.toList = ((name ++ rest).take first.name.length).map lower ↔ first = operator := by
  rw [Operator.spellsOperator_iff] at spelled
  constructor
  · intro starts
    by_contra differ
    apply Operator.head?_name_ne twoWords differ
    rw [starts, ← spelled]
    cases name with
    | nil => exact absurd spelled.symm (Operator.name_ne_nil operator)
    | cons c name =>
        cases length : first.name.length with
        | zero =>
            rw [length] at starts
            exact absurd starts (Operator.name_ne_nil first)
        | succ n => rfl
  · rintro rfl
    have length : first.name.length = name.length := by
      rw [← String.length_toList, ← spelled, List.length_map]
    rw [length, List.take_left, spelled]

theorem operatorName_complete {operator : Operator} {name rest : List Char}
    (spelled : SpellsOperator operator name) (ends : ∀ c ∈ rest.head?, isLetter c = false) :
    operatorName (name ++ rest) = (operator.name, rest) := by
  have lowered := Operator.spellsOperator_iff.mp spelled
  rw [operatorName]
  split
  · next first found =>
      have twoWords := List.mem_of_find?_eq_some found
      have starts := List.find?_some found
      rw [beq_iff_eq, startsWith_iff spelled twoWords] at starts
      have length : first.name.length = name.length := by
        rw [← String.length_toList, starts, ← lowered, List.length_map]
      rw [length, List.drop_left, starts]
  · next missing =>
      have oneWord : operator ∉ twoWordOperators := by
        intro twoWords
        apply List.find?_eq_none.mp missing operator twoWords
        rw [beq_iff_eq, startsWith_iff spelled twoWords]
      have letters : ∀ c ∈ name, isLetter c := by
        intro c inName
        apply isLetter_of_toLower
        apply List.all_eq_true.mp (Operator.name_letters oneWord)
        rw [← spelled]
        exact List.mem_map_of_mem inName
      have stops : rest.takeWhile isLetter = [] ∧ rest.dropWhile isLetter = rest := by
        cases rest with
        | nil => exact ⟨rfl, rfl⟩
        | cons c rest => simp [ends c rfl]
      rw [List.takeWhile_append_of_pos letters, List.dropWhile_append_of_pos letters, stops.1,
        stops.2, List.append_nil, lowered, String.ofList_toList]

theorem operatorName_sound {s : List Char} {operator : Operator}
    (found : Operator.ofName? (operatorName s).1 = some operator) :
    ∃ name, s = name ++ (operatorName s).2 ∧ SpellsOperator operator name := by
  have named := Operator.eq_of_ofName? found
  rw [operatorName] at named ⊢
  split at named
  · next first isFirst =>
      have starts := List.find?_some isFirst
      rw [beq_iff_eq] at starts
      refine ⟨s.take first.name.length, (List.take_append_drop _ _).symm, ?_⟩
      rw [Operator.spellsOperator_iff, ← starts, named]
  · refine ⟨s.takeWhile isLetter, List.takeWhile_append_dropWhile.symm, ?_⟩
    rw [Operator.spellsOperator_iff, named, String.toList_ofList]

/-- An operator is read with its colon and the blanks around them. -/
theorem yields_readOperator {s rest : List Char} {operator : Operator} :
    Yields (readOperator s) operator rest ↔
      ∃ before name behind after, s = before ++ (name ++ (behind ++ ':' :: after)) ∧
        Blanks before ∧ SpellsOperator operator name ∧ Blanks behind ∧ rest = trimLeft after := by
  rw [readOperator]
  constructor
  · intro yields
    rcases yields_bind.mp yields with ⟨_, after, _, colon, yields⟩
    rw [yields_expect] at colon
    split at yields
    · exact absurd yields not_yields_error
    · next operator found =>
        rcases yields_ok.mp yields with ⟨rfl, rfl⟩
        rcases operatorName_sound found with ⟨name, cut, spelled⟩
        rcases exists_blanks_trimLeft s with ⟨before, beforeBlank, beforeCut⟩
        rcases exists_blanks_trimLeft (operatorName (trimLeft s)).2 with
          ⟨behind, behindBlank, behindCut⟩
        refine ⟨before, name, behind, after, ?_, beforeBlank, spelled, behindBlank, rfl⟩
        rw [← colon, ← behindCut, ← cut]
        exact beforeCut
  · rintro ⟨before, name, behind, after, rfl, beforeBlank, spelled, behindBlank, rfl⟩
    have solid := spelled.solid.append (behind ++ ':' :: after)
    have start : trimLeft (before ++ (name ++ (behind ++ ':' :: after))) =
        name ++ (behind ++ ':' :: after) := trimLeft_append_solid beforeBlank solid
    have ends : ∀ c ∈ (behind ++ ':' :: after).head?, isLetter c = false := by
      cases behind with
      | nil =>
          rintro c ⟨⟩
          rfl
      | cons d behind =>
          rintro c ⟨⟩
          have blank := List.all_eq_true.mp behindBlank d List.mem_cons_self
          by_contra letter
          rw [isBlank_of_isLetter (by simpa using letter)] at blank
          cases blank
    have scanned := operatorName_complete spelled ends
    rw [← start] at scanned
    have colon : trimLeft (behind ++ ':' :: after) = ':' :: after := by
      apply trimLeft_append_solid behindBlank
      rintro c ⟨⟩
      rfl
    have opened : Yields (expect ':' (trimLeft (operatorName (trimLeft
        (before ++ (name ++ (behind ++ ':' :: after))))).2)) () after := by
      rw [yields_expect, scanned, colon]
    apply opened.bind
    intro _
    split
    · next missing =>
        rw [scanned, Operator.ofName?_name] at missing
        cases missing
    · next found same =>
        rw [scanned, Operator.ofName?_name] at same
        cases same
        rw [yields_ok]
        exact ⟨rfl, rfl⟩

end BlockQuery.Query
