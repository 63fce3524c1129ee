import BlockQuery.Proofs.Text.Letter
import BlockQuery.Text.LowerCase

/-!
# Lower case and ASCII vocabularies

A vocabulary of ASCII words and numbers is looked up with the characters of a text
lowered one by one, where only those that become ASCII letters change.  Texts in lower
case change in more places, but only foreign characters, which are neither ASCII nor
digits nor blanks, and what becomes of these is foreign again.  So a text in lower case
is the text that is looked up, or neither of the two belongs to the vocabulary.
-/

namespace BlockQuery.Text

/-- The character is not ASCII, no blank and no digit of any script. -/
structure Foreign (c : Char) : Prop where
  high : 0x80 ≤ c.toNat
  solid : isBlank c = false
  noDigit : isDigit c = false

/-- Whether all code points from `low` to `high` are those of foreign characters. -/
def isForeignRange (low high : Nat) : Bool :=
  0x80 ≤ low && (high < 0xD800 || (0xDFFF < low && high < 0x110000)) &&
    digitZeros.all (fun start => high < start || start + 9 < low) &&
    blankRanges.all fun blank => high < blank.1 || blank.2 < low

section Ranges

variable {low high : Nat}

theorem isForeignRange_iff :
    isForeignRange low high ↔
      0x80 ≤ low ∧ (high < 0xD800 ∨ (0xDFFF < low ∧ high < 0x110000)) ∧
        (∀ start ∈ digitZeros, high < start ∨ start + 9 < low) ∧
        ∀ blank ∈ blankRanges, high < blank.1 ∨ blank.2 < low := by
  simp [isForeignRange, and_assoc]

theorem foreign_of_range (range : isForeignRange low high) {c : Char} (least : low ≤ c.toNat)
    (most : c.toNat ≤ high) : Foreign c := by
  obtain ⟨notAscii, -, digits, blanks⟩ := isForeignRange_iff.mp range
  refine ⟨notAscii.trans least, ?_, ?_⟩
  · rw [← Bool.not_eq_true]
    intro blank
    obtain ⟨blanked, listed, first, last⟩ := exists_range_of_isBlank blank
    have apart := blanks blanked listed
    omega
  · apply isDigit_eq_false
    intro start listed
    have apart := digits start listed
    omega

theorem toNat_ofNat_of_range (range : isForeignRange low high) {n : Nat} (least : low ≤ n)
    (most : n ≤ high) : (Char.ofNat n).toNat = n := by
  obtain ⟨-, valid, -, -⟩ := isForeignRange_iff.mp range
  have isValid : n.isValidChar := by
    change n < 0xD800 ∨ (0xDFFF < n ∧ n < 0x110000)
    omega
  exact congrArg Char.toNat (dif_pos isValid)

theorem foreign_ofNat (range : isForeignRange low high) {n : Nat} (least : low ≤ n)
    (most : n ≤ high) : Foreign (Char.ofNat n) := by
  have code := toNat_ofNat_of_range range least most
  exact foreign_of_range range (by omega) (by omega)

end Ranges

/-! ## Characters -/

theorem isForeignRange_of_caseRuns :
    caseRuns.all fun run => (run.first == 0x212A && run.last == 0x212A) ||
      (isForeignRange run.first run.last &&
        isForeignRange run.small (run.small + (run.last - run.first))) := by
  decide +kernel

variable {c d : Char}

/-- Another capital letter outside of ASCII and its small letter are foreign. -/
theorem foreign_of_smallOf? {run : CaseRun} (listed : run ∈ caseRuns)
    (small : run.smallOf? c = some d) (notKelvin : c ≠ kelvin) : Foreign c ∧ Foreign d := by
  rw [Ne, eq_kelvin_iff] at notKelvin
  have checked := List.all_eq_true.mp isForeignRange_of_caseRuns run listed
  simp only [Bool.or_eq_true, Bool.and_eq_true, beq_iff_eq] at checked
  rw [CaseRun.smallOf?] at small
  split at small
  · next inside =>
    cases small
    rcases checked with ⟨first, last⟩ | ⟨capitals, smalls⟩
    · omega
    · exact ⟨foreign_of_range capitals inside.1 inside.2.1,
        foreign_ofNat smalls (by omega) (by omega)⟩
  · cases small

theorem lowerCharacter_kelvin : lowerCharacter kelvin = [lower kelvin] := by
  decide +kernel

/-- A character in lower case is the character that is looked up, or both are foreign. -/
theorem lowerCharacter_cases (c : Char) :
    lowerCharacter c = [lower c] ∨ Foreign (lower c) ∧ ∃ d ∈ lowerCharacter c, Foreign d := by
  by_cases sign : c = kelvin
  · rw [sign]
    exact .inl lowerCharacter_kelvin
  unfold lowerCharacter
  split
  · rw [lower_of_ne sign]
    exact .inl rfl
  · next notLow =>
    rw [lower_of_high (by omega) sign]
    split
    · next dotted =>
      have foreign : Foreign c :=
        foreign_of_range (by decide : isForeignRange 0x130 0x130) (by omega) (by omega)
      exact .inr ⟨foreign, Char.ofNat 0x307, List.mem_cons_of_mem _ List.mem_cons_self,
        foreign_ofNat (by decide : isForeignRange 0x307 0x307) (by omega) (by omega)⟩
    · cases found : caseRuns.findSome? fun run => run.smallOf? c with
      | none => exact .inl rfl
      | some d =>
          obtain ⟨run, listed, small⟩ := List.exists_of_findSome?_eq_some found
          obtain ⟨capital, foreign⟩ := foreign_of_smallOf? listed small sign
          exact .inr ⟨capital, d, List.mem_singleton_self d, foreign⟩

/-! ## Texts -/

/-- The text has a foreign character. -/
def HasForeign (text : List Char) : Prop :=
  ∃ c ∈ text, Foreign c

theorem HasForeign.append_left {first : List Char} (foreign : HasForeign first)
    (second : List Char) : HasForeign (first ++ second) := by
  obtain ⟨c, inText, isForeign⟩ := foreign
  exact ⟨c, List.mem_append_left second inText, isForeign⟩

theorem HasForeign.append_right {second : List Char} (foreign : HasForeign second)
    (first : List Char) : HasForeign (first ++ second) := by
  obtain ⟨c, inText, isForeign⟩ := foreign
  exact ⟨c, List.mem_append_right first inText, isForeign⟩

/-- A sigma is foreign in each of its forms. -/
theorem foreign_sigma (sigma : c.toNat = 0x3A3) :
    Foreign (lower c) ∧ Foreign (Char.ofNat 0x3C2) := by
  have foreign : Foreign c :=
    foreign_of_range (by decide : isForeignRange 0x3A3 0x3A3) (by omega) (by omega)
  have notKelvin : c ≠ kelvin := by
    rw [Ne, eq_kelvin_iff]
    omega
  rw [lower_of_high foreign.high notKelvin]
  exact ⟨foreign, foreign_ofNat (by decide : isForeignRange 0x3C2 0x3C2) (by omega) (by omega)⟩

/-- The induction is on the text; a foreign character decides for all that follows it. -/
theorem lowerFrom_cases (before text : List Char) :
    lowerFrom before text = text.map lower ∨
      HasForeign (text.map lower) ∧ HasForeign (lowerFrom before text) := by
  induction text generalizing before with
  | nil => exact .inl rfl
  | cons c text ih =>
      have first : (∃ rest, lowerFrom before (c :: text) = rest ++ lowerFrom (c :: before) text ∧
          (rest = [lower c] ∨ Foreign (lower c) ∧ HasForeign rest)) := by
        refine ⟨_, rfl, ?_⟩
        split
        · next ending =>
          obtain ⟨capital, final⟩ := foreign_sigma ending.1
          exact .inr ⟨capital, Char.ofNat 0x3C2, List.mem_singleton_self _, final⟩
        · exact lowerCharacter_cases c
      obtain ⟨small, split, same | ⟨capital, foreign⟩⟩ := first
      · rw [split, same, List.map_cons]
        rcases ih (c :: before) with equal | ⟨lowered, later⟩
        · exact .inl (by rw [equal, List.singleton_append])
        · exact .inr ⟨lowered.append_right [lower c], later.append_right [lower c]⟩
      · rw [split]
        exact .inr ⟨⟨lower c, List.mem_cons_self, capital⟩, foreign.append_left _⟩

/-- A text in lower case is the text that is looked up, or both have a foreign character. -/
theorem lowerCase_cases (text : List Char) :
    lowerCase text = text.map lower ∨
      HasForeign (text.map lower) ∧ HasForeign (lowerCase text) :=
  lowerFrom_cases [] text

end BlockQuery.Text
