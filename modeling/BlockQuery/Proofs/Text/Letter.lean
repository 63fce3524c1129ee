import BlockQuery.Proofs.Text.Decimal
import BlockQuery.Text.Letter

/-!
# Letters

The letters of the vocabularies are ASCII letters.  They lie apart from blanks and
digits, and only a letter becomes one in lower case, the Kelvin sign aside.
-/

namespace BlockQuery.Text

/-- The Kelvin sign, whose small letter is an ASCII letter. -/
def kelvin : Char :=
  Char.ofNat 0x212A

variable {c : Char}

theorem eq_kelvin_iff : c = kelvin ↔ c.toNat = 0x212A := by
  constructor
  · rintro rfl
    rfl
  · intro same
    rw [kelvin, ← same, Char.ofNat_toNat]

theorem lower_of_ne (notKelvin : c ≠ kelvin) : lower c = c.toLower := by
  rw [Ne, eq_kelvin_iff] at notKelvin
  rw [lower, if_neg notKelvin]

/-- The codes of letters. -/
theorem isLetter_iff :
    isLetter c = true ↔ 65 ≤ c.toNat ∧ c.toNat ≤ 90 ∨ 97 ≤ c.toNat ∧ c.toNat ≤ 122 := by
  change (decide (c.val ≥ 'A'.val ∧ c.val ≤ 'Z'.val) ||
    (decide (c.val ≥ 'a'.val) && decide (c.val ≤ 'z'.val))) = true ↔ _
  rw [Bool.or_eq_true, Bool.and_eq_true, decide_eq_true_iff, decide_eq_true_iff,
    decide_eq_true_iff]
  rfl

theorem isLetter_of_toLower (letter : isLetter c.toLower) : isLetter c := by
  by_cases isUpper : c.val ≥ 'A'.val ∧ c.val ≤ 'Z'.val
  · exact isLetter_iff.mpr (.inl isUpper)
  · have same : c.toLower = c := dif_neg isUpper
    rwa [same] at letter

theorem isBlank_of_isLetter (letter : isLetter c) : isBlank c = false := by
  have range := isLetter_iff.mp letter
  simp [isBlank]
  omega

/-- The letters lie apart from the digits of every script. -/
theorem digitZeros_apart : digitZeros.all fun first => first + 9 < 65 || 122 < first := by
  decide

theorem isDigit_of_isLetter (letter : isLetter c) : isDigit c = false := by
  have range := isLetter_iff.mp letter
  apply isDigit_eq_false
  intro first listed
  have apart := List.all_eq_true.mp digitZeros_apart first listed
  simp only [Bool.or_eq_true, decide_eq_true_eq] at apart
  omega

/-- Beyond ASCII only the Kelvin sign has an ASCII letter as its small letter. -/
theorem lower_of_high (high : 0x80 ≤ c.toNat) (notKelvin : c ≠ kelvin) : lower c = c := by
  have notUpper : ¬ (c.val ≥ 'A'.val ∧ c.val ≤ 'Z'.val) := by
    rintro ⟨-, upper⟩
    have code : c.toNat ≤ 90 := upper
    omega
  rw [lower_of_ne notKelvin]
  exact dif_neg notUpper

end BlockQuery.Text
