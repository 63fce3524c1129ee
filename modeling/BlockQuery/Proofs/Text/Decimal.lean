import BlockQuery.Proofs.Text.Blank
import BlockQuery.Proofs.Text.Words
import BlockQuery.Text.Integer
import BlockQuery.Text.Letter
import Mathlib.Data.List.Basic

/-!
# Written numbers

Numbers are written with the ASCII digits and read with the digits of any script,
so reading a written number gives the number back.  A written number has neither
blanks nor letters: it is a word, and lower case leaves it as it is.  Only numbers with
few enough digits are written.
-/

namespace BlockQuery.Text

/-! ## ASCII digits -/

theorem toNat_of_isDigit {c : Char} (digit : c.isDigit) : 48 ≤ c.toNat ∧ c.toNat ≤ 57 := by
  simpa [Char.isDigit, UInt32.le_iff_toNat_le] using digit

theorem digitValue?_of_isDigit {c : Char} (digit : c.isDigit) :
    digitValue? c = some (c.toNat - '0'.toNat) := by
  have range := toNat_of_isDigit digit
  have zero : 0x30 ≤ c.toNat ∧ c.toNat < 0x30 + 10 := by omega
  rw [digitValue?, digitZeros, List.findSome?_cons, if_pos zero]
  rfl

theorem isDigit_of_ascii {c : Char} (digit : c.isDigit) : isDigit c := by
  rw [isDigit, digitValue?_of_isDigit digit]
  rfl

/-- The digits of every script lie apart from the blanks. -/
theorem blankRanges_apart :
    blankRanges.all fun range => digitZeros.all fun first =>
      range.2 < first || first + 9 < range.1 := by
  decide

/-- A character is no digit when it lies apart from the digits of every script. -/
theorem isDigit_eq_false {c : Char}
    (apart : ∀ first ∈ digitZeros, c.toNat < first ∨ first + 9 < c.toNat) : isDigit c = false := by
  rw [isDigit, digitValue?, Option.isSome_eq_false_iff, Option.isNone_iff_eq_none,
    List.findSome?_eq_none_iff]
  intro first listed
  have beside := apart first listed
  exact if_neg (by omega)

theorem isDigit_of_isBlank {c : Char} (blank : isBlank c) : isDigit c = false := by
  obtain ⟨range, listed, least, most⟩ := exists_range_of_isBlank blank
  apply isDigit_eq_false
  intro first digits
  have apart := List.all_eq_true.mp (List.all_eq_true.mp blankRanges_apart range listed) first digits
  simp only [Bool.or_eq_true, decide_eq_true_eq] at apart
  omega

theorem isBlank_of_isDigit {c : Char} (digit : c.isDigit) : isBlank c = false := by
  have range := toNat_of_isDigit digit
  simp [isBlank]
  omega

theorem lower_of_isDigit {c : Char} (digit : c.isDigit) : lower c = c := by
  have range := toNat_of_isDigit digit
  have notKelvin : c.toNat ≠ 0x212A := by omega
  have notUpper : ¬ (c.val ≥ 'A'.val ∧ c.val ≤ 'Z'.val) := by
    rintro ⟨upper, -⟩
    have code : 65 ≤ c.toNat := upper
    omega
  rw [lower, if_neg notKelvin]
  exact dif_neg notUpper

/-! ## Runs of digits -/

theorem isDigit_of_mem_digits {n : Nat} {c : Char} (inDigits : c ∈ Nat.toDigits 10 n) :
    c.isDigit :=
  Nat.isDigit_of_mem_toDigits (by decide) (by decide) inDigits

theorem decimal_eq_ofDigitChars {digits : List Char} (each : ∀ c ∈ digits, c.isDigit) :
    decimal digits = Nat.ofDigitChars 10 digits 0 := by
  rw [Nat.ofDigitChars_eq_foldl, decimal]
  apply List.foldl_ext
  intro total c inDigits
  rw [digitValue?_of_isDigit (each c inDigits), Option.getD_some]

/-- Reading a written number gives the number. -/
theorem decimal_toDigits (n : Nat) : decimal (Nat.toDigits 10 n) = n := by
  rw [decimal_eq_ofDigitChars fun _ => isDigit_of_mem_digits, Nat.ofDigitChars_ten_toDigits]

/-- Leading zeros do not count. -/
theorem decimal_leftpad (width : Nat) (digits : List Char) :
    decimal (digits.leftpad width '0') = decimal digits := by
  have zeros (count : Nat) : decimal (List.replicate count '0' ++ digits) = decimal digits := by
    induction count with
    | zero => rfl
    | succ count ih => exact ih
  exact zeros _

theorem isDigit_of_mem_leftpad {width n : Nat} {c : Char}
    (inDigits : c ∈ (Nat.toDigits 10 n).leftpad width '0') : c.isDigit := by
  rw [List.leftpad, List.mem_append] at inDigits
  rcases inDigits with inZeros | inNumber
  · rw [List.eq_of_mem_replicate inZeros]
    rfl
  · exact isDigit_of_mem_digits inNumber

theorem isWord_toDigits (n : Nat) : IsWord (Nat.toDigits 10 n) :=
  ⟨Nat.toDigits_ne_nil, fun _ inDigits => isBlank_of_isDigit (isDigit_of_mem_digits inDigits)⟩

theorem solidStart_toDigits_append (n : Nat) (rest : List Char) :
    SolidStart (Nat.toDigits 10 n ++ rest) := by
  obtain ⟨c, digits, split⟩ := List.exists_cons_of_ne_nil (Nat.toDigits_ne_nil (n := n) (b := 10))
  have solid := (isWord_toDigits n).solid c
  rw [split] at solid ⊢
  rintro d first
  obtain rfl : c = d := by simpa using first
  exact solid List.mem_cons_self

theorem map_lower_toDigits (n : Nat) : (Nat.toDigits 10 n).map lower = Nat.toDigits 10 n := by
  have same : (Nat.toDigits 10 n).map lower = (Nat.toDigits 10 n).map id := by
    apply List.map_congr_left
    intro c inDigits
    exact lower_of_isDigit (isDigit_of_mem_digits inDigits)
  rw [same, List.map_id]

/-! ## Numbers that are written -/

/-- A number has no more digits than are written. -/
def FewDigits (n : Int) : Prop :=
  (Nat.toDigits 10 n.natAbs).length ≤ maxDigits

theorem length_toDigits_le_iff {n count : Nat} (positive : 0 < count) :
    (Nat.toDigits 10 n).length ≤ count ↔ n < Nat.pow 10 count :=
  Nat.length_toDigits_le_iff (by decide) positive

/-- The smallest number with more digits than are written. -/
theorem not_fewDigits_pow : ¬ FewDigits (Nat.pow 10 maxDigits : Nat) := by
  have long {count : Nat} (positive : 0 < count) :
      ¬ (Nat.toDigits 10 (Int.natAbs (Nat.pow 10 count : Nat))).length ≤ count := by
    rw [Int.natAbs_natCast, length_toDigits_le_iff positive]
    exact Nat.lt_irrefl _
  exact long (show 0 < maxDigits by decide)

theorem fewDigits_of_small {n : Int} (small : n.natAbs < 100) : FewDigits n := by
  have two : (Nat.toDigits 10 n.natAbs).length ≤ 2 :=
    (length_toDigits_le_iff (by decide)).mpr small
  exact Nat.le_trans two (by decide)

theorem isWritable_iff {n : Int} : isWritable n ↔ FewDigits n := by
  rw [FewDigits, length_toDigits_le_iff (by decide), isWritable, decide_eq_true_iff]

end BlockQuery.Text
