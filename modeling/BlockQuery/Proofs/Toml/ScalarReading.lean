import BlockQuery.Proofs.Text.Decimal
import BlockQuery.Toml.Reader

/-!
# Written scalars

Reading a written scalar gives its value back and stops behind it.  A string is read
character by character, and the reader takes each escape for the character that it
stands for.  A number is followed by a line break, so none of the other notations
that start with digits fits it.
-/

namespace BlockQuery.Toml

/-! ## Strings -/

theorem shortEscaped?_of_shortEscape? {c mark : Char} (short : shortEscape? c = some mark) :
    shortEscaped? mark = some c ∧ mark ≠ 'u' ∧ mark ≠ 'U' ∧ isIllegal mark = false := by
  unfold shortEscape? at short
  split at short
  case h_7 => cases short
  all_goals
    cases short
    exact ⟨rfl, by decide, by decide, by decide⟩

/-- A character without a short escape is neither a quote nor a backslash. -/
theorem ne_of_shortEscape?_eq_none {c : Char} (plain : shortEscape? c = none) :
    c ≠ '"' ∧ c ≠ '\\' := by
  refine ⟨?_, ?_⟩
  all_goals
    rintro rfl
    cases plain

theorem basicBody_short {c mark : Char} (escaped : shortEscaped? mark = some c)
    (notShort : mark ≠ 'u') (notLong : mark ≠ 'U') (rest : List Char) :
    basicBody false .inText ('\\' :: mark :: rest) =
      (basicBody false .inText rest).map fun (body, after) => (c :: body, after) := by
  rw [basicBody.eq_def]
  simp [escaped, notShort, notLong]

/-- Control characters are written with four hexadecimal digits. -/
theorem hexChar?_hexadecimal :
    ∀ code < 0x80, (Text.hexadecimal 4 code).length = 4 ∧
      hexChar? (Text.hexadecimal 4 code) = some (Char.ofNat code) ∧
      (Text.hexadecimal 4 code).all (!isIllegal ·) ∧ '"' ∉ Text.hexadecimal 4 code := by
  decide +kernel

theorem toNat_of_isControl {c : Char} (control : isControl c) : c.toNat < 0x80 := by
  simp only [isControl, Bool.or_eq_true, decide_eq_true_eq, beq_iff_eq] at control
  omega

theorem basicBody_control {c : Char} (control : isControl c) (rest : List Char) :
    basicBody false .inText ('\\' :: 'u' :: (Text.hexadecimal 4 c.toNat ++ rest)) =
      (basicBody false .inText rest).map fun (body, after) => (c :: body, after) := by
  obtain ⟨four, value, -⟩ := hexChar?_hexadecimal c.toNat (toNat_of_isControl control)
  rw [Char.ofNat_toNat] at value
  obtain ⟨x1, x2, x3, x4, digits⟩ := List.length_eq_four.mp four
  rw [digits] at value ⊢
  rw [basicBody.eq_def]
  simp [value]

theorem basicBody_plain {c : Char} (notQuote : c ≠ '"') (notBackslash : c ≠ '\\')
    (legal : ¬ (isControl c ∧ c ≠ '\t')) (rest : List Char) :
    basicBody false .inText (c :: rest) =
      (basicBody false .inText rest).map fun (body, after) => (c :: body, after) := by
  rw [basicBody.eq_def]
  simp only [reduceCtorEq, false_and, if_false, notQuote, notBackslash, Bool.false_eq_true]
  rw [if_neg fun illegal => legal ⟨illegal.1, illegal.2.1⟩]

/-- A written character is read back. -/
theorem basicBody_escapeChar (c : Char) (rest : List Char) :
    basicBody false .inText (escapeChar c ++ rest) =
      (basicBody false .inText rest).map fun (body, after) => (c :: body, after) := by
  unfold escapeChar
  cases short : shortEscape? c with
  | some mark =>
      obtain ⟨escaped, notShort, notLong, -⟩ := shortEscaped?_of_shortEscape? short
      exact basicBody_short escaped notShort notLong rest
  | none =>
      dsimp only
      split
      case isTrue control => exact basicBody_control control.1 rest
      case isFalse legal =>
        obtain ⟨notQuote, notBackslash⟩ := ne_of_shortEscape?_eq_none short
        exact basicBody_plain notQuote notBackslash legal rest

theorem basicBody_escaped (text rest : List Char) :
    basicBody false .inText (text.flatMap escapeChar ++ '"' :: rest) = .ok (text, rest) := by
  induction text with
  | nil =>
      rw [List.flatMap_nil, List.nil_append, basicBody.eq_def]
      simp
  | cons c text ih =>
      rw [List.flatMap_cons, List.append_assoc, basicBody_escapeChar, ih]
      rfl

theorem escapeChar_eq_cons (c : Char) :
    ∃ first more, escapeChar c = first :: more ∧ first ≠ '"' := by
  unfold escapeChar
  cases short : shortEscape? c with
  | some mark => exact ⟨_, _, rfl, by decide⟩
  | none =>
      dsimp only
      split
      · exact ⟨_, _, rfl, by decide⟩
      · exact ⟨_, _, rfl, (ne_of_shortEscape?_eq_none short).1⟩

theorem toList_writeString (text : String) :
    (writeString text).toList = '"' :: (text.toList.flatMap escapeChar ++ ['"']) := by
  simp [writeString]

/-- A written string is read back.  The line break keeps the quotes of the empty string from being
taken for the start of a string over several lines. -/
theorem anyString?_writeString (text : String) (rest : List Char) :
    anyString? ((writeString text).toList ++ '\n' :: rest) =
      some (.ok (text.toList, '\n' :: rest)) := by
  have body := basicBody_escaped text.toList ('\n' :: rest)
  rw [toList_writeString, List.cons_append, List.append_assoc, List.singleton_append]
  cases chars : text.toList with
  | nil =>
      rw [chars] at body
      exact congrArg some body
  | cons c chars =>
      obtain ⟨first, more, escape, notQuote⟩ := escapeChar_eq_cons c
      rw [chars] at body
      rw [← body, List.flatMap_cons, escape, anyString?.eq_def]
      simp [notQuote]

/-! ## Numbers -/

theorem ne_of_isDigit {c other : Char} (digit : c.isDigit) (notDigit : other.isDigit = false) :
    c ≠ other := by
  rintro rfl
  rw [notDigit] at digit
  cases digit

theorem groupedRun_digits {digits : List Char} (each : ∀ c ∈ digits, c.isDigit)
    (rest : List Char) :
    groupedRun Char.isDigit (digits ++ '\n' :: rest) = (digits, '\n' :: rest) := by
  induction digits with
  | nil =>
      rw [List.nil_append, groupedRun.eq_def]
      simp
  | cons c digits ih =>
      rw [List.forall_mem_cons] at each
      rw [List.cons_append, groupedRun.eq_def]
      simp [ne_of_isDigit each.1, each.1, ih each.2]

theorem exists_digit_toDigits (n : Nat) :
    ∃ first more, Nat.toDigits 10 n = first :: more ∧ first.isDigit := by
  obtain ⟨first, more, digits⟩ :=
    List.exists_cons_of_ne_nil (Nat.toDigits_ne_nil (n := n) (b := 10))
  refine ⟨first, more, digits, Text.isDigit_of_mem_digits (n := n) ?_⟩
  rw [digits]
  exact List.mem_cons_self

/-- A positive number does not start with a zero. -/
theorem exists_toDigits_eq_cons {n : Nat} (positive : 0 < n) :
    ∃ first more, Nat.toDigits 10 n = first :: more ∧ first ≠ '0' := by
  induction n using Nat.strongRecOn with
  | ind n ih =>
      rw [Nat.toDigits_eq_if (by decide)]
      split
      case isTrue small =>
        have notZero : ∀ digit < 10, 0 < digit → digit.digitChar ≠ '0' := by decide
        exact ⟨_, [], rfl, notZero n small positive⟩
      case isFalse large =>
        obtain ⟨first, more, digits, notZero⟩ := ih (n / 10) (by omega) (by omega)
        refine ⟨first, more ++ [(n % 10).digitChar], ?_, notZero⟩
        rw [digits, List.cons_append]

theorem wholePart?_toDigits (n : Nat) (rest : List Char) :
    wholePart? (Nat.toDigits 10 n ++ '\n' :: rest) = some (Nat.toDigits 10 n, '\n' :: rest) := by
  rcases Nat.eq_zero_or_pos n with rfl | positive
  · rfl
  · obtain ⟨first, more, digits, notZero⟩ := exists_toDigits_eq_cons positive
    have each : ∀ c ∈ first :: more, c.isDigit := by
      rw [← digits]
      exact fun _ => Text.isDigit_of_mem_digits
    have run := groupedRun_digits each rest
    rw [digits, wholePart?.eq_def]
    rw [List.cons_append] at run ⊢
    simp [notZero, digitRun?, each first List.mem_cons_self, run]

theorem basedInteger?_toDigits (n : Nat) (rest : List Char) :
    basedInteger? (Nat.toDigits 10 n ++ '\n' :: rest) = none := by
  rcases Nat.eq_zero_or_pos n with rfl | positive
  · rfl
  · obtain ⟨first, more, digits, notZero⟩ := exists_toDigits_eq_cons positive
    rw [digits, List.cons_append, basedInteger?.eq_def]
    simp [notZero]

theorem boundedNumber?_eq_some {count low high n : Nat} {text after : List Char}
    (found : boundedNumber? count low high text = some (n, after)) :
    (∀ c ∈ text.take count, c.isDigit) ∧ after = text.drop count := by
  unfold boundedNumber? at found
  dsimp only at found
  split at found
  case isFalse => cases found
  case isTrue counted =>
    cases found
    exact ⟨List.all_eq_true.mp counted.2.1, rfl⟩

/-- No date or time starts where counted digits are not followed by its mark. -/
def NoMoment (text : List Char) : Prop :=
  ∀ count low high n after, boundedNumber? (count + 1) low high text = some (n, after) →
    ∀ mark ∈ ['-', ':'], Text.dropStart? [mark] after = none

/-- Digits that have been counted off are followed by another digit or by the line break. -/
theorem noMoment_digits {digits : List Char} (each : ∀ c ∈ digits, c.isDigit)
    (rest : List Char) : NoMoment (digits ++ '\n' :: rest) := by
  intro count low high n after found mark isMark
  obtain ⟨counted, rfl⟩ := boundedNumber?_eq_some found
  -- The line break is no digit, so the count cannot have gone past it.
  have enough : count + 1 ≤ digits.length := by
    by_contra short
    obtain ⟨extra, excess⟩ := Nat.exists_eq_add_of_lt (Nat.lt_of_not_le short)
    have atBreak : '\n' ∈ (digits ++ '\n' :: rest).take (count + 1) := by
      rw [excess, Nat.add_assoc, List.take_length_add_append, List.take_succ_cons]
      exact List.mem_append_right _ List.mem_cons_self
    exact absurd (counted '\n' atBreak) (by decide)
  have notDigit : mark.isDigit = false ∧ mark ≠ '\n' := by
    obtain rfl | rfl := List.mem_pair.mp isMark
    · exact ⟨rfl, by decide⟩
    · exact ⟨rfl, by decide⟩
  rw [List.drop_append_of_le_length enough]
  cases remaining : digits.drop (count + 1) with
  | nil => exact if_neg notDigit.2
  | cons c more =>
      have digit : c.isDigit := by
        apply each c
        apply List.mem_of_mem_drop
        rw [remaining]
        exact List.mem_cons_self
      exact if_neg (ne_of_isDigit digit notDigit.1).symm

theorem noMoment_minus (rest : List Char) : NoMoment ('-' :: rest) := by
  intro count low high n after found
  obtain ⟨counted, -⟩ := boundedNumber?_eq_some found
  rw [List.take_succ_cons] at counted
  exact absurd (counted '-' List.mem_cons_self) (by decide)

theorem NoMoment.dateTime?_eq_none {text : List Char} (noMoment : NoMoment text) :
    dateTime? text = none := by
  unfold dateTime?
  cases year : boundedNumber? 4 0 9999 text with
  | none => rfl
  | some found =>
      have stops := noMoment 3 0 9999 found.1 found.2 year '-' (by decide)
      simp [stops]

theorem NoMoment.time?_eq_none {text : List Char} (noMoment : NoMoment text) :
    time? text = none := by
  unfold time? skipTime?
  cases hour : boundedNumber? 2 0 23 text with
  | none => rfl
  | some found =>
      have stops := noMoment 1 0 23 found.1 found.2 hour ':' (by decide)
      simp [stops]

/-- A text is a number if it is one in decimal notation and nothing else. -/
theorem plainScalar_of_decimalNumber? {text rest : List Char} {value : Value}
    (notTrue : Text.dropStart? "true".toList text = none)
    (notFalse : Text.dropStart? "false".toList text = none) (noMoment : NoMoment text)
    (noBase : basedInteger? text = none) (number : decimalNumber? text = some (.ok (value, rest))) :
    plainScalar text = .ok (value, rest) := by
  unfold plainScalar
  rw [notTrue, notFalse, noMoment.dateTime?_eq_none, noMoment.time?_eq_none, noBase, number]
  rfl

/-- A decimal number ends at a line break. -/
theorem decimalNumber?_of_toDigits {text rest : List Char} {negative : Bool} {n : Nat}
    (sign : Text.splitSign text = (negative, Nat.toDigits 10 n ++ '\n' :: rest))
    (writable : Text.isWritable n) :
    decimalNumber? text =
      some (.ok (.integer (if negative then -(n : Int) else n), '\n' :: rest)) := by
  have short : ¬ Text.maxDigits < (Nat.toDigits 10 n).length :=
    Nat.not_lt_of_le (Text.isWritable_iff.mp writable)
  have unchanged : skipExponent (skipFraction ('\n' :: rest)) = '\n' :: rest := rfl
  unfold decimalNumber?
  rw [sign]
  dsimp only
  rw [wholePart?_toDigits, Option.bind_eq_bind, Option.bind_some]
  dsimp only
  rw [unchanged, if_neg (Nat.lt_irrefl _), if_neg short, Text.decimal_toDigits]
  rfl

theorem plainScalar_digits {n : Nat} (writable : Text.isWritable n) (rest : List Char) :
    plainScalar (Nat.toDigits 10 n ++ '\n' :: rest) = .ok (.integer n, '\n' :: rest) := by
  obtain ⟨first, more, digits, digit⟩ := exists_digit_toDigits n
  have unsigned : Text.splitSign (Nat.toDigits 10 n ++ '\n' :: rest) =
      (false, Nat.toDigits 10 n ++ '\n' :: rest) := by
    rw [digits, List.cons_append, Text.splitSign.eq_def]
    simp [ne_of_isDigit digit]
  apply plainScalar_of_decimalNumber?
  case notTrue =>
    rw [digits]
    exact if_neg (ne_of_isDigit digit rfl).symm
  case notFalse =>
    rw [digits]
    exact if_neg (ne_of_isDigit digit rfl).symm
  case noMoment => exact noMoment_digits (fun _ => Text.isDigit_of_mem_digits) rest
  case noBase => exact basedInteger?_toDigits n rest
  case number => exact decimalNumber?_of_toDigits unsigned writable

theorem plainScalar_minus {n : Nat} (writable : Text.isWritable n) (rest : List Char) :
    plainScalar ('-' :: (Nat.toDigits 10 n ++ '\n' :: rest)) =
      .ok (.integer (-n), '\n' :: rest) := by
  have signed : Text.splitSign ('-' :: (Nat.toDigits 10 n ++ '\n' :: rest)) =
      (true, Nat.toDigits 10 n ++ '\n' :: rest) := rfl
  apply plainScalar_of_decimalNumber? rfl rfl (noMoment_minus _) rfl
  exact decimalNumber?_of_toDigits signed writable

/-! ## Scalars -/

namespace Scalar

/-- A scalar as a value of a document. -/
def value : Scalar → Value
  | boolean truth => .boolean truth
  | integer number => .integer number
  | string text => .string text

/-- Whether a scalar can be written. -/
def isWritable : Scalar → Bool
  | integer number => Text.isWritable number
  | boolean _ | string _ => true

end Scalar

/-- The characters that a value of another form starts with. -/
def openers : List Char := ['[', '\x7b', '"', '\'']

/-- A value that no opening character announces is a plain one. -/
theorem readValue_of_not_mem_openers {c : Char} (plain : c ∉ openers) (fuel : Nat)
    (text : List Char) : readValue (fuel + 1) (c :: text) = plainScalar (c :: text) := by
  simp only [openers, List.mem_cons, List.not_mem_nil, or_false, not_or] at plain
  obtain ⟨notArray, notTable, notQuote, notApostrophe⟩ := plain
  have noString : anyString? (c :: text) = none := by
    rw [anyString?.eq_def]
    simp [notQuote, notApostrophe]
  rw [readValue, if_neg notArray, if_neg notTable, noString]

theorem not_mem_openers_of_isDigit {c : Char} (digit : c.isDigit) : c ∉ openers := by
  have noDigits : openers.all fun opener => !opener.isDigit := by decide
  intro opens
  have notDigit := List.all_eq_true.mp noDigits c opens
  rw [digit] at notDigit
  cases notDigit

/-- A written integer is made of digits, behind a minus sign if it is negative. -/
theorem toList_toString (number : Int) :
    ∃ n : Nat, number = n ∧ (toString number).toList = Nat.toDigits 10 n ∨
      number = -n ∧ (toString number).toList = '-' :: Nat.toDigits 10 n := by
  cases number with
  | ofNat n => exact ⟨n, .inl ⟨rfl, Nat.toList_repr⟩⟩
  | negSucc n =>
      have sign : toString (Int.negSucc n) = "-" ++ (n + 1).repr := rfl
      refine ⟨n + 1, .inr ⟨rfl, ?_⟩⟩
      rw [sign, String.toList_append, Nat.toList_repr]
      rfl

theorem isWritable_neg (number : Int) : Text.isWritable (-number) = Text.isWritable number := by
  unfold Text.isWritable
  rw [Int.natAbs_neg]

theorem readValue_integer {number : Int} (writable : Text.isWritable number) (fuel : Nat)
    (rest : List Char) :
    readValue (fuel + 1) ((toString number).toList ++ '\n' :: rest) =
      .ok (.integer number, '\n' :: rest) := by
  obtain ⟨n, ⟨rfl, written⟩ | ⟨rfl, written⟩⟩ := toList_toString number
  · have read := plainScalar_digits writable rest
    obtain ⟨first, more, digits, digit⟩ := exists_digit_toDigits n
    rw [digits] at written read
    rw [written, List.cons_append,
      readValue_of_not_mem_openers (not_mem_openers_of_isDigit digit)]
    exact read
  · rw [isWritable_neg] at writable
    rw [written, List.cons_append, readValue_of_not_mem_openers (by decide)]
    exact plainScalar_minus writable rest

/-! ## Legal characters -/

/-- A text without control characters other than the tab. -/
def IsLegal (text : List Char) : Prop :=
  text.all (!isIllegal ·)

instance (text : List Char) : Decidable (IsLegal text) :=
  inferInstanceAs (Decidable (_ = true))

theorem isLegal_iff {text : List Char} : IsLegal text ↔ ∀ c ∈ text, isIllegal c = false := by
  simp [IsLegal]

@[simp]
theorem isLegal_cons {c : Char} {text : List Char} :
    IsLegal (c :: text) ↔ isIllegal c = false ∧ IsLegal text := by
  simp [isLegal_iff]

@[simp]
theorem isLegal_append {text more : List Char} :
    IsLegal (text ++ more) ↔ IsLegal text ∧ IsLegal more := by
  simp only [isLegal_iff, List.forall_mem_append]

theorem IsLegal.not_mem {text : List Char} (legal : IsLegal text) {c : Char}
    (illegal : isIllegal c) : c ∉ text := by
  intro listed
  rw [isLegal_iff.mp legal c listed] at illegal
  cases illegal

/-- What is illegal in a string is escaped. -/
theorem isLegal_escapeChar (c : Char) : IsLegal (escapeChar c) := by
  unfold escapeChar
  cases short : shortEscape? c with
  | some mark =>
      obtain ⟨-, -, -, legal⟩ := shortEscaped?_of_shortEscape? short
      exact isLegal_cons.mpr ⟨by decide, isLegal_cons.mpr ⟨legal, rfl⟩⟩
  | none =>
      dsimp only
      split
      case isTrue control =>
        obtain ⟨-, -, legal, -⟩ := hexChar?_hexadecimal c.toNat (toNat_of_isControl control.1)
        exact isLegal_cons.mpr ⟨by decide, isLegal_cons.mpr ⟨by decide, legal⟩⟩
      case isFalse legal =>
        rw [isLegal_cons]
        exact ⟨by simpa [isIllegal] using legal, rfl⟩

theorem isIllegal_of_isDigit {c : Char} (digit : c.isDigit) : isIllegal c = false := by
  have range := Text.toNat_of_isDigit digit
  simp [isIllegal, isControl]
  omega

theorem isLegal_write (scalar : Scalar) : IsLegal scalar.write.toList := by
  have digits (n : Nat) : IsLegal (Nat.toDigits 10 n) :=
    isLegal_iff.mpr fun _ listed => isIllegal_of_isDigit (Text.isDigit_of_mem_digits listed)
  cases scalar with
  | boolean truth =>
      cases truth with
      | true => exact rfl
      | false => exact rfl
  | integer number =>
      rw [Scalar.write]
      obtain ⟨n, ⟨-, written⟩ | ⟨-, written⟩⟩ := toList_toString number
      · rw [written]
        exact digits n
      · rw [written, isLegal_cons]
        exact ⟨by decide, digits n⟩
  | string text =>
      have body : IsLegal (text.toList.flatMap escapeChar) := by
        rw [isLegal_iff, List.forall_mem_flatMap]
        exact fun c _ => isLegal_iff.mp (isLegal_escapeChar c)
      rw [Scalar.write, toList_writeString, isLegal_cons, isLegal_append]
      exact ⟨by decide, body, rfl⟩

/-- A written scalar is read back. -/
theorem readValue_write {scalar : Scalar} (writable : scalar.isWritable) (fuel : Nat)
    (rest : List Char) :
    readValue (fuel + 1) (scalar.write.toList ++ '\n' :: rest) =
      .ok (scalar.value, '\n' :: rest) := by
  cases scalar with
  | boolean truth =>
      cases truth with
      | true => exact readValue_of_not_mem_openers (by decide) fuel _
      | false => exact readValue_of_not_mem_openers (by decide) fuel _
  | integer number => exact readValue_integer writable fuel rest
  | string text =>
      have read := anyString?_writeString text rest
      rw [toList_writeString, List.cons_append] at read
      rw [Scalar.write, toList_writeString, List.cons_append, readValue, if_neg (by decide),
        if_neg (by decide), read]
      have same : (Value.string (String.ofList text.toList), '\n' :: rest) =
          (Value.string text, '\n' :: rest) := by
        rw [String.ofList_toList]
      exact congrArg Except.ok same

end BlockQuery.Toml
