import BlockQuery.Calendar.Resolve
import BlockQuery.Proofs.Calendar.FormatReading

/-!
# Reading ISO moments back

A moment is written with numerals of fixed widths, and its reader takes exactly these
widths back, so a text is read part by part: each part has one lemma that says what is
read from it in front of any rest.  The date formats leave such a text alone, because it
has a dash.  Only one thing is lost.  An offset of less than a second is read as
universal time.
-/

namespace BlockQuery.Calendar

open BlockQuery.Text

namespace Iso

/-! ## Bytes -/

theorem toList_loop_eq (array : ByteArray) (index : Nat) (before : List UInt8) :
    ByteArray.toList.loop array index before =
      before.reverse ++ array.data.toList.drop index := by
  fun_induction ByteArray.toList.loop array index before with
  | case1 index before inside ih =>
      have bound : index < array.data.toList.length := by simpa using inside
      rw [ih, List.drop_eq_getElem_cons bound]
      simp [ByteArray.get!, inside]
  | case2 index before outside =>
      rw [List.drop_eq_nil_of_le (by simpa using Nat.le_of_not_lt outside)]
      simp

theorem bytes_eq_flatMap (text : String) :
    bytes text = (text.toList.flatMap String.utf8EncodeChar).map UInt8.toNat := by
  conv_lhs => rw [← String.ofList_toList (s := text)]
  rw [bytes, String.toUTF8_eq_toByteArray, String.toByteArray_ofList, List.utf8Encode,
    ByteArray.toList, toList_loop_eq]
  simp

theorem bytes_append (first second : String) :
    bytes (first ++ second) = bytes first ++ bytes second := by
  simp only [bytes_eq_flatMap, String.toList_append, List.flatMap_append, List.map_append]

theorem utf8EncodeChar_of_ascii {c : Char} (ascii : c.toNat < 128) :
    (String.utf8EncodeChar c).map UInt8.toNat = [c.toNat] := by
  have single : c.utf8Size = 1 := by
    rw [Char.utf8Size_eq_one_iff, UInt32.le_iff_toNat_le]
    exact Nat.le_of_lt_succ ascii
  have small : c.val.toNat < 256 := Nat.lt_trans ascii (by decide)
  rw [String.utf8EncodeChar_eq_singleton single, List.map_singleton, UInt32.toNat_toUInt8,
    Nat.mod_eq_of_lt small]
  rfl

/-- The bytes of an ASCII text are the codes of its characters. -/
theorem bytes_of_ascii {text : String} (ascii : text.toList.all (·.toNat < 128)) :
    bytes text = text.toList.map Char.toNat := by
  rw [bytes_eq_flatMap]
  generalize text.toList = letters at ascii ⊢
  induction letters with
  | nil => rfl
  | cons c letters ih =>
      rw [List.all_cons, Bool.and_eq_true, decide_eq_true_eq] at ascii
      rw [List.flatMap_cons, List.map_append, utf8EncodeChar_of_ascii ascii.1, ih ascii.2]
      rfl

/-! ## Numerals -/

theorem isDigit_toNat {c : Char} (digit : c.isDigit) : isDigit c.toNat := by
  have range := toNat_of_isDigit digit
  simp [isDigit, range]

theorem number?_digits {digits : List Char} (each : ∀ c ∈ digits, c.isDigit) (value : Nat)
    (rest : List Nat) :
    number? digits.length value (digits.map Char.toNat ++ rest) =
      some (Nat.ofDigitChars 10 digits value, rest) := by
  induction digits generalizing value with
  | nil => rfl
  | cons c digits ih =>
      rw [List.forall_mem_cons] at each
      rw [List.length_cons, List.map_cons, List.cons_append, number?,
        if_pos (isDigit_toNat each.1), ih each.2, Nat.ofDigitChars_cons]
      rfl

/-- A run of bytes is a number in the given width, and is read as this number wherever it
stands. -/
structure IsNumeral (width n : Nat) (run : List Nat) : Prop where
  length : run.length = width
  digits : ∀ byte ∈ run, isDigit byte
  reads : ∀ rest, number? width 0 (run ++ rest) = some (n, rest)

end Iso

theorem toList_padded (width n : Nat) :
    (padded width n).toList = (Nat.toDigits 10 n).leftpad width '0' := by
  simp [padded, List.leftpad, String.length]

theorem isNumeral_padded {width n : Nat} (positive : 0 < width) (few : n < 10 ^ width) :
    Iso.IsNumeral width n (Iso.bytes (padded width n)) := by
  have each : ∀ c ∈ (padded width n).toList, c.isDigit := by
    intro c inside
    rw [toList_padded] at inside
    exact isDigit_of_mem_leftpad inside
  have length : (padded width n).toList.length = width := by
    have short : (Nat.toDigits 10 n).length ≤ width :=
      (Nat.length_toDigits_le_iff (by decide) positive).mpr few
    rw [toList_padded, List.length_leftpad, Nat.max_eq_left short]
  have value : Nat.ofDigitChars 10 (padded width n).toList 0 = n := by
    rw [← decimal_eq_ofDigitChars each, toList_padded, decimal_leftpad, decimal_toDigits]
  have codes : Iso.bytes (padded width n) = (padded width n).toList.map Char.toNat := by
    apply Iso.bytes_of_ascii
    rw [List.all_eq_true]
    intro c inside
    have range := toNat_of_isDigit (each c inside)
    rw [decide_eq_true_eq]
    omega
  refine ⟨?_, ?_, ?_⟩
  · rw [codes, List.length_map, length]
  · intro byte inside
    rw [codes, List.mem_map] at inside
    obtain ⟨c, inText, rfl⟩ := inside
    exact Iso.isDigit_toNat (each c inText)
  · intro rest
    have read := Iso.number?_digits each 0 rest
    rwa [length, value, ← codes] at read

namespace Iso

@[simp]
theorem front_cons (byte : Nat) (rest : List Nat) : front (byte :: rest) = byte :=
  rfl

theorem ne_code_of_isDigit {byte : Nat} (digit : isDigit byte) {c : Char}
    (noDigit : isDigit (code c) = false) : byte ≠ code c := by
  rintro rfl
  rw [noDigit] at digit
  cases digit

theorem IsNumeral.isDigit_front {width n : Nat} {run : List Nat}
    (isNumeral : IsNumeral (width + 1) n run) (rest : List Nat) :
    isDigit (front (run ++ rest)) := by
  have nonempty : run ≠ [] := List.ne_nil_of_length_eq_add_one isNumeral.length
  obtain ⟨byte, others, rfl⟩ := List.exists_cons_of_ne_nil nonempty
  exact isNumeral.digits byte List.mem_cons_self

/-! ## Dates -/

theorem byteAt_append (before rest : List Nat) :
    byteAt (before ++ rest) before.length = front rest := by
  cases rest with
  | nil => simp [byteAt, front]
  | cons byte rest => simp [byteAt]

theorem skipDash?_dash (rest : List Nat) : skipDash? true (code '-' :: rest) = some rest :=
  rfl

section Dates

variable {year month day : Nat} {years months days : List Nat}
  (isYear : IsNumeral 4 year years) (isMonth : IsNumeral 2 month months)
  (isDay : IsNumeral 2 day days) (rest : List Nat)
include isYear isMonth isDay

theorem dateLength?_dashed :
    dateLength? (years ++ code '-' :: (months ++ code '-' :: (days ++ rest))) = some 10 := by
  have dash := byteAt_append years (code '-' :: (months ++ code '-' :: (days ++ rest)))
  have next := byteAt_append (years ++ [code '-']) (months ++ code '-' :: (days ++ rest))
  simp only [List.length_append, List.length_singleton, isYear.length, List.append_assoc,
    List.singleton_append, front_cons] at dash next
  have noWeek := ne_code_of_isDigit (isMonth.isDigit_front (code '-' :: (days ++ rest)))
    (c := 'W') (by decide)
  have long : 10 ≤ (years ++ code '-' :: (months ++ code '-' :: (days ++ rest))).length := by
    simp [isYear.length, isMonth.length, isDay.length]
    omega
  rw [dateLength?, dash, next, if_neg (by omega), if_neg (by omega), if_pos rfl, if_pos noWeek]

theorem readDate?_dashed :
    readDate? (years ++ code '-' :: (months ++ code '-' :: (days ++ rest))) 10 =
      Date.ofParts? year month day := by
  have noWeek := ne_code_of_isDigit (isMonth.isDigit_front (code '-' :: (days ++ rest)))
    (c := 'W') (by decide)
  have consumed : (years ++ code '-' :: (months ++ code '-' :: (days ++ rest))).length -
      rest.length = 10 := by
    simp [isYear.length, isMonth.length, isDay.length]
    omega
  simp only [readDate?, Option.bind_eq_bind, isYear.reads, Option.bind_some, front_cons,
    beq_self_eq_true, if_true, List.drop_one, List.tail_cons, if_neg noWeek, isMonth.reads,
    skipDash?_dash, isDay.reads, consumed]

end Dates

/-! ## Times -/

section Clock

variable {n slots size : Nat} {run : List Nat} {colons : Option Bool}
  (isNumber : IsNumeral 2 n run) (rest : List Nat)
include isNumber

/-- The last number of a time without a fraction. -/
theorem readClock?_last (short : size ≤ 3) :
    readClock? (slots + 1) colons (run ++ rest) size =
      some ([n], .complete (front rest != 0)) := by
  simp only [readClock?, Option.bind_eq_bind, isNumber.reads, Option.bind_some, if_pos short]
  rfl

/-- A number in front of a colon. -/
theorem readClock?_colon (separated : colons.getD true) (long : 3 < size) :
    readClock? (slots + 1) colons (run ++ code ':' :: rest) size =
      (readClock? slots (some true) rest (size - 3)).map fun (values, ending) =>
        (n :: values, ending) := by
  have found : colons.getD (code ':' == code ':') = true := by
    rw [beq_self_eq_true]
    exact separated
  simp only [readClock?, Option.bind_eq_bind, isNumber.reads, Option.bind_some, front_cons, found,
    if_neg (Nat.not_le_of_lt long), and_self, if_true, List.drop_one, List.tail_cons]
  cases readClock? slots (some true) rest (size - 3) <;> rfl

/-- A number in front of a fraction. -/
theorem readClock?_point (long : 3 < size) :
    readClock? (slots + 1) colons (run ++ code '.' :: rest) size =
      some ([n], .fraction rest (size - 3)) := by
  have noColon : code '.' ≠ code ':' := by decide
  simp only [readClock?, Option.bind_eq_bind, isNumber.reads, Option.bind_some, front_cons,
    if_neg (Nat.not_le_of_lt long), noColon, and_false, if_false, true_or, if_true, List.drop_one,
    List.tail_cons]
  rfl

end Clock

section Times

variable {hour minute second micros : Nat} {hours minutes seconds fraction : List Nat}
  (isHour : IsNumeral 2 hour hours) (isMinute : IsNumeral 2 minute minutes)
  (isSecond : IsNumeral 2 second seconds) (isFraction : IsNumeral 6 micros fraction)
  (rest : List Nat)
include isHour isMinute

theorem readTime?_minutes :
    readTime? (hours ++ code ':' :: (minutes ++ rest)) 5 =
      some ⟨hour, minute, 0, 0, front rest != 0⟩ := by
  rw [readTime?, readClock?_colon isHour _ rfl (by decide),
    readClock?_last isMinute _ (by decide)]
  rfl

include isSecond

theorem readTime?_seconds :
    readTime? (hours ++ code ':' :: (minutes ++ code ':' :: (seconds ++ rest))) 8 =
      some ⟨hour, minute, second, 0, front rest != 0⟩ := by
  rw [readTime?, readClock?_colon isHour _ rfl (by decide),
    readClock?_colon isMinute _ rfl (by decide), readClock?_last isSecond _ (by decide)]
  rfl

include isFraction

theorem readTime?_fraction (ends : isDigit (front rest) = false) :
    readTime? (hours ++ code ':' :: (minutes ++ code ':' ::
        (seconds ++ code '.' :: (fraction ++ rest)))) 15 =
      some ⟨hour, minute, second, micros, front rest != 0⟩ := by
  -- digits behind the sixth are skipped; none stand there
  have stays : rest.dropWhile isDigit = rest := by
    cases rest with
    | nil => rfl
    | cons byte rest => exact List.dropWhile_cons_of_neg (by simpa using ends)
  rw [readTime?, readClock?_colon isHour _ rfl (by decide),
    readClock?_colon isMinute _ rfl (by decide), readClock?_point isSecond _ (by decide)]
  simp [isFraction.reads, stays]

end Times

/-- The time of day on a clock that counts microseconds. -/
def Time.ofMicros (micros : Nat) (stray : Bool) : Time where
  hour := micros / secondMicros / 3600
  minute := micros / secondMicros / 60 % 60
  second := micros / secondMicros % 60
  micros := micros % secondMicros
  stray := stray

theorem Time.seconds_ofMicros (micros : Nat) (stray : Bool) :
    (ofMicros micros stray).seconds = micros / secondMicros := by
  simp only [seconds, ofMicros]
  omega

theorem Time.total_ofMicros (micros : Nat) (stray : Bool) :
    (ofMicros micros stray).seconds * secondMicros + (ofMicros micros stray).micros = micros := by
  rw [seconds_ofMicros]
  exact Nat.div_add_mod' micros secondMicros

theorem momentOf?_ofMicros (date : Date) {micros : Nat} (bounded : micros < dayMicros)
    (stray : Bool) (offset : Option Offset) :
    momentOf? date (.ofMicros micros stray) offset = some ⟨date, micros, offset, bounded⟩ := by
  have ofDay : (Time.ofMicros micros stray).isOfDay := by
    have hour : micros / secondMicros / 3600 ≤ 23 := by
      simp only [dayMicros, secondMicros] at bounded ⊢
      omega
    have minute : micros / secondMicros / 60 % 60 ≤ 59 := by omega
    have second : micros / secondMicros % 60 ≤ 59 := by omega
    simp [Time.isOfDay, Time.ofMicros, hour, minute, second]
  simp only [momentOf?, Time.total_ofMicros, ofDay, bounded, and_self, dif_pos]

/-! ## Written parts -/

/-- The marks between the numerals. -/
theorem bytes_marks :
    bytes "" = [] ∧ bytes "-" = [code '-'] ∧ bytes "+" = [code '+'] ∧ bytes ":" = [code ':'] ∧
      bytes "." = [code '.'] ∧ bytes "T" = [code 'T'] := by
  refine ⟨?_, ?_, ?_, ?_, ?_, ?_⟩ <;> exact bytes_of_ascii (by decide)

theorem bytes_date (date : Date) :
    bytes date.iso = bytes (padded 4 date.year) ++ code '-' ::
      (bytes (padded 2 date.month) ++ code '-' :: bytes (padded 2 date.day)) := by
  change bytes (padded 4 date.year ++ "-" ++ padded 2 date.month ++ "-" ++ padded 2 date.day) = _
  simp [bytes_append, bytes_marks]

theorem bytes_fractionText (micros : Nat) :
    bytes (fractionText micros) =
      if micros = 0 then [] else code '.' :: bytes (padded 6 micros) := by
  rw [fractionText, apply_ite bytes]
  change (if micros = 0 then bytes "" else bytes ("." ++ padded 6 micros)) = _
  simp only [bytes_append, bytes_marks, List.singleton_append]

theorem bytes_clockText (micros : Nat) :
    bytes (clockText micros) =
      bytes (padded 2 (micros / secondMicros / 3600)) ++ code ':' ::
        (bytes (padded 2 (micros / secondMicros / 60 % 60)) ++ code ':' ::
          (bytes (padded 2 (micros / secondMicros % 60)) ++
            bytes (fractionText (micros % secondMicros)))) := by
  change bytes (padded 2 (micros / secondMicros / 3600) ++ ":" ++
    padded 2 (micros / secondMicros / 60 % 60) ++ ":" ++ padded 2 (micros / secondMicros % 60) ++
      fractionText (micros % secondMicros)) = _
  simp [bytes_append, bytes_marks]

section Clock

variable {micros : Nat}

theorem isNumeral_hour (bounded : micros < dayMicros) :
    IsNumeral 2 (micros / secondMicros / 3600)
      (bytes (padded 2 (micros / secondMicros / 3600))) := by
  apply isNumeral_padded (by decide)
  simp only [dayMicros, secondMicros] at bounded ⊢
  omega

theorem isNumeral_sixtieth (n : Nat) : IsNumeral 2 (n % 60) (bytes (padded 2 (n % 60))) :=
  isNumeral_padded (by decide) (by omega)

theorem isNumeral_fraction (micros : Nat) :
    IsNumeral 6 (micros % secondMicros) (bytes (padded 6 (micros % secondMicros))) :=
  isNumeral_padded (by decide) (Nat.mod_lt _ (by decide))

theorem readTime?_clockText (bounded : micros < dayMicros) (rest : List Nat)
    (ends : isDigit (front rest) = false) :
    readTime? (bytes (clockText micros) ++ rest) (bytes (clockText micros)).length =
      some (.ofMicros micros (front rest != 0)) := by
  have isHour := isNumeral_hour bounded
  have isMinute := isNumeral_sixtieth (micros / secondMicros / 60)
  have isSecond := isNumeral_sixtieth (micros / secondMicros)
  have isFraction := isNumeral_fraction micros
  -- the fraction is left out of the text when it is zero
  by_cases whole : micros % secondMicros = 0
  · have read := readTime?_seconds isHour isMinute isSecond rest
    have length : (bytes (clockText micros)).length = 8 := by
      simp [bytes_clockText, bytes_fractionText, whole, isHour.length, isMinute.length,
        isSecond.length]
    rw [length]
    simpa [bytes_clockText, bytes_fractionText, whole, Time.ofMicros] using read
  · have read := readTime?_fraction isHour isMinute isSecond isFraction rest ends
    have length : (bytes (clockText micros)).length = 15 := by
      simp [bytes_clockText, bytes_fractionText, whole, isHour.length, isMinute.length,
        isSecond.length, isFraction.length]
    rw [length]
    simpa [bytes_clockText, bytes_fractionText, whole, Time.ofMicros] using read

theorem IsNumeral.startsZone_eq_false {width n : Nat} {run : List Nat}
    (isNumeral : IsNumeral width n run) {byte : Nat} (inside : byte ∈ run) :
    startsZone byte = false := by
  have digit := isNumeral.digits byte inside
  simp [startsZone, ne_code_of_isDigit digit (c := '+') (by decide),
    ne_code_of_isDigit digit (c := '-') (by decide),
    ne_code_of_isDigit digit (c := 'Z') (by decide)]

/-- No zone starts in a time. -/
theorem startsZone_of_mem_clockText (bounded : micros < dayMicros) :
    ∀ byte ∈ bytes (clockText micros), startsZone byte = false := by
  intro byte inside
  rw [bytes_clockText, bytes_fractionText] at inside
  simp only [List.mem_append, List.mem_cons] at inside
  rcases inside with hour | rfl | minute | rfl | second | fraction
  · exact (isNumeral_hour bounded).startsZone_eq_false hour
  · decide
  · exact (isNumeral_sixtieth _).startsZone_eq_false minute
  · decide
  · exact (isNumeral_sixtieth _).startsZone_eq_false second
  · split at fraction
    · cases fraction
    · rcases List.mem_cons.mp fraction with rfl | digit
      · decide
      · exact (isNumeral_fraction _).startsZone_eq_false digit

end Clock

end Iso

/-! ## Zones -/

/-- The offset that is read from the text of an offset. -/
def Offset.reread (offset : Offset) : Offset :=
  if offset.micros.natAbs < secondMicros then .utc else offset

namespace Iso

/-- The sign of an offset. -/
def sign (offset : Offset) : Nat :=
  if offset.micros < 0 then code '-' else code '+'

theorem startsZone_sign (offset : Offset) : startsZone (sign offset) := by
  rw [sign]
  split <;> decide

theorem sign_ne_zulu (offset : Offset) : sign offset ≠ code 'Z' := by
  rw [sign]
  split <;> decide

theorem sign_beq_dash (offset : Offset) :
    (sign offset == code '-') = decide (offset.micros < 0) := by
  rw [sign]
  split
  · next negative => simp [negative]
  · next positive =>
    have other : (code '+' == code '-') = false := by decide
    simp [positive, other]

/-- The part of an offset behind its sign. -/
def unsigned (size : Nat) : List Nat :=
  if size % (60 * secondMicros) = 0 then
    bytes (padded 2 (size / secondMicros / 3600)) ++ code ':' ::
      bytes (padded 2 (size / secondMicros / 60 % 60))
  else
    bytes (clockText size)

theorem bytes_offset (offset : Offset) :
    bytes offset.iso = sign offset :: unsigned offset.micros.natAbs := by
  have first : bytes (if offset.micros < 0 then "-" else "+") = [sign offset] := by
    rw [sign]
    split <;> simp [bytes_marks]
  rw [Offset.iso, unsigned]
  split
  · change bytes (_ ++ (padded 2 _ ++ ":" ++ padded 2 _)) = _
    simp [bytes_append, bytes_marks, first]
  · rw [bytes_append, first, List.singleton_append]

theorem readTime?_unsigned {size : Nat} (bounded : size < dayMicros) :
    readTime? (unsigned size) (unsigned size).length = some (.ofMicros size false) := by
  rw [unsigned]
  split
  · next whole =>
    have isHour := isNumeral_hour bounded
    have isMinute := isNumeral_sixtieth (size / secondMicros / 60)
    have read := readTime?_minutes isHour isMinute []
    have second : size / secondMicros % 60 = 0 := by
      simp only [secondMicros] at whole ⊢
      omega
    have fraction : size % secondMicros = 0 := by
      simp only [secondMicros] at whole ⊢
      omega
    rw [List.length_append, List.length_cons, isHour.length, isMinute.length]
    simpa [Time.ofMicros, second, fraction, front] using read
  · simpa [front] using readTime?_clockText bounded [] (by decide)

/-- The sign and the size of an offset give it back, if it is as long as a second. -/
theorem readOffset?_unsigned (offset : Offset) :
    readOffset? (offset.micros < 0) (unsigned offset.micros.natAbs) = some offset.reread := by
  have total : (offset.micros.natAbs / secondMicros : Nat) * (secondMicros : Int) +
      (Time.ofMicros offset.micros.natAbs false).micros = offset.micros.natAbs := by
    rw [← Time.seconds_ofMicros _ false]
    exact_mod_cast Time.total_ofMicros offset.micros.natAbs false
  have signed : (if offset.micros < 0 then -(offset.micros.natAbs : Int)
      else offset.micros.natAbs) = offset.micros := by
    split <;> omega
  have short : offset.micros.natAbs / secondMicros = 0 ↔
      offset.micros.natAbs < secondMicros := by
    simp [Nat.div_eq_zero_iff, secondMicros]
  have noStray : ¬ (Time.ofMicros offset.micros.natAbs false).stray := Bool.false_ne_true
  simp only [readOffset?, readTime?_unsigned offset.bounded, Option.bind_eq_bind,
    Option.bind_some, if_neg noStray, Time.seconds_ofMicros, short, decide_eq_true_eq, total,
    signed, Offset.ofMicros?, offset.bounded, dif_pos]
  rw [Offset.reread, apply_ite some]

theorem isDigit_of_startsZone {byte : Nat} (starts : startsZone byte) : isDigit byte = false := by
  simp only [startsZone, Bool.or_eq_true, beq_iff_eq] at starts
  rcases starts with (rfl | rfl) | rfl <;> decide

/-- A time is read up to its zone, which starts where the numerals and their marks end. -/
theorem readZoned?_clockText {micros : Nat} (bounded : micros < dayMicros)
    (offset : Option Offset) :
    ∃ stray, readZoned? (bytes (clockText micros) ++ bytes ((offset.map Offset.iso).getD "")) =
      some (.ofMicros micros stray, offset.map Offset.reread) := by
  have plain : ∀ byte ∈ bytes (clockText micros), (!startsZone byte) = true := by
    simpa using startsZone_of_mem_clockText bounded
  cases offset with
  | none =>
      have read := readTime?_clockText bounded [] (by decide)
      refine ⟨false, ?_⟩
      rw [List.append_nil] at read
      simp [bytes_marks, readZoned?, List.takeWhile_eq_self_iff.mpr plain, read, front,
        Time.ofMicros]
  | some offset =>
      have starts := startsZone_sign offset
      have read := readTime?_clockText bounded (bytes offset.iso)
        (by rw [bytes_offset]; exact isDigit_of_startsZone starts)
      have cut : (bytes (clockText micros) ++ bytes offset.iso).takeWhile (!startsZone ·) =
          bytes (clockText micros) := by
        rw [List.takeWhile_append_of_pos plain, bytes_offset,
          List.takeWhile_cons_of_neg (by simp [starts]), List.append_nil]
      -- the sign counts as stray behind the time, which matters only without a zone
      refine ⟨front (bytes offset.iso) != 0, ?_⟩
      simp only [Option.map_some, Option.getD_some, readZoned?, cut, read, Option.bind_eq_bind,
        Option.bind_some, List.drop_left]
      simp only [bytes_offset, if_neg (sign_ne_zulu offset), sign_beq_dash,
        readOffset?_unsigned, Option.bind_some]
      rfl

/-! ## Moments -/

theorem bytes_moment (moment : Moment) :
    bytes moment.iso = bytes moment.date.iso ++ code 'T' ::
      (bytes (clockText moment.clock) ++ bytes ((moment.offset.map Offset.iso).getD "")) := by
  change bytes (moment.date.iso ++ "T" ++ clockText moment.clock ++
    (moment.offset.map Offset.iso).getD "") = _
  simp [bytes_append, bytes_marks]

/-- A moment is read back with its offset, unless this is shorter than a second. -/
theorem read?_iso (moment : Moment) :
    read? moment.iso = some { moment with offset := moment.offset.map Offset.reread } := by
  have isYear : IsNumeral 4 moment.date.year (bytes (padded 4 moment.date.year)) :=
    isNumeral_padded (by decide) (Nat.lt_succ_of_le moment.date.year_range.2)
  have isMonth : IsNumeral 2 moment.date.month (bytes (padded 2 moment.date.month)) :=
    isNumeral_padded (by decide) (Nat.lt_of_le_of_lt moment.date.month_range.2 (by decide))
  have isDay : IsNumeral 2 moment.date.day (bytes (padded 2 moment.date.day)) :=
    isNumeral_padded (by decide) (Nat.lt_of_le_of_lt moment.date.day_le (by decide))
  have length : (bytes moment.date.iso).length = 10 := by
    simp [bytes_date, isYear.length, isMonth.length, isDay.length]
  obtain ⟨stray, zoned⟩ := readZoned?_clockText moment.clock_lt moment.offset
  have text := bytes_moment moment
  have behind : (bytes moment.iso).drop 10 = code 'T' ::
      (bytes (clockText moment.clock) ++ bytes ((moment.offset.map Offset.iso).getD "")) := by
    rw [text, List.drop_left' length]
  have separator : characterSize (code 'T') - 1 = 0 := by decide
  rw [bytes_date, List.append_assoc, List.cons_append, List.append_assoc, List.cons_append] at text
  have front : dateLength? (bytes moment.iso) = some 10 := by
    rw [text, dateLength?_dashed isYear isMonth isDay]
  have date : readDate? (bytes moment.iso) 10 = some moment.date := by
    rw [text, readDate?_dashed isYear isMonth isDay, Date.ofParts?_eq_some_iff]
    exact ⟨rfl, rfl, rfl⟩
  simp only [read?, Option.bind_eq_bind, front, date, behind, Option.bind_some, separator,
    List.drop_zero, zoned, momentOf?_ofMicros moment.date moment.clock_lt]

end Iso

/-! ## Texts of moments -/

/-- A text without blanks. -/
def IsSolid (text : String) : Prop :=
  ∀ c ∈ text.toList, isBlank c = false

theorem IsSolid.append {first second : String} (solid : IsSolid first) (next : IsSolid second) :
    IsSolid (first ++ second) := by
  intro c inside
  rw [String.toList_append, List.mem_append] at inside
  exact inside.elim (solid c) (next c)

theorem IsSolid.trimString_eq {text : String} (solid : IsSolid text) : trimString text = text := by
  have start : SolidStart text.toList := fun c first => solid c (List.mem_of_mem_head? first)
  have ending : SolidStart text.toList.reverse := fun c first =>
    solid c (List.mem_reverse.mp (List.mem_of_mem_head? first))
  rw [trimString, trim_eq_self start ending, String.ofList_toList]

theorem isSolid_marks :
    IsSolid "" ∧ IsSolid "-" ∧ IsSolid "+" ∧ IsSolid ":" ∧ IsSolid "." ∧ IsSolid "T" := by
  refine ⟨?_, ?_, ?_, ?_, ?_, ?_⟩ <;> simp [IsSolid] <;> decide

theorem isSolid_padded (width n : Nat) : IsSolid (padded width n) := by
  intro c inside
  rw [toList_padded] at inside
  exact isBlank_of_isDigit (isDigit_of_mem_leftpad inside)

theorem isSolid_date (date : Date) : IsSolid date.iso := by
  obtain ⟨-, dash, -⟩ := isSolid_marks
  exact ((((isSolid_padded 4 date.year).append dash).append
    (isSolid_padded 2 date.month)).append dash).append (isSolid_padded 2 date.day)

theorem isSolid_clockText (micros : Nat) : IsSolid (clockText micros) := by
  obtain ⟨empty, -, -, colon, point, -⟩ := isSolid_marks
  have fraction : IsSolid (fractionText (micros % secondMicros)) := by
    rw [fractionText]
    split
    · exact empty
    · exact point.append (isSolid_padded 6 _)
  exact (((((isSolid_padded 2 _).append colon).append (isSolid_padded 2 _)).append colon).append
    (isSolid_padded 2 _)).append fraction

theorem isSolid_offset (offset : Offset) : IsSolid offset.iso := by
  obtain ⟨-, dash, plus, colon, -⟩ := isSolid_marks
  have sign : IsSolid (if offset.micros < 0 then "-" else "+") := by
    split
    · exact dash
    · exact plus
  rw [Offset.iso]
  split
  · exact sign.append (((isSolid_padded 2 _).append colon).append (isSolid_padded 2 _))
  · exact sign.append (isSolid_clockText _)

theorem isSolid_moment (moment : Moment) : IsSolid moment.iso := by
  obtain ⟨empty, -, -, -, -, mark⟩ := isSolid_marks
  have zone : IsSolid ((moment.offset.map Offset.iso).getD "") := by
    cases moment.offset with
    | none => exact empty
    | some offset => exact isSolid_offset offset
  exact (((isSolid_date moment.date).append mark).append
    (isSolid_clockText moment.clock)).append zone

theorem dash_mem_iso (moment : Moment) : '-' ∈ moment.iso.toList := by
  have inDate : '-' ∈ moment.date.iso.toList := by
    change '-' ∈ (padded 4 _ ++ "-" ++ padded 2 _ ++ "-" ++ padded 2 _).toList
    simp
  change '-' ∈ (moment.date.iso ++ "T" ++ clockText _ ++ _).toList
  simp only [String.toList_append, List.mem_append, inDate, true_or]

/-- What an ISO text of a moment denotes. -/
theorem resolveAbsolute_reread (clock moment : Moment) :
    resolveAbsolute clock moment.iso =
      .ok ({ moment with offset := moment.offset.map Offset.reread }.withDefaultOffset
        clock.offset) := by
  have unwritten : Written.read? moment.iso.toList = none := by
    rw [Written.read?, List.findSome?_eq_none_iff]
    exact Written.readFormat_of_dash (dash_mem_iso moment)
  rw [resolveAbsolute, unwritten, (isSolid_moment moment).trimString_eq, Iso.read?_iso]

theorem Offset.reread_eq_iff {offset : Offset} :
    offset.reread = offset ↔ offset = .utc ∨ secondMicros ≤ offset.micros.natAbs := by
  rw [reread]
  split
  · next short =>
    have notLong : ¬ secondMicros ≤ offset.micros.natAbs := Nat.not_le_of_lt short
    simp only [notLong, or_false, eq_comm]
  · next long => simp [Nat.le_of_not_lt long]

/-- The text of a moment is in no date format and is read back as the moment, in the zone of the
clock if it is local, except that an offset of less than a second is lost. -/
theorem resolveAbsolute_iso_eq_iff (clock moment : Moment) :
    (∀ format ∈ Written.formats,
      Written.readFormat format (Written.clean moment.iso.toList) = none) ∧
    resolveAbsolute clock moment.iso =
      .ok ({ moment with offset := moment.offset.map Offset.reread }.withDefaultOffset
        clock.offset) ∧
    (resolveAbsolute clock moment.iso = .ok (moment.withDefaultOffset clock.offset) ↔
      ∀ offset ∈ moment.offset, offset = .utc ∨ secondMicros ≤ offset.micros.natAbs) := by
  refine ⟨Written.readFormat_of_dash (dash_mem_iso moment), resolveAbsolute_reread clock moment, ?_⟩
  rw [resolveAbsolute_reread, Except.ok.injEq]
  rcases moment with ⟨date, micros, offset, bounded⟩
  cases offset with
  | none => simp
  | some offset => simp [Moment.withDefaultOffset, Offset.reread_eq_iff]

/-- Five seconds past four minutes past three, half a second ahead of universal time. -/
def halfSecondAhead : Moment :=
  .onClock (.on 2026 1 2) 11045000000 (Offset.ofMicros? 500000)

/-- The half second is written and not read. -/
theorem resolveAbsolute_halfSecondAhead_ne :
    halfSecondAhead.iso = "2026-01-02T03:04:05+00:00:00.500000" ∧
      resolveAbsolute (.midnight halfSecondAhead.date (some .utc)) halfSecondAhead.iso =
        .ok { halfSecondAhead with offset := some .utc } ∧
      resolveAbsolute (.midnight halfSecondAhead.date (some .utc)) halfSecondAhead.iso ≠
        .ok (halfSecondAhead.withDefaultOffset (some .utc)) := by
  rw [resolveAbsolute_reread]
  decide +kernel

end BlockQuery.Calendar
