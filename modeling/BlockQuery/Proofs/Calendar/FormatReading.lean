import BlockQuery.Proofs.Calendar.PageTitle
import BlockQuery.Proofs.Text.Letter

/-!
# What the date formats accept

Every piece of a format takes a part from the front of the text.  The parts of two
formats that accept the same text are cut at the same places, because names and
numbers end where something else starts.  So any two formats that accept a text read
the same date from it, and it does not matter in which order the formats are tried.
No piece takes a dash, so no format accepts a text that has one.
-/

namespace BlockQuery.Calendar.Written

open BlockQuery.Text

/-! ## Characters -/

/-- Whether a character stands between the names and the numbers of a date. -/
def isApart (c : Char) : Bool :=
  isBlank c || c == ',' || c == '/'

section Characters

variable {c : Char}

theorem isApart_iff : isApart c ↔ isBlank c ∨ c = ',' ∨ c = '/' := by
  simp [isApart, or_assoc]

theorem isApart_of_isDigit (digit : isDigit c) : isApart c = false := by
  rw [← Bool.not_eq_true, isApart_iff]
  rintro (blank | rfl | rfl)
  · rw [isDigit_of_isBlank blank] at digit
    cases digit
  · revert digit
    decide
  · revert digit
    decide

theorem isApart_of_isLetter (letter : isLetter c) : isApart c = false := by
  rw [← Bool.not_eq_true, isApart_iff]
  rintro (blank | rfl | rfl)
  · rw [isBlank_of_isLetter letter] at blank
    cases blank
  · revert letter
    decide
  · revert letter
    decide

theorem isDigit_of_isDigitIn {low high : Char} (least : 48 ≤ low.toNat) (most : high.toNat ≤ 57)
    (inside : isDigitIn low high c) : isDigit c := by
  simp only [isDigitIn, Bool.and_eq_true, decide_eq_true_eq, Char.le_def,
    UInt32.le_iff_toNat_le] at inside
  change low.toNat ≤ c.toNat ∧ c.toNat ≤ high.toNat at inside
  have listed : (0x30 : Nat) ∈ digitZeros := by decide
  by_contra noDigit
  rw [isDigit, digitValue?, Option.not_isSome_iff_eq_none, List.findSome?_eq_none_iff] at noDigit
  have missed := noDigit 0x30 listed
  rw [if_pos (by omega)] at missed
  cases missed

end Characters

/-! ## Names -/

/-- The letters are the name of a month, in any case. -/
def IsName (nameOf : Nat → String) (month : Nat) (letters : List Char) : Prop :=
  letters.map Char.toLower = (nameOf month).toList.map Char.toLower

section Names

variable {month : Nat} {letters : List Char}

theorem mem_nameReadings_iff {nameOf : Nat → String} {text rest : List Char} :
    (month, rest) ∈ nameReadings nameOf text ↔
      (1 ≤ month ∧ month ≤ 12) ∧
        ∃ letters, text = letters ++ rest ∧ IsName nameOf month letters := by
  simp only [nameReadings, List.mem_filterMap, Option.map_eq_some_iff, dropStart?_eq_some_iff,
    Prod.mk.injEq, List.mem_range'_1]
  constructor
  · rintro ⟨found, range, tail, split, rfl, rfl⟩
    refine ⟨by omega, text.take (nameOf found).toList.length, by simp, ?_⟩
    rw [IsName, List.map_take, split, List.take_left']
    simp
  · rintro ⟨range, letters, rfl, named⟩
    have length : (nameOf month).toList.length = letters.length := by
      simpa using congrArg List.length named.symm
    refine ⟨month, by omega, rest.map Char.toLower, ?_, rfl, ?_⟩
    · rw [List.map_append, named]
    · rw [length, List.drop_left]

/-- The names of all months, in full and short, with the numbers of the months. -/
def allNames : List (Nat × List Char) :=
  (List.range' 1 12).flatMap fun month =>
    [(month, (monthName month).toList.map Char.toLower),
     (month, (shortMonthName month).toList.map Char.toLower)]

theorem letters_allNames : allNames.all fun name => !name.2.isEmpty && name.2.all isLetter := by
  decide

/-- A name belongs to one month only, also when full names and short ones are mixed. -/
theorem allNames_month :
    allNames.all fun name => allNames.all fun other => name.2 != other.2 || name.1 == other.1 := by
  decide

/-- The letters name the month in full or short. -/
def Names (month : Nat) (letters : List Char) : Prop :=
  (month, letters.map Char.toLower) ∈ allNames

theorem names_of_isName {nameOf : Nat → String} (way : nameOf = monthName ∨ nameOf = shortMonthName)
    (range : 1 ≤ month ∧ month ≤ 12) (named : IsName nameOf month letters) :
    Names month letters := by
  have listed : month ∈ List.range' 1 12 := by
    rw [List.mem_range'_1]
    omega
  rw [Names, named]
  apply List.mem_flatMap_of_mem listed
  rcases way with rfl | rfl
  · exact List.mem_cons_self
  · exact List.mem_cons_of_mem _ List.mem_cons_self

theorem Names.ne_nil (named : Names month letters) : letters ≠ [] := by
  rintro rfl
  have solid := List.all_eq_true.mp letters_allNames _ named
  simp at solid

theorem Names.isLetter_of_mem (named : Names month letters) : ∀ c ∈ letters, isLetter c := by
  have solid := List.all_eq_true.mp letters_allNames _ named
  rw [Bool.and_eq_true] at solid
  intro c inName
  exact isLetter_of_toLower
    (List.all_eq_true.mp solid.2 c.toLower (List.mem_map_of_mem inName))

theorem Names.month_eq {other : Nat} (named : Names month letters)
    (otherwise : Names other letters) : month = other := by
  have same := List.all_eq_true.mp (List.all_eq_true.mp allNames_month _ named) _ otherwise
  simpa using same

end Names

/-! ## Numbers -/

section Numbers

variable {text rest : List Char}

/-- The tests of a form are passed by the characters that they meet. -/
theorem forall₂_take_iff {form : List (Char → Bool)} :
    List.Forall₂ (fun test c => test c = true) form (text.take form.length) ↔
      form.length ≤ text.length ∧ (List.zipWith (fun test c => test c) form text).all id := by
  induction form generalizing text with
  | nil => simp
  | cons test form ih =>
      cases text with
      | nil => simp
      | cons c text => simp [ih, and_left_comm]

theorem formed_eq_some_iff {form : List (Char → Bool)} {n : Nat} :
    formed form text = some (n, rest) ↔
      ∃ part, text = part ++ rest ∧ decimal part = n ∧
        List.Forall₂ (fun test c => test c = true) form part := by
  rw [formed]
  constructor
  · intro found
    split at found
    · next passed =>
      cases found
      exact ⟨text.take form.length, by simp, rfl, forall₂_take_iff.mpr passed⟩
    · cases found
  · rintro ⟨part, rfl, rfl, passed⟩
    have length : form.length = part.length := passed.length_eq
    have front : (part ++ rest).take form.length = part := by rw [length, List.take_left]
    have behind : (part ++ rest).drop form.length = rest := by rw [length, List.drop_left]
    rw [← front] at passed
    rw [if_pos (forall₂_take_iff.mp passed), numeral, front, behind]

/-- A number of one or two digits. -/
structure IsShortNumber (part : List Char) : Prop where
  nonempty : part ≠ []
  short : part.length ≤ 2
  digits : ∀ c ∈ part, isDigit c

/-- A number of one or two digits, or a blank and a digit. -/
def IsDayNumber (part : List Char) : Prop :=
  IsShortNumber part ∨ ∃ c, isDigit c ∧ part = [' ', c]

/-- Only digits pass the test. -/
def TestsDigit (test : Char → Bool) : Prop :=
  ∀ c, test c → isDigit c

theorem testsDigit_isDigit : TestsDigit Text.isDigit :=
  fun _ digit => digit

theorem testsDigit_isDigitIn {low high : Char} (least : 48 ≤ low.toNat) (most : high.toNat ≤ 57) :
    TestsDigit (isDigitIn low high) :=
  fun _ inside => isDigit_of_isDigitIn least most inside

theorem testsDigit_beq {d : Char} (digit : isDigit d) : TestsDigit (· == d) := by
  intro c same
  rw [beq_iff_eq] at same
  rwa [same]

theorem isDigit_of_passed {form : List (Char → Bool)} {part : List Char}
    (passed : List.Forall₂ (fun test c => test c = true) form part)
    (tests : ∀ test ∈ form, TestsDigit test) : ∀ c ∈ part, isDigit c := by
  induction passed with
  | nil => simp
  | cons passes _ ih =>
      rw [List.forall_mem_cons] at tests ⊢
      exact ⟨tests.1 _ passes, ih tests.2⟩

/-- A form of one or two tests for digits finds a short number. -/
theorem isShortNumber_of_formed {form : List (Char → Bool)} {n : Nat}
    (read : formed form text = some (n, rest)) (nonempty : form ≠ []) (short : form.length ≤ 2)
    (tests : ∀ test ∈ form, TestsDigit test) :
    ∃ part, text = part ++ rest ∧ decimal part = n ∧ IsShortNumber part := by
  obtain ⟨part, split, value, passed⟩ := formed_eq_some_iff.mp read
  have length := passed.length_eq
  refine ⟨part, split, value, ?_, by omega, isDigit_of_passed passed tests⟩
  rintro rfl
  exact nonempty (List.forall₂_nil_right_iff.mp passed)

theorem isShortNumber_of_one {test : Char → Bool} {n : Nat}
    (read : formed [test] text = some (n, rest)) (digit : TestsDigit test) :
    ∃ part, text = part ++ rest ∧ decimal part = n ∧ IsShortNumber part :=
  isShortNumber_of_formed read (by simp) (by simp) (by simpa using digit)

theorem isShortNumber_of_two {first second : Char → Bool} {n : Nat}
    (read : formed [first, second] text = some (n, rest)) (digit : TestsDigit first)
    (other : TestsDigit second) :
    ∃ part, text = part ++ rest ∧ decimal part = n ∧ IsShortNumber part :=
  isShortNumber_of_formed read (by simp) (by simp) (by simpa using ⟨digit, other⟩)

theorem exists_part_of_mem_monthReadings {month : Nat} (read : (month, rest) ∈ monthReadings text) :
    ∃ part, text = part ++ rest ∧ decimal part = month ∧ IsShortNumber part := by
  simp only [monthReadings, List.mem_filterMap, id, List.mem_cons, List.not_mem_nil, or_false,
    exists_eq_or_imp, exists_eq_left] at read
  rcases read with ten | padded | single
  · exact isShortNumber_of_two ten (testsDigit_beq (by decide))
      (testsDigit_isDigitIn (by decide) (by decide))
  · exact isShortNumber_of_two padded (testsDigit_beq (by decide))
      (testsDigit_isDigitIn (by decide) (by decide))
  · exact isShortNumber_of_one single (testsDigit_isDigitIn (by decide) (by decide))

theorem exists_part_of_mem_dayReadings {day : Nat} (read : (day, rest) ∈ dayReadings text) :
    ∃ part, text = part ++ rest ∧ decimal part = day ∧ IsDayNumber part := by
  have short : (∃ part, text = part ++ rest ∧ decimal part = day ∧ IsShortNumber part) →
      ∃ part, text = part ++ rest ∧ decimal part = day ∧ IsDayNumber part := by
    rintro ⟨part, split, value, number⟩
    exact ⟨part, split, value, .inl number⟩
  simp only [dayReadings, List.mem_filterMap, id, List.mem_cons, List.not_mem_nil, or_false,
    exists_eq_or_imp, exists_eq_left] at read
  rcases read with thirty | tens | padded | single | blank
  · exact short (isShortNumber_of_two thirty (testsDigit_beq (by decide))
      (testsDigit_isDigitIn (by decide) (by decide)))
  · exact short (isShortNumber_of_two tens (testsDigit_isDigitIn (by decide) (by decide))
      testsDigit_isDigit)
  · exact short (isShortNumber_of_two padded (testsDigit_beq (by decide))
      (testsDigit_isDigitIn (by decide) (by decide)))
  · exact short (isShortNumber_of_one single (testsDigit_isDigitIn (by decide) (by decide)))
  · obtain ⟨part, split, value, passed⟩ := formed_eq_some_iff.mp blank
    obtain ⟨a, tail, space, passedTail, rfl⟩ := List.forall₂_cons_left_iff.mp passed
    obtain ⟨b, others, digit, passedOthers, rfl⟩ := List.forall₂_cons_left_iff.mp passedTail
    cases passedOthers
    rw [beq_iff_eq] at space
    subst space
    exact ⟨_, split, value, .inr ⟨b, isDigit_of_isDigitIn (by decide) (by decide) digit, rfl⟩⟩

end Numbers

/-! ## Pieces -/

/-- A piece takes a part of a text and notes what it says. -/
inductive Takes : Piece → Fields → List Char → Fields → Prop
  | monthName {found : Fields} {month : Nat} {part : List Char} :
      Names month part → Takes .monthName found part { found with month := month }
  | shortMonthName {found : Fields} {month : Nat} {part : List Char} :
      Names month part → Takes .shortMonthName found part { found with month := month }
  | month {found : Fields} {part : List Char} :
      IsShortNumber part → Takes .month found part { found with month := decimal part }
  | day {found : Fields} {part : List Char} :
      IsDayNumber part → Takes .day found part { found with day := decimal part }
  | year {found : Fields} {part : List Char} :
      part.length = 4 → (∀ c ∈ part, isDigit c) →
      Takes .year found part { found with year := decimal part }
  | blanks {found : Fields} {part : List Char} :
      part ≠ [] → Blanks part → Takes .blanks found part found
  | char {found : Fields} {c : Char} : Takes (.char c) found [c] found

/-- What a piece reads is the part that it takes.  Blanks are taken as far as they go. -/
theorem exists_takes_of_mem_readings {piece : Piece} {found next : Fields} {text rest : List Char}
    (read : (next, rest) ∈ piece.readings found text) :
    ∃ part, text = part ++ rest ∧ Takes piece found part next ∧
      (piece = .blanks → SolidStart rest) := by
  cases piece with
  | monthName =>
      simp only [Piece.readings, List.mem_map, Prod.mk.injEq] at read
      obtain ⟨⟨month, behind⟩, named, rfl, rfl⟩ := read
      obtain ⟨range, part, split, isName⟩ := mem_nameReadings_iff.mp named
      exact ⟨part, split, .monthName (names_of_isName (.inl rfl) range isName), by simp⟩
  | shortMonthName =>
      simp only [Piece.readings, List.mem_map, Prod.mk.injEq] at read
      obtain ⟨⟨month, behind⟩, named, rfl, rfl⟩ := read
      obtain ⟨range, part, split, isName⟩ := mem_nameReadings_iff.mp named
      exact ⟨part, split, .shortMonthName (names_of_isName (.inr rfl) range isName), by simp⟩
  | month =>
      simp only [Piece.readings, List.mem_map, Prod.mk.injEq] at read
      obtain ⟨⟨month, behind⟩, numbered, rfl, rfl⟩ := read
      obtain ⟨part, split, rfl, number⟩ := exists_part_of_mem_monthReadings numbered
      exact ⟨part, split, .month number, by simp⟩
  | day =>
      simp only [Piece.readings, List.mem_map, Prod.mk.injEq] at read
      obtain ⟨⟨day, behind⟩, numbered, rfl, rfl⟩ := read
      obtain ⟨part, split, rfl, number⟩ := exists_part_of_mem_dayReadings numbered
      exact ⟨part, split, .day number, by simp⟩
  | year =>
      simp only [Piece.readings, List.mem_map, Option.mem_toList, Prod.mk.injEq] at read
      obtain ⟨⟨year, behind⟩, numbered, rfl, rfl⟩ := read
      obtain ⟨part, split, rfl, passed⟩ := formed_eq_some_iff.mp numbered
      have four : part.length = 4 := passed.length_eq.symm
      have digits : ∀ c ∈ part, isDigit c := by
        apply isDigit_of_passed passed
        intro test listed
        rw [List.eq_of_mem_replicate listed]
        exact testsDigit_isDigit
      exact ⟨part, split, .year four digits, by simp⟩
  | blanks =>
      simp only [Piece.readings] at read
      split at read
      · next blank =>
        obtain ⟨rfl, rfl⟩ : next = found ∧ rest = trimLeft text := by simpa using read
        obtain ⟨part, blanks, split⟩ := exists_blanks_trimLeft text
        have solid := solidStart_trimLeft text
        refine ⟨part, split, .blanks ?_ blanks, fun _ => solid⟩
        rintro rfl
        rw [List.nil_append] at split
        obtain ⟨c, first, isBlank⟩ := Option.any_eq_true _ _ |>.mp blank
        rw [split] at first
        rw [solid c first] at isBlank
        cases isBlank
      · cases read
  | char c =>
      simp only [Piece.readings, List.mem_map, Option.mem_toList, Prod.mk.injEq] at read
      obtain ⟨behind, dropped, rfl, rfl⟩ := read
      exact ⟨[c], dropStart?_eq_some_iff.mp dropped, .char, by simp⟩

theorem exists_takes_of_readPieces {piece : Piece} {pieces : List Piece} {found : Fields}
    {text : List Char} {result : Fields × List Char}
    (read : readPieces (piece :: pieces) found text = some result) :
    ∃ part rest next, text = part ++ rest ∧ Takes piece found part next ∧
      (piece = .blanks → SolidStart rest) ∧ readPieces pieces next rest = some result := by
  rw [readPieces] at read
  obtain ⟨⟨next, rest⟩, reading, goesOn⟩ := List.exists_of_findSome?_eq_some read
  obtain ⟨part, split, takes, blanks⟩ := exists_takes_of_mem_readings reading
  exact ⟨part, rest, next, split, takes, blanks, goesOn⟩

/-! ## Cuts -/

/-- Two cuts of a text are the same if each is made where the characters begin to have a
property. -/
theorem cut_unique {test : Char → Bool} {first second rest other : List Char}
    (before : ∀ c ∈ first, test c = false) (behind : ∀ c ∈ rest.head?, test c)
    (beforeOther : ∀ c ∈ second, test c = false) (behindOther : ∀ c ∈ other.head?, test c)
    (same : first ++ rest = second ++ other) : first = second ∧ rest = other := by
  induction first generalizing second with
  | nil =>
      cases second with
      | nil => exact ⟨rfl, same⟩
      | cons d second =>
          rw [List.nil_append, List.cons_append] at same
          rw [same] at behind
          have both := behind d rfl
          rw [beforeOther d List.mem_cons_self] at both
          cases both
  | cons c first ih =>
      cases second with
      | nil =>
          rw [List.nil_append, List.cons_append] at same
          rw [← same] at behindOther
          have both := behindOther c rfl
          rw [before c List.mem_cons_self] at both
          cases both
      | cons d second =>
          rw [List.forall_mem_cons] at before beforeOther
          rw [List.cons_append, List.cons_append, List.cons.injEq] at same
          obtain ⟨rfl, behindSame⟩ := ih before.2 beforeOther.2 same.2
          exact ⟨by rw [same.1], behindSame⟩

/-- The same piece, with all names short. -/
def Piece.abbreviate : Piece → Piece
  | monthName => shortMonthName
  | piece => piece

/-- Whether a piece is a name or a number of one or two digits, which ends where the text goes on
with something else. -/
def Piece.isOpen : Piece → Bool
  | monthName | shortMonthName | month | day => true
  | _ => false

/-- A day with a blank in front is not cut anywhere else, because no other day starts so. -/
theorem IsDayNumber.unique {part other rest behind : List Char} (number : IsDayNumber part)
    (otherNumber : IsDayNumber other) (ends : ∀ c ∈ rest.head?, isApart c)
    (otherEnds : ∀ c ∈ behind.head?, isApart c) (same : part ++ rest = other ++ behind) :
    part = other ∧ rest = behind := by
  have space : isDigit ' ' = false := by decide
  rcases number with short | ⟨c, -, rfl⟩ <;> rcases otherNumber with otherShort | ⟨d, -, rfl⟩
  · exact cut_unique (fun c inPart => isApart_of_isDigit (short.digits c inPart)) ends
      (fun c inPart => isApart_of_isDigit (otherShort.digits c inPart)) otherEnds same
  · obtain ⟨c, tail, rfl⟩ := List.exists_cons_of_ne_nil short.nonempty
    obtain ⟨rfl, -⟩ : c = ' ' ∧ _ := by simpa using same
    rw [short.digits ' ' List.mem_cons_self] at space
    cases space
  · obtain ⟨d, tail, rfl⟩ := List.exists_cons_of_ne_nil otherShort.nonempty
    obtain ⟨rfl, -⟩ : ' ' = d ∧ _ := by simpa using same
    rw [otherShort.digits ' ' List.mem_cons_self] at space
    cases space
  · exact List.append_inj same rfl

/-- Pieces of one kind take the same part from a text, if it ends where something else starts, and
note the same. -/
theorem Takes.unique {piece other : Piece} {found next otherNext : Fields}
    {part otherPart rest behind : List Char} (takes : Takes piece found part next)
    (otherTakes : Takes other found otherPart otherNext)
    (alike : piece.abbreviate = other.abbreviate)
    (blanks : piece = .blanks → SolidStart rest) (otherBlanks : other = .blanks → SolidStart behind)
    (ends : piece.isOpen → ∀ c ∈ rest.head?, isApart c)
    (otherEnds : other.isOpen → ∀ c ∈ behind.head?, isApart c)
    (same : part ++ rest = otherPart ++ behind) : next = otherNext ∧ rest = behind := by
  have named {month otherMonth : Nat} (first : Names month part)
      (second : Names otherMonth otherPart) (firstEnds : ∀ c ∈ rest.head?, isApart c)
      (secondEnds : ∀ c ∈ behind.head?, isApart c) : month = otherMonth ∧ rest = behind := by
    obtain ⟨rfl, behindSame⟩ := cut_unique
      (fun c inName => isApart_of_isLetter (first.isLetter_of_mem c inName)) firstEnds
      (fun c inName => isApart_of_isLetter (second.isLetter_of_mem c inName)) secondEnds same
    exact ⟨first.month_eq second, behindSame⟩
  cases takes with
  | monthName name | shortMonthName name =>
      cases otherTakes with
      | monthName otherName | shortMonthName otherName =>
          obtain ⟨rfl, behindSame⟩ := named name otherName (ends rfl) (otherEnds rfl)
          exact ⟨rfl, behindSame⟩
      | _ => cases alike
  | month number =>
      cases otherTakes with
      | month otherNumber =>
          obtain ⟨rfl, behindSame⟩ := IsDayNumber.unique (.inl number) (.inl otherNumber)
            (ends rfl) (otherEnds rfl) same
          exact ⟨rfl, behindSame⟩
      | _ => cases alike
  | day number =>
      cases otherTakes with
      | day otherNumber =>
          obtain ⟨rfl, behindSame⟩ := number.unique otherNumber (ends rfl) (otherEnds rfl) same
          exact ⟨rfl, behindSame⟩
      | _ => cases alike
  | year four digits =>
      cases otherTakes with
      | year otherFour otherDigits =>
          obtain ⟨rfl, behindSame⟩ := List.append_inj same (four.trans otherFour.symm)
          exact ⟨rfl, behindSame⟩
      | _ => cases alike
  | blanks nonempty blank =>
      cases otherTakes with
      | blanks otherNonempty otherBlank =>
          have left := trimLeft_append_solid blank (blanks rfl)
          have right := trimLeft_append_solid otherBlank (otherBlanks rfl)
          rw [same] at left
          exact ⟨rfl, left.symm.trans right⟩
      | _ => cases alike
  | char =>
      cases otherTakes with
      | char =>
          cases alike
          exact ⟨rfl, List.append_cancel_left same⟩
      | _ => cases alike

/-! ## Formats -/

/-- Whether pieces end at once or start with something between names and numbers. -/
def startsApart : List Piece → Bool
  | [] => true
  | .blanks :: _ => true
  | .char c :: _ => isApart c
  | _ => false

/-- Whether every name and every short number is followed by something else. -/
def isSeparated : List Piece → Bool
  | [] => true
  | piece :: pieces => (!piece.isOpen || startsApart pieces) && isSeparated pieces

theorem isSeparated_formats : formats.all isSeparated := by
  decide

section Complete

variable {pieces others : List Piece} {found result otherResult : Fields} {text : List Char}

theorem isApart_of_startsApart (starts : startsApart pieces)
    (read : readPieces pieces found text = some (result, [])) : ∀ c ∈ text.head?, isApart c := by
  cases pieces with
  | nil =>
      cases read
      simp
  | cons piece pieces =>
      obtain ⟨part, rest, next, rfl, takes, -, -⟩ := exists_takes_of_readPieces read
      cases takes with
      | blanks nonempty blank =>
          obtain ⟨d, tail, rfl⟩ := List.exists_cons_of_ne_nil nonempty
          intro c first
          cases first
          exact isApart_iff.mpr (.inl (blanks_cons.mp blank).1)
      | char =>
          intro c first
          cases first
          exact starts
      | _ => cases starts

theorem startsApart_abbreviate (pieces : List Piece) :
    startsApart (pieces.map Piece.abbreviate) = startsApart pieces := by
  cases pieces with
  | nil => rfl
  | cons piece pieces => cases piece <;> rfl

theorem isOpen_abbreviate (piece : Piece) : piece.abbreviate.isOpen = piece.isOpen := by
  cases piece <;> rfl

/-- Formats of one kind read the same from a text.  The induction is on the pieces; each pair takes
the same part, so the rest is the same text again. -/
theorem readPieces_alike (separated : isSeparated pieces)
    (alike : pieces.map Piece.abbreviate = others.map Piece.abbreviate)
    (read : readPieces pieces found text = some (result, []))
    (otherRead : readPieces others found text = some (otherResult, [])) :
    result = otherResult := by
  induction pieces generalizing others found text with
  | nil =>
      obtain rfl : others = [] := by simpa using alike.symm
      rw [read] at otherRead
      cases otherRead
      rfl
  | cons piece pieces ih =>
      cases others with
      | nil => cases alike
      | cons other others =>
          rw [List.map_cons, List.map_cons, List.cons.injEq] at alike
          rw [isSeparated, Bool.and_eq_true, Bool.or_eq_true, Bool.not_eq_true'] at separated
          obtain ⟨closed, later⟩ := separated
          obtain ⟨part, rest, next, rfl, takes, blanks, goesOn⟩ := exists_takes_of_readPieces read
          obtain ⟨otherPart, behind, otherNext, same, otherTakes, otherBlanks, otherGoesOn⟩ :=
            exists_takes_of_readPieces otherRead
          have starts (isOpen : piece.isOpen) : startsApart pieces := by
            rcases closed with notOpen | starts
            · rw [isOpen] at notOpen
              cases notOpen
            · exact starts
          have otherStarts (isOpen : other.isOpen) : startsApart others := by
            rw [← startsApart_abbreviate, ← alike.2, startsApart_abbreviate]
            apply starts
            rw [← isOpen_abbreviate, alike.1, isOpen_abbreviate, isOpen]
          obtain ⟨rfl, rfl⟩ := takes.unique otherTakes alike.1 blanks otherBlanks
            (fun isOpen => isApart_of_startsApart (starts isOpen) goesOn)
            (fun isOpen => isApart_of_startsApart (otherStarts isOpen) otherGoesOn) same
          exact ih later alike.2 goesOn otherGoesOn

end Complete

/-! ## Kinds of formats -/

/-- Whether a piece is a name. -/
def Piece.isName : Piece → Bool
  | monthName | shortMonthName => true
  | _ => false

/-- Whether a piece is a name or a number. -/
def Piece.isSolid : Piece → Bool
  | blanks | char _ => false
  | _ => true

/-- What tells one kind of format from another: a comma, a slash, a name at the start, a year at
the start. -/
structure Kind where
  comma : Bool
  slash : Bool
  nameFirst : Bool
  yearFirst : Bool
deriving DecidableEq

/-- The kind of a format. -/
def kindOf (pieces : List Piece) : Kind where
  comma := .char ',' ∈ pieces
  slash := .char '/' ∈ pieces
  nameFirst := pieces.head?.any Piece.isName
  yearFirst := pieces.head? = some .year

/-- The kind of format that a text calls for. -/
def kindOfText (text : List Char) : Kind where
  comma := ',' ∈ text
  slash := '/' ∈ text
  nameFirst := text.head?.any isLetter
  yearFirst := 3 ≤ (text.takeWhile isDigit).length

/-- Formats of one kind differ in the length of the names only. -/
theorem alike_formats :
    formats.all fun first => formats.all fun second =>
      kindOf first != kindOf second ||
        first.map Piece.abbreviate == second.map Piece.abbreviate := by
  decide

section Kinds

variable {piece : Piece} {pieces : List Piece} {found next result : Fields} {part text : List Char}

/-- The characters that a piece takes. -/
theorem Takes.of_mem {c : Char} (takes : Takes piece found part next) (inside : c ∈ part) :
    isLetter c ∨ isDigit c ∨ isBlank c ∨ piece = .char c := by
  cases takes with
  | monthName name | shortMonthName name => exact .inl (name.isLetter_of_mem c inside)
  | month number => exact .inr (.inl (number.digits c inside))
  | day number =>
      rcases number with short | ⟨d, digit, rfl⟩
      · exact .inr (.inl (short.digits c inside))
      · rw [List.mem_cons, List.mem_singleton] at inside
        rcases inside with rfl | rfl
        · exact .inr (.inr (.inl rfl))
        · exact .inr (.inl digit)
  | year four digits => exact .inr (.inl (digits c inside))
  | blanks nonempty blank => exact .inr (.inr (.inl (List.all_eq_true.mp blank c inside)))
  | char =>
      rw [List.mem_singleton] at inside
      exact .inr (.inr (.inr (by rw [inside])))

theorem Takes.mem_mark_iff {mark : Char} (isMark : mark = ',' ∨ mark = '/')
    (takes : Takes piece found part next) : mark ∈ part ↔ piece = .char mark := by
  constructor
  · intro inside
    have plain : isLetter mark = false ∧ isDigit mark = false ∧ isBlank mark = false := by
      rcases isMark with rfl | rfl <;> decide
    have found := takes.of_mem inside
    rw [plain.1, plain.2.1, plain.2.2] at found
    simpa using found
  · rintro rfl
    cases takes
    exact List.mem_singleton_self mark

/-- A mark is in a text exactly when it is a piece of the format. -/
theorem mem_mark_iff {mark : Char} (isMark : mark = ',' ∨ mark = '/')
    (read : readPieces pieces found text = some (result, [])) :
    mark ∈ text ↔ .char mark ∈ pieces := by
  induction pieces generalizing found text with
  | nil =>
      cases read
      simp
  | cons piece pieces ih =>
      obtain ⟨part, rest, next, rfl, takes, -, goesOn⟩ := exists_takes_of_readPieces read
      rw [List.mem_append, List.mem_cons, takes.mem_mark_iff isMark, ih goesOn, eq_comm]

/-- The characters of a text that is read to its end. -/
theorem of_mem_readPieces {c : Char} (read : readPieces pieces found text = some (result, []))
    (inside : c ∈ text) : isLetter c ∨ isDigit c ∨ isBlank c ∨ .char c ∈ pieces := by
  induction pieces generalizing found text with
  | nil =>
      cases read
      cases inside
  | cons piece pieces ih =>
      obtain ⟨part, rest, next, rfl, takes, -, goesOn⟩ := exists_takes_of_readPieces read
      rw [List.mem_cons, eq_comm]
      rcases List.mem_append.mp inside with inPart | inRest
      · have found := takes.of_mem inPart
        tauto
      · have found := ih goesOn inRest
        tauto

/-- The first character tells whether a name or a number comes first. -/
theorem any_isLetter_eq (solid : piece.isSolid)
    (read : readPieces (piece :: pieces) found text = some (result, [])) :
    text.head?.any isLetter = piece.isName := by
  obtain ⟨part, rest, next, rfl, takes, -, -⟩ := exists_takes_of_readPieces read
  have digit {c : Char} (isDigit : Text.isDigit c) : isLetter c = false := by
    by_contra letter
    rw [isDigit_of_isLetter (by simpa using letter)] at isDigit
    cases isDigit
  cases takes with
  | monthName name | shortMonthName name =>
      obtain ⟨c, tail, rfl⟩ := List.exists_cons_of_ne_nil name.ne_nil
      exact name.isLetter_of_mem c List.mem_cons_self
  | month number =>
      obtain ⟨c, tail, rfl⟩ := List.exists_cons_of_ne_nil number.nonempty
      exact digit (number.digits c List.mem_cons_self)
  | day number =>
      rcases number with number | ⟨c, -, rfl⟩
      · obtain ⟨c, tail, rfl⟩ := List.exists_cons_of_ne_nil number.nonempty
        exact digit (number.digits c List.mem_cons_self)
      · rfl
  | year four digits =>
      have nonempty : part ≠ [] := List.ne_nil_of_length_pos (by omega)
      obtain ⟨c, tail, rfl⟩ := List.exists_cons_of_ne_nil nonempty
      exact digit (digits c List.mem_cons_self)
  | blanks | char => cases solid

theorem takeWhile_isDigit_of_apart {rest : List Char} (ends : ∀ c ∈ rest.head?, isApart c) :
    rest.takeWhile isDigit = [] := by
  cases rest with
  | nil => rfl
  | cons c rest =>
      apply List.takeWhile_cons_of_neg
      intro digit
      have apart := ends c rfl
      rw [isApart_of_isDigit digit] at apart
      cases apart

/-- Only a year starts a text with more than two digits. -/
theorem three_le_iff (solid : piece.isSolid) (separated : isSeparated (piece :: pieces))
    (read : readPieces (piece :: pieces) found text = some (result, [])) :
    3 ≤ (text.takeWhile isDigit).length ↔ piece = .year := by
  obtain ⟨part, rest, next, rfl, takes, -, goesOn⟩ := exists_takes_of_readPieces read
  rw [isSeparated, Bool.and_eq_true] at separated
  have short (number : IsShortNumber part) (starts : startsApart pieces) :
      ¬ 3 ≤ ((part ++ rest).takeWhile isDigit).length := by
    have few := number.short
    rw [List.takeWhile_append_of_pos number.digits,
      takeWhile_isDigit_of_apart (isApart_of_startsApart starts goesOn), List.append_nil]
    omega
  cases takes with
  | monthName name | shortMonthName name =>
      obtain ⟨c, tail, rfl⟩ := List.exists_cons_of_ne_nil name.ne_nil
      have noDigit := isDigit_of_isLetter (name.isLetter_of_mem c List.mem_cons_self)
      simp [noDigit]
  | month number => simpa using short number separated.1
  | day number =>
      rcases number with number | ⟨c, -, rfl⟩
      · simpa using short number separated.1
      · have noDigit : isDigit ' ' = false := by decide
        simp [noDigit]
  | year four digits =>
      rw [List.takeWhile_append_of_pos digits, List.length_append]
      simp
      omega
  | blanks | char => cases solid

/-- A text is of the kind of the formats that accept it. -/
theorem kindOf_eq_kindOfText (solid : pieces.head?.any Piece.isSolid)
    (separated : isSeparated pieces)
    (read : readPieces pieces found text = some (result, [])) :
    kindOf pieces = kindOfText text := by
  cases pieces with
  | nil => cases solid
  | cons piece pieces =>
      have comma := mem_mark_iff (.inl rfl) read
      have slash := mem_mark_iff (.inr rfl) read
      have name := any_isLetter_eq solid read
      have year := three_le_iff solid separated read
      simp only [kindOf, kindOfText, Kind.mk.injEq]
      refine ⟨?_, ?_, ?_, ?_⟩
      · simp only [comma]
      · simp only [slash]
      · exact name.symm
      · simp only [year, List.head?_cons, Option.some.injEq]

end Kinds

/-! ## Readings -/

section Readings

variable {first second : List Piece} {text : List Char} {date other : Date}

theorem readFormat_eq_some_iff {format : List Piece} :
    readFormat format text = some date ↔
      readPieces format {} text = some (⟨date.year, date.month, date.day⟩, []) := by
  rw [readFormat]
  constructor
  · intro read
    split at read
    · next found complete =>
      obtain ⟨year, month, day⟩ := Date.ofParts?_eq_some_iff.mp read
      rw [complete, year, month, day]
    · cases read
  · intro complete
    rw [complete]
    exact Date.ofParts?_eq_some_iff.mpr ⟨rfl, rfl, rfl⟩

theorem isSolid_formats : formats.all fun format => format.head?.any Piece.isSolid := by
  decide

/-- Two formats that accept a text read the same date from it. -/
theorem readFormat_unique (firstListed : first ∈ formats) (secondListed : second ∈ formats)
    (read : readFormat first text = some date) (otherRead : readFormat second text = some other) :
    date = other := by
  have separated := List.all_eq_true.mp isSeparated_formats
  have solid := List.all_eq_true.mp isSolid_formats
  rw [readFormat_eq_some_iff] at read otherRead
  have kinds : kindOf first = kindOf second := by
    rw [kindOf_eq_kindOfText (solid first firstListed) (separated first firstListed) read,
      kindOf_eq_kindOfText (solid second secondListed) (separated second secondListed) otherRead]
  have alike : first.map Piece.abbreviate = second.map Piece.abbreviate := by
    have compared := List.all_eq_true.mp
      (List.all_eq_true.mp alike_formats first firstListed) second secondListed
    simpa [kinds] using compared
  have fields := readPieces_alike (separated first firstListed) alike read otherRead
  have parts : Date.ofParts? date.year date.month date.day = some other := by
    rw [Fields.mk.injEq] at fields
    exact Date.ofParts?_eq_some_iff.mpr
      ⟨fields.1.symm, fields.2.1.symm, fields.2.2.symm⟩
  rw [Date.ofParts?_eq_some_iff.mpr ⟨rfl, rfl, rfl⟩] at parts
  exact Option.some.inj parts

/-- Some of the formats, in any order, read what one of them reads. -/
theorem findSome?_readFormat_iff {order : List (List Piece)} (listed : order ⊆ formats) :
    order.findSome? (readFormat · text) = some date ↔
      ∃ format ∈ order, readFormat format text = some date := by
  constructor
  · exact List.exists_of_findSome?_eq_some
  · rintro ⟨format, inOrder, read⟩
    cases found : order.findSome? (readFormat · text) with
    | none =>
        rw [List.findSome?_eq_none_iff.mp found format inOrder] at read
        cases read
    | some other =>
        obtain ⟨earlier, inFront, otherRead⟩ := List.exists_of_findSome?_eq_some found
        rw [readFormat_unique (listed inFront) (listed inOrder) otherRead read]

/-- The order in which the formats are tried does not matter. -/
theorem findSome?_readFormat_perm {order : List (List Piece)} (permuted : order.Perm formats) :
    order.findSome? (readFormat · text) = formats.findSome? (readFormat · text) := by
  apply Option.ext
  intro date
  rw [findSome?_readFormat_iff permuted.subset, findSome?_readFormat_iff (List.Subset.refl _)]
  simp only [permuted.mem_iff]

end Readings

/-! ## Texts with a dash -/

theorem ne_dash_of_isOrdinalSuffix {a b : Char} (suffix : isOrdinalSuffix a b) :
    a ≠ '-' ∧ b ≠ '-' := by
  have lowered : lower '-' = '-' := by decide
  constructor
  · rintro rfl
    simp [isOrdinalSuffix, lowered] at suffix
  · rintro rfl
    simp [isOrdinalSuffix, lowered] at suffix

theorem dash_mem_dropOrdinals {text : List Char} (inside : '-' ∈ text) :
    '-' ∈ dropOrdinals text := by
  fun_induction dropOrdinals text with
  | case1 c a b rest dropped ih =>
      simp only [Bool.and_eq_true] at dropped
      have letters := ne_dash_of_isOrdinalSuffix dropped.1.2
      simp only [List.mem_cons, letters.1.symm, letters.2.symm, false_or] at inside ⊢
      exact inside.imp_right ih
  | case2 c a b rest kept ih =>
      rw [List.mem_cons] at inside ⊢
      exact inside.imp_right ih
  | case3 short => exact inside

theorem dash_mem_clean {text : List Char} (inside : '-' ∈ text) : '-' ∈ clean text := by
  have kept : '-' ∈ (words (clean text)).flatten := by
    rw [clean, words_collapse, flatten_words, List.mem_filter]
    exact ⟨dash_mem_dropOrdinals inside, by decide⟩
  rw [flatten_words] at kept
  exact List.mem_of_mem_filter kept

/-- No date format has a dash. -/
theorem readFormat_of_dash {text : List Char} (inside : '-' ∈ text) :
    ∀ format ∈ formats, readFormat format (clean text) = none := by
  intro format listed
  have noDash : formats.all fun format => .char '-' ∉ format := by decide
  cases read : readFormat format (clean text) with
  | none => rfl
  | some date =>
      have found := of_mem_readPieces (readFormat_eq_some_iff.mp read) (dash_mem_clean inside)
      have plain : isLetter '-' = false ∧ isDigit '-' = false ∧ isBlank '-' = false := by decide
      have absent := List.all_eq_true.mp noDash format listed
      simp [plain] at found
      simp [found] at absent

end BlockQuery.Calendar.Written
