import BlockQuery.Calendar.DailyPage
import BlockQuery.Calendar.Resolve
import BlockQuery.Proofs.Calendar.Ordinal
import BlockQuery.Proofs.Datalog.TitlePattern
import BlockQuery.Proofs.Text.Blank
import BlockQuery.Proofs.Text.Decimal
import Mathlib.Data.List.GetD
import Mathlib.Tactic.IntervalCases

/-!
# Titles of daily pages

The title of a daily page is written in one place and recognised in three: by the
pattern that selects daily pages, by the reader of relative dates, which has to
leave it alone, and by the reader of written dates, which has to give the day
back.  A title is three words, and the facts about it are facts about these words.
-/

namespace BlockQuery.Calendar

open BlockQuery.Text

/-! ## Ordinal suffixes -/

theorem ordinalSuffix_mem (n : Int) : (ordinalSuffix n).toList ∈ Datalog.Pattern.suffixes := by
  unfold ordinalSuffix
  split_ifs <;> decide

/-- What is written as a suffix is recognised as one. -/
theorem exists_ordinalSuffix (n : Int) :
    ∃ a b, (ordinalSuffix n).toList = [a, b] ∧ Written.isOrdinalSuffix a b := by
  have listed := ordinalSuffix_mem n
  simp only [Datalog.Pattern.suffixes, List.mem_cons, List.not_mem_nil, or_false] at listed
  rcases listed with same | same | same | same
  · exact ⟨'s', 't', same, by decide⟩
  · exact ⟨'n', 'd', same, by decide⟩
  · exact ⟨'r', 'd', same, by decide⟩
  · exact ⟨'t', 'h', same, by decide⟩

namespace Written

theorem not_isOrdinalSuffix_of_isDigit {a b : Char} (digit : a.isDigit) :
    isOrdinalSuffix a b = false := by
  have range := toNat_of_isDigit digit
  have notLong : a.toNat ≠ 0x17F := by omega
  have noLetter : a ≠ 's' ∧ a ≠ 'n' ∧ a ≠ 'r' ∧ a ≠ 't' := by
    refine ⟨?_, ?_, ?_, ?_⟩ <;> (rintro rfl; revert digit; decide)
  simp [isOrdinalSuffix, notLong, lower_of_isDigit digit, noLetter]

/-- Only a digit can be followed by a suffix that is dropped. -/
theorem dropOrdinals_cons {c : Char} (noDigit : isDigit c = false) (rest : List Char) :
    dropOrdinals (c :: rest) = c :: dropOrdinals rest := by
  rcases rest with _ | ⟨a, _ | ⟨b, rest⟩⟩
  · rfl
  · rfl
  · simp [dropOrdinals, noDigit]

theorem dropOrdinals_append {before : List Char} (noDigit : ∀ c ∈ before, isDigit c = false)
    (rest : List Char) :
    dropOrdinals (before ++ rest) = before ++ dropOrdinals rest := by
  induction before with
  | nil => rfl
  | cons c before ih =>
      rw [List.forall_mem_cons] at noDigit
      rw [List.cons_append, dropOrdinals_cons noDigit.1, ih noDigit.2, List.cons_append]

/-- A digit is no part of a suffix. -/
theorem dropOrdinals_digit {d : Char} (digit : d.isDigit) (c : Char) (rest : List Char) :
    dropOrdinals (c :: d :: rest) = c :: dropOrdinals (d :: rest) := by
  cases rest with
  | nil => rfl
  | cons b rest => simp [dropOrdinals, not_isOrdinalSuffix_of_isDigit digit]

theorem dropOrdinals_digits {digits : List Char} (each : ∀ c ∈ digits, c.isDigit) :
    dropOrdinals digits = digits := by
  induction digits with
  | nil => rfl
  | cons c digits ih =>
      cases digits with
      | nil => rfl
      | cons d digits =>
          rw [List.forall_mem_cons] at each
          rw [dropOrdinals_digit (each.2 d List.mem_cons_self), ih each.2]

/-- The suffix behind a number is dropped where a word ends. -/
theorem dropOrdinals_numbered {digits : List Char} (each : ∀ c ∈ digits, c.isDigit)
    (nonempty : digits ≠ []) {a b : Char} (suffix : isOrdinalSuffix a b) {rest : List Char}
    (outside : startsOutsideWord rest) :
    dropOrdinals (digits ++ (a :: b :: rest)) = digits ++ dropOrdinals rest := by
  induction digits with
  | nil => exact absurd rfl nonempty
  | cons c digits ih =>
      rw [List.forall_mem_cons] at each
      cases digits with
      | nil => simp [dropOrdinals, isDigit_of_ascii each.1, suffix, outside]
      | cons d digits =>
          have later := ih each.2 (List.cons_ne_nil d digits)
          rw [List.cons_append] at later
          rw [List.cons_append, List.cons_append,
            dropOrdinals_digit (each.2 d List.mem_cons_self), later]
          rfl

/-! ## Pieces of a date -/

/-- The first reading of a piece is kept when the other pieces can be read behind it. -/
theorem readPieces_first {piece : Piece} {pieces : List Piece} {found next : Fields}
    {text rest : List Char} {others : List (Fields × List Char)} {result : Fields × List Char}
    (readings : piece.readings found text = (next, rest) :: others)
    (goesOn : readPieces pieces next rest = some result) :
    readPieces (piece :: pieces) found text = some result := by
  rw [readPieces, readings, List.findSome?_cons]
  simp only [goesOn]

theorem formed_replicate {test : Char → Bool} {run : List Char} (each : ∀ c ∈ run, test c)
    (rest : List Char) :
    formed (List.replicate run.length test) (run ++ rest) = some (decimal run, rest) := by
  have passed : (List.zipWith (fun test c => test c) (List.replicate run.length test)
      (run ++ rest)).all id := by
    induction run with
    | nil => rfl
    | cons c run ih =>
        rw [List.forall_mem_cons] at each
        simpa [List.replicate_succ, each.1] using ih each.2
  rw [formed, if_pos ⟨by simp, passed⟩, numeral]
  simp

theorem nameReadings_monthName {month : Nat} (range : 1 ≤ month ∧ month ≤ 12) (rest : List Char) :
    nameReadings monthName ((monthName month).toList ++ ' ' :: rest) = [(month, ' ' :: rest)] := by
  obtain ⟨least, most⟩ := range
  interval_cases month <;> rfl

theorem exists_dayReadings {day : Nat} (least : 1 ≤ day) (most : day ≤ 31) (rest : List Char) :
    ∃ others, dayReadings (Nat.toDigits 10 day ++ ',' :: rest) = (day, ',' :: rest) :: others := by
  interval_cases day <;> exact ⟨_, rfl⟩

section Readings

variable (found : Fields) {rest : List Char}

theorem readings_monthName {month : Nat} (range : 1 ≤ month ∧ month ≤ 12) :
    Piece.readings .monthName found ((monthName month).toList ++ ' ' :: rest) =
      [({ found with month := month }, ' ' :: rest)] := by
  rw [Piece.readings, nameReadings_monthName range]
  rfl

theorem readings_blanks (solid : SolidStart rest) :
    Piece.readings .blanks found (' ' :: rest) = [(found, rest)] := by
  have trimmed : trimLeft (' ' :: rest) = rest := trimLeft_append_solid blanks_space solid
  change [(found, trimLeft (' ' :: rest))] = _
  rw [trimmed]

/-- A day in front of a comma is read with all of its digits first. -/
theorem exists_readings_day {day : Nat} (least : 1 ≤ day) (most : day ≤ 31) :
    ∃ others, Piece.readings .day found (Nat.toDigits 10 day ++ ',' :: rest) =
      ({ found with day := day }, ',' :: rest) :: others := by
  obtain ⟨others, read⟩ := exists_dayReadings least most rest
  rw [Piece.readings, read]
  exact ⟨_, rfl⟩

theorem readings_char {c : Char} :
    Piece.readings (.char c) found (c :: rest) = [(found, rest)] := by
  have dropped : dropStart? [c] (c :: rest) = some rest := dropStart?_append [c] rest
  rw [Piece.readings, dropped]
  rfl

theorem readings_year {year : Nat} (four : (Nat.toDigits 10 year).length = 4) :
    Piece.readings .year found (Nat.toDigits 10 year) = [({ found with year := year }, [])] := by
  have each : ∀ c ∈ Nat.toDigits 10 year, isDigit c := fun c inDigits =>
    isDigit_of_ascii (isDigit_of_mem_digits inDigits)
  have read := formed_replicate each []
  rw [List.append_nil, four, decimal_toDigits] at read
  rw [Piece.readings, read]
  rfl

end Readings

end Written

/-! ## Texts that are no relative dates -/

namespace Relative

/-- No fixed phrase ends in a number. -/
theorem not_all_isDigit_of_last :
    ∀ phrase ∈ phrases,
      ((phrase.1.map String.toList).getLast?.any (List.all · Text.isDigit)) = false := by
  decide

/-- A text that ends in a number is no relative date. -/
theorem read_of_number {text number : List Char} {others : List (List Char)}
    (parts : normalWords text = others ++ [number]) (each : ∀ c ∈ number, c.isDigit) :
    read text = .ok none := by
  have digits : number.all Text.isDigit :=
    List.all_eq_true.mpr fun c inNumber => isDigit_of_ascii (each c inNumber)
  have noPhrase : phrases.find? (fun phrase => phrase.1.map String.toList == normalWords text)
      = none := by
    rw [List.find?_eq_none]
    intro phrase listed same
    have last := not_all_isDigit_of_last phrase listed
    rw [beq_iff_eq] at same
    rw [same, parts, List.getLast?_concat, Option.any_some, digits] at last
    cases last
  have notAgo : number ≠ "ago".toList := by
    rintro rfl
    revert digits
    decide
  rw [read, noPhrase, parts]
  change readCounted (others ++ [number]) = _
  unfold readCounted
  split
  · next first unit last split =>
      have same : number = last := by simpa using congrArg List.getLast? split
      exact if_neg fun counted => notAgo (same.trans counted.2)
  · rfl

end Relative

/-! ## Titles -/

theorem monthName_ne_nil {name : String} (listed : name ∈ monthNames) : name.toList ≠ [] := by
  revert name
  decide

theorem solid_monthName {name : String} (listed : name ∈ monthNames) :
    ∀ c ∈ name.toList, isBlank c = false ∧ isDigit c = false := by
  have each : ∀ name ∈ monthNames, name.toList.all fun c => !isBlank c && !isDigit c := by
    decide
  simpa using each name listed

namespace Date

variable (date : Date)

/-- The words of a title. -/
def titleWords : List (List Char) :=
  [(monthName date.month).toList,
   Nat.toDigits 10 date.day ++ ((ordinalSuffix date.day).toList ++ [',']),
   Nat.toDigits 10 date.year]

theorem toList_pageTitle : date.pageTitle.toList = [' '].intercalate date.titleWords := by
  change (monthName date.month ++ " " ++ toString date.day ++ ordinalSuffix date.day ++ ", " ++
    toString date.year).toList = _
  simp [titleWords]

theorem monthName_mem : monthName date.month ∈ monthNames := by
  obtain ⟨least, most⟩ := date.month_range
  have inside : date.month - 1 < monthNames.length := by
    change date.month - 1 < 12
    omega
  rw [monthName, List.getD_eq_getElem _ _ inside]
  exact List.getElem_mem inside

theorem day_le : date.day ≤ 31 :=
  date.day_range.2.trans (daysInMonth_bounds date.year date.month).2

theorem length_toDigits_year (fourDigits : 1000 ≤ date.year) :
    (Nat.toDigits 10 date.year).length = 4 := by
  have range : date.year ≤ 9999 := date.year_range.2
  have most : (Nat.toDigits 10 date.year).length ≤ 4 :=
    (Nat.length_toDigits_le_iff (by decide) (by decide)).mpr (by omega)
  have least : ¬ (Nat.toDigits 10 date.year).length ≤ 3 := by
    rw [Nat.length_toDigits_le_iff (by decide) (by decide)]
    omega
  omega

/-- The pattern of daily pages finds a title. -/
theorem finds_pageTitle (fourDigits : 1000 ≤ date.year) :
    Datalog.Pattern.Finds Datalog.dailyTitlePattern date.pageTitle := by
  have few : (Nat.toDigits 10 date.day).length ≤ 2 := by
    rw [Nat.length_toDigits_le_iff (by decide) (by decide)]
    exact Nat.lt_of_le_of_lt date.day_le (by decide)
  rw [Datalog.Pattern.finds_dailyTitlePattern_iff]
  refine ⟨monthName date.month, date.monthName_mem, Nat.toDigits 10 date.day,
    (ordinalSuffix date.day).toList, Nat.toDigits 10 date.year, ?_, fun _ => isDigit_of_mem_digits,
    Nat.length_toDigits_pos, few, ordinalSuffix_mem date.day, fun _ => isDigit_of_mem_digits,
    date.length_toDigits_year fourDigits⟩
  simp [toList_pageTitle, titleWords]

/-- A title ends in a number, so it is no relative date. -/
theorem resolveRelative_pageTitle (clock : Moment) :
    resolveRelative clock date.pageTitle = .ok none := by
  have split : date.pageTitle.toList =
      [' '].intercalate (date.titleWords.take 2) ++ ' ' :: Nat.toDigits 10 date.year := by
    simp [toList_pageTitle, titleWords]
  have parts : Relative.normalWords date.pageTitle.toList =
      words (([' '].intercalate (date.titleWords.take 2)).map lower) ++
        [Nat.toDigits 10 date.year] := by
    rw [Relative.normalWords, split, List.map_append, List.map_cons, words_append_blank rfl,
      map_lower_toDigits, (isWord_toDigits date.year).words_eq]
  have read : Relative.read date.pageTitle.toList = .ok none :=
    Relative.read_of_number parts fun _ => isDigit_of_mem_digits
  rw [resolveRelative, read]
  rfl

theorem dropOrdinals_pageTitle :
    Written.dropOrdinals date.pageTitle.toList =
      [' '].intercalate [(monthName date.month).toList, Nat.toDigits 10 date.day ++ [','],
        Nat.toDigits 10 date.year] := by
  obtain ⟨a, b, letters, suffix⟩ := exists_ordinalSuffix date.day
  have split : date.pageTitle.toList =
      ((monthName date.month).toList ++ [' ']) ++
        (Nat.toDigits 10 date.day ++ (a :: b :: ',' :: ' ' :: Nat.toDigits 10 date.year)) := by
    simp [toList_pageTitle, titleWords, letters]
  have noDigit : ∀ c ∈ (monthName date.month).toList ++ [' '], isDigit c = false := by
    intro c inText
    rw [List.mem_append, List.mem_singleton] at inText
    rcases inText with inName | rfl
    · exact (solid_monthName date.monthName_mem c inName).2
    · rfl
  -- only the suffix of the day follows a digit; the letters of the month do not
  rw [split, Written.dropOrdinals_append noDigit,
    Written.dropOrdinals_numbered (fun _ => isDigit_of_mem_digits) Nat.toDigits_ne_nil suffix rfl,
    Written.dropOrdinals_cons rfl, Written.dropOrdinals_cons rfl,
    Written.dropOrdinals_digits fun _ => isDigit_of_mem_digits]
  simp

/-- The date formats see a title without the suffix of its day. -/
theorem clean_pageTitle :
    Written.clean date.pageTitle.toList =
      (monthName date.month).toList ++
        (' ' :: (Nat.toDigits 10 date.day ++ (',' :: ' ' :: Nat.toDigits 10 date.year))) := by
  have isName : IsWord (monthName date.month).toList :=
    ⟨monthName_ne_nil date.monthName_mem,
      fun c inName => (solid_monthName date.monthName_mem c inName).1⟩
  have isDay : IsWord (Nat.toDigits 10 date.day ++ [',']) :=
    (isWord_toDigits date.day).append (by simp [isBlank])
  have each : ∀ text ∈ [(monthName date.month).toList, Nat.toDigits 10 date.day ++ [','],
      Nat.toDigits 10 date.year], IsWord text := by
    simp [isName, isDay, isWord_toDigits date.year]
  rw [Written.clean, dropOrdinals_pageTitle, collapse_intercalate each]
  simp

/-- A title is read as its date, by the first of the formats. -/
theorem read?_pageTitle (fourDigits : 1000 ≤ date.year) :
    Written.read? date.pageTitle.toList = some date := by
  obtain ⟨others, dayRead⟩ := Written.exists_readings_day { month := date.month }
    date.day_range.1 date.day_le
  have pieces : Written.readPieces [.monthName, .blanks, .day, .char ',', .blanks, .year] {}
      (Written.clean date.pageTitle.toList) = some (⟨date.year, date.month, date.day⟩, []) := by
    have digits : SolidStart (Nat.toDigits 10 date.year) := by
      simpa using solidStart_toDigits_append date.year []
    rw [clean_pageTitle]
    -- for each piece, the first of its readings is the one that goes through to the end
    refine Written.readPieces_first (Written.readings_monthName _ date.month_range) ?_
    refine Written.readPieces_first
      (Written.readings_blanks _ (solidStart_toDigits_append date.day _)) ?_
    refine Written.readPieces_first dayRead ?_
    refine Written.readPieces_first (Written.readings_char _) ?_
    refine Written.readPieces_first (Written.readings_blanks _ digits) ?_
    exact Written.readPieces_first
      (Written.readings_year _ (date.length_toDigits_year fourDigits)) rfl
  have format : Written.readFormat [.monthName, .blanks, .day, .char ',', .blanks, .year]
      (Written.clean date.pageTitle.toList) = some date := by
    rw [Written.readFormat, pieces]
    exact ofParts?_eq_some_iff.mpr ⟨rfl, rfl, rfl⟩
  rw [Written.read?, Written.formats, List.findSome?_cons, format]

theorem resolveAbsolute_pageTitle (fourDigits : 1000 ≤ date.year) (clock : Moment) :
    resolveAbsolute clock date.pageTitle = .ok (.midnight date clock.offset) := by
  rw [resolveAbsolute, date.read?_pageTitle fourDigits]

/-- What is written as the title of a date in the years with four digits is found by the pattern of
daily pages, is no relative date, and denotes the start of exactly this date in the zone of the
clock; so no other such date has the same title. -/
theorem pageTitle_recognised (fourDigits : 1000 ≤ date.year) (clock : Moment) :
    Datalog.Pattern.Finds Datalog.dailyTitlePattern date.pageTitle ∧
    resolveRelative clock date.pageTitle = .ok none ∧
    resolveAbsolute clock date.pageTitle = .ok (.midnight date clock.offset) ∧
    ∀ other : Date, 1000 ≤ other.year → other.pageTitle = date.pageTitle → other = date := by
  refine ⟨date.finds_pageTitle fourDigits, date.resolveRelative_pageTitle clock,
    date.resolveAbsolute_pageTitle fourDigits clock, ?_⟩
  intro other otherDigits same
  have read := other.read?_pageTitle otherDigits
  rw [same, date.read?_pageTitle fourDigits] at read
  exact (Option.some.inj read).symm

/-- A date whose month ends in a suffix and whose day has one of the irregular ones. -/
def augustEleventh : Date :=
  on 1000 8 11

theorem pageTitle_recognised_augustEleventh :
    1000 ≤ augustEleventh.year ∧ augustEleventh.pageTitle = "August 11th, 1000" ∧
    Datalog.Pattern.Finds Datalog.dailyTitlePattern augustEleventh.pageTitle ∧
    resolveRelative (.midnight augustEleventh none) augustEleventh.pageTitle = .ok none ∧
    resolveAbsolute (.midnight augustEleventh none) augustEleventh.pageTitle =
      .ok (.midnight augustEleventh none) ∧
    ∀ other : Date, 1000 ≤ other.year → other.pageTitle = augustEleventh.pageTitle →
      other = augustEleventh :=
  ⟨by decide, by decide +kernel,
    augustEleventh.pageTitle_recognised (by decide) (.midnight augustEleventh none)⟩

end Date

end BlockQuery.Calendar
