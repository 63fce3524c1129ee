import BlockQuery.Proofs.Calendar.MonthShift
import BlockQuery.Proofs.Text.LowerCase

/-!
# The vocabulary of relative dates

A relative date is looked up by its words in lower case and denotes a whole day in the
zone of the clock.  The same day can be named in several ways: by a phrase or by a
count, by weeks or by days, by years or by months.  All ways to name a day agree, on
every day that the clock may show, and a larger count leads to an earlier day.
-/

namespace BlockQuery.Calendar

open BlockQuery.Text

namespace Relative

/-! ## What decides the reading -/

/-- Reads the words of a relative date; `none` when they are not those of one. -/
def readWords (parts : List (List Char)) : Except RangeError (Option Relative) :=
  match phrases.find? fun phrase => phrase.1.map String.toList == parts with
  | some phrase => .ok (some phrase.2)
  | none => readCounted parts

theorem read_eq_readWords (text : List Char) : read text = readWords (normalWords text) :=
  rfl

/-- The text in lower case with one space between its words. -/
def normalForm (text : String) : List Char :=
  collapse (lowerCase text.toList)

/-- The units of time by the names that are read. -/
def unitNames : List String :=
  ["day", "days", "week", "weeks", "month", "months", "year", "years"]

theorem mem_unitNames_of_backward {unit : String} {count : Nat} {relative : Relative}
    (known : backward unit count = some relative) : unit ∈ unitNames := by
  unfold backward at known
  split at known
  case h_9 => cases known
  all_goals decide

theorem ascii_phrases :
    phrases.all fun phrase => phrase.1.all fun word => word.toList.all (·.toNat < 0x80) := by
  decide

theorem ascii_unitNames : unitNames.all fun unit => unit.toList.all (·.toNat < 0x80) := by
  decide

/-- The words of a relative date have no foreign characters. -/
theorem readWords_of_foreign {parts : List (List Char)} {word : List Char} (among : word ∈ parts)
    (foreign : HasForeign word) : readWords parts = .ok none := by
  obtain ⟨c, inWord, isForeign⟩ := foreign
  have high : ¬ c.toNat < 0x80 := Nat.not_lt.mpr isForeign.high
  have noPhrase : phrases.find? (fun phrase => phrase.1.map String.toList == parts) = none := by
    rw [List.find?_eq_none]
    intro phrase listed same
    rw [beq_iff_eq] at same
    rw [← same] at among
    obtain ⟨name, inPhrase, rfl⟩ := List.mem_map.mp among
    have ascii := List.all_eq_true.mp ascii_phrases phrase listed
    have plain := List.all_eq_true.mp (List.all_eq_true.mp ascii name inPhrase) c inWord
    exact high (of_decide_eq_true plain)
  rw [readWords, noPhrase]
  change readCounted parts = _
  unfold readCounted
  split
  · next digits unit ending =>
    split
    · next counted =>
      split
      · next relative known =>
        -- each of the three words is free of foreign characters
        simp only [List.mem_cons, List.not_mem_nil, or_false] at among
        rcases among with rfl | rfl | rfl
        · have digit := List.all_eq_true.mp counted.1 c inWord
          rw [isForeign.noDigit] at digit
          cases digit
        · have ascii := List.all_eq_true.mp ascii_unitNames _ (mem_unitNames_of_backward known)
          rw [String.toList_ofList] at ascii
          exact absurd (of_decide_eq_true (List.all_eq_true.mp ascii c inWord)) high
        · have ascii : "ago".toList.all (·.toNat < 0x80) := by decide
          rw [counted.2] at inWord
          exact absurd (of_decide_eq_true (List.all_eq_true.mp ascii c inWord)) high
      · rfl
    · rfl
  · rfl

theorem readWords_words_of_foreign {text : List Char} (foreign : HasForeign text) :
    readWords (words text) = .ok none := by
  obtain ⟨c, inText, isForeign⟩ := foreign
  obtain ⟨word, among, inWord⟩ := exists_word_of_mem inText isForeign.solid
  exact readWords_of_foreign among ⟨c, inWord, isForeign⟩

/-- A relative date is read off the normal form of its text. -/
theorem read_eq_normalForm (text : String) :
    read text.toList = readWords (words (normalForm text)) := by
  rw [read_eq_readWords, normalWords, normalForm, words_collapse]
  rcases lowerCase_cases text.toList with same | ⟨lowered, small⟩
  · rw [same]
  · rw [readWords_words_of_foreign lowered, readWords_words_of_foreign small]

/-! ## What is denoted -/

variable {relative : Relative} {today moment : Moment}

/-- A relative date has the time of day and the zone of the day that it is counted from. -/
theorem exists_onDate_of_resolve (ok : relative.resolve today = .ok moment) :
    ∃ date, moment = today.onDate date := by
  cases relative with
  | days count =>
      obtain ⟨date, -, same⟩ := Moment.addDays_eq_ok_iff.mp ok
      exact ⟨date, same⟩
  | weekStart =>
      obtain ⟨date, -, same⟩ := Moment.addDays_eq_ok_iff.mp ok
      exact ⟨date, same⟩
  | months count =>
      obtain ⟨-, date, -, -, same⟩ := Moment.addMonths_eq_ok_iff.mp ok
      exact ⟨date, same⟩
  | monthStart =>
      cases ok
      exact ⟨today.date.monthStart, rfl⟩
  | yearStart =>
      cases ok
      exact ⟨today.date.yearStart, rfl⟩

/-! ## Counted phrases -/

/-- A number of units of time before today, in words. -/
def ago (count : Nat) (unit : String) : String :=
  s!"{count} {unit} ago"

theorem toList_ago (count : Nat) (unit : String) :
    (ago count unit).toList =
      [' '].intercalate [Nat.toDigits 10 count, unit.toList, "ago".toList] := by
  change (toString count ++ " " ++ unit ++ " ago").toList = _
  simp

theorem map_lower_unitNames :
    unitNames.all fun unit => unit.toList.map lower == unit.toList := by
  decide

theorem solid_unitNames :
    unitNames.all fun unit => !unit.toList.isEmpty && unit.toList.all (!isBlank ·) := by
  decide

section Counted

variable {unit : String} {count : Nat}

theorem normalWords_ago (listed : unit ∈ unitNames) :
    normalWords (ago count unit).toList =
      [Nat.toDigits 10 count, unit.toList, "ago".toList] := by
  have small : unit.toList.map lower = unit.toList := by
    simpa using List.all_eq_true.mp map_lower_unitNames unit listed
  have solid := List.all_eq_true.mp solid_unitNames unit listed
  rw [Bool.and_eq_true] at solid
  have isUnit : IsWord unit.toList := isWord_of_all (by simpa using solid.1) solid.2
  have lowered : (ago count unit).toList.map lower = (ago count unit).toList := by
    rw [toList_ago]
    simp [List.intercalate, small, map_lower_toDigits]
    decide
  have each : ∀ text ∈ [Nat.toDigits 10 count, unit.toList, "ago".toList], IsWord text := by
    simp only [List.forall_mem_cons, List.not_mem_nil, false_imp_iff, implies_true, and_true]
    exact ⟨isWord_toDigits count, isUnit, isWord_of_all (by decide) (by decide)⟩
  rw [normalWords, lowered, toList_ago, words_intercalate, flatMap_words each]

/-- A counted phrase is the shift by its count, unless the count has too many digits. -/
theorem read_ago (known : backward unit count = some relative) :
    read (ago count unit).toList =
      if maxDigits < (Nat.toDigits 10 count).length then
        .error (.tooManyDigits (Nat.toDigits 10 count).length)
      else
        .ok (some relative) := by
  have digits : (Nat.toDigits 10 count).all Text.isDigit :=
    List.all_eq_true.mpr fun c inDigits => isDigit_of_ascii (isDigit_of_mem_digits inDigits)
  have noPhrase : phrases.find? (fun phrase => phrase.1.map String.toList ==
      [Nat.toDigits 10 count, unit.toList, "ago".toList]) = none := by
    rw [List.find?_eq_none]
    intro phrase listed same
    have number := not_all_isDigit_of_phrase phrase listed
    rw [beq_iff_eq] at same
    obtain ⟨word, others, shape, first, -⟩ := List.map_eq_cons_iff.mp same
    rw [shape, List.headD_cons, first, digits] at number
    cases number
  rw [read_eq_readWords, normalWords_ago (mem_unitNames_of_backward known), readWords, noPhrase]
  change readCounted [_, _, _] = _
  rw [readCounted, if_pos ⟨digits, rfl⟩, String.ofList_toList, decimal_toDigits, known]

/-- A unit of time is a fixed number of days or of months. -/
theorem backward_linear (listed : unit ∈ unitNames) :
    ∃ size : Int, 1 ≤ size ∧
      ((∀ count : Nat, backward unit count = some (days (-(size * count)))) ∨
        ∀ count : Nat, backward unit count = some (months (-(size * count)))) := by
  have one (count : Nat) : -(count : Int) = -(1 * count) := by omega
  have seven (count : Nat) : -7 * (count : Int) = -(7 * count) := by omega
  have twelve (count : Nat) : -12 * (count : Int) = -(12 * count) := by omega
  simp only [unitNames, List.mem_cons, List.not_mem_nil, or_false] at listed
  rcases listed with rfl | rfl | rfl | rfl | rfl | rfl | rfl | rfl
  · exact ⟨1, by decide, .inl fun count => congrArg (some <| days ·) (one count)⟩
  · exact ⟨1, by decide, .inl fun count => congrArg (some <| days ·) (one count)⟩
  · exact ⟨7, by decide, .inl fun count => congrArg (some <| days ·) (seven count)⟩
  · exact ⟨7, by decide, .inl fun count => congrArg (some <| days ·) (seven count)⟩
  · exact ⟨1, by decide, .inr fun count => congrArg (some <| months ·) (one count)⟩
  · exact ⟨1, by decide, .inr fun count => congrArg (some <| months ·) (one count)⟩
  · exact ⟨12, by decide, .inr fun count => congrArg (some <| months ·) (twelve count)⟩
  · exact ⟨12, by decide, .inr fun count => congrArg (some <| months ·) (twelve count)⟩

/-- A count that leads to a date is small. -/
theorem count_le_of_resolve (known : backward unit count = some relative)
    (ok : relative.resolve today = .ok moment) : count ≤ lastOrdinal := by
  have stays : ¬ relative.Leaves today.date := by
    rw [← exists_resolve_error_iff, exists_error_iff, not_not]
    exact ⟨moment, ok⟩
  obtain ⟨size, positive, shift | shift⟩ := backward_linear (mem_unitNames_of_backward known)
  all_goals
    have atLeast : 1 * (count : Int) ≤ size * count :=
      Int.mul_le_mul_of_nonneg_right positive (Int.natCast_nonneg count)
    rw [shift] at known
    cases known
    simp only [Leaves, not_not] at stays
  · have most := today.date.ordinal_le
    omega
  · have year : today.date.year ≤ 9999 := today.date.year_range.2
    have month := today.date.month_range.2
    have last : lastOrdinal = 3652059 := rfl
    have first : minYear = 1 := rfl
    rw [Moment.monthNumber] at stays
    omega

end Counted

end Relative

/-! ## Texts of relative dates -/

section Texts

variable {clock moment : Moment} {text : String}

theorem resolveRelative_eq_ok_iff :
    resolveRelative clock text = .ok (some moment) ↔
      ∃ relative, Relative.read text.toList = .ok (some relative) ∧
        relative.resolve clock.startOfDay = .ok moment := by
  rw [resolveRelative, liftRange, mapError_eq_ok_iff, bind_eq_ok_iff]
  constructor
  · rintro ⟨read, found, denoted⟩
    cases read with
    | none => cases denoted
    | some relative =>
        obtain ⟨shifted, ok, same⟩ := bind_eq_ok_iff.mp denoted
        cases same
        exact ⟨relative, found, ok⟩
  · rintro ⟨relative, found, ok⟩
    refine ⟨some relative, found, ?_⟩
    dsimp only
    rw [ok]
    rfl

/-- A counted phrase denotes the day that its shift leads to; a count with too many digits leads
nowhere in any case. -/
theorem resolveRelative_ago {relative : Relative} {unit : String} {count : Nat}
    (known : Relative.backward unit count = some relative) :
    resolveRelative clock (Relative.ago count unit) = .ok (some moment) ↔
      relative.resolve clock.startOfDay = .ok moment := by
  rw [resolveRelative_eq_ok_iff, Relative.read_ago known]
  constructor
  · rintro ⟨read, found, ok⟩
    split at found
    · cases found
    · cases found
      exact ok
  · intro ok
    have small := Relative.count_le_of_resolve known ok
    have few : (Nat.toDigits 10 count).length ≤ 7 :=
      (Nat.length_toDigits_le_iff (by decide) (by decide)).mpr (Nat.lt_of_le_of_lt small (by decide))
    refine ⟨relative, ?_, ok⟩
    exact if_neg (Nat.not_lt.mpr (few.trans (by decide)))

theorem midnight_of_resolveRelative (ok : resolveRelative clock text = .ok (some moment)) :
    moment.clock = 0 ∧ moment.offset = clock.offset := by
  obtain ⟨relative, -, denoted⟩ := resolveRelative_eq_ok_iff.mp ok
  obtain ⟨date, rfl⟩ := Relative.exists_onDate_of_resolve denoted
  exact ⟨rfl, rfl⟩

/-- Only the normal form of a text matters, also for its errors. -/
theorem resolveRelative_congr {other : String}
    (same : Relative.normalForm text = Relative.normalForm other) :
    resolveRelative clock text = resolveRelative clock other := by
  rw [resolveRelative, resolveRelative, Relative.read_eq_normalForm, same,
    ← Relative.read_eq_normalForm]

end Texts

/-! ## Names of one day -/

/-- Two texts denote the same day, or neither of them denotes one. -/
def SameDay (clock : Moment) (text other : String) : Prop :=
  ∀ moment, resolveRelative clock text = .ok (some moment) ↔
    resolveRelative clock other = .ok (some moment)

section Names

variable {clock : Moment} {relative : Relative}

theorem sameDay_ago {unit other : String} {count more : Nat}
    (known : Relative.backward unit count = some relative)
    (otherKnown : Relative.backward other more = some relative) :
    SameDay clock (Relative.ago count unit) (Relative.ago more other) := by
  intro moment
  rw [resolveRelative_ago known, resolveRelative_ago otherKnown]

theorem sameDay_of_read (relative : Relative) {text other : String}
    (read : Relative.read text.toList = .ok (some relative))
    (otherRead : Relative.read other.toList = .ok (some relative)) : SameDay clock text other := by
  intro moment
  rw [resolveRelative_eq_ok_iff, resolveRelative_eq_ok_iff, read, otherRead]

theorem sameDay_weeks_days (count : Nat) :
    SameDay clock (Relative.ago count "weeks") (Relative.ago (7 * count) "days") := by
  have sum : -7 * (count : Int) = -((7 * count : Nat) : Int) := by omega
  have weeks : Relative.backward "weeks" count = some (.days (-7 * count)) := rfl
  rw [sum] at weeks
  exact sameDay_ago weeks rfl

theorem sameDay_years_months (count : Nat) :
    SameDay clock (Relative.ago count "years") (Relative.ago (12 * count) "months") := by
  have sum : -12 * (count : Int) = -((12 * count : Nat) : Int) := by omega
  have years : Relative.backward "years" count = some (.months (-12 * count)) := rfl
  rw [sum] at years
  exact sameDay_ago years rfl

/-- The shift to the last week, month or year. -/
def lastUnits : List (String × Relative) :=
  [("week", .days (-7)), ("month", .months (-1)), ("year", .months (-12))]

theorem read_lastUnits :
    lastUnits.all fun named =>
      Relative.read s!"last {named.1}".toList = .ok (some named.2) &&
      Relative.read s!"a {named.1} ago".toList = .ok (some named.2) &&
      Relative.read (Relative.ago 1 named.1).toList = .ok (some named.2) := by
  decide +kernel

/-- The last unit of time is the one that a unit ago was, whether it is counted or not. -/
theorem sameDay_last {unit : String} (named : unit ∈ ["week", "month", "year"]) :
    SameDay clock s!"last {unit}" s!"a {unit} ago" ∧
      SameDay clock s!"a {unit} ago" (Relative.ago 1 unit) := by
  obtain ⟨⟨name, relative⟩, listed, rfl⟩ := List.mem_map.mp
    (show unit ∈ lastUnits.map Prod.fst from named)
  have read := List.all_eq_true.mp read_lastUnits _ listed
  simp only [Bool.and_eq_true, decide_eq_true_eq] at read
  obtain ⟨⟨last, single⟩, counted⟩ := read
  exact ⟨sameDay_of_read relative last single, sameDay_of_read relative single counted⟩

theorem sameDay_yesterday : SameDay clock "yesterday" (Relative.ago 1 "day") :=
  sameDay_of_read (.days (-1)) (by decide +kernel) (by decide +kernel)

theorem sameDay_today : SameDay clock "today" (Relative.ago 0 "days") :=
  sameDay_of_read (.days 0) (by decide +kernel) (by decide +kernel)

end Names

/-! ## Order -/

namespace Moment

/-- More days back lead to an earlier moment. -/
theorem epochMicros_lt_of_addDays {moment earlier later : Moment} {fewer more : Int}
    (order : fewer < more) (first : moment.addDays fewer = .ok earlier)
    (second : moment.addDays more = .ok later) : earlier.epochMicros < later.epochMicros := by
  obtain ⟨date, there, rfl⟩ := addDays_eq_ok_iff.mp first
  obtain ⟨other, beyond, rfl⟩ := addDays_eq_ok_iff.mp second
  exact epochMicros_onDate_lt (by omega)

end Moment

/-- Of two counts of one unit, the larger one leads to the earlier moment. -/
theorem epochMicros_lt_of_ago {clock moment earlier : Moment} {unit : String} {count more : Nat}
    (named : unit ∈ Relative.unitNames) (order : count < more)
    (ok : resolveRelative clock (Relative.ago count unit) = .ok (some moment))
    (okMore : resolveRelative clock (Relative.ago more unit) = .ok (some earlier)) :
    earlier.epochMicros < moment.epochMicros := by
  obtain ⟨size, positive, shift⟩ := Relative.backward_linear named
  have further : -(size * more) < -(size * count) := by
    have larger : size * count < size * more :=
      Int.mul_lt_mul_of_pos_left (Int.ofNat_lt.mpr order) (by omega)
    omega
  rcases shift with shift | shift
  · rw [resolveRelative_ago (shift count)] at ok
    rw [resolveRelative_ago (shift more)] at okMore
    exact Moment.epochMicros_lt_of_addDays further okMore ok
  · rw [resolveRelative_ago (shift count)] at ok
    rw [resolveRelative_ago (shift more)] at okMore
    exact Moment.epochMicros_lt_of_addMonths further okMore ok

/-! ## Days, months and weeks -/

theorem resolveRelative_daysAgo {clock moment : Moment} {count : Nat} :
    resolveRelative clock (Relative.ago count "days") = .ok (some moment) ↔
      ∃ date : Date, date.ordinal + count = clock.date.ordinal ∧
        moment = .midnight date clock.offset := by
  have known : Relative.backward "days" count = some (.days (-count)) := rfl
  have today : clock.startOfDay.date = clock.date := rfl
  have start : ∀ date, clock.startOfDay.onDate date = .midnight date clock.offset := fun _ => rfl
  rw [resolveRelative_ago known]
  simp only [Relative.resolve, Moment.addDays_eq_ok_iff, today, start]
  constructor
  · rintro ⟨date, there, same⟩
    exact ⟨date, by omega, same⟩
  · rintro ⟨date, there, same⟩
    exact ⟨date, by omega, same⟩

theorem resolveRelative_monthsAgo {clock moment : Moment} {count : Nat} :
    resolveRelative clock (Relative.ago count "months") = .ok (some moment) ↔
      clock.startOfDay.addMonths (-count) = .ok moment := by
  have known : Relative.backward "months" count = some (.months (-count)) := rfl
  rw [resolveRelative_ago known]
  rfl

/-- This week starts on the Sunday among today and the six days before, if the calendar has one
there. -/
theorem resolveRelative_thisWeek {clock moment : Moment} :
    resolveRelative clock "this week" = .ok (some moment) ↔
      ∃ sunday : Date, sunday.weekday = 6 ∧ sunday.ordinal ≤ clock.date.ordinal ∧
        clock.date.ordinal ≤ sunday.ordinal + 6 ∧ moment = .midnight sunday clock.offset := by
  have read : Relative.read "this week".toList = .ok (some .weekStart) := by decide +kernel
  have today : clock.startOfDay.date = clock.date := rfl
  have start : ∀ date, clock.startOfDay.onDate date = .midnight date clock.offset := fun _ => rfl
  rw [resolveRelative_eq_ok_iff, read]
  simp only [Except.ok.injEq, Option.some.injEq, exists_eq_left', Relative.resolve,
    Moment.addDays_eq_ok_iff, today, start, Date.weekday]
  constructor
  · rintro ⟨sunday, there, same⟩
    exact ⟨sunday, by omega, by omega, by omega, same⟩
  · rintro ⟨sunday, isSunday, notLater, near, same⟩
    exact ⟨sunday, by omega, same⟩

/-- A relative date denotes the start of a day in the zone of the clock and depends on its text in
lower case and with its blanks collapsed only.  Days and months are counted back from the day of
the clock, weeks and years agree with them, and so do the phrases without a count.  Over the counts
that lead to a date, a larger one leads to an earlier one.  This week starts on the only Sunday
among today and the six days before. -/
theorem relative_vocabulary_coherent (clock : Moment) :
    (∀ text moment, resolveRelative clock text = .ok (some moment) →
      moment.clock = 0 ∧ moment.offset = clock.offset) ∧
    (∀ text other, Relative.normalForm text = Relative.normalForm other →
      resolveRelative clock text = resolveRelative clock other) ∧
    (∀ count moment, resolveRelative clock (Relative.ago count "days") = .ok (some moment) ↔
      ∃ date : Date, date.ordinal + count = clock.date.ordinal ∧
        moment = .midnight date clock.offset) ∧
    (∀ count moment, resolveRelative clock (Relative.ago count "months") = .ok (some moment) ↔
      clock.startOfDay.addMonths (-(count : Nat)) = .ok moment) ∧
    (∀ count, SameDay clock (Relative.ago count "weeks") (Relative.ago (7 * count) "days") ∧
      SameDay clock (Relative.ago count "years") (Relative.ago (12 * count) "months")) ∧
    (∀ unit ∈ ["week", "month", "year"], SameDay clock s!"last {unit}" s!"a {unit} ago" ∧
      SameDay clock s!"a {unit} ago" (Relative.ago 1 unit)) ∧
    SameDay clock "yesterday" (Relative.ago 1 "day") ∧
    SameDay clock "today" (Relative.ago 0 "days") ∧
    (∀ unit ∈ Relative.unitNames, ∀ (count more : Nat) (moment earlier : Moment), count < more →
      resolveRelative clock (Relative.ago count unit) = .ok (some moment) →
      resolveRelative clock (Relative.ago more unit) = .ok (some earlier) →
      earlier.epochMicros < moment.epochMicros) ∧
    ∀ moment, resolveRelative clock "this week" = .ok (some moment) ↔
      ∃ sunday : Date, sunday.weekday = 6 ∧ sunday.ordinal ≤ clock.date.ordinal ∧
        clock.date.ordinal ≤ sunday.ordinal + 6 ∧ moment = .midnight sunday clock.offset := by
  refine ⟨?_, ?_, ?_, ?_, ?_, ?_, sameDay_yesterday, sameDay_today, ?_, ?_⟩
  · intro text moment ok
    exact midnight_of_resolveRelative ok
  · intro text other same
    exact resolveRelative_congr same
  · intro count moment
    exact resolveRelative_daysAgo
  · intro count moment
    exact resolveRelative_monthsAgo
  · intro count
    exact ⟨sameDay_weeks_days count, sameDay_years_months count⟩
  · intro unit named
    exact sameDay_last named
  · intro unit named count more moment earlier order ok okMore
    exact epochMicros_lt_of_ago named order ok okMore
  · intro moment
    exact resolveRelative_thisWeek

theorem relative_vocabulary_coherent_leapMarch :
    resolveRelative Moment.leapMarchEnd " LAST\tmonth " = .ok (some Moment.leapMarchSecond) ∧
    Moment.leapMarchSecond.clock = 0 ∧
    resolveRelative Moment.leapMarchEnd "1 month ago" = .ok (some Moment.leapMarchSecond) ∧
    resolveRelative Moment.leapMarchEnd "0 months ago" = .ok (some Moment.leapMarchEnd) ∧
    Moment.leapMarchSecond.epochMicros < Moment.leapMarchEnd.epochMicros ∧
    resolveRelative Moment.leapMarchEnd "this week" = .ok (some Moment.leapMarchEnd) := by
  have coherent := relative_vocabulary_coherent Moment.leapMarchEnd
  have shouted : resolveRelative Moment.leapMarchEnd " LAST\tmonth " =
      resolveRelative Moment.leapMarchEnd "last month" := coherent.2.1 _ _ (by decide +kernel)
  have last : resolveRelative Moment.leapMarchEnd "last month" =
      .ok (some Moment.leapMarchSecond) := by decide +kernel
  have stay : resolveRelative Moment.leapMarchEnd (Relative.ago 0 "months") =
      .ok (some Moment.leapMarchEnd) := by decide +kernel
  have names := coherent.2.2.2.2.2.1 "month" (by decide)
  have counted : resolveRelative Moment.leapMarchEnd (Relative.ago 1 "months") =
      .ok (some Moment.leapMarchSecond) := by decide +kernel
  have single : resolveRelative Moment.leapMarchEnd (Relative.ago 1 "month") =
      .ok (some Moment.leapMarchSecond) := (names.2 _).mp ((names.1 _).mp last)
  refine ⟨shouted.trans last, (coherent.1 "last month" _ last).1, single, stay, ?_, ?_⟩
  · exact coherent.2.2.2.2.2.2.2.2.1 "months" (by decide) 0 1 _ _ (by decide) stay counted
  · exact (coherent.2.2.2.2.2.2.2.2.2 _).mpr
      ⟨Moment.leapMarchEnd.date, by decide +kernel, by decide, by decide, rfl⟩

end BlockQuery.Calendar
