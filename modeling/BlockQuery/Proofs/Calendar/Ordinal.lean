import BlockQuery.Calendar.Moment
import Mathlib.Order.Monotone.Basic

/-!
# Ordinals

The ordinals of the dates are the numbers from 1 to 3652059, each of one date only,
and `Date.ofOrdinal?` finds the date of each of them.
-/

namespace BlockQuery.Calendar

/-- The number of days of a year. -/
def daysInYear (year : Nat) : Nat :=
  if isLeapYear year then 366 else 365

/-- The ordinal of the last date. -/
def lastOrdinal : Nat := 3652059

/-! ## Years and months -/

theorem isLeapYear_iff {year : Nat} :
    isLeapYear year ↔ year % 4 = 0 ∧ (year % 100 ≠ 0 ∨ year % 400 = 0) := by
  simp [isLeapYear]

theorem daysBeforeYear_succ {year : Nat} (counted : 1 ≤ year) :
    daysBeforeYear (year + 1) = daysBeforeYear year + daysInYear year := by
  obtain ⟨elapsed, rfl⟩ := Nat.exists_eq_add_of_le' counted
  have fewer := Nat.div_le_self elapsed 100
  simp only [daysBeforeYear, daysInYear, isLeapYear_iff, Nat.add_sub_cancel, Nat.succ_div]
  generalize elapsed / 4 = fours at *
  generalize elapsed / 100 = hundreds at *
  generalize elapsed / 400 = cycles at *
  split_ifs <;> omega

theorem monotone_daysBeforeYear : Monotone daysBeforeYear := by
  apply monotone_nat_of_le_succ
  intro year
  cases year with
  | zero => decide
  | succ year =>
      rw [daysBeforeYear_succ (Nat.le_add_left 1 year)]
      exact Nat.le_add_right _ _

theorem daysInMonth_bounds (year month : Nat) :
    28 ≤ daysInMonth year month ∧ daysInMonth year month ≤ 31 := by
  unfold daysInMonth
  split
  · split <;> decide
  all_goals decide

theorem daysBeforeMonth_succ (year : Nat) {month : Nat} (counted : 1 ≤ month) :
    daysBeforeMonth year (month + 1) = daysBeforeMonth year month + daysInMonth year month := by
  cases month with
  | zero => cases counted
  | succ month => rfl

theorem monotone_daysBeforeMonth (year : Nat) : Monotone (daysBeforeMonth year) := by
  apply monotone_nat_of_le_succ
  intro month
  cases month with
  | zero => exact Nat.le_refl 0
  | succ month => exact Nat.le_add_right _ _

/-- A year is made of its months. -/
theorem daysBeforeMonth_thirteen (year : Nat) : daysBeforeMonth year 13 = daysInYear year := by
  simp only [daysBeforeMonth, daysInMonth, daysInYear]
  split <;> rfl

namespace Date

variable (date : Date)

/-! ## Every date has an ordinal of its own -/

/-- The days of a date's year up to the date. -/
def dayOfYear : Nat :=
  daysBeforeMonth date.year date.month + date.day

theorem ordinal_eq : date.ordinal = daysBeforeYear date.year + date.dayOfYear :=
  Nat.add_assoc _ _ _

theorem daysBeforeMonth_lt_dayOfYear :
    daysBeforeMonth date.year date.month < date.dayOfYear :=
  Nat.lt_add_of_pos_right date.day_range.1

theorem dayOfYear_le_daysBeforeMonth {month : Nat} (later : date.month < month) :
    date.dayOfYear ≤ daysBeforeMonth date.year month := by
  have next := monotone_daysBeforeMonth date.year (Nat.succ_le_of_lt later)
  rw [Nat.succ_eq_add_one, daysBeforeMonth_succ date.year date.month_range.1] at next
  exact Nat.le_trans (Nat.add_le_add_left date.day_range.2 _) next

theorem dayOfYear_le : date.dayOfYear ≤ daysInYear date.year := by
  rw [← daysBeforeMonth_thirteen]
  exact date.dayOfYear_le_daysBeforeMonth (Nat.lt_succ_of_le date.month_range.2)

theorem ordinal_le_daysBeforeYear {year : Nat} (later : date.year < year) :
    date.ordinal ≤ daysBeforeYear year := by
  have next := monotone_daysBeforeYear (Nat.succ_le_of_lt later)
  rw [Nat.succ_eq_add_one, daysBeforeYear_succ date.year_range.1] at next
  rw [ordinal_eq]
  exact Nat.le_trans (Nat.add_le_add_left date.dayOfYear_le _) next

theorem daysBeforeYear_lt_ordinal : daysBeforeYear date.year < date.ordinal := by
  rw [ordinal_eq]
  exact Nat.lt_add_of_pos_right (Nat.zero_lt_of_lt date.daysBeforeMonth_lt_dayOfYear)

theorem ordinal_pos : 1 ≤ date.ordinal :=
  Nat.zero_lt_of_lt date.daysBeforeYear_lt_ordinal

theorem ordinal_le : date.ordinal ≤ lastOrdinal :=
  date.ordinal_le_daysBeforeYear (Nat.lt_succ_of_le date.year_range.2)

variable {date} {other : Date}

theorem year_le_of_ordinal_le (order : date.ordinal ≤ other.ordinal) :
    date.year ≤ other.year := by
  by_contra later
  have before := other.ordinal_le_daysBeforeYear (Nat.lt_of_not_le later)
  have after := date.daysBeforeYear_lt_ordinal
  omega

theorem month_le_of_dayOfYear_le (sameYear : date.year = other.year)
    (order : date.dayOfYear ≤ other.dayOfYear) : date.month ≤ other.month := by
  by_contra later
  have before := other.dayOfYear_le_daysBeforeMonth (Nat.lt_of_not_le later)
  have after := date.daysBeforeMonth_lt_dayOfYear
  rw [sameYear] at after
  omega

theorem ordinal_injective : Function.Injective ordinal := by
  intro date other same
  have years : date.year = other.year :=
    Nat.le_antisymm (year_le_of_ordinal_le (Nat.le_of_eq same))
      (year_le_of_ordinal_le (Nat.le_of_eq same.symm))
  have days : date.dayOfYear = other.dayOfYear := by
    rw [ordinal_eq, ordinal_eq, years] at same
    exact Nat.add_left_cancel same
  have months : date.month = other.month :=
    Nat.le_antisymm (month_le_of_dayOfYear_le years (Nat.le_of_eq days))
      (month_le_of_dayOfYear_le years.symm (Nat.le_of_eq days.symm))
  rw [dayOfYear, dayOfYear, years, months] at days
  cases date
  cases other
  cases years
  cases months
  cases Nat.add_left_cancel days
  rfl

/-! ## Every ordinal is found -/

/-- The days before a year, counted by cycles of four centuries, centuries, cycles of four years
and single years. -/
theorem daysBeforeYear_cycles {cycle century four single : Nat} (centuries : century ≤ 3)
    (fours : four ≤ 24) (singles : single ≤ 3) :
    daysBeforeYear (400 * cycle + 100 * century + 4 * four + single + 1) =
      146097 * cycle + 36524 * century + 1461 * four + 365 * single := by
  have byFour : (400 * cycle + 100 * century + 4 * four + single) / 4 =
      100 * cycle + 25 * century + four := by omega
  have byHundred : (400 * cycle + 100 * century + 4 * four + single) / 100 =
      4 * cycle + century := by omega
  have byCycle : (400 * cycle + 100 * century + 4 * four + single) / 400 = cycle := by omega
  rw [daysBeforeYear, Nat.add_sub_cancel, byFour, byHundred, byCycle]
  omega

theorem isLeapYear_cycles {cycle century four : Nat} (fours : four ≤ 24)
    (kept : four < 24 ∨ century = 3) :
    isLeapYear (400 * cycle + 100 * century + 4 * four + 3 + 1) := by
  rw [isLeapYear_iff]
  omega

/-- What is left of a number when parts of one size are taken from it, but not too many. -/
theorem sub_min_mul (n size most : Nat) (positive : 0 < size) :
    min most (n / size) * size ≤ n ∧
      (n - min most (n / size) * size < size ∨ min most (n / size) = most) := by
  have parts := Nat.div_mul_le_self n size
  rcases Nat.le_total most (n / size) with many | few
  · rw [Nat.min_eq_left many]
    exact ⟨Nat.le_trans (Nat.mul_le_mul_right size many) parts, .inr rfl⟩
  · rw [Nat.min_eq_right few]
    refine ⟨parts, .inl ?_⟩
    rw [← Nat.mod_eq_sub_div_mul]
    exact Nat.mod_lt n positive

/-- The year that a number of elapsed days leads into, and the days that are left then. -/
theorem exists_year (elapsed : Nat) :
    ∃ year days, 1 ≤ year ∧ daysBeforeYear year + days = elapsed ∧ days < daysInYear year ∧
      ofOrdinal? (elapsed + 1) =
        ofParts? year (monthAndDay year (List.range' 1 12) days).1
          (monthAndDay year (List.range' 1 12) days).2 := by
  have counted : ¬ (elapsed + 1 : Int) < 1 := by omega
  have back : ((elapsed + 1 : Int) - 1).toNat = elapsed := by omega
  rw [ofOrdinal?, if_neg counted, back]
  dsimp only
  have cycles := Nat.div_add_mod elapsed 146097
  have inCycle_lt := Nat.mod_lt elapsed (show 0 < 146097 by decide)
  have centuries := sub_min_mul (elapsed % 146097) 36524 3 (by decide)
  have century_le := Nat.min_le_left 3 (elapsed % 146097 / 36524)
  generalize elapsed / 146097 = cycle at *
  generalize elapsed % 146097 = inCycle at *
  generalize min 3 (inCycle / 36524) = century at *
  have fours := Nat.div_add_mod (inCycle - century * 36524) 1461
  have inFour_lt := Nat.mod_lt (inCycle - century * 36524) (show 0 < 1461 by decide)
  have singles := sub_min_mul ((inCycle - century * 36524) % 1461) 365 3 (by decide)
  have single_le := Nat.min_le_left 3 ((inCycle - century * 36524) % 1461 / 365)
  generalize (inCycle - century * 36524) / 1461 = four at *
  generalize (inCycle - century * 36524) % 1461 = inFour at *
  generalize min 3 (inFour / 365) = single at *
  have four_le : four ≤ 24 := by omega
  refine ⟨_, _, Nat.le_add_left 1 _, ?_, ?_, rfl⟩
  · rw [daysBeforeYear_cycles century_le four_le single_le]
    omega
  · -- Only the last year of four has another day, and not at the end of most centuries.
    rw [daysInYear]
    split
    · omega
    · next common =>
      by_contra more
      have last : single = 3 := by omega
      have kept : four < 24 ∨ century = 3 := by omega
      exact common (last ▸ isLeapYear_cycles four_le kept)

/-- The month and day that a number of days leads to.  The induction is on the months that are
left. -/
theorem monthAndDay_spec (year : Nat) {month count days : Nat} (counted : 1 ≤ month)
    (within : daysBeforeMonth year month + days < daysBeforeMonth year (month + count)) :
    ∃ found day, monthAndDay year (List.range' month count) days = (found, day) ∧
      month ≤ found ∧ found < month + count ∧ 1 ≤ day ∧ day ≤ daysInMonth year found ∧
      daysBeforeMonth year found + day = daysBeforeMonth year month + days + 1 := by
  induction count generalizing month days with
  | zero => exact absurd within (Nat.not_lt.mpr (Nat.le_add_right _ _))
  | succ count ih =>
      have next := daysBeforeMonth_succ year counted
      rw [List.range'_succ, monthAndDay]
      split
      · next early => exact ⟨month, days + 1, rfl, by omega, by omega, by omega, early, rfl⟩
      · next late =>
        have shifted : daysBeforeMonth year (month + 1) + (days - daysInMonth year month) =
            daysBeforeMonth year month + days := by omega
        have fewer : month + (count + 1) = month + 1 + count := by omega
        rw [← shifted, fewer] at within
        rcases ih (Nat.le_add_left 1 month) within with
          ⟨found, day, same, after, before, first, last, sum⟩
        exact ⟨found, day, same, by omega, by omega, first, last, by rw [sum, shifted]⟩

theorem ofParts?_eq_some_iff {year month day : Nat} :
    ofParts? year month day = some date ↔
      date.year = year ∧ date.month = month ∧ date.day = day := by
  constructor
  · intro found
    simp only [ofParts?] at found
    split_ifs at found
    cases found
    exact ⟨rfl, rfl, rfl⟩
  · rintro ⟨rfl, rfl, rfl⟩
    rw [ofParts?, dif_pos date.year_range, dif_pos date.month_range, dif_pos date.day_range]

/-- The parts of the date at an ordinal, in any year. -/
theorem exists_parts (elapsed : Nat) :
    ∃ year month day, 1 ≤ year ∧ (1 ≤ month ∧ month ≤ 12) ∧
      (1 ≤ day ∧ day ≤ daysInMonth year month) ∧
      daysBeforeYear year + daysBeforeMonth year month + day = elapsed + 1 ∧
      ofOrdinal? (elapsed + 1) = ofParts? year month day := by
  rcases exists_year elapsed with ⟨year, days, counted, sum, within, same⟩
  have start : daysBeforeMonth year 1 = 0 := rfl
  have inYear : daysBeforeMonth year 1 + days < daysBeforeMonth year (1 + 12) := by
    rwa [start, Nat.zero_add, daysBeforeMonth_thirteen]
  rcases monthAndDay_spec year (Nat.le_refl 1) inYear with
    ⟨month, day, found, first, last, dayFirst, dayLast, dayOf⟩
  rw [found] at same
  exact ⟨year, month, day, counted, ⟨first, by omega⟩, ⟨dayFirst, dayLast⟩, by omega, same⟩

theorem exists_ofOrdinal? {elapsed : Nat} (within : elapsed < lastOrdinal) :
    ∃ date : Date, date.ordinal = elapsed + 1 ∧ ofOrdinal? (elapsed + 1) = some date := by
  rcases exists_parts elapsed with ⟨year, month, day, yearFirst, months, days, sum, same⟩
  have yearLast : year ≤ maxYear := by
    by_contra late
    have after : lastOrdinal ≤ daysBeforeYear year :=
      monotone_daysBeforeYear (Nat.lt_of_not_le late)
    omega
  refine ⟨⟨year, month, day, ⟨yearFirst, yearLast⟩, months, days⟩, sum, ?_⟩
  rw [same, ofParts?_eq_some_iff]
  exact ⟨rfl, rfl, rfl⟩

/-- The date at an ordinal is the one that has it. -/
theorem ofOrdinal?_eq_some_iff {n : Int} : ofOrdinal? n = some date ↔ (date.ordinal : Int) = n := by
  rcases Int.lt_or_le n 1 with before | counted
  · have positive := date.ordinal_pos
    rw [ofOrdinal?, if_pos before]
    constructor
    · rintro ⟨⟩
    · intro same
      omega
  · obtain ⟨elapsed, rfl⟩ : ∃ elapsed : Nat, n = elapsed + 1 := ⟨(n - 1).toNat, by omega⟩
    constructor
    · intro found
      rcases exists_parts elapsed with ⟨year, month, day, -, -, -, sum, same⟩
      rw [same, ofParts?_eq_some_iff] at found
      rcases found with ⟨rfl, rfl, rfl⟩
      exact congrArg Int.ofNat sum
    · intro known
      have most := date.ordinal_le
      rcases exists_ofOrdinal? (show elapsed < lastOrdinal by omega) with ⟨found, sum, same⟩
      have equal : found = date := ordinal_injective (by omega)
      exact equal ▸ same

/-- The ordinals are the numbers from 1 up to the last one. -/
theorem exists_ordinal_iff {n : Int} :
    (∃ date : Date, (date.ordinal : Int) = n) ↔ 1 ≤ n ∧ n ≤ lastOrdinal := by
  constructor
  · rintro ⟨date, rfl⟩
    have first := date.ordinal_pos
    have last := date.ordinal_le
    omega
  · rintro ⟨first, last⟩
    obtain ⟨elapsed, rfl⟩ : ∃ elapsed : Nat, n = elapsed + 1 := ⟨(n - 1).toNat, by omega⟩
    rcases exists_ofOrdinal? (show elapsed < lastOrdinal by omega) with ⟨date, sum, -⟩
    exact ⟨date, congrArg Int.ofNat sum⟩

theorem isSome_ofOrdinal?_iff {n : Int} : (ofOrdinal? n).isSome ↔ 1 ≤ n ∧ n ≤ lastOrdinal := by
  rw [← exists_ordinal_iff, Option.isSome_iff_exists]
  simp only [ofOrdinal?_eq_some_iff]

/-! ## Dates and moments by their parts -/

theorem first_year : minYear ≤ 1 ∧ 1 ≤ maxYear := by
  decide

theorem first_month : 1 ≤ 1 ∧ 1 ≤ 12 := by
  decide

theorem first_day : 1 ≤ 1 ∧ 1 ≤ daysInMonth 1 1 := by
  decide

/-- The first day of the calendar. -/
def first : Date :=
  ⟨1, 1, 1, first_year, first_month, first_day⟩

/-- The date with the given parts, which the calendar should have. -/
def on (year month day : Nat) : Date :=
  (ofParts? year month day).getD first

end Date

theorem mod_dayMicros_lt (clock : Nat) : clock % dayMicros < dayMicros :=
  Nat.mod_lt clock (by decide)

/-- The moment of a date at a time of day. -/
def Moment.onClock (date : Date) (clock : Nat) (offset : Option Offset) : Moment :=
  ⟨date, clock % dayMicros, offset, mod_dayMicros_lt clock⟩

end BlockQuery.Calendar
