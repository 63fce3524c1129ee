import BlockQuery.Proofs.Calendar.Range

/-!
# Shifts by calendar months

The months of the calendar are numbered one after the other, and a shift by months
adds to the number.  The day of the month is kept where the month reached has it and
is counted on into the next month otherwise.  A longer shift leads to a later moment,
and shifts add up as long as the day is one that every month has.
-/

namespace BlockQuery.Calendar

namespace Moment

/-- The number of days of a numbered month. -/
def monthLength (number : Int) : Nat :=
  daysInMonth (number / 12).toNat ((number % 12).toNat + 1)

/-- The date is the given day of a numbered month. -/
structure IsDayOf (number : Int) (day : Nat) (date : Date) : Prop where
  year : (date.year : Int) = number / 12
  month : (date.month : Int) = number % 12 + 1
  day : date.day = day

section Numbers

variable {number : Int} {day : Nat} {date : Date}

theorem IsDayOf.monthNumber_eq (isDay : IsDayOf number day date) (months : Int) :
    monthNumber date months = number + months := by
  have year := isDay.year
  have month := isDay.month
  rw [monthNumber]
  omega

theorem IsDayOf.monthLength_eq (isDay : IsDayOf number day date) :
    monthLength number = daysInMonth date.year date.month := by
  have year : (number / 12).toNat = date.year := by
    rw [← isDay.year, Int.toNat_natCast]
  have month : (number % 12).toNat + 1 = date.month := by
    have same := isDay.month
    omega
  rw [monthLength, year, month]

/-- A month has no days behind its last one. -/
theorem IsDayOf.day_le (isDay : IsDayOf number day date) : day ≤ monthLength number := by
  rw [isDay.monthLength_eq, ← isDay.day]
  exact date.day_range.2

theorem shiftedMonth_eq_ok_iff_isDayOf {first : Date} {months : Int} :
    shiftedMonth date months = .ok first ↔ IsDayOf (monthNumber date months) 1 first := by
  rw [shiftedMonth_eq_ok_iff]
  constructor
  · rintro ⟨year, month, start⟩
    exact ⟨year, month, start⟩
  · intro isDay
    exact ⟨isDay.year, isDay.month, isDay.day⟩

/-- The month reached depends on the number of the month only. -/
theorem shiftedMonth_congr {other : Date} {months others : Int}
    (same : monthNumber date months = monthNumber other others) :
    shiftedMonth date months = shiftedMonth other others := by
  unfold monthNumber at same
  rw [shiftedMonth, shiftedMonth, same]

end Numbers

/-! ## The day that is reached -/

variable {moment shifted : Moment} {months : Int}

@[simp]
theorem date_onDate (moment : Moment) (date : Date) : (moment.onDate date).date = date :=
  rfl

@[simp]
theorem onDate_onDate (moment : Moment) (date other : Date) :
    (moment.onDate date).onDate other = moment.onDate other :=
  rfl

/-- A shift leads to the start of a month and on by the days before the day of the month. -/
theorem addMonths_eq_ok_iff :
    moment.addMonths months = .ok shifted ↔
      ∃ first date : Date, IsDayOf (monthNumber moment.date months) 1 first ∧
        date.ordinal = first.ordinal + (moment.date.day - 1) ∧ shifted = moment.onDate date := by
  have counted := moment.date.day_range.1
  simp only [addMonths, bind_eq_ok_iff, shiftedMonth_eq_ok_iff_isDayOf, addDays_eq_ok_iff,
    date_onDate, onDate_onDate]
  constructor
  · rintro ⟨first, isDay, date, there, same⟩
    exact ⟨first, date, isDay, by omega, same⟩
  · rintro ⟨first, date, isDay, there, same⟩
    exact ⟨first, isDay, date, by omega, same⟩

section Days

variable {first date : Date} {number : Int} {day : Nat}

/-- The day is one of the month that was reached. -/
theorem isDayOf_of_le (start : IsDayOf number 1 first) (counted : 1 ≤ day)
    (within : day ≤ monthLength number) (there : date.ordinal = first.ordinal + (day - 1)) :
    IsDayOf number day date := by
  rw [start.monthLength_eq] at within
  let reached : Date := ⟨first.year, first.month, day, first.year_range, first.month_range,
    counted, within⟩
  have ordinal : reached.ordinal = first.ordinal + (day - 1) := by
    have one := start.day
    simp only [Date.ordinal, reached]
    omega
  have same : date = reached := Date.ordinal_injective (there.trans ordinal.symm)
  rw [same]
  exact ⟨start.year, start.month, rfl⟩

/-- The day is counted on into the next month, which is one of the same year: the last month of a
year has as many days as any. -/
theorem isDayOf_of_lt (start : IsDayOf number 1 first) (most : day ≤ 31)
    (beyond : monthLength number < day) (there : date.ordinal = first.ordinal + (day - 1)) :
    IsDayOf (number + 1) (day - monthLength number) date := by
  have length := start.monthLength_eq
  have least := (daysInMonth_bounds first.year first.month).1
  have notLast : first.month ≠ 12 := by
    intro last
    rw [last] at length
    have full : daysInMonth first.year 12 = 31 := rfl
    omega
  have monthFirst := first.month_range.1
  have monthLast := first.month_range.2
  have room : day - monthLength number ≤ daysInMonth first.year (first.month + 1) := by
    have next := (daysInMonth_bounds first.year (first.month + 1)).1
    omega
  let reached : Date := ⟨first.year, first.month + 1, day - monthLength number, first.year_range,
    by omega, by omega, room⟩
  have ordinal : reached.ordinal = first.ordinal + (day - 1) := by
    have one := start.day
    have before := daysBeforeMonth_succ first.year first.month_range.1
    simp only [Date.ordinal, reached]
    omega
  have same : date = reached := Date.ordinal_injective (there.trans ordinal.symm)
  have year := start.year
  have month := start.month
  rw [same]
  refine ⟨?_, ?_, rfl⟩
  · change (first.year : Int) = (number + 1) / 12
    omega
  · change ((first.month + 1 : Nat) : Int) = (number + 1) % 12 + 1
    omega

end Days

/-- The day of the month that was reached, or the day counted on from its end if it has no such
day. -/
theorem isDayOf_of_addMonths (ok : moment.addMonths months = .ok shifted) :
    IsDayOf (monthNumber moment.date months) moment.date.day shifted.date ∨
      (¬ ∃ date, IsDayOf (monthNumber moment.date months) moment.date.day date) ∧
        IsDayOf (monthNumber moment.date months + 1)
          (moment.date.day - monthLength (monthNumber moment.date months)) shifted.date := by
  obtain ⟨first, date, start, there, rfl⟩ := addMonths_eq_ok_iff.mp ok
  have most : moment.date.day ≤ 31 :=
    moment.date.day_range.2.trans (daysInMonth_bounds moment.date.year moment.date.month).2
  rcases Nat.lt_or_ge (monthLength (monthNumber moment.date months)) moment.date.day with
    beyond | within
  · refine .inr ⟨?_, isDayOf_of_lt start most beyond there⟩
    rintro ⟨other, isDay⟩
    exact Nat.not_lt.mpr isDay.day_le beyond
  · exact .inl (isDayOf_of_le start moment.date.day_range.1 within there)

/-! ## Order and composition -/

/-- The days of a month come before those of a later one. -/
theorem ordinal_lt_of_monthNumber_lt {date other : Date}
    (earlier : monthNumber date 0 < monthNumber other 0) : date.ordinal < other.ordinal := by
  have monthFirst := other.month_range.1
  have monthLast := date.month_range.2
  rw [monthNumber, monthNumber] at earlier
  rcases Nat.lt_or_ge date.year other.year with before | notBefore
  · exact Nat.lt_of_le_of_lt (date.ordinal_le_daysBeforeYear before)
      other.daysBeforeYear_lt_ordinal
  · have sameYear : date.year = other.year := by
      have dateLast := other.month_range.2
      have dateFirst := date.month_range.1
      omega
    have months : date.month < other.month := by omega
    have upTo := date.dayOfYear_le_daysBeforeMonth months
    have behind := other.daysBeforeMonth_lt_dayOfYear
    rw [sameYear] at upTo
    rw [Date.ordinal_eq, Date.ordinal_eq, sameYear]
    omega

theorem epochMicros_onDate_lt {date other : Date} (earlier : date.ordinal < other.ordinal) :
    (moment.onDate date).epochMicros < (moment.onDate other).epochMicros := by
  have positive : (0 : Int) < dayMicros := by decide
  have days : ((date.ordinal : Int) - epochOrdinal) * dayMicros <
      ((other.ordinal : Int) - epochOrdinal) * dayMicros :=
    Int.mul_lt_mul_of_pos_right (by omega) positive
  simp only [epochMicros, localMicros, onDate]
  omega

/-- A longer shift leads to a later date. -/
theorem ordinal_lt_of_addMonths {more : Int} {later : Moment} (longer : months < more)
    (ok : moment.addMonths months = .ok shifted) (okMore : moment.addMonths more = .ok later) :
    shifted.date.ordinal < later.date.ordinal := by
  obtain ⟨first, date, start, there, rfl⟩ := addMonths_eq_ok_iff.mp ok
  obtain ⟨second, other, startMore, thereMore, rfl⟩ := addMonths_eq_ok_iff.mp okMore
  have starts : first.ordinal < second.ordinal := by
    apply ordinal_lt_of_monthNumber_lt
    rw [start.monthNumber_eq, startMore.monthNumber_eq, monthNumber, monthNumber]
    omega
  change date.ordinal < other.ordinal
  omega

theorem epochMicros_lt_of_addMonths {more : Int} {later : Moment} (longer : months < more)
    (ok : moment.addMonths months = .ok shifted) (okMore : moment.addMonths more = .ok later) :
    shifted.epochMicros < later.epochMicros := by
  have dates := ordinal_lt_of_addMonths longer ok okMore
  obtain ⟨first, date, -, -, rfl⟩ := addMonths_eq_ok_iff.mp ok
  obtain ⟨second, other, -, -, rfl⟩ := addMonths_eq_ok_iff.mp okMore
  exact epochMicros_onDate_lt dates

/-- A day that every month has is kept, so that shifts add up. -/
theorem addMonths_addMonths (everywhere : moment.date.day ≤ 28)
    (ok : moment.addMonths months = .ok shifted) (more : Int) :
    shifted.addMonths more = moment.addMonths (months + more) := by
  have kept : IsDayOf (monthNumber moment.date months) moment.date.day shifted.date := by
    rcases isDayOf_of_addMonths ok with kept | ⟨missing, rolled⟩
    · exact kept
    · have least := (daysInMonth_bounds (monthNumber moment.date months / 12).toNat
        ((monthNumber moment.date months % 12).toNat + 1)).1
      have positive := shifted.date.day_range.1
      have counted := rolled.day
      rw [monthLength] at counted
      omega
  obtain ⟨-, date, -, -, rfl⟩ := addMonths_eq_ok_iff.mp ok
  rw [date_onDate] at kept
  have number : monthNumber date more = monthNumber moment.date (months + more) := by
    rw [kept.monthNumber_eq, monthNumber, monthNumber]
    omega
  simp only [addMonths, date_onDate, onDate_onDate, shiftedMonth_congr number, kept.day]

/-- A shift by months fails exactly when it leaves the years of the calendar.  Otherwise it keeps
the time of day and the zone and leads to the same day of the month reached, or to the day counted
on from the end of that month.  A longer shift leads to a later moment, and from a day that every
month has two shifts are one. -/
theorem addMonths_follows_calendar (moment : Moment) :
    (∀ months : Int,
      ((∃ cause, moment.addMonths months = .error cause) ↔
        ¬ (minYear ≤ monthNumber moment.date months / 12 ∧
          monthNumber moment.date months / 12 ≤ maxYear)) ∧
      ∀ shifted, moment.addMonths months = .ok shifted →
        shifted.clock = moment.clock ∧ shifted.offset = moment.offset ∧
        (IsDayOf (monthNumber moment.date months) moment.date.day shifted.date ∨
          (¬ ∃ date, IsDayOf (monthNumber moment.date months) moment.date.day date) ∧
            IsDayOf (monthNumber moment.date months + 1)
              (moment.date.day - monthLength (monthNumber moment.date months)) shifted.date)) ∧
    (∀ (months more : Int) (shifted later : Moment), months < more →
      moment.addMonths months = .ok shifted → moment.addMonths more = .ok later →
      shifted.epochMicros < later.epochMicros) ∧
    (moment.date.day ≤ 28 → ∀ (months more : Int) (shifted : Moment),
      moment.addMonths months = .ok shifted →
      shifted.addMonths more = moment.addMonths (months + more)) := by
  refine ⟨?_, ?_, ?_⟩
  · intro months
    refine ⟨?_, ?_⟩
    · rw [exists_error_iff, exists_addMonths_iff]
    · intro shifted ok
      obtain ⟨-, date, -, -, same⟩ := addMonths_eq_ok_iff.mp ok
      refine ⟨?_, ?_, isDayOf_of_addMonths ok⟩
      · rw [same]
        rfl
      · rw [same]
        rfl
  · intro months more shifted later longer ok okMore
    exact epochMicros_lt_of_addMonths longer ok okMore
  · intro everywhere months more shifted ok
    exact addMonths_addMonths everywhere ok more

/-- The last day of a March behind a February of 29 days. -/
def leapMarchEnd : Moment :=
  midnight (.on 2024 3 31) none

/-- The day that the last day of February would be if it were the 31st. -/
def leapMarchSecond : Moment :=
  midnight (.on 2024 3 2) none

theorem addMonths_follows_calendar_leapMarch :
    leapMarchEnd.addMonths (-1) = .ok leapMarchSecond ∧
    leapMarchSecond.clock = leapMarchEnd.clock ∧
    leapMarchSecond.epochMicros < leapMarchEnd.epochMicros ∧
    leapMarchSecond.date.day ≤ 28 ∧
    ∃ shifted, leapMarchSecond.addMonths (-14) = .ok shifted ∧
      shifted.addMonths 14 = .ok leapMarchSecond := by
  have back : leapMarchEnd.addMonths (-1) = .ok leapMarchSecond := by decide +kernel
  have stay : leapMarchEnd.addMonths 0 = .ok leapMarchEnd := by decide +kernel
  have again : leapMarchSecond.addMonths (-14 + 14) = .ok leapMarchSecond := by decide +kernel
  have few : leapMarchSecond.date.day ≤ 28 := by decide
  have calendar := addMonths_follows_calendar leapMarchEnd
  obtain ⟨shifted, gone⟩ : ∃ shifted, leapMarchSecond.addMonths (-14) = .ok shifted :=
    exists_addMonths_iff.mpr (by decide)
  have sum := (addMonths_follows_calendar leapMarchSecond).2.2 few (-14) 14 shifted gone
  exact ⟨back, ((calendar.1 (-1)).2 leapMarchSecond back).1,
    calendar.2.1 (-1) 0 leapMarchSecond leapMarchEnd (by decide) back stay, few, shifted, gone,
    sum.trans again⟩

end Moment

end BlockQuery.Calendar
