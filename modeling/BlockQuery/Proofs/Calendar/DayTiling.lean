import BlockQuery.Proofs.Calendar.TimestampError

/-!
# Days on the time line

The day after a date is found on the calendar: it is in the same month, or starts the
next month, or starts the next year.  Counting on from day to day gives the ordinals,
so a date has a day number, its distance from 1 January 1970.  A moment on a whole
second of a zone with a whole number of seconds has no more than 53 bits, in seconds
and in milliseconds: its timestamp is exact.  The days of such a zone then follow each
other without gaps, and every instant belongs to one of them.
-/

namespace BlockQuery.Calendar

namespace Date

/-! ## The next day -/

/-- The day after a date: the next one of its month, or the first one of the next month, or the
first one of the next year. -/
def next? (date : Date) : Option Date :=
  (ofParts? date.year date.month (date.day + 1)).or
    ((ofParts? date.year (date.month + 1) 1).or (ofParts? (date.year + 1) 1 1))

section

variable {date next : Date} {year month day : Nat}

theorem exists_ofParts? (years : minYear ≤ year ∧ year ≤ maxYear)
    (months : 1 ≤ month ∧ month ≤ 12) (days : 1 ≤ day ∧ day ≤ daysInMonth year month) :
    ∃ date, ofParts? year month day = some date :=
  ⟨⟨year, month, day, years, months, days⟩, ofParts?_eq_some_iff.mpr ⟨rfl, rfl, rfl⟩⟩

theorem ordinal_of_ofParts? (found : ofParts? year month day = some date) :
    date.ordinal = daysBeforeYear year + daysBeforeMonth year month + day := by
  obtain ⟨rfl, rfl, rfl⟩ := ofParts?_eq_some_iff.mp found
  rfl

/-- A day that is not followed by one of its month is the last one. -/
theorem day_eq_daysInMonth (last : ofParts? date.year date.month (date.day + 1) = none) :
    date.day = daysInMonth date.year date.month := by
  have inMonth := date.day_range.2
  by_contra early
  obtain ⟨next, found⟩ := exists_ofParts? date.year_range date.month_range
    (show 1 ≤ date.day + 1 ∧ date.day + 1 ≤ daysInMonth date.year date.month by omega)
  rw [last] at found
  cases found

/-- A month that is not followed by one of its year is December. -/
theorem month_eq_twelve (last : ofParts? date.year (date.month + 1) 1 = none) :
    date.month = 12 := by
  have inYear := date.month_range.2
  have days := daysInMonth_bounds date.year (date.month + 1)
  by_contra early
  obtain ⟨next, found⟩ := exists_ofParts? date.year_range
    (show 1 ≤ date.month + 1 ∧ date.month + 1 ≤ 12 by omega)
    (show 1 ≤ 1 ∧ 1 ≤ daysInMonth date.year (date.month + 1) by omega)
  rw [last] at found
  cases found

/-- The last day of a year is followed by the first one of the next year. -/
theorem ordinal_of_yearEnd (lastDay : date.day = daysInMonth date.year date.month)
    (lastMonth : date.month = 12) : date.ordinal = daysBeforeYear (date.year + 1) := by
  rw [daysBeforeYear_succ date.year_range.1, ← daysBeforeMonth_thirteen, ordinal_eq, dayOfYear,
    lastDay, lastMonth]
  rfl

theorem ordinal_of_next? (follows : date.next? = some next) :
    next.ordinal = date.ordinal + 1 := by
  rw [next?, Option.or_eq_some_iff, Option.or_eq_some_iff] at follows
  obtain inMonth | ⟨lastDay, inYear | ⟨lastMonth, later⟩⟩ := follows
  · exact ordinal_of_ofParts? inMonth
  · rw [ordinal_of_ofParts? inYear, daysBeforeMonth_succ _ date.month_range.1, ordinal,
      day_eq_daysInMonth lastDay]
    omega
  · rw [ordinal_of_ofParts? later,
      ordinal_of_yearEnd (day_eq_daysInMonth lastDay) (month_eq_twelve lastMonth)]
    rfl

/-- Only the last date has no next day. -/
theorem ordinal_of_next?_eq_none (ends : date.next? = none) : date.ordinal = lastOrdinal := by
  rw [next?, Option.or_eq_none_iff, Option.or_eq_none_iff] at ends
  obtain ⟨lastDay, lastMonth, noYear⟩ := ends
  have lastYear : date.year = maxYear := by
    have inCalendar := date.year_range
    by_contra early
    obtain ⟨next, found⟩ := exists_ofParts?
      (show minYear ≤ date.year + 1 ∧ date.year + 1 ≤ maxYear by omega)
      (show 1 ≤ 1 ∧ 1 ≤ 12 by decide)
      (show 1 ≤ 1 ∧ 1 ≤ daysInMonth (date.year + 1) 1 by simp [daysInMonth])
    rw [noYear] at found
    cases found
  rw [ordinal_of_yearEnd (day_eq_daysInMonth lastDay) (month_eq_twelve lastMonth), lastYear]
  rfl

/-- The next day has the next ordinal. -/
theorem next?_eq_some_iff : date.next? = some next ↔ next.ordinal = date.ordinal + 1 := by
  refine ⟨ordinal_of_next?, fun follows => ?_⟩
  cases found : date.next? with
  | none =>
      have last := ordinal_of_next?_eq_none found
      have most := next.ordinal_le
      omega
  | some other =>
      rw [ordinal_injective ((ordinal_of_next? found).trans follows.symm)]

end

/-! ## Day numbers -/

/-- The date a number of days later, counted from day to day. -/
def later? : Nat → Date → Option Date
  | 0, date => some date
  | days + 1, date => date.next?.bind (later? days)

theorem later?_eq_some_iff {days : Nat} {date later : Date} :
    later? days date = some later ↔ later.ordinal = date.ordinal + days := by
  induction days generalizing date with
  | zero =>
      rw [later?, Option.some_inj]
      exact ⟨fun same => congrArg ordinal same.symm, fun same => ordinal_injective same.symm⟩
  | succ days ih =>
      simp only [later?, Option.bind_eq_some_iff, next?_eq_some_iff, ih]
      constructor
      · rintro ⟨next, follows, counted⟩
        omega
      · intro counted
        have most := later.ordinal_le
        obtain ⟨next, follows⟩ := exists_ordinal_iff.mpr
          (show 1 ≤ (date.ordinal + 1 : Int) ∧ (date.ordinal + 1 : Int) ≤ lastOrdinal by omega)
        exact ⟨next, by omega, by omega⟩

/-- 1 January 1970. -/
def epochDate : Date :=
  .on 1970 1 1

theorem ordinal_epochDate : epochDate.ordinal = epochOrdinal :=
  rfl

/-- The number of days from 1 January 1970 to a date, negative for the dates before. -/
def IsDayNumber (date : Date) : Int → Prop
  | .ofNat days => later? days epochDate = some date
  | .negSucc days => later? (days + 1) date = some epochDate

theorem isDayNumber_iff {date : Date} {days : Int} :
    date.IsDayNumber days ↔ (date.ordinal : Int) = epochOrdinal + days := by
  cases days with
  | ofNat days =>
      rw [IsDayNumber, later?_eq_some_iff, ordinal_epochDate, Int.ofNat_eq_natCast]
      omega
  | negSucc days =>
      rw [IsDayNumber, later?_eq_some_iff, ordinal_epochDate]
      omega

end Date

/-! ## Whole seconds -/

namespace Moment

open Number

variable {moment : Moment} {zone : Offset} {seconds : Int}

theorem epochMicros_of_isDayNumber (aware : moment.offset = some zone) {days : Int}
    (counted : moment.date.IsDayNumber days) :
    moment.epochMicros = days * dayMicros + moment.clock - zone.micros := by
  rw [Date.isDayNumber_iff] at counted
  rw [epochMicros, localMicros, aware, counted, Option.map_some, Option.getD_some,
    add_sub_cancel_left]

/-- Whole seconds are small enough for their milliseconds to be exact. -/
theorem abs_lt_of_epochMicros (aware : moment.offset = some zone)
    (whole : moment.epochMicros = secondMicros * seconds) : |seconds * 1000| < 2 ^ 53 := by
  have bits := abs_exactMicros_le (exactMicros_of_some aware .universal)
  have range : |moment.epochMicros| ≤ 2 ^ 58 := by exact_mod_cast bits
  rw [whole, secondMicros, abs_le] at range
  rw [abs_lt]
  constructor <;> omega

/-- The seconds of a moment on a whole second are computed exactly. -/
theorem epochSeconds_eq (aware : moment.offset = some zone)
    (whole : moment.epochMicros = secondMicros * seconds) (time : LocalTime) :
    moment.epochSeconds time = .ok (seconds : Rat) := by
  have small := abs_lt_of_epochMicros aware whole
  have exactly : (moment.epochMicros : Rat) / (secondMicros : Nat) = seconds := by
    rw [whole, Int.cast_mul, Int.cast_natCast]
    exact mul_div_cancel_left₀ _ (by norm_num [secondMicros])
  have rounded : round53 (seconds : Rat) = seconds := by
    apply round53_intCast
    rw [abs_lt] at small ⊢
    constructor <;> omega
  rw [epochSeconds, aware]
  dsimp only
  rw [exactly, rounded]

/-- So are its milliseconds. -/
theorem round53_millis_eq (aware : moment.offset = some zone)
    (whole : moment.epochMicros = secondMicros * seconds) :
    round53 ((seconds : Rat) * 1000) = seconds * 1000 := by
  have exactly := round53_intCast (abs_lt_of_epochMicros aware whole)
  exact_mod_cast exactly

theorem timestamp_eq (aware : moment.offset = some zone)
    (whole : moment.epochMicros = secondMicros * seconds) (time : LocalTime) :
    moment.timestamp time = .ok (seconds * 1000) := by
  have rounded : roundHalfEven ((seconds : Rat) * 1000) = seconds * 1000 := by
    exact_mod_cast roundHalfEven_intCast (seconds * 1000)
  refine timestamp_eq_ok_iff.mpr ⟨seconds, epochSeconds_eq aware whole time, ?_⟩
  rw [round53_millis_eq aware whole, rounded]

end Moment

/-! ## Whole days -/

/-- The start of a day in a zone that is `shift` seconds ahead of universal time. -/
def dayStart (shift : Int) (date : Date) : Int :=
  ((date.ordinal - epochOrdinal) * 86400 - shift) * 1000

section

variable {zone : Offset} {shift : Int} (whole : zone.micros = secondMicros * shift)

include whole in
theorem timestamp_midnight (date : Date) (time : LocalTime) :
    (Moment.midnight date (some zone)).timestamp time = .ok (dayStart shift date) := by
  refine Moment.timestamp_eq rfl ?_ time
  rw [Moment.epochMicros, Moment.localMicros, Moment.midnight, Option.map_some, Option.getD_some,
    whole, dayMicros, secondMicros]
  push_cast
  ring

variable {date next early late : Date} {t : Int}

/-- A day ends where the next one starts. -/
theorem endOfDay_dayStart (follows : date.next? = some next) :
    endOfDay (dayStart shift date) = dayStart shift next - 1 := by
  rw [Date.next?_eq_some_iff] at follows
  rw [endOfDay, dayStart, dayStart, follows, dayMillis]
  push_cast
  ring

/-- An instant is in a day if its number of days since the epoch is that of the day. -/
theorem mem_day_iff :
    dayStart shift date ≤ t ∧ t ≤ endOfDay (dayStart shift date) ↔
      (date.ordinal : Int) = (t + shift * 1000) / dayMillis + epochOrdinal := by
  rw [endOfDay, dayStart, dayMillis]
  omega

/-- Between the start of one day and the end of another every instant is in one day. -/
theorem existsUnique_day (after : dayStart shift early ≤ t)
    (before : t ≤ endOfDay (dayStart shift late)) :
    ∃! date, dayStart shift date ≤ t ∧ t ≤ endOfDay (dayStart shift date) := by
  have first := early.ordinal_pos
  have last := late.ordinal_le
  have within : 1 ≤ (t + shift * 1000) / dayMillis + epochOrdinal ∧
      (t + shift * 1000) / dayMillis + epochOrdinal ≤ lastOrdinal := by
    rw [dayStart] at after
    rw [endOfDay, dayStart, dayMillis] at before
    rw [dayMillis]
    omega
  obtain ⟨date, counted⟩ := Date.exists_ordinal_iff.mpr within
  simp only [mem_day_iff]
  refine ⟨date, counted, fun other same => ?_⟩
  exact Date.ordinal_injective (by omega)

end

/-- In a zone with a whole number of seconds, the timestamp of a moment on a whole second is a
thousand times its seconds since the epoch, because neither of the two roundings changes anything.
It does not matter how local time runs.  The seconds are counted from day to day on the calendar.
Each day ends a millisecond before the next one starts, and every instant between the starts of days
is in exactly one of them. -/
theorem timestamps_exact_and_tile_days {zone : Offset}
    (whole : (secondMicros : Int) ∣ zone.micros) :
    (∀ moment : Moment, moment.offset = some zone → secondMicros ∣ moment.clock →
      ∃ days seconds : Int, moment.date.IsDayNumber days ∧
        seconds * secondMicros = days * dayMicros + moment.clock - zone.micros ∧
        (∀ time, moment.epochSeconds time = .ok (seconds : Rat)) ∧
        Number.round53 ((seconds : Rat) * 1000) = seconds * 1000 ∧
        ∀ time, moment.timestamp time = .ok (seconds * 1000)) ∧
    ∃ start : Date → Int,
      (∀ date time, (Moment.midnight date (some zone)).timestamp time = .ok (start date)) ∧
      (∀ date next, date.next? = some next → endOfDay (start date) = start next - 1) ∧
      ∀ early late t, start early ≤ t → t ≤ endOfDay (start late) →
        ∃! date, start date ≤ t ∧ t ≤ endOfDay (start date) := by
  obtain ⟨shift, whole⟩ := whole
  refine ⟨?_, dayStart shift, timestamp_midnight whole, fun _ _ => endOfDay_dayStart,
    fun _ _ _ => existsUnique_day⟩
  rintro moment aware ⟨elapsed, clock⟩
  have counted : moment.date.IsDayNumber (moment.date.ordinal - epochOrdinal) := by
    rw [Date.isDayNumber_iff]
    omega
  have micros := Moment.epochMicros_of_isDayNumber aware counted
  have exactly : moment.epochMicros = secondMicros *
      ((moment.date.ordinal - epochOrdinal) * 86400 + elapsed - shift) := by
    rw [micros, whole, clock, dayMicros, secondMicros]
    push_cast
    ring
  refine ⟨_, _, counted, ?_, Moment.epochSeconds_eq aware exactly,
    Moment.round53_millis_eq aware exactly, Moment.timestamp_eq aware exactly⟩
  rw [← micros, exactly, mul_comm]

/-- The offset of a zone of local mean time, four hours, 56 minutes and two seconds to the west. -/
def meanTimeOffset : Offset :=
  (Offset.ofMicros? (-17762000000)).getD .utc

/-- The last day of February in a year that four divides, but that is not a leap year. -/
def centuryFebruaryEnd : Date :=
  .on 1900 2 28

theorem timestamps_exact_and_tile_days_centuryFebruary :
    ∃ next start following, centuryFebruaryEnd.next? = some next ∧ next.month = 3 ∧
      (Moment.midnight centuryFebruaryEnd (some meanTimeOffset)).timestamp .universal =
        .ok start ∧
      (Moment.midnight next (some meanTimeOffset)).timestamp .universal = .ok following ∧
      endOfDay start = following - 1 := by
  have whole : (secondMicros : Int) ∣ meanTimeOffset.micros := by
    decide
  have follows : centuryFebruaryEnd.next?.map Date.month = some 3 := by
    decide
  obtain ⟨next, march, month⟩ := Option.map_eq_some_iff.mp follows
  obtain ⟨-, start, timestamp, tiles, -⟩ := timestamps_exact_and_tile_days whole
  exact ⟨next, _, _, march, month, timestamp _ _, timestamp _ _, tiles _ _ march⟩

end BlockQuery.Calendar
