import BlockQuery.Calendar.Resolve
import BlockQuery.Proofs.Calendar.LocalClock

/-!
# Dates outside the calendar

A text that denotes a day can still have no timestamp.  Its count may have too many
digits, the shift that it asks for may leave the years of the calendar, and a moment
without a zone may be so close to an end of the calendar that the local clock, looked
at to place it, shows a date outside.  There is no other way to be out of range,
whatever the clock is.
-/

namespace BlockQuery.Calendar

namespace Moment

variable {moment shifted : Moment}

/-! ## Shifts -/

theorem addDays_eq_ok_iff {days : Int} :
    moment.addDays days = .ok shifted ↔
      ∃ date : Date, (date.ordinal : Int) = moment.date.ordinal + days ∧
        shifted = moment.onDate date := by
  have reached (date : Date) (there : (date.ordinal : Int) = moment.date.ordinal + days) :
      days.natAbs < lastOrdinal := by
    have first := date.ordinal_pos
    have last := date.ordinal_le
    have here := moment.date.ordinal_pos
    have most := moment.date.ordinal_le
    omega
  have spans : lastOrdinal ≤ integerBound ∧ lastOrdinal ≤ maxSpan := by decide
  rw [addDays]
  constructor
  · intro ok
    split at ok
    · cases ok
    · split at ok
      · cases ok
      · split at ok
        · next date found =>
          cases ok
          exact ⟨date, Date.ofOrdinal?_eq_some_iff.mp found, rfl⟩
        · cases ok
  · rintro ⟨date, there, rfl⟩
    have near := reached date there
    have found : moment.date.addDays? days = some date := Date.ofOrdinal?_eq_some_iff.mpr there
    rw [if_neg (by omega), if_neg (by omega), found]

theorem exists_addDays_iff {days : Int} :
    (∃ shifted, moment.addDays days = .ok shifted) ↔
      1 ≤ moment.date.ordinal + days ∧ moment.date.ordinal + days ≤ lastOrdinal := by
  rw [← Date.exists_ordinal_iff]
  simp only [addDays_eq_ok_iff]
  constructor
  · rintro ⟨_, date, there, -⟩
    exact ⟨date, there⟩
  · rintro ⟨date, there⟩
    exact ⟨_, date, there, rfl⟩

/-- The number of the month a number of months later, counted from the start of year 0. -/
def monthNumber (date : Date) (months : Int) : Int :=
  12 * date.year + (date.month - 1) + months

theorem shiftedMonth_eq_ok_iff {date first : Date} {months : Int} :
    shiftedMonth date months = .ok first ↔
      (first.year : Int) = monthNumber date months / 12 ∧
        (first.month : Int) = monthNumber date months % 12 + 1 ∧ first.day = 1 := by
  have parts : shiftedMonth date months = .ok first ↔
      Date.ofParts? (monthNumber date months / 12).toNat
        ((monthNumber date months % 12).toNat + 1) 1 = some first := by
    rw [shiftedMonth, monthNumber]
    split
    · next found there => rw [there, Except.ok.injEq, Option.some.injEq]
    · next missing => simp [missing]
  have positive : 1 ≤ first.year := first.year_range.1
  rw [parts, Date.ofParts?_eq_some_iff]
  omega

/-- The start of a month leaves room for a day of any month. -/
theorem ordinal_add_le {first date : Date} (start : first.day = 1) :
    first.ordinal + (date.day - 1) ≤ lastOrdinal := by
  have room : daysBeforeMonth first.year first.month + 31 ≤ daysInYear first.year := by
    rw [← daysBeforeMonth_thirteen, daysBeforeMonth_succ first.year (show 1 ≤ 12 by decide)]
    exact Nat.add_le_add_right (monotone_daysBeforeMonth _ first.month_range.2) 31
  have most : date.day ≤ 31 :=
    Nat.le_trans date.day_range.2 (daysInMonth_bounds date.year date.month).2
  have within : daysBeforeYear (first.year + 1) ≤ lastOrdinal :=
    monotone_daysBeforeYear (Nat.succ_le_succ first.year_range.2)
  rw [daysBeforeYear_succ first.year_range.1] at within
  rw [Date.ordinal, start]
  omega

theorem exists_addMonths_iff {months : Int} :
    (∃ shifted, moment.addMonths months = .ok shifted) ↔
      minYear ≤ monthNumber moment.date months / 12 ∧
        monthNumber moment.date months / 12 ≤ maxYear := by
  simp only [addMonths, bind_eq_ok_iff, shiftedMonth_eq_ok_iff]
  constructor
  · rintro ⟨_, first, ⟨year, -, -⟩, -⟩
    have range := first.year_range
    omega
  · rintro ⟨early, late⟩
    have months_lt := Int.emod_lt_of_pos (monthNumber moment.date months) (show 0 < 12 by decide)
    have months_nonneg := Int.emod_nonneg (monthNumber moment.date months) (show 12 ≠ 0 by decide)
    let first : Date :=
      { year := (monthNumber moment.date months / 12).toNat
        month := (monthNumber moment.date months % 12).toNat + 1
        day := 1
        year_range := by omega
        month_range := by omega
        day_range := ⟨Nat.le_refl 1, Nat.le_trans (by decide) (daysInMonth_bounds _ _).1⟩ }
    have year : (first.year : Int) = monthNumber moment.date months / 12 :=
      Int.toNat_of_nonneg (by omega)
    have month : (first.month : Int) = monthNumber moment.date months % 12 + 1 :=
      congrArg (· + 1) (Int.toNat_of_nonneg months_nonneg)
    have enters : ∃ shifted,
        (moment.onDate first).addDays (moment.date.day - 1) = .ok shifted := by
      have place : (moment.onDate first).date = first := rfl
      have day := moment.date.day_range.1
      have begins := first.ordinal_pos
      have ends : first.ordinal + (moment.date.day - 1) ≤ lastOrdinal := ordinal_add_le rfl
      rw [exists_addDays_iff, place]
      omega
    rcases enters with ⟨shifted, ok⟩
    exact ⟨shifted, first, ⟨year, month, rfl⟩, ok⟩

end Moment

namespace Relative

/-! ## Relative dates -/

/-- The day that a relative date asks for is not in the calendar. -/
def Leaves (today : Date) : Relative → Prop
  | days count => ¬ (1 ≤ today.ordinal + count ∧ today.ordinal + count ≤ lastOrdinal)
  | weekStart => today.ordinal < 7
  | months count =>
    ¬ (minYear ≤ Moment.monthNumber today count / 12 ∧
      Moment.monthNumber today count / 12 ≤ maxYear)
  | monthStart | yearStart => False

theorem exists_resolve_error_iff {relative : Relative} {today : Moment} :
    (∃ cause, relative.resolve today = .error cause) ↔ relative.Leaves today.date := by
  rw [exists_error_iff]
  cases relative with
  | days count => exact not_congr Moment.exists_addDays_iff
  | weekStart =>
      have first := today.date.ordinal_pos
      have last := today.date.ordinal_le
      rw [resolve, Leaves, Moment.exists_addDays_iff, Date.weekday]
      omega
  | months count => exact not_congr Moment.exists_addMonths_iff
  | monthStart | yearStart => simp [resolve, Leaves]

/-- The words of a counted phrase whose count has more digits than are converted. -/
structure TooLong (digits unit : List Char) : Prop where
  counted : digits.all Text.isDigit
  known : (backward (String.ofList unit) (Text.decimal digits)).isSome
  long : Text.maxDigits < digits.length

theorem exists_readCounted_error_iff {parts : List (List Char)} :
    (∃ cause, readCounted parts = .error cause) ↔
      ∃ digits unit, parts = [digits, unit, "ago".toList] ∧ TooLong digits unit := by
  constructor
  · rintro ⟨cause, failed⟩
    unfold readCounted at failed
    split at failed
    · next digits unit ago =>
      split at failed
      · next phrase =>
        split at failed
        · next relative shift =>
          split at failed
          · next long =>
            refine ⟨digits, unit, by rw [phrase.2], phrase.1, ?_, long⟩
            rw [shift]
            rfl
          · cases failed
        · cases failed
      · cases failed
    · cases failed
  · rintro ⟨digits, unit, rfl, tooLong⟩
    obtain ⟨relative, shift⟩ := Option.isSome_iff_exists.mp tooLong.known
    refine ⟨.tooManyDigits digits.length, ?_⟩
    rw [readCounted, if_pos ⟨tooLong.counted, rfl⟩, shift]
    exact if_pos tooLong.long

/-- The fixed phrases do not start with a number. -/
theorem not_all_isDigit_of_phrase :
    ∀ phrase ∈ phrases, (phrase.1.headD "").toList.all Text.isDigit = false := by
  decide

theorem exists_read_error_iff {text : List Char} :
    (∃ cause, read text = .error cause) ↔
      ∃ digits unit, normalWords text = [digits, unit, "ago".toList] ∧ TooLong digits unit := by
  rw [← exists_readCounted_error_iff, read]
  cases found : phrases.find? fun phrase => phrase.1.map String.toList == normalWords text with
  | none => rfl
  | some phrase =>
      have same : phrase.1.map String.toList = normalWords text := by
        simpa using List.find?_some found
      rw [exists_readCounted_error_iff]
      constructor
      · rintro ⟨_, ⟨⟩⟩
      · rintro ⟨digits, unit, words, tooLong⟩
        have number := not_all_isDigit_of_phrase phrase (List.mem_of_find?_eq_some found)
        rw [words] at same
        obtain ⟨word, words, shape, rfl, -⟩ := List.map_eq_cons_iff.mp same
        rw [shape, List.headD_cons, tooLong.counted] at number
        cases number

end Relative

/-! ## Date texts -/

/-- The text is out of range. -/
inductive Overruns (clock : Clock) (text : String) : Prop
  | tooLong {digits unit : List Char} :
      Relative.normalWords text.toList = [digits, unit, "ago".toList] →
      Relative.TooLong digits unit → Overruns clock text
  | leaves {relative : Relative} :
      Relative.read text.toList = .ok (some relative) → relative.Leaves clock.now.date →
      Overruns clock text
  | unplaced {moment : Moment} {probe : Int} :
      resolveMoment clock.now text = .ok moment → moment.offset = none →
      probe ∈ clock.localTime.probes moment.localSeconds →
      ¬ InCalendar (probe + clock.localTime.ahead probe) → Overruns clock text

section

variable {clock : Moment} {text : String}

theorem resolveMoment_eq (clock : Moment) (text : String) :
    resolveMoment clock text =
      match Relative.read text.toList with
      | .error cause => .error (.outOfRange cause)
      | .ok (some relative) => liftRange (relative.resolve clock.startOfDay)
      | .ok none => resolveAbsolute clock text := by
  rw [resolveMoment, resolveRelative]
  cases Relative.read text.toList with
  | error cause => rfl
  | ok read =>
      cases read with
      | none => rfl
      | some relative =>
          change liftRange (relative.resolve clock.startOfDay >>= (pure <| some ·)) >>= _ =
            liftRange (relative.resolve clock.startOfDay)
          cases relative.resolve clock.startOfDay with
          | error cause => rfl
          | ok moment => rfl

theorem exists_liftRange_error_iff {α : Type} {result : Except RangeError α} :
    (∃ cause, liftRange result = .error (.outOfRange cause)) ↔ ∃ cause, result = .error cause := by
  cases result with
  | error cause => exact ⟨fun _ => ⟨cause, rfl⟩, fun _ => ⟨cause, rfl⟩⟩
  | ok value =>
      constructor
      · rintro ⟨_, ⟨⟩⟩
      · rintro ⟨_, ⟨⟩⟩

/-- A text that is not a relative date is in range or not readable at all. -/
theorem resolveAbsolute_ne_outOfRange (clock : Moment) (text : String) (cause : RangeError) :
    resolveAbsolute clock text ≠ .error (.outOfRange cause) := by
  unfold resolveAbsolute
  split
  · rintro ⟨⟩
  · split <;> rintro ⟨⟩

theorem exists_resolveMoment_error_iff :
    (∃ cause, resolveMoment clock text = .error (.outOfRange cause)) ↔
      (∃ cause, Relative.read text.toList = .error cause) ∨
        ∃ relative, Relative.read text.toList = .ok (some relative) ∧
          relative.Leaves clock.date := by
  rw [resolveMoment_eq]
  cases Relative.read text.toList with
  | error cause => simp
  | ok read =>
      cases read with
      | none => simp [resolveAbsolute_ne_outOfRange]
      | some relative =>
          dsimp only
          rw [exists_liftRange_error_iff, Relative.exists_resolve_error_iff]
          simp [Moment.startOfDay, Moment.midnight]

theorem exists_timestamp_error_iff {moment : Moment} {time : LocalTime} :
    (∃ cause, moment.timestamp time = .error cause) ↔
      moment.offset = none ∧
        ∃ probe ∈ time.probes moment.localSeconds, ¬ InCalendar (probe + time.ahead probe) := by
  rw [← LocalTime.exists_instant_error_iff, Moment.timestamp, Moment.epochSeconds]
  cases moment.offset with
  | some offset =>
      constructor
      · rintro ⟨_, ⟨⟩⟩
      · rintro ⟨⟨⟩, -⟩
  | none =>
      cases time.instant moment.localSeconds with
      | error cause => exact ⟨fun _ => ⟨rfl, cause, rfl⟩, fun _ => ⟨cause, rfl⟩⟩
      | ok instant =>
          constructor
          · rintro ⟨_, ⟨⟩⟩
          · rintro ⟨-, _, ⟨⟩⟩

variable {clock : Clock}

/-- There are no other ways to be out of range. -/
theorem exists_resolve_error_iff :
    (∃ cause, resolve clock text = .error (.outOfRange cause)) ↔ Overruns clock text := by
  simp only [resolve, bind_eq_error_iff]
  constructor
  · rintro ⟨cause, early | ⟨moment, denoted, late⟩⟩
    · rcases exists_resolveMoment_error_iff.mp ⟨cause, early⟩ with tooLong | ⟨relative, read, leaves⟩
      · obtain ⟨digits, unit, words, tooLong⟩ := Relative.exists_read_error_iff.mp tooLong
        exact .tooLong words tooLong
      · exact .leaves read leaves
    · obtain ⟨offset, probe, looked, outside⟩ := exists_timestamp_error_iff.mp
        (exists_liftRange_error_iff.mp ⟨cause, late⟩)
      exact .unplaced denoted offset looked outside
  · intro overruns
    cases overruns with
    | tooLong words tooLong =>
        obtain ⟨cause, early⟩ := exists_resolveMoment_error_iff.mpr
          (.inl (Relative.exists_read_error_iff.mpr ⟨_, _, words, tooLong⟩))
        exact ⟨cause, .inl early⟩
    | leaves read leaves =>
        obtain ⟨cause, early⟩ := exists_resolveMoment_error_iff.mpr (.inr ⟨_, read, leaves⟩)
        exact ⟨cause, .inl early⟩
    | unplaced denoted offset looked outside =>
        obtain ⟨cause, late⟩ := exists_liftRange_error_iff.mpr
          (exists_timestamp_error_iff.mpr ⟨offset, _, looked, outside⟩)
        exact ⟨cause, .inr ⟨_, denoted, late⟩⟩

end

/-- Nine hours ahead of universal time, the last evening of the calendar cannot be placed. -/
example : resolve ⟨.midnight (.on 2026 1 1) none, .ofOffsets fun _ => 32400⟩ "9999-12-31T20:00" =
    .error (.outOfRange (.yearOutside 10000)) := by
  decide +kernel

end BlockQuery.Calendar
