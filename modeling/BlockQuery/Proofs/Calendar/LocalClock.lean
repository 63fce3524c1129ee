import BlockQuery.Calendar.Timestamp
import BlockQuery.Proofs.Calendar.Ordinal
import BlockQuery.Proofs.Outcome

/-!
# Readings of the local clock

To place a reading of the local clock, and to find the date of an instant, the clock
is looked at more than once.  Each look has to show a date of the calendar, and
nothing else can fail.  A reading is placed less than a day from the same reading in
universal time, and exactly where a clock that is never put forward or back shows it.
-/

namespace BlockQuery.Calendar

/-- The calendar has the date of a reading. -/
def InCalendar (reading : Int) : Prop :=
  1 ≤ reading / daySeconds + epochOrdinal ∧ reading / daySeconds + epochOrdinal ≤ lastOrdinal

instance (reading : Int) : Decidable (InCalendar reading) :=
  inferInstanceAs (Decidable (_ ∧ _))

theorem exists_dateAt_iff {reading : Int} :
    (∃ date, dateAt reading = .ok date) ↔ InCalendar reading := by
  rw [InCalendar, ← Date.isSome_ofOrdinal?_iff, dateAt]
  cases Date.ofOrdinal? (reading / daySeconds + epochOrdinal) with
  | none => simp
  | some date => simp

namespace LocalTime

variable {time : LocalTime} {reading instant placed : Int}

theorem read_eq_ok_iff :
    time.read instant = .ok reading ↔
      InCalendar (instant + time.ahead instant) ∧ reading = instant + time.ahead instant := by
  rw [← exists_dateAt_iff, read, bind_eq_ok_iff]
  constructor
  · rintro ⟨date, found, shown⟩
    cases shown
    exact ⟨⟨date, found⟩, rfl⟩
  · rintro ⟨⟨date, found⟩, rfl⟩
    exact ⟨date, found, rfl⟩

/-! ## The instant of a reading -/

/-- A second instant that may show a reading: what local time is ahead by is taken from a day before
the first one, or from the first one if that shows something else. -/
def other (time : LocalTime) (reading : Int) : Int :=
  let first := reading - time.ahead reading
  if first + time.ahead first = reading then first - daySeconds else first

/-- The instants at which the local clock is looked at to place a reading. -/
def probes (time : LocalTime) (reading : Int) : List Int :=
  [reading, reading - time.ahead reading, time.other reading,
    reading - time.ahead (time.other reading)]

/-- Where a reading is placed: at the second instant or else at the first one, if that shows the
reading, and otherwise at the later of them. -/
def place (time : LocalTime) (reading : Int) : Int :=
  let first := reading - time.ahead reading
  let second := reading - time.ahead (time.other reading)
  if second + time.ahead second = reading then second
  else if first + time.ahead first = reading then first
  else max first second

theorem other_eq (time : LocalTime) (reading : Int) :
    time.other reading =
      if reading - time.ahead reading + time.ahead (reading - time.ahead reading) = reading then
        reading - time.ahead reading - daySeconds
      else reading - time.ahead reading :=
  rfl

/-- The last look is at a second instant, if there is one. -/
theorem second_eq_ok_iff {first second : Int} (shows : InCalendar (first + time.ahead first)) :
    (if second = first then pure first
      else do
        if (← time.read second) = reading then pure second
        else pure (if first + time.ahead first = reading then first else max first second) :
        Except RangeError Int) = .ok instant ↔
      InCalendar (second + time.ahead second) ∧
        instant = if second + time.ahead second = reading then second
          else if first + time.ahead first = reading then first
          else max first second := by
  by_cases same : second = first
  · subst same
    simp only [if_true, shows, true_and, max_self, ite_self]
    exact ⟨fun ok => (Except.ok.inj ok).symm, fun found => congrArg _ found.symm⟩
  · rw [if_neg same, bind_eq_ok_iff]
    simp only [read_eq_ok_iff, and_assoc, exists_and_left, exists_eq_left]
    refine and_congr_right fun _ => ?_
    split <;> exact ⟨fun ok => (Except.ok.inj ok).symm, fun found => congrArg _ found.symm⟩

theorem instant_eq_ok_iff :
    time.instant reading = .ok instant ↔
      (∀ probe ∈ time.probes reading, InCalendar (probe + time.ahead probe)) ∧
        instant = time.place reading := by
  unfold LocalTime.instant
  simp only [bind_eq_ok_iff, read_eq_ok_iff, and_assoc, exists_and_left, exists_eq_left,
    ← other_eq, probes, place, List.forall_mem_cons, List.not_mem_nil, false_imp_iff,
    implies_true, and_true]
  refine and_congr_right fun _ => and_congr_right fun shows => and_congr_right fun _ => ?_
  exact second_eq_ok_iff shows

theorem exists_instant_error_iff :
    (∃ cause, time.instant reading = .error cause) ↔
      ∃ probe ∈ time.probes reading, ¬ InCalendar (probe + time.ahead probe) := by
  rw [exists_error_iff]
  simp only [instant_eq_ok_iff, exists_and_left, exists_eq, and_true]
  push Not
  rfl

/-- A reading is placed less than a day from the same reading in universal time. -/
theorem place_bounds (time : LocalTime) (reading : Int) :
    reading - daySeconds < time.place reading ∧ time.place reading < reading + daySeconds := by
  have first := time.bounded reading
  have second := time.bounded (time.other reading)
  simp only [place]
  split
  · omega
  · split <;> omega

/-- A clock that always runs ahead by the same shows every reading once. -/
theorem place_of_constant {shift : Int} (constant : ∀ instant, time.ahead instant = shift)
    (reading : Int) : time.place reading = reading - shift := by
  simp [place, constant]

/-! ## The date of an instant -/

/-- The instants at which the local clock is looked at to find the date: also a day before, and if
the clock was put back since then, also where it showed the same before. -/
def dateProbes (time : LocalTime) (instant : Int) : List Int :=
  let change := time.ahead instant - time.ahead (instant - daySeconds)
  [instant, instant - daySeconds] ++ if change < 0 then [instant + change] else []

theorem exists_date_iff :
    (∃ date, time.date instant = .ok date) ↔
      ∀ probe ∈ time.dateProbes instant, InCalendar (probe + time.ahead probe) := by
  unfold LocalTime.date
  simp only [bind_eq_ok_iff, read_eq_ok_iff, and_assoc, exists_and_left, exists_eq_left, dateProbes,
    List.forall_mem_append, List.forall_mem_cons, List.not_mem_nil, false_imp_iff, implies_true,
    and_true]
  refine and_congr_right fun shows => and_congr_right fun _ => ?_
  have date : ∃ date, dateAt (instant + time.ahead instant) = .ok date :=
    exists_dateAt_iff.mpr shows
  split
  · simp [bind_eq_ok_iff, read_eq_ok_iff, date]
  · simpa using date

end LocalTime

end BlockQuery.Calendar
