import BlockQuery.Proofs.Calendar.RelativeVocabulary
import BlockQuery.Proofs.Calendar.TimestampError
import BlockQuery.Proofs.Query.DateInputs
import Mathlib.Order.Bounds.Basic

/-!
# Days of a window

A window ends a day after the moment that its second text denotes.  So it covers
whole days exactly when both texts denote the start of a day, and they do unless
they are ISO texts with a time behind the date.
-/

namespace BlockQuery.Calendar

/-! ## Instants of a day -/

namespace Moment

/-- The timestamps in the day of a moment, by the clock of its zone. -/
def dayInstants (moment : Moment) : Set Int :=
  {t | moment.startOfDay.epochMicros ≤ 1000 * t ∧
    1000 * t < moment.startOfDay.epochMicros + dayMicros}

section

variable {moment : Moment} {t : Int}

theorem epochMicros_eq (moment : Moment) :
    moment.epochMicros = moment.startOfDay.epochMicros + moment.clock := by
  simp only [epochMicros, localMicros, startOfDay, midnight]
  omega

/-- An exact timestamp is the first one of its day if less than a millisecond has passed. -/
theorem isLeast_dayInstants_iff (exactly : 1000 * t = moment.epochMicros) :
    IsLeast moment.dayInstants t ↔ moment.clock < 1000 := by
  have start := epochMicros_eq moment
  have clock := moment.clock_lt
  constructor
  · rintro ⟨-, least⟩
    by_contra late
    have before : t - 1 ∈ moment.dayInstants := by
      constructor <;> omega
    have order := least before
    omega
  · intro early
    refine ⟨⟨by omega, by omega⟩, ?_⟩
    rintro other ⟨after, -⟩
    omega

/-- The end of the day is counted from an exact timestamp, so it is the last timestamp of its day
if less than a millisecond has passed. -/
theorem isGreatest_dayInstants_iff (exactly : 1000 * t = moment.epochMicros) :
    IsGreatest moment.dayInstants (endOfDay t) ↔ moment.clock < 1000 := by
  have start := epochMicros_eq moment
  have clock := moment.clock_lt
  have day : endOfDay t = t + 86400000 - 1 := rfl
  have micros : (dayMicros : Int) = 86400000000 := rfl
  constructor
  · rintro ⟨⟨-, inside⟩, -⟩
    omega
  · intro early
    refine ⟨⟨by omega, by omega⟩, ?_⟩
    rintro other ⟨-, before⟩
    omega

theorem le_iff_of_isLeast {first : Int} (least : IsLeast moment.dayInstants first) :
    first ≤ t ↔ moment.startOfDay.epochMicros ≤ 1000 * t := by
  obtain ⟨⟨after, before⟩, least⟩ := least
  constructor
  · intro order
    omega
  · intro inside
    by_contra early
    have order : first ≤ t := least ⟨inside, by omega⟩
    exact early order

theorem le_iff_of_isGreatest {last : Int} (greatest : IsGreatest moment.dayInstants last) :
    t ≤ last ↔ 1000 * t < moment.startOfDay.epochMicros + dayMicros := by
  obtain ⟨⟨after, before⟩, greatest⟩ := greatest
  constructor
  · intro order
    omega
  · intro inside
    by_contra late
    have order : t ≤ last := greatest ⟨by omega, inside⟩
    exact late order

end

end Moment

/-! ## Texts with a time -/

/-- Whether something stands behind the date of an ISO text. -/
def Iso.hasTime (text : String) : Bool :=
  (dateLength? (bytes text)).any (· < (bytes text).length)

theorem Iso.midnight_of_read? {text : String} {moment : Moment}
    (read : Iso.read? text = some moment) (bare : Iso.hasTime text = false) :
    moment.clock = 0 ∧ moment.offset = none := by
  simp only [Iso.read?, Option.bind_eq_bind, Option.bind_eq_some_iff] at read
  obtain ⟨length, found, date, -, denoted⟩ := read
  split at denoted
  · cases denoted
    exact ⟨rfl, rfl⟩
  · next separator rest behind =>
    have longer : length < (bytes text).length := by
      have count := congrArg List.length behind
      rw [List.length_drop, List.length_cons] at count
      omega
    rw [Iso.hasTime, found, Option.any_some, decide_eq_true longer] at bare
    cases bare

/-- A text that gives a time of day: neither a relative nor a written date, but an ISO text with
something behind its date. -/
structure IsTimed (text : String) : Prop where
  notRelative : Relative.read text.toList = .ok none
  notWritten : Written.read? text.toList = none
  timed : Iso.hasTime (Text.trimString text)

/-- Without a time a text denotes the start of a day in the zone of the clock. -/
theorem midnight_of_resolveMoment {clock moment : Moment} {text : String}
    (ok : resolveMoment clock text = .ok moment) (untimed : ¬ IsTimed text) :
    moment.clock = 0 ∧ moment.offset = clock.offset := by
  rw [resolveMoment_eq] at ok
  split at ok
  · cases ok
  · next relative read =>
    obtain ⟨date, rfl⟩ := Relative.exists_onDate_of_resolve (mapError_eq_ok_iff.mp ok)
    exact ⟨rfl, rfl⟩
  · next notRelative =>
    rw [resolveAbsolute] at ok
    split at ok
    · cases ok
      exact ⟨rfl, rfl⟩
    · next notWritten =>
      split at ok
      · next iso read =>
        cases ok
        have bare : Iso.hasTime (Text.trimString text) = false := by
          by_contra timed
          exact untimed ⟨notRelative, notWritten, Bool.not_eq_false _ |>.mp timed⟩
        obtain ⟨clockZero, noOffset⟩ := Iso.midnight_of_read? read bare
        refine ⟨clockZero, ?_⟩
        rw [Moment.withDefaultOffset, noOffset, Option.none_or]
      · cases ok

/-- Texts without a zone are read in the zone of the clock. -/
theorem isSome_offset_of_resolveMoment {clock moment : Moment} {text : String}
    (ok : resolveMoment clock text = .ok moment) (aware : clock.offset.isSome) :
    moment.offset.isSome := by
  rw [resolveMoment_eq] at ok
  split at ok
  · cases ok
  · next relative read =>
    obtain ⟨date, rfl⟩ := Relative.exists_onDate_of_resolve (mapError_eq_ok_iff.mp ok)
    exact aware
  · rw [resolveAbsolute] at ok
    split at ok
    · cases ok
      exact aware
    · split at ok
      · cases ok
        simp [Moment.withDefaultOffset, aware]
      · cases ok

/-! ## Windows -/

/-- The clock is always in one zone: its own, or the one that local time always has. -/
inductive Clock.RunsIn (clock : Clock) (zone : Offset) : Prop
  | aware : clock.now.offset = some zone → RunsIn clock zone
  | naive : clock.now.offset = none →
      (∀ instant, clock.localTime.ahead instant * secondMicros = zone.micros) → RunsIn clock zone

/-- What a window from one text to another means: when each of its ends is the end of a day, and
what it covers then. -/
structure IsWindow (clock : Clock) (zone : Offset) (start finish : String) (first last : Moment)
    (early late : Int) : Prop where
  /-- The moments of the window are those that the texts denote, in the zone of the clock unless
  they have their own. -/
  startDenotes : (resolveMoment clock.now start).map (·.withDefaultOffset (some zone)) = .ok first
  finishDenotes : (resolveMoment clock.now finish).map (·.withDefaultOffset (some zone)) = .ok last
  /-- The window starts with the millisecond of its first moment. -/
  nearStart : first.epochMicros - 566 ≤ 1000 * early ∧ 1000 * early ≤ first.epochMicros + 566
  /-- The window ends a day after its second moment. -/
  nearEnd : last.epochMicros + dayMicros - 566 ≤ 1000 * (late + 1) ∧
    1000 * (late + 1) ≤ last.epochMicros + dayMicros + 566
  /-- On whole milliseconds an end is the end of a day exactly when no millisecond has passed. -/
  startsDay_iff : 1000 ∣ first.epochMicros →
    (IsLeast first.dayInstants early ↔ first.clock < 1000)
  endsDay_iff : 1000 ∣ last.epochMicros →
    (IsGreatest last.dayInstants late ↔ last.clock < 1000)
  /-- Texts without a time start and end a day in a zone of whole milliseconds. -/
  startsDay : ¬ IsTimed start → 1000 ∣ zone.micros → IsLeast first.dayInstants early
  endsDay : ¬ IsTimed finish → 1000 ∣ zone.micros → IsGreatest last.dayInstants late
  /-- Then the window holds the instants from the start of the first day to the end of the last. -/
  inside_iff : IsLeast first.dayInstants early → IsGreatest last.dayInstants late →
    ∀ t, early ≤ t ∧ t ≤ late ↔
      first.startOfDay.epochMicros ≤ 1000 * t ∧
        1000 * t < last.startOfDay.epochMicros + dayMicros

section Windows

variable {clock : Clock} {zone : Offset} {moment : Moment} {text : String} {t : Int}

theorem exists_moment_of_resolve (ok : resolve clock text = .ok t) :
    ∃ moment, resolveMoment clock.now text = .ok moment ∧
      moment.timestamp clock.localTime = .ok t := by
  obtain ⟨moment, denoted, stamped⟩ := bind_eq_ok_iff.mp ok
  exact ⟨moment, denoted, mapError_eq_ok_iff.mp stamped⟩

theorem dvd_epochMicros (midnight : moment.clock = 0) (aware : moment.offset = some zone)
    (whole : 1000 ∣ zone.micros) : 1000 ∣ moment.epochMicros := by
  have day : (1000 : Int) ∣ dayMicros := by decide
  rw [Moment.epochMicros, Moment.localMicros, midnight, aware]
  exact Int.dvd_sub (Int.dvd_add (Dvd.dvd.mul_left day _) (by decide)) whole

/-- A timestamp belongs to the moment that its text denotes in the zone of the clock. -/
structure IsStamp (clock : Clock) (zone : Offset) (text : String) (moment : Moment) (t : Int) :
    Prop where
  denotes : (resolveMoment clock.now text).map (·.withDefaultOffset (some zone)) = .ok moment
  near : moment.epochMicros - 566 ≤ 1000 * t ∧ 1000 * t ≤ moment.epochMicros + 566
  exact_of_dvd : 1000 ∣ moment.epochMicros → 1000 * t = moment.epochMicros
  midnight : ¬ IsTimed text → moment.clock = 0 ∧ moment.offset = some zone

theorem exists_isStamp (runs : clock.RunsIn zone) (ok : resolve clock text = .ok t) :
    ∃ moment, IsStamp clock zone text moment t := by
  obtain ⟨moment, denoted, stamped⟩ := exists_moment_of_resolve ok
  obtain ⟨micros, placed⟩ := Moment.exists_exactMicros_of_timestamp stamped
  have constant (noOffset : moment.offset = none) (instant : Int) :
      clock.localTime.ahead instant * secondMicros = zone.micros := by
    cases runs with
    | aware own =>
        have aware := isSome_offset_of_resolveMoment denoted (own ▸ rfl)
        rw [noOffset] at aware
        cases aware
    | naive _ always => exact always instant
  obtain rfl := Moment.exactMicros_of_constant constant placed
  refine ⟨moment.withDefaultOffset (some zone), map_eq_ok_iff.mpr ⟨moment, denoted, rfl⟩,
    Moment.near_of_timestamp stamped placed, Moment.exact_of_timestamp stamped placed, ?_⟩
  intro untimed
  obtain ⟨midnight, same⟩ := midnight_of_resolveMoment denoted untimed
  refine ⟨midnight, ?_⟩
  rw [Moment.withDefaultOffset, same]
  cases runs with
  | aware own => rw [own, Option.some_or]
  | naive none _ => rw [none, Option.none_or]

theorem isWindow_of_resolve {start finish : String} {early late : Int}
    (runs : clock.RunsIn zone) (startOk : resolve clock start = .ok early)
    (finishOk : resolve clock finish = .ok late) :
    ∃ first last, IsWindow clock zone start finish first last early (endOfDay late) := by
  obtain ⟨first, starts⟩ := exists_isStamp runs startOk
  obtain ⟨last, finishes⟩ := exists_isStamp runs finishOk
  have next : 1000 * (endOfDay late + 1) = 1000 * late + dayMicros := by
    have day : endOfDay late = late + 86400000 - 1 := rfl
    have micros : (dayMicros : Int) = 86400000000 := rfl
    omega
  have startsDay_iff (whole : 1000 ∣ first.epochMicros) :=
    Moment.isLeast_dayInstants_iff (starts.exact_of_dvd whole)
  have endsDay_iff (whole : 1000 ∣ last.epochMicros) :=
    Moment.isGreatest_dayInstants_iff (finishes.exact_of_dvd whole)
  refine ⟨first, last, starts.denotes, finishes.denotes, starts.near, ?_, startsDay_iff,
    endsDay_iff, ?_, ?_, ?_⟩
  · have near := finishes.near
    omega
  · intro untimed whole
    obtain ⟨midnight, aware⟩ := starts.midnight untimed
    rw [startsDay_iff (dvd_epochMicros midnight aware whole), midnight]
    decide
  · intro untimed whole
    obtain ⟨midnight, aware⟩ := finishes.midnight untimed
    rw [endsDay_iff (dvd_epochMicros midnight aware whole), midnight]
    decide
  · intro least greatest t
    rw [Moment.le_iff_of_isLeast least, Moment.le_iff_of_isGreatest greatest]

end Windows

end BlockQuery.Calendar

namespace BlockQuery.Query

open Calendar

/-- Every date window of a query has two inputs.  The clock is in one zone, or local time runs ahead
by as much as that zone all the time.  If the moments that the two texts denote are on
whole milliseconds, the first input is the first millisecond of a day and the second input the last
one exactly when these moments are at the start of their days.  Relative dates, written dates and
ISO dates are, and then the window holds the instants of all days from the first to the last one
and no other instants; an ISO text with a time of day is not. -/
theorem windows_cover_days_unless_timed {clock : Clock} {zone : Offset} {query : Query}
    {conditions : Conditions} (runs : clock.RunsIn zone)
    (ok : query.conditions clock = .ok conditions) {place : Nat} {start finish : String}
    (found : query.windows[place]? = some (start, finish)) :
    ∃ first last early late,
      conditions.inputs[2 * place]? = some (.startDate (2 * place), early) ∧
      conditions.inputs[2 * place + 1]? = some (.endDate (2 * place + 1), late) ∧
      IsWindow clock zone start finish first last early late := by
  have dated := (windowInputs_conditions clock).holds query ok
  obtain ⟨early, late, startOk, finishOk, startInput, finishInput⟩ := dated.getElem?_inputs found
  obtain ⟨first, last, window⟩ := isWindow_of_resolve runs startOk finishOk
  rw [Nat.zero_add] at startInput finishInput
  exact ⟨first, last, early, endOfDay late, startInput, finishInput, window⟩

/-! ## A window with a time -/

/-- An ISO text with a time of day. -/
def timedText : String :=
  "2026-01-15T10:30:00"

/-- Midnight of 1 January 2026 in universal time. -/
def universalNewYear : Clock :=
  ⟨.midnight (.on 2026 1 1) (some .utc), .universal⟩

/-- What the text with a time denotes in universal time. -/
def tenThirty : Moment :=
  .onClock (.on 2026 1 15) 37800000000 (some .utc)

theorem resolveMoment_timedText :
    resolveMoment universalNewYear.now timedText = .ok tenThirty := by
  decide +kernel

theorem resolve_timedText : resolve universalNewYear timedText = .ok 1768473000000 := by
  decide +kernel

theorem resolve_yesterday_universal :
    resolve universalNewYear "yesterday" = .ok 1767139200000 := by
  decide +kernel

/-- The conditions of a single window. -/
theorem conditions_between {clock : Clock} {start finish : String} {early late : Int}
    (startOk : resolve clock start = .ok early) (finishOk : resolve clock finish = .ok late) :
    (between start finish).conditions clock =
      .ok { forms := windowForms (.startDate 0) (.endDate 1)
            inputs := [(.startDate 0, early), (.endDate 1, endOfDay late)] } := by
  rw [conditions, conditionsFrom, startOk, finishOk]
  rfl

theorem windows_cover_days_unless_timed_tenThirty :
    universalNewYear.RunsIn .utc ∧
      ∃ conditions, (between "yesterday" timedText).conditions universalNewYear = .ok conditions ∧
      (between "yesterday" timedText).windows[0]? = some ("yesterday", timedText) ∧
      ∃ first last early late,
        conditions.inputs[2 * 0]? = some (.startDate (2 * 0), early) ∧
        conditions.inputs[2 * 0 + 1]? = some (.endDate (2 * 0 + 1), late) ∧
        IsWindow universalNewYear .utc "yesterday" timedText first last early late :=
  ⟨.aware rfl, _, conditions_between resolve_yesterday_universal resolve_timedText, rfl,
    windows_cover_days_unless_timed (.aware rfl)
      (conditions_between resolve_yesterday_universal resolve_timedText) rfl⟩

/-- A window whose texts have a time starts and ends in the middle of a day. -/
theorem timed_window_misses_days :
    (between timedText timedText).conditions universalNewYear =
      .ok { forms := windowForms (.startDate 0) (.endDate 1)
            inputs := [(.startDate 0, 1768473000000), (.endDate 1, 1768559399999)] } ∧
    resolveMoment universalNewYear.now timedText = .ok tenThirty ∧
    ¬ IsLeast tenThirty.dayInstants 1768473000000 ∧
    ¬ IsGreatest tenThirty.dayInstants 1768559399999 := by
  have start : tenThirty.startOfDay.epochMicros = 1768435200000000 := by decide +kernel
  have micros : (dayMicros : Int) = 86400000000 := rfl
  refine ⟨conditions_between resolve_timedText resolve_timedText, resolveMoment_timedText, ?_, ?_⟩
  · rintro ⟨-, least⟩
    have midnight : 1768435200000 ∈ tenThirty.dayInstants := by
      constructor <;> omega
    have order := least midnight
    omega
  · rintro ⟨⟨-, before⟩, -⟩
    omega

end BlockQuery.Query
