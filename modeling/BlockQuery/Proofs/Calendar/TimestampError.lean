import BlockQuery.Proofs.Calendar.LocalClock
import BlockQuery.Proofs.Number.RoundingError

/-!
# Accuracy of timestamps

The seconds and the milliseconds of a moment are computed with 53 significant bits.
The two roundings move a moment of the calendar by less than a tenth of a millisecond
together, so its timestamp is the millisecond it falls on, and otherwise one of the
two around it.
-/

namespace BlockQuery.Calendar.Moment

open Number

/-- Microseconds from the start of 1970 in universal time to a moment. -/
def exactMicros (moment : Moment) (time : LocalTime) : Except RangeError Int :=
  match moment.offset with
  | some _ => .ok moment.epochMicros
  | none => (time.instant moment.localSeconds).map (· * secondMicros + moment.fraction)

variable {moment : Moment} {time : LocalTime} {micros : Int}

theorem exactMicros_of_some {zone : Offset} (aware : moment.offset = some zone)
    (time : LocalTime) : moment.exactMicros time = .ok moment.epochMicros := by
  rw [exactMicros, aware]

/-- A local moment is placed by its whole seconds. -/
theorem exactMicros_of_none (naive : moment.offset = none)
    (placed : moment.exactMicros time = .ok micros) :
    time.instant moment.localSeconds = .ok (time.place moment.localSeconds) ∧
      micros = time.place moment.localSeconds * secondMicros + moment.fraction := by
  rw [exactMicros, naive] at placed
  obtain ⟨instant, found, rfl⟩ := map_eq_ok_iff.mp placed
  obtain ⟨-, rfl⟩ := LocalTime.instant_eq_ok_iff.mp found
  exact ⟨found, rfl⟩

/-- Where local time always runs ahead by the same, a local moment is one of that zone. -/
theorem exactMicros_of_constant {zone : Offset}
    (constant : moment.offset = none → ∀ instant, time.ahead instant * secondMicros = zone.micros)
    (placed : moment.exactMicros time = .ok micros) :
    micros = (moment.withDefaultOffset (some zone)).epochMicros := by
  cases aware : moment.offset with
  | some own =>
      rw [exactMicros_of_some aware, Except.ok.injEq] at placed
      simp [← placed, withDefaultOffset, epochMicros, localMicros, aware]
  | none =>
      have always := constant aware
      have million : (secondMicros : Int) = 1000000 := rfl
      have shift (instant : Int) : time.ahead instant = time.ahead 0 := by
        have here := always instant
        have there := always 0
        rw [million] at here there
        omega
      obtain ⟨-, rfl⟩ := exactMicros_of_none aware placed
      have parts := Int.mul_ediv_add_emod moment.localMicros secondMicros
      have start := always 0
      rw [LocalTime.place_of_constant shift, epochMicros]
      simp only [withDefaultOffset, aware, Option.none_or, Option.map_some, Option.getD_some]
      change _ = moment.localMicros - zone.micros
      rw [localSeconds, fraction]
      linarith

/-! ## Bits -/

/-- The moments of the calendar need 58 bits. -/
theorem abs_exactMicros_le (placed : moment.exactMicros time = .ok micros) :
    |(micros : Rat)| ≤ 2 ^ 58 := by
  have first := moment.date.ordinal_pos
  have last : moment.date.ordinal ≤ 3652059 := moment.date.ordinal_le
  have clock : moment.clock < 86400000000 := moment.clock_lt
  have range : -2 ^ 58 ≤ micros ∧ micros ≤ 2 ^ 58 := by
    cases aware : moment.offset with
    | some zone =>
        have offset : zone.micros.natAbs < 86400000000 := zone.bounded
        rw [exactMicros_of_some aware, Except.ok.injEq] at placed
        rw [← placed, epochMicros, localMicros, aware, Option.map_some, Option.getD_some,
          epochOrdinal, dayMicros]
        omega
    | none =>
        obtain ⟨-, rfl⟩ := exactMicros_of_none aware placed
        have near := time.place_bounds moment.localSeconds
        rw [localSeconds, localMicros, epochOrdinal, dayMicros, secondMicros, daySeconds] at near
        rw [localSeconds, fraction, localMicros, epochOrdinal, dayMicros, secondMicros]
        omega
  rw [abs_le]
  exact_mod_cast range

theorem abs_exactMicros_div_le (placed : moment.exactMicros time = .ok micros) {scale : Rat}
    (positive : 0 < scale) : |(micros : Rat) / scale| ≤ 2 ^ 58 / scale := by
  rw [abs_div, abs_of_pos positive]
  gcongr
  exact abs_exactMicros_le placed

/-! ## Seconds and milliseconds -/

/-- The fraction of a second by itself is rounded by its own size. -/
theorem abs_add_round53_sub_le (instant : Int) {fraction : Int} (least : 0 ≤ fraction)
    (most : fraction < 1000000) :
    |(instant : Rat) + round53 (fraction / 1000000) -
        ((instant * 1000000 + fraction : Int) : Rat) / 1000000| ≤ 1 / 2 ^ 53 := by
  have nonneg : (0 : Rat) ≤ fraction / 1000000 := by positivity
  have small : (fraction : Rat) / 1000000 ≤ 1 := by
    rw [div_le_one (by norm_num)]
    exact_mod_cast most.le
  have moved : (instant : Rat) + round53 (fraction / 1000000) -
      ((instant * 1000000 + fraction : Int) : Rat) / 1000000 =
      round53 (fraction / 1000000) - fraction / 1000000 := by
    push_cast
    ring
  have rounded := abs_round53_sub_le ((fraction : Rat) / 1000000)
  rw [abs_of_nonneg nonneg] at rounded
  rw [moved]
  exact rounded.trans (by gcongr)

variable {seconds : Rat}

/-- Seconds are computed where the microseconds are. -/
theorem exists_exactMicros (ok : moment.epochSeconds time = .ok seconds) :
    ∃ micros, moment.exactMicros time = .ok micros := by
  cases aware : moment.offset with
  | some zone => exact ⟨_, exactMicros_of_some aware time⟩
  | none =>
      rw [epochSeconds, aware] at ok
      obtain ⟨instant, found, -⟩ := bind_eq_ok_iff.mp ok
      rw [exactMicros, aware]
      exact ⟨_, map_eq_ok_iff.mpr ⟨instant, found, rfl⟩⟩

theorem abs_epochSeconds_sub_le (ok : moment.epochSeconds time = .ok seconds)
    (placed : moment.exactMicros time = .ok micros) :
    |seconds - micros / 1000000| ≤ 33 / 1000000 := by
  have million : ((secondMicros : Nat) : Rat) = 1000000 := by norm_num [secondMicros]
  have bits : |(micros : Rat) / 1000000| ≤ 2 ^ 58 / 1000000 :=
    abs_exactMicros_div_le placed (by norm_num)
  cases aware : moment.offset with
  | some zone =>
      rw [exactMicros_of_some aware, Except.ok.injEq] at placed
      rw [epochSeconds, aware] at ok
      cases ok
      have once : |round53 (moment.epochMicros / secondMicros) - micros / 1000000| ≤
          0 + 32 / 1000000 := by
        rw [placed, million]
        apply abs_round53_sub_le_of_near
        · simp
        · linarith
      linarith
  | none =>
      obtain ⟨found, rfl⟩ := exactMicros_of_none aware placed
      rw [epochSeconds, aware] at ok
      simp only [found, ok_bind] at ok
      cases ok
      have near := abs_add_round53_sub_le (time.place moment.localSeconds)
        (Int.emod_nonneg moment.localMicros (show (1000000 : Int) ≠ 0 by decide))
        (Int.emod_lt_of_pos moment.localMicros (show (0 : Int) < 1000000 by decide))
      have twice : |round53 (time.place moment.localSeconds +
            round53 (moment.fraction / secondMicros)) -
          (time.place moment.localSeconds * secondMicros + moment.fraction : Int) / 1000000| ≤
          1 / 2 ^ 53 + (33 / 1000000 - 1 / 2 ^ 53) := by
        rw [million]
        exact abs_round53_sub_le_of_near near (by linarith)
      linarith

theorem abs_millis_sub_le (ok : moment.epochSeconds time = .ok seconds)
    (placed : moment.exactMicros time = .ok micros) :
    |round53 (seconds * 1000) - micros / 1000| ≤ 66 / 1000 := by
  have near : |seconds * 1000 - micros / 1000| ≤ 33 / 1000 := by
    have exactly := abs_epochSeconds_sub_le ok placed
    rw [abs_le] at exactly ⊢
    constructor <;> linarith
  have bits : |(micros : Rat) / 1000| ≤ 2 ^ 58 / 1000 :=
    abs_exactMicros_div_le placed (by norm_num)
  have rounded : |round53 (seconds * 1000) - micros / 1000| ≤ 33 / 1000 + 33 / 1000 :=
    abs_round53_sub_le_of_near near (by linarith)
  linarith

/-! ## Timestamps -/

variable {t : Int}

theorem timestamp_eq_ok_iff :
    moment.timestamp time = .ok t ↔
      ∃ seconds, moment.epochSeconds time = .ok seconds ∧
        t = roundHalfEven (round53 (seconds * 1000)) := by
  rw [timestamp, bind_eq_ok_iff]
  refine exists_congr fun seconds => and_congr_right fun _ => ?_
  exact ⟨fun same => (Except.ok.inj same).symm, fun same => congrArg _ same.symm⟩

theorem exists_exactMicros_of_timestamp (ok : moment.timestamp time = .ok t) :
    ∃ micros, moment.exactMicros time = .ok micros := by
  obtain ⟨seconds, computed, -⟩ := timestamp_eq_ok_iff.mp ok
  exact exists_exactMicros computed

/-- A timestamp is less than a millisecond away from its moment. -/
theorem near_of_timestamp (ok : moment.timestamp time = .ok t)
    (placed : moment.exactMicros time = .ok micros) :
    micros - 566 ≤ 1000 * t ∧ 1000 * t ≤ micros + 566 := by
  obtain ⟨seconds, computed, rounds⟩ := timestamp_eq_ok_iff.mp ok
  have exactly := abs_millis_sub_le computed placed
  have rounded := abs_roundHalfEven_sub_le (round53 (seconds * 1000))
  rw [← rounds] at rounded
  rw [abs_le] at exactly rounded
  have lower : (micros : Rat) - 566 ≤ 1000 * t := by linarith
  have upper : (1000 : Rat) * t ≤ micros + 566 := by linarith
  constructor
  · exact_mod_cast lower
  · exact_mod_cast upper

/-- The timestamp of a moment on a whole millisecond is exact. -/
theorem exact_of_timestamp (ok : moment.timestamp time = .ok t)
    (placed : moment.exactMicros time = .ok micros) (whole : 1000 ∣ micros) :
    1000 * t = micros := by
  obtain ⟨seconds, computed, rounds⟩ := timestamp_eq_ok_iff.mp ok
  obtain ⟨millis, rfl⟩ := whole
  have near := abs_millis_sub_le computed placed
  push_cast at near
  rw [mul_div_cancel_left₀ (millis : Rat) (show (1000 : Rat) ≠ 0 by norm_num)] at near
  have same : t = millis := by
    rw [rounds]
    exact roundHalfEven_eq_of_near (lt_of_le_of_lt near (by norm_num))
  rw [same]

end BlockQuery.Calendar.Moment
