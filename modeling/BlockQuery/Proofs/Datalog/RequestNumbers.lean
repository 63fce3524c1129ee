import BlockQuery.Datalog.Request
import BlockQuery.Proofs.Text.Decimal

/-!
# Numbers in requests

A find request states how many matches are wanted and how many are skipped.  It is made
exactly if these numbers have few enough digits; a number that need not be stated does
not matter.
-/

namespace BlockQuery

namespace Datalog

namespace RequestOptions

/-- All that is stated has few enough digits.  Nothing and -1 are both no bound. -/
structure Writable (options : RequestOptions) : Prop where
  limit : ∀ n ∈ options.limit, n ≠ -1 → Text.FewDigits n
  offset : 0 < options.offset → Text.FewDigits options.offset

/-- Few matches from the start are asked for in few digits. -/
theorem writable_of_small {limit : Option Int} {offset : Int} (few : ∀ n ∈ limit, n.natAbs < 100)
    (early : offset.natAbs < 100) (order pageUid : Option String) :
    Writable ⟨limit, offset, order, pageUid⟩ :=
  ⟨fun n given _ => Text.fewDigits_of_small (few n given),
    fun _ => Text.fewDigits_of_small early⟩

variable {options : RequestOptions}

theorem mem_numbers_iff {n : Int} :
    n ∈ options.numbers ↔
      n ∈ options.limit ∧ n ≠ -1 ∨ 0 < options.offset ∧ n = options.offset := by
  rw [numbers, List.mem_append, isBounded]
  refine or_congr ?_ ?_
  · cases options.limit with
    | none => simp
    | some limit =>
        by_cases unbounded : limit = -1
        · simp [unbounded, eq_comm]
        · constructor
          · intro listed
            obtain rfl : n = limit := by simpa [unbounded] using listed
            exact ⟨rfl, unbounded⟩
          · rintro ⟨⟨⟩, -⟩
            simp [unbounded]
  · split
    · next skips => simp [skips]
    · next skips => simp [skips]

theorem isWritable_iff : options.isWritable ↔ options.Writable := by
  simp only [isWritable, List.all_eq_true, mem_numbers_iff, Text.isWritable_iff]
  constructor
  · intro few
    exact ⟨fun n given bounded => few n (.inl ⟨given, bounded⟩),
      fun skips => few _ (.inr ⟨skips, rfl⟩)⟩
  · rintro ⟨limit, offset⟩ n (⟨given, bounded⟩ | ⟨skips, rfl⟩)
    · exact limit n given bounded
    · exact offset skips

end RequestOptions

namespace Clauses

variable {clauses : Clauses} {options : RequestOptions} {selection : List String}
  {request : Request}

theorem find_eq_ok_iff :
    clauses.find options selection = .ok request ↔
      options.Writable ∧ request = clauses.findRequest options selection := by
  rw [← RequestOptions.isWritable_iff, find]
  split
  · next writable => simp [writable, eq_comm]
  · next writable => simp [writable]

theorem find_eq_error_iff {error : RequestError} :
    clauses.find options selection = .error error ↔
      ¬ options.Writable ∧ error = .longNumber := by
  rw [← RequestOptions.isWritable_iff, find]
  split
  · next writable => simp [writable]
  · next writable =>
    rw [Except.error.injEq]
    exact ⟨fun same => ⟨writable, same.symm⟩, fun refused => refused.2.symm⟩

/-- The find request is made exactly if its numbers can be written, and then it has the property. -/
structure MakesRequest (clauses : Clauses) (options : RequestOptions) (selection : List String)
    (P : Request → Prop) : Prop where
  made : options.Writable → ∃ request, clauses.find options selection = .ok request ∧ P request
  refused : ¬ options.Writable → clauses.find options selection = .error .longNumber

theorem makesRequest_of {P : Request → Prop} (holds : P (clauses.findRequest options selection)) :
    clauses.MakesRequest options selection P where
  made writable := ⟨_, find_eq_ok_iff.mpr ⟨writable, rfl⟩, holds⟩
  refused unwritable := find_eq_error_iff.mpr ⟨unwritable, rfl⟩

end Clauses

end Datalog

end BlockQuery
