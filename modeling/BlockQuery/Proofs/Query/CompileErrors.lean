import BlockQuery.Proofs.Calendar.Range
import BlockQuery.Proofs.Query.Canonical
import BlockQuery.Proofs.Query.DateInputs

/-!
# Errors of compiling

A text that cannot be read and a date that cannot be read are errors that callers
know of.  A date that is out of range is not: it gets through to the caller, if all
dates to its left can be resolved.  Neither is a number that has too many digits for
the request, which gets through if all dates can be resolved.
-/

namespace BlockQuery

/-- Whether the error is one that callers know of. -/
def CompileError.isDocumented : CompileError → Bool
  | unreadable _ | undated (.unreadable _) => true
  | undated (.outOfRange _) | unwritable _ => false

namespace Query

/-- The first date of the texts that cannot be resolved is out of range. -/
def OverrunsFirst (clock : Calendar.Clock) (texts : List String) : Prop :=
  ∃ before text after, texts = before ++ text :: after ∧
    (∀ earlier ∈ before, ∃ time, Calendar.resolve clock earlier = .ok time) ∧
    Calendar.Overruns clock text

theorem exists_firstDateError?_iff {clock : Calendar.Clock} {texts : List String} :
    (∃ cause, firstDateError? clock texts = some (.outOfRange cause)) ↔
      OverrunsFirst clock texts := by
  simp only [firstDateError?, List.findSome?_eq_some_iff, errorOf?_eq_some_iff,
    errorOf?_eq_none_iff, OverrunsFirst, ← Calendar.exists_resolve_error_iff]
  constructor
  · rintro ⟨cause, before, text, after, split, failed, earlier⟩
    exact ⟨before, text, after, split, earlier, cause, failed⟩
  · rintro ⟨before, text, after, split, earlier, cause, failed⟩
    exact ⟨cause, before, text, after, split, failed, earlier⟩

end Query

/-- The text is a query.  The first of its dates that cannot be resolved is out of range, or all can
be resolved, but a number of the request has too many digits. -/
def Escapes (clock : Calendar.Clock) (source : String) (options : Datalog.RequestOptions) : Prop :=
  ∃ named, Query.parse source = .ok named ∧
    (Query.OverrunsFirst clock (Query.dateTexts named.query.windows) ∨
      (∀ text ∈ Query.dateTexts named.query.windows,
        ∃ time, Calendar.resolve clock text = .ok time) ∧ ¬ options.Writable)

section

variable {clock : Calendar.Clock} {source : String}

theorem exists_compile_outOfRange_iff :
    (∃ cause, compile clock source = .error (.undated (.outOfRange cause))) ↔
      ∃ named, Query.parse source = .ok named ∧
        Query.OverrunsFirst clock (Query.dateTexts named.query.windows) := by
  simp only [← Query.exists_firstDateError?_iff, ← Query.errorOf?_conditionsFrom clock _ 0 0,
    errorOf?_eq_some_iff, compile_eq_error_iff]
  constructor
  · rintro ⟨cause, ⟨_, _, ⟨⟩⟩ | ⟨named, _, parsed, failed, ⟨⟩⟩⟩
    exact ⟨named, parsed, cause, failed⟩
  · rintro ⟨named, parsed, cause, failed⟩
    exact ⟨cause, .inr ⟨named, _, parsed, failed, rfl⟩⟩

/-- A query is compiled if all of its dates can be resolved. -/
theorem exists_compile_iff :
    (∃ compiled, compile clock source = .ok compiled) ↔
      ∃ named, Query.parse source = .ok named ∧
        ∀ text ∈ Query.dateTexts named.query.windows,
          ∃ time, Calendar.resolve clock text = .ok time := by
  have dated (named : NamedQuery) : (∃ conditions, named.query.conditions clock = .ok conditions) ↔
      ∀ text ∈ Query.dateTexts named.query.windows,
        ∃ time, Calendar.resolve clock text = .ok time := by
    rw [Query.conditions, ← errorOf?_eq_none_iff, Query.errorOf?_conditionsFrom,
      Query.firstDateError?, List.findSome?_eq_none_iff]
    simp only [errorOf?_eq_none_iff]
  simp only [← dated, compile_eq_ok_iff]
  constructor
  · rintro ⟨⟨named, conditions⟩, parsed, resolved⟩
    exact ⟨named, parsed, conditions, resolved⟩
  · rintro ⟨named, parsed, conditions, resolved⟩
    exact ⟨⟨named, conditions⟩, parsed, resolved⟩

/-- Every error is one that callers know of, but for a date that is out of range and a number that
has too many digits. -/
theorem exists_undocumented_iff {asked : Option Datalog.RequestOptions} :
    (∃ error, preview clock source asked = .error error ∧ ¬ error.isDocumented) ↔
      Escapes clock source (asked.getD {}) := by
  have split : Escapes clock source (asked.getD {}) ↔
      (∃ cause, compile clock source = .error (.undated (.outOfRange cause))) ∨
        (∃ compiled, compile clock source = .ok compiled) ∧ ¬ (asked.getD {}).Writable := by
    rw [exists_compile_outOfRange_iff, exists_compile_iff, Escapes]
    simp only [and_or_left, exists_or, ← and_assoc, exists_and_right]
  simp only [split, preview_eq_error_iff]
  constructor
  · rintro ⟨error, uncompiled | ⟨compiled, ok, long, rfl⟩, unknown⟩
    · left
      obtain ⟨cause, -, rfl⟩ | ⟨_, cause, -, -, rfl⟩ := compile_eq_error_iff.mp uncompiled
      · exact absurd rfl unknown
      · cases cause with
        | unreadable text => exact absurd rfl unknown
        | outOfRange cause => exact ⟨cause, uncompiled⟩
    · exact .inr ⟨⟨compiled, ok⟩, long⟩
  · rintro (⟨cause, uncompiled⟩ | ⟨⟨compiled, ok⟩, long⟩)
    · exact ⟨_, .inl uncompiled, by simp [CompileError.isDocumented]⟩
    · exact ⟨_, .inr ⟨compiled, ok, long, rfl⟩, by simp [CompileError.isDocumented]⟩

end

/-! ## A day before the calendar -/

/-- A window that starts before the first day of the calendar. -/
def distant : NamedQuery :=
  ⟨.between "1000000 days ago" "today", none⟩

/-- The text of the window. -/
def distantText : String := "\x7bbetween: [[ 1000000 days ago ]] [[ today ]]\x7d"

theorem parse_distantText : Query.parse distantText = .ok distant := by
  have written : distantText = Query.canonicalText distant := by decide +kernel
  have valid : distant.WellFormed := by
    refine ⟨⟨⟨⟨by decide, by decide⟩, by decide⟩, ⟨⟨by decide, by decide⟩, by decide⟩⟩, ?_⟩
    rintro _ ⟨⟩
  rw [Query.parse_eq_ok_iff_readNamed, Query.readNamed_eq_ok_iff_namedText, written,
    Query.canonicalText, String.toList_ofList, Query.expressionText_writtenNamed]
  exact Query.namedText_writtenNamed valid

theorem compile_distantText : compile Query.newYear distantText =
    .error (.undated (.outOfRange .outsideCalendar)) := by
  have outside : Calendar.resolve Query.newYear "1000000 days ago" =
      .error (.outOfRange .outsideCalendar) := by decide +kernel
  have undated : distant.query.conditions Query.newYear = .error (.outOfRange .outsideCalendar) := by
    change (Calendar.resolve Query.newYear "1000000 days ago" >>= _) = _
    rw [outside]
    rfl
  rw [compile_eq_error_iff]
  exact .inr ⟨distant, _, parse_distantText, undated, rfl⟩

/-- A day before the calendar is not an error that callers know of. -/
theorem distantText_not_documented : ∃ error,
    preview Query.newYear distantText none = .error error ∧ ¬ error.isDocumented :=
  ⟨_, preview_eq_error_iff.mpr (.inl compile_distantText), by decide⟩

end BlockQuery
