import BlockQuery.Calendar.Iso
import BlockQuery.Calendar.Relative
import BlockQuery.Calendar.Timestamp
import BlockQuery.Calendar.Written

/-!
# Resolving date texts

A date text is a relative date, a written date or an ISO moment, tried in that
order. The clock says what today is and gives its zone to texts that have none.
-/

namespace BlockQuery.Calendar

/-- Why a text has no timestamp. -/
inductive DateError
  /-- The text is not a date in any notation. -/
  | unreadable (text : String)
  /-- The text denotes a day outside the calendar. -/
  | outOfRange (cause : RangeError)
deriving DecidableEq, Repr

/-- The wording of a date error. -/
def DateError.message : DateError → String
  | unreadable text => s!"Cannot parse date: {text}"
  | outOfRange cause => cause.message

/-- A range error is a date error. -/
def liftRange {α : Type} (result : Except RangeError α) : Except DateError α :=
  result.mapError .outOfRange

/-- The day that a relative date denotes; `none` when the text is not a relative date. -/
def resolveRelative (clock : Moment) (text : String) : Except DateError (Option Moment) :=
  liftRange do
    match ← Relative.read text.toList with
    | some relative => return some (← relative.resolve clock.startOfDay)
    | none => return none

/-- The moment that a written date or an ISO text denotes. -/
def resolveAbsolute (clock : Moment) (text : String) : Except DateError Moment :=
  match Written.read? text.toList with
  | some date => .ok (.midnight date clock.offset)
  | none =>
    match Iso.read? (Text.trimString text) with
    | some moment => .ok (moment.withDefaultOffset clock.offset)
    | none => .error (.unreadable text)

/-- The moment that a text denotes. -/
def resolveMoment (clock : Moment) (text : String) : Except DateError Moment := do
  match ← resolveRelative clock text with
  | some moment => return moment
  | none => resolveAbsolute clock text

/-- The timestamp that a text denotes. -/
def resolve (clock : Clock) (text : String) : Except DateError Int := do
  let moment ← resolveMoment clock.now text
  liftRange (moment.timestamp clock.localTime)

end BlockQuery.Calendar
