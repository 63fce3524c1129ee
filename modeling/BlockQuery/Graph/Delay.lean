import BlockQuery.Number.Decimal

/-!
# Delays between attempts

The delay after the first failure is two seconds and doubles with every further
one. A graph may ask for a longer delay, in seconds; a shorter one than two
seconds is not honoured, and neither is one that is not a number in form. Not every
delay can be spent: it is counted in nanoseconds by a machine word.
-/

namespace BlockQuery.Graph

/-- How long to wait. -/
inductive Delay
  | seconds (value : Rat)
  | forever
  | undefined
deriving DecidableEq

/-- Why a delay cannot be spent. -/
inductive DelayError
  | tooLong
  | undefined
deriving DecidableEq, Repr

/-- The wording of a delay's error. -/
def DelayError.message : DelayError → String
  | tooLong => "timestamp out of range for platform time_t"
  | undefined => "Invalid value NaN (not a number)"

namespace Delay

/-- The shortest delay, in seconds. -/
def shortest : Rat := 2

/-- The delay after a number of earlier failures. -/
def backoff (failures : Nat) : Delay :=
  seconds (shortest * 2 ^ failures)

/-- The delay that a graph asks for, at least the shortest one. -/
def ofReal : Number.Real → Delay
  | .finite value => seconds (if value < shortest then shortest else value)
  | .negativeZero => seconds shortest
  | .infinite negative => if negative then seconds shortest else forever
  | .undefined => undefined

/-- The delay after a failure, given what the graph asks for. -/
def afterFailure (failures : Nat) (asked : Option String) : Delay :=
  match asked.bind fun text => Number.readReal text.toList with
  | some value => ofReal value
  | none => backoff failures

/-- Nanoseconds of a second. -/
def secondNanos : Rat := 1000000000

/-- The number of nanoseconds that a delay stays below. -/
def nanosBound : Rat := 0x8000000000000000

/-- Why a delay cannot be spent, if it cannot. The nanoseconds have 53 significant bits. -/
def check : Delay → Except DelayError Unit
  | seconds value =>
    if Number.round53 (value * secondNanos) < nanosBound then .ok () else .error .tooLong
  | forever => .error .tooLong
  | undefined => .error .undefined

/-- The delay in seconds with six places. -/
def text : Delay → String
  | seconds value => Number.sixPlaces value
  | forever => "inf"
  | undefined => "nan"

end Delay

end BlockQuery.Graph
