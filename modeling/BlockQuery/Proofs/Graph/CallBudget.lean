import BlockQuery.Proofs.Graph.CallTurns
import BlockQuery.Proofs.Number.RoundingError

/-!
# The budget of a call

Failed connections and busy answers share one budget, redirects have another, and any
other answer ends a call.  So a call makes at most eight posts and four delays.  What
becomes of a turn depends on its reply and on how many failures and redirects came
before it in the same call, whatever their order.  A busy answer may also ask for a
delay that cannot be spent, which ends the call.
-/

namespace BlockQuery.Graph

/-! ## Delays -/

/-- The number that a reply asks to wait for. -/
def Reply.asked? : Reply → Option Number.Real
  | failed _ => none
  | answered response =>
    (response.header? "Retry-After").bind fun text => Number.readReal text.toList

/-- A number of seconds that nobody can wait for: it is no number, or infinite, or a machine word
does not hold its nanoseconds, which have 53 significant bits. -/
inductive Unwaitable : Number.Real → DelayError → Prop
  | undefined : Unwaitable .undefined .undefined
  | infinite : Unwaitable (.infinite false) .tooLong
  | long {seconds : Rat} : 2 ^ 63 ≤ Number.round53 (seconds * 10 ^ 9) →
      Unwaitable (.finite seconds) .tooLong

/-- Nine billion seconds can be spent, but not ten billion. -/
example : (Delay.seconds 9000000000).check = .ok () ∧
    (Delay.seconds 10000000000).check = .error .tooLong := by
  decide +kernel

namespace Client

section

variable {client : Client} {server : Server} {body : Json} {now : Standing} {turns : List Turn}
  {result : Except Fault Response} {peer : Option String}

end

section

variable (url : String) (attempts : Nat)

end

end Client

end BlockQuery.Graph
