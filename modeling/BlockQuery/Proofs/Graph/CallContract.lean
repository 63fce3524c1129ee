import BlockQuery.Proofs.Graph.CallBudget

/-!
# The contract of a call

A call promises the rows of a JSON object that came with a successful status, or a
failure of a kind that its callers know of.  The reply to the last post decides
whether the promise is kept.  Four kinds of replies break it: an object that comes
with a status below 400 which is neither a success nor a redirect, a value which is no
object, a redirect to a location which is no URL, and a busy answer that asks for a
delay which cannot be spent, if there would be another try.
-/

namespace BlockQuery.Graph

/-- Whether the status of a response stands for a success. -/
def Response.isSuccess (response : Response) : Bool :=
  decide (200 ≤ response.status) && decide (response.status < 300)

/-- The rows of an object: its field `result`, no rows when it is absent. -/
def rowsIn (fields : List (String × Json)) : Json :=
  (fields.lookup "result").getD (.arr [])

namespace Client

/-- The last turn of a call, after so many failures and redirects, has a reply that callers are not
told of, and the call comes to a result nevertheless. -/
inductive Misread (failures redirects : Nat) (turn : Turn) : Except Fault Json → Prop
  | otherStatus {response : Response} {fields : List (String × Json)} :
      turn.reply = .answered response → response.redirect? = none → response.status < 400 →
      ¬ response.isSuccess → Json.parse? response.body = some (.obj fields) →
      Misread failures redirects turn (.ok (rowsIn fields))
  | noObject {response : Response} {value : Json} :
      turn.reply = .answered response → response.redirect? = none → response.status < 400 →
      Json.parse? response.body = some value → (∀ fields, value ≠ .obj fields) →
      Misread failures redirects turn (.error (.notObject value.kindName))
  | badLocation {location reason : String} :
      turn.reply.location? = some location → redirects < maxRedirects →
      peerOf turn.url location = .error (.badLocation reason) →
      Misread failures redirects turn (.error (.badLocation reason))
  | overslept {response : Response} {real : Number.Real} {error : DelayError} :
      turn.reply = .answered response → response.status = 429 ∨ response.status = 503 →
      failures < 4 → turn.reply.asked? = some real → Unwaitable real error →
      Misread failures redirects turn (.error (.badDelay error))

section

variable {client : Client} {failures redirects : Nat} {turn : Turn} {response : Response}
  {result : Except Fault Json}

/-! ## Replies that end a call -/

end

/-! ## Calls -/

/-- A successful answer with a list. -/
def listed : Response where
  status := 200
  headers := []
  body := "[]"

end Client

end BlockQuery.Graph
