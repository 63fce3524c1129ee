import BlockQuery.Graph.Delay
import BlockQuery.Graph.Reference
import BlockQuery.Graph.Url
import BlockQuery.Json.Reader

/-!
# The graph's HTTP interface

A request is posted to the graph and answered with JSON. A graph may be served by
a peer, to which the first post is redirected; the peer is remembered. Failed
connections and answers that ask for patience are tried again after a delay, up
to a number of failures. Everything that touches the network is left to a
`Transport`, so a call is a pure description over any monad.
-/

namespace BlockQuery.Graph

/-- An answer of the server. -/
structure Response where
  status : Int
  headers : List (String × String)
  body : String

namespace Response

/-- The value of a header; names are compared without regard to case, and the last one counts. -/
def header? (response : Response) (name : String) : Option String :=
  (response.headers.reverse.find? fun header => header.1.toLower == name.toLower).map Prod.snd

/-- Where a redirect leads to. -/
def redirect? (response : Response) : Option String :=
  if response.status = 307 ∨ response.status = 308 then response.header? "Location" else none

/-- Whether the token was rejected. -/
def isUnauthorized (response : Response) : Bool :=
  response.status == 401 || response.status == 403

/-- Whether the server asks to try again later. -/
def isBusy (response : Response) : Bool :=
  response.status == 429 || response.status == 503

/-- The delay that a server asks for. -/
def retryAfter? (response : Response) : Option String :=
  (response.header? "Retry-After").filter (· != "")

end Response

/-- What becomes of a post. -/
inductive Reply
  /-- The connection failed. -/
  | failed (cause : String)
  | answered (response : Response)

/-- How posts are sent and delays are spent. -/
structure Transport (m : Type → Type) where
  post : String → Json → m Reply
  /-- Spends a delay, or says why it cannot be spent. -/
  sleep : Delay → m (Except DelayError Unit)

/-- One graph and how to reach it. -/
structure Client where
  graph : String
  token : String
  baseUrl : String

namespace Client

/-- The host of the interface when nothing else is said. -/
def defaultBaseUrl : String := "https://api.roamresearch.com"

/-- The number of failures after which a call is given up. -/
def maxFailures : Nat := 5

/-- The number of redirects that a call follows. -/
def maxRedirects : Nat := 3

/-- The path of the interface in front of the name of a graph. -/
def pathMarker : List Char := "/api/graph/".toList

/-- A text without the slashes at its end. -/
def dropSlashes (text : String) : String :=
  String.ofList (Text.dropEnd '/' text.toList)

/-- The token as the headers carry it. -/
def authorization (client : Client) : String :=
  s!"Bearer {client.token}"

/-- The headers of every post. -/
def headers (client : Client) : List (String × String) :=
  [("User-Agent", "roam-query/0.1"),
   ("Content-Type", "application/json; charset=utf-8"),
   ("Authorization", client.authorization),
   ("x-authorization", client.authorization)]

/-- Where a request is posted, given the peer that serves the graph. -/
def queryUrl (client : Client) (peer : Option String) : String :=
  let host := (peer.filter (· != "")).getD (dropSlashes client.baseUrl)
  s!"{host}/api/graph/{client.graph}/q"

/-- A request as it is posted. -/
def payload (request : Datalog.Request) : Json :=
  .obj [("query", .str request.text), ("args", .arr request.arguments)]

/-- The peer that a redirect from a URL leads to: what precedes the interface's own path. -/
def peerOf (url location : String) : Except Fault String :=
  match Url.join url.toList location.toList with
  | .error error => .error (.badLocation error.message)
  | .ok target =>
    match Text.cut? pathMarker target with
    | some (host, _) => .ok (String.ofList host)
    | none => .ok (String.ofList (Text.dropEnd '/' target))

/-- The peer is remembered over all calls. -/
abbrev Session (m : Type → Type) := StateT (Option String) m

variable {m : Type → Type} [Monad m]

/-- Spends a delay; a call ends with one that cannot be spent. -/
def pause (transport : Transport m) (delay : Delay) : ExceptT Fault (Session m) Unit := do
  liftFault ((← transport.sleep delay).mapError .badDelay)

/-- Posts until an answer settles the call. Failed connections and busy answers share one
budget, redirects have another. -/
def exchange (client : Client) (transport : Transport m) (body : Json)
    (failures redirects : Nat) : ExceptT Fault (Session m) Response := do
  let url := client.queryUrl (← get)
  if failures < maxFailures then
    match ← transport.post url body with
    | .failed cause =>
      if failures + 1 < maxFailures then
        pause transport (Delay.backoff failures)
        exchange client transport body (failures + 1) redirects
      else
        throw (.graph (.unreachable url maxFailures cause))
    | .answered response =>
      match response.redirect? with
      | some location =>
        if redirects < maxRedirects then
          set (some (← liftFault (peerOf url location)))
          exchange client transport body failures (redirects + 1)
        else
          throw (.graph (.tooManyRedirects client.graph))
      | none =>
        if response.isUnauthorized then
          throw (.graph (.unauthorized client.graph))
        else if response.isBusy then
          if failures + 1 < maxFailures then
            pause transport (Delay.afterFailure failures response.retryAfter?)
            exchange client transport body (failures + 1) redirects
          else
            throw (.graph (.rateLimited maxFailures))
        else if 400 ≤ response.status then
          throw (.graph (.refused client.graph response.status response.body))
        else
          return response
  else
    throw (.graph (.exhausted url maxFailures))
termination_by (maxFailures - failures) + (maxRedirects - redirects)

/-- The rows of an answer: the field `result` of its object, no rows when it is absent. -/
def rowsOf (client : Client) (response : Response) : Except Fault Json :=
  match Json.parse? response.body with
  | none => .error (.graph (.unreadable client.graph))
  | some (.obj fields) => .ok ((fields.lookup "result").getD (.arr []))
  | some other => .error (.notObject other.kindName)

/-- Runs a request against the graph. -/
def run (client : Client) (transport : Transport m) : Runner (Session m) := fun request => do
  let response ← client.exchange transport (payload request) 0 0
  liftFault (client.rowsOf response)

end Client

end BlockQuery.Graph
