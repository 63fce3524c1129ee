import BlockQuery.Proofs.Graph.CallTurns

/-!
# The memory of peers

The peer that serves a graph is remembered over all calls of a session, also over
calls that fail.  It is the peer of the last redirect that was followed; the last turn
of a call follows none.  Every post goes to the peer that is remembered when it is
made.  So a server that redirects all posts to one peer does so only once.
-/

namespace BlockQuery.Graph

open Datalog

/-- The URL of a post. -/
def Event.url? : Event → Option String
  | post url _ _ => some url
  | sleep _ => none

namespace Client

/-! ## One call -/

section

variable {client : Client} {server : Server} {body : Json} {now : Standing} {turn : Turn}
  {turns : List Turn} {result : Except Fault Response} {peer : Option String}

/-- The last turn does not change what is remembered. -/
theorem Run.peer_of_singleton (run : Run client server body now [turn] result peer) :
    peer = now.peer := by
  cases run with
  | retry _ _ _ rest | follow _ _ _ rest =>
      exact absurd rfl rest.ne_nil
  | oversleep | giveUp | misled | lost | settle => rfl

theorem Run.peer_eq (run : Run client server body now turns result peer)
    (enough : now.failures < maxFailures) : peer = remembered now.peer turns.dropLast := by
  rw [← List.dropLast_concat_getLast run.ne_nil] at run
  exact (run.passed enough).1.peer_of_singleton

end

/-- The base of a client without the slashes at its end. -/
structure IsBase (client : Client) (base : String) : Prop where
  slashes : ∃ count, client.baseUrl.toList = base.toList ++ List.replicate count '/'
  bare : ¬ ['/'] <:+ base.toList

/-- The host that a post goes to: the peer that is remembered, or the base when there is none. -/
inductive Hosts (client : Client) : Option String → String → Prop
  | peer {host : String} : host ≠ "" → Hosts client (some host) host
  | base {peer : Option String} {base : String} :
      peer = none ∨ peer = some "" → IsBase client base → Hosts client peer base

theorem isBase_iff {client : Client} {base : String} :
    IsBase client base ↔ base = dropSlashes client.baseUrl := by
  rw [dropSlashes, ← String.toList_inj, String.toList_ofList, eq_comm, Text.dropEnd_eq_iff]
  exact ⟨fun ⟨slashes, bare⟩ => ⟨slashes, bare⟩, fun ⟨slashes, bare⟩ => ⟨slashes, bare⟩⟩

theorem queryUrl_some (client : Client) {host : String} (written : host ≠ "") :
    client.queryUrl (some host) = host ++ "/api/graph/" ++ client.graph ++ "/q" := by
  have kept : (some host).filter (· != "") = some host := if_pos (bne_iff_ne.mpr written)
  rw [queryUrl, kept]
  rfl

theorem queryUrl_base {client : Client} {peer : Option String} {base : String}
    (unset : peer = none ∨ peer = some "") (isBase : IsBase client base) :
    client.queryUrl peer = base ++ "/api/graph/" ++ client.graph ++ "/q" := by
  rw [isBase_iff.mp isBase]
  rcases unset with rfl | rfl <;> rfl

theorem exists_hosts (client : Client) (peer : Option String) :
    ∃ host, Hosts client peer host ∧
      client.queryUrl peer = host ++ "/api/graph/" ++ client.graph ++ "/q" := by
  by_cases unset : peer = none ∨ peer = some ""
  · have isBase := isBase_iff.mpr (rfl : dropSlashes client.baseUrl = _)
    exact ⟨_, .base unset isBase, queryUrl_base unset isBase⟩
  · obtain ⟨host, rfl⟩ := Option.ne_none_iff_exists'.mp fun none => unset (.inl none)
    have written : host ≠ "" := fun empty => unset (.inr (congrArg some empty))
    exact ⟨host, .peer written, queryUrl_some client written⟩

/-- The turns of a call keep to its request and to the peer that is remembered: at each of them
the loop stands with what the turns before it have left. -/
structure Keeps (client : Client) (server : Server) (request : Request) (peer : Option String)
    (log : List Event) (turns : List Turn) : Prop where
  made : turns ≠ []
  url : ∀ before turn after, turns = before ++ turn :: after →
    ∃ host, Hosts client (remembered peer before) host ∧
      turn.url = host ++ "/api/graph/" ++ client.graph ++ "/q"
  body : ∀ turn ∈ turns,
    turn.body = .obj [("query", .str request.text), ("args", .arr request.arguments)]
  reply : ∀ before turn after, turns = before ++ turn :: after →
    turn.reply = server (log ++ before.flatMap Turn.events) turn.url turn.body
  loop : ∀ before turn after, turns = before ++ turn :: after →
    Client.after (client.exchange server.transport turn.body
        (before.countP Turn.isFailure) (before.countP Turn.isRedirect))
      (remembered peer before) (log ++ before.flatMap Turn.events) =
    Client.after (client.exchange server.transport turn.body 0 0) peer log
  ends : ∃ result, client.call server request peer log =
    ((result, remembered peer turns.dropLast), log ++ turns.flatMap Turn.events)

theorem Run.keeps {client : Client} {server : Server} {request : Request}
    {peer next : Option String} {log : List Event} {turns : List Turn}
    {result : Except Fault Response}
    (run : Run client server (payload request) ⟨peer, 0, 0, log⟩ turns result next) :
    Keeps client server request peer log turns where
  made := run.ne_nil
  url before turn after split := by
    subst split
    rw [(run.passed maxFailures_pos).1.head.1]
    exact exists_hosts client _
  body turn member := by
    rcases List.append_of_mem member with ⟨before, after, rfl⟩
    exact (run.passed maxFailures_pos).1.head.2.1
  reply before turn after split := by
    subst split
    exact (run.passed maxFailures_pos).1.head.2.2
  loop before turn after split := by
    subst split
    have there := run.passed maxFailures_pos
    have same := there.2.1
    simp only [Standing.outcome, Standing.passed, Nat.zero_add] at same
    rw [there.1.head.2.1]
    exact same
  ends := ⟨result >>= client.rowsOf, run.peer_eq maxFailures_pos ▸ call_eq_of_run run⟩

/-! ## A session -/

/-- The results of calls one after the other, with what is remembered and all that was done. -/
def session (client : Client) (server : Server) (requests : List Request)
    (peer : Option String) (log : List Event) :
    (List (Except Fault Json) × Option String) × List Event :=
  ((requests.mapM fun request => (client.run server.transport request).run :
    Session (StateM (List Event)) _).run peer).run log

section

variable {client : Client} {server : Server}

theorem session_cons {request : Request} {requests : List Request} {peer next last : Option String}
    {log log' log'' : List Event} {result : Except Fault Json}
    {results : List (Except Fault Json)}
    (first : client.call server request peer log = ((result, next), log'))
    (others : client.session server requests next log' = ((results, last), log'')) :
    client.session server (request :: requests) peer log = ((result :: results, last), log'') := by
  rw [session, List.mapM_cons]
  -- What comes after the first call depends on its result, peer and log alone.
  change (fun called : (Except Fault Json × Option String) × List Event =>
    (fun rest : (List (Except Fault Json) × Option String) × List Event =>
      ((called.1.1 :: rest.1.1, rest.1.2), rest.2))
      (client.session server requests called.1.2 called.2)) (client.call server request peer log) = _
  rw [first]
  dsimp only
  rw [others]

/-- Every session is made of the turns of its calls. -/
theorem exists_session (client : Client) (server : Server) (requests : List Request)
    (peer : Option String) (log : List Event) :
    ∃ calls results,
      client.session server requests peer log =
        ((results, remembered peer (calls.flatMap List.dropLast)),
          log ++ calls.flatten.flatMap Turn.events) ∧
      calls.length = requests.length ∧
      ∀ earlier turns later, calls = earlier ++ turns :: later →
        ∃ request, requests[earlier.length]? = some request ∧
          Keeps client server request (remembered peer (earlier.flatMap List.dropLast))
            (log ++ earlier.flatten.flatMap Turn.events) turns := by
  induction requests generalizing peer log with
  | nil =>
      refine ⟨[], [], ?_, rfl, ?_⟩
      · simp only [List.flatten_nil, List.flatMap_nil, List.append_nil]
        rfl
      · intro earlier turns later split
        simp at split
  | cons request requests ih =>
      rcases exists_run_call client server request peer log with ⟨turns, _, _, run, -⟩
      obtain ⟨result, first⟩ := run.keeps.ends
      rcases ih (remembered peer turns.dropLast) (log ++ turns.flatMap Turn.events) with
        ⟨calls, results, others, sameLength, kept⟩
      refine ⟨turns :: calls, result :: results, ?_, by simp [sameLength], ?_⟩
      · rw [session_cons first others, List.flatMap_cons, remembered_append, List.flatten_cons,
          List.flatMap_append, List.append_assoc]
      · intro earlier later rest split
        cases earlier with
        | nil =>
            rcases split with ⟨⟩
            simp only [List.flatten_nil, List.flatMap_nil, List.append_nil]
            exact ⟨request, rfl, run.keeps⟩
        | cons head earlier =>
            rw [List.cons_append, List.cons.injEq] at split
            rcases split with ⟨rfl, split⟩
            rw [List.flatMap_cons, remembered_append, List.flatten_cons, List.flatMap_append,
              ← List.append_assoc]
            exact kept earlier later rest split

end

/-! ## A server with one peer -/

/-- The server answers the posts to one URL, and redirects all others to it. -/
structure RedirectsTo (server : Server) (target : String) : Prop where
  serves : ∀ log body, ∃ response,
    server log target body = .answered response ∧ response.status = 200
  redirects : ∀ log url body, url ≠ target → ∃ response,
    server log url body = .answered response ∧
      (response.status = 307 ∨ response.status = 308) ∧
      response.header? "Location" = some target

/-- The URLs that were posted to. -/
def posted (log : List Event) : List String :=
  log.filterMap Event.url?

theorem posted_append (first second : List Event) :
    posted (first ++ second) = posted first ++ posted second :=
  List.filterMap_append

section

variable {client : Client} {base host : String}

/-- The interface of a graph at a host, by its characters. -/
theorem toList_interface (host graph : String) :
    (host ++ "/api/graph/" ++ graph ++ "/q").toList =
      host.toList ++ (pathMarker ++ (graph.toList ++ "/q".toList)) := by
  simp only [String.toList_append, List.append_assoc]
  rfl

theorem interface_inj {graph : String} :
    host ++ "/api/graph/" ++ graph ++ "/q" = base ++ "/api/graph/" ++ graph ++ "/q" →
      host = base := by
  intro same
  have texts := congrArg String.toList same
  rw [toList_interface, toList_interface] at texts
  exact String.toList_inj.mp (List.append_cancel_right texts)

/-- The marker overlaps itself in its last character only. -/
theorem not_pathMarker_drop : ∀ n < 10, 0 < n → ¬ pathMarker.drop n <+: pathMarker := by
  decide

theorem not_pathMarker_isPrefix {front tail : List Char} (after : List Char)
    (clear : ¬ pathMarker <:+: front ++ tail ++ ['/']) (made : tail ≠ []) :
    ¬ pathMarker <+: tail ++ (pathMarker ++ after) := by
  intro starts
  have marked : ['/'] <+: pathMarker := by decide
  have size : pathMarker.length = 11 := by decide
  have tailFirst : tail <+: tail ++ (pathMarker ++ after) := List.prefix_append _ _
  have positive := List.length_pos_iff.mpr made
  rcases Nat.lt_or_ge tail.length 10 with short | long
  · -- The rest of the marker lies over the start of the next one.
    obtain ⟨rest, split⟩ := List.prefix_of_prefix_length_le tailFirst starts (by omega)
    have rest_eq : rest = pathMarker.drop tail.length := by rw [← split, List.drop_left]
    have overlaps : rest <+: pathMarker ++ after := by
      rw [← split, List.prefix_append_right_inj] at starts
      rwa [← split]
    have within := List.prefix_of_prefix_length_le overlaps (List.prefix_append pathMarker after)
      (by rw [rest_eq, List.length_drop]; omega)
    exact not_pathMarker_drop tail.length short positive (rest_eq ▸ within)
  · have closed : tail ++ ['/'] <+: tail ++ (pathMarker ++ after) :=
      List.prefix_append_right_inj tail |>.mpr (marked.trans (List.prefix_append _ _))
    have within := List.prefix_of_prefix_length_le starts closed (by simp; omega)
    rw [List.append_assoc] at clear
    exact clear (within.isInfix.trans (List.suffix_append _ _).isInfix)

theorem peerOf_interface {graph : String} (clear : ¬ pathMarker <:+: host.toList ++ ['/'])
    {url : String}
    (joined : Url.join url.toList (host ++ "/api/graph/" ++ graph ++ "/q").toList =
      .ok (host ++ "/api/graph/" ++ graph ++ "/q").toList) :
    peerOf url (host ++ "/api/graph/" ++ graph ++ "/q") = .ok host := by
  have cut : Text.cut? pathMarker (host ++ "/api/graph/" ++ graph ++ "/q").toList =
      some (host.toList, graph.toList ++ "/q".toList) := by
    rw [toList_interface]
    refine Text.cut?_append _ ?_
    intro front tail split made
    exact not_pathMarker_isPrefix _ (split ▸ clear) made
  rw [peerOf, joined]
  dsimp only
  rw [cut]
  exact congrArg Except.ok String.ofList_toList

end

section

variable {client : Client} {server : Server} {host origin target : String}
  (directs : RedirectsTo server target) (there : client.queryUrl (some host) = target)
include directs there

theorem RedirectsTo.run_served (body : Json) (now : Standing) (known : now.peer = some host) :
    ∃ result, Run client server body now [now.plainTurn client server body] result (some host) := by
  rcases directs.serves now.log body with ⟨response, answered, status⟩
  rw [← there, ← known] at answered
  have run := Run.settle answered (by simp [Response.isBusy, status])
    (if_neg (by simp [status]))
  exact ⟨_, known ▸ run⟩

theorem RedirectsTo.call_served (request : Request) (log : List Event) :
    ∃ result done, client.call server request (some host) log = ((result, some host), log ++ done) ∧
      posted done = [target] := by
  rcases directs.run_served there (payload request) ⟨some host, 0, 0, log⟩ rfl with ⟨_, run⟩
  refine ⟨_, _, call_eq_of_run run, ?_⟩
  rw [← there]
  rfl

/-- The first call is redirected once. -/
theorem RedirectsTo.call_first (here : client.queryUrl none = origin) (other : origin ≠ target)
    (moved : peerOf origin target = .ok host) (request : Request) (log : List Event) :
    ∃ result done, client.call server request none log = ((result, some host), log ++ done) ∧
      posted done = [origin, target] := by
  let now : Standing := ⟨none, 0, 0, log⟩
  have redirected : (now.reply client server (payload request)).location? = some target := by
    rcases directs.redirects log origin (payload request) other with
      ⟨response, answered, status, location⟩
    rw [← here] at answered
    calc (now.reply client server (payload request)).location?
        = response.redirect? := congrArg Reply.location? answered
      _ = response.header? "Location" := if_pos status
      _ = some target := location
  have few : 0 < maxRedirects := by decide
  rcases directs.run_served there (payload request)
    (now.moved client server (payload request) host) rfl with ⟨_, rest⟩
  rw [← here] at moved
  have run := Run.follow redirected few moved rest
  refine ⟨_, _, call_eq_of_run run, ?_⟩
  rw [← here, ← there]
  rfl

theorem RedirectsTo.session_served (requests : List Request) (log : List Event) :
    ∃ results done,
      client.session server requests (some host) log = ((results, some host), log ++ done) ∧
        posted done = List.replicate requests.length target := by
  induction requests generalizing log with
  | nil =>
      refine ⟨[], [], ?_, rfl⟩
      rw [List.append_nil]
      rfl
  | cons request requests ih =>
      rcases directs.call_served there request log with ⟨result, done, first, one⟩
      rcases ih (log ++ done) with ⟨results, rest, others, many⟩
      refine ⟨result :: results, done ++ rest, ?_, ?_⟩
      · rw [session_cons first others, List.append_assoc]
      · rw [posted_append, one, many]
        rfl

end

/-- The peer of the last redirect that was followed is remembered over all calls, and every post
carries the query and the arguments of its call to the peer that is remembered.  So a server that
redirects everything to one peer is asked at its own address only once. -/
theorem session_remembers_peer (client : Client) (server : Server) (requests : List Request)
    (log : List Event) :
    (∃ calls results,
      client.session server requests none log =
        ((results, remembered none (calls.flatMap List.dropLast)),
          log ++ calls.flatten.flatMap Turn.events) ∧
      calls.length = requests.length ∧
      ∀ earlier turns later, calls = earlier ++ turns :: later →
        ∃ request, requests[earlier.length]? = some request ∧
          Keeps client server request (remembered none (earlier.flatMap List.dropLast))
            (log ++ earlier.flatten.flatMap Turn.events) turns) ∧
    ∀ base host origin target, IsBase client base → host ≠ "" → host ≠ base →
      origin = base ++ "/api/graph/" ++ client.graph ++ "/q" →
      target = host ++ "/api/graph/" ++ client.graph ++ "/q" →
      ¬ "/api/graph/".toList <:+: host.toList ++ ['/'] →
      Url.join origin.toList target.toList = .ok target.toList →
      RedirectsTo server target → requests ≠ [] →
      ∃ results done,
        client.session server requests none log = ((results, some host), log ++ done) ∧
          posted done = origin :: List.replicate requests.length target := by
  refine ⟨exists_session client server requests none log, ?_⟩
  rintro base host origin target isBase written other rfl rfl clear joined directs made
  obtain ⟨request, requests, rfl⟩ := List.exists_cons_of_ne_nil made
  have here := queryUrl_base (.inl rfl) isBase
  have there := queryUrl_some client written
  rcases directs.call_first there here (fun same => other (interface_inj same).symm)
    (peerOf_interface clear joined) request log with ⟨result, done, first, two⟩
  rcases directs.session_served there requests (log ++ done) with ⟨results, rest, others, many⟩
  refine ⟨result :: results, done ++ rest, ?_, ?_⟩
  · rw [session_cons first others, List.append_assoc]
  · rw [posted_append, two, many]
    rfl

/-- A server with one peer. -/
def onePeer (target : String) : Server := fun _ url _ =>
  .answered <|
    if url = target then
      { status := 200, headers := [], body := "" }
    else
      { status := 308, headers := [("Location", target)], body := "" }

theorem redirectsTo_onePeer (target : String) : RedirectsTo (onePeer target) target where
  serves log body := ⟨_, congrArg Reply.answered (if_pos rfl), rfl⟩
  redirects log url body other :=
    ⟨_, congrArg Reply.answered (if_neg other), .inr rfl, by simp [Response.header?]⟩

/-- A client whose base ends in a slash. -/
def slashed : Client where
  graph := "notes"
  token := ""
  baseUrl := "https://api.example/"

theorem isBase_slashed : IsBase slashed "https://api.example" where
  slashes := ⟨1, by decide⟩
  bare := by decide

/-- The host of a peer, with its port. -/
def peerHost : String := "https://peer.example:3001"

/-- The graph at its peer. -/
def peerUrl : String := "https://peer.example:3001/api/graph/notes/q"

theorem session_remembers_peer_slashed :
    IsBase slashed "https://api.example" ∧ RedirectsTo (onePeer peerUrl) peerUrl ∧
      ∃ results done,
        slashed.session (onePeer peerUrl) [⟨"first", []⟩, ⟨"second", []⟩] none [] =
            ((results, some peerHost), done) ∧
          posted done = ["https://api.example/api/graph/notes/q", peerUrl, peerUrl] := by
  have clear : ¬ "/api/graph/".toList <:+: peerHost.toList ++ ['/'] := by
    intro found
    have letter : 'g' ∈ "/api/graph/".toList := by decide
    exact absurd (found.subset letter) (by decide)
  have directs := redirectsTo_onePeer peerUrl
  exact ⟨isBase_slashed, directs,
    (session_remembers_peer slashed (onePeer peerUrl) [⟨"first", []⟩, ⟨"second", []⟩] []).2
      "https://api.example" peerHost "https://api.example/api/graph/notes/q" peerUrl isBase_slashed
      (by decide) (by decide) (by decide) (by decide) clear rfl directs (List.cons_ne_nil _ _)⟩

end Client

end BlockQuery.Graph
