import BlockQuery.Graph.Client

/-!
# Turns of a call

A call is a loop of turns: a post, and what its reply makes of it.  The transport of a
server notes every post and every delay, and the server may decide on its replies by
all that was noted; so a server is a script, or anything else that replies.  A delay
that cannot be spent is noted as well, and then it ends the call.  `Run`
says what a turn can do, one rule for each way in which the loop goes on or ends.
Every call is a run, and whatever is said about calls follows by induction over runs.
-/

namespace BlockQuery.Graph

/-! ## Servers -/

/-- Something that a call does. -/
inductive Event
  | post (url : String) (body : Json) (reply : Reply)
  | sleep (delay : Delay)

/-- A server replies to a post, given all that was done before. -/
abbrev Server := List Event → String → Json → Reply

/-- The way to a server.  What is done is noted, and so is a delay that cannot be spent. -/
def Server.transport (server : Server) : Transport (StateM (List Event)) where
  post url body := modifyGet fun log =>
    (server log url body, log ++ [.post url body (server log url body)])
  sleep delay := modifyGet fun log => (delay.check, log ++ [.sleep delay])

namespace Reply

/-- Whether the post is to be tried again: the connection failed, or the server is busy. -/
def isFailure : Reply → Bool
  | failed _ => true
  | answered response => response.isBusy

/-- Where the reply redirects to. -/
def location? : Reply → Option String
  | failed _ => none
  | answered response => response.redirect?

/-- The delay before the next try, after a number of earlier failures. -/
def pause (failures : Nat) : Reply → Delay
  | failed _ => .backoff failures
  | answered response => .afterFailure failures response.retryAfter?

/-- The fault of a call that is given up at this reply of a URL. -/
def lastFault (url : String) : Reply → Fault
  | failed cause => .graph (.unreachable url Client.maxFailures cause)
  | answered _ => .graph (.rateLimited Client.maxFailures)

end Reply

/-- A post with its reply, and the delay that is asked for after it. -/
structure Turn where
  url : String
  body : Json
  reply : Reply
  delay? : Option Delay

namespace Turn

/-- What is done in a turn. -/
def events (turn : Turn) : List Event :=
  .post turn.url turn.body turn.reply :: (turn.delay?.map Event.sleep).toList

/-- Whether the turn counts as a failure. -/
def isFailure (turn : Turn) : Bool :=
  turn.reply.isFailure

/-- Whether the turn counts as a redirect. -/
def isRedirect (turn : Turn) : Bool :=
  turn.reply.location?.isSome

/-- The peer that a redirect leads to. -/
def leadsTo? (turn : Turn) : Option String :=
  turn.reply.location?.bind fun location => (Client.peerOf turn.url location).toOption

end Turn

/-- The peer that is remembered after some turns: the one that the last redirect led to, or the
one that was remembered before if there was no redirect. -/
def remembered (peer : Option String) (turns : List Turn) : Option String :=
  (turns.filterMap Turn.leadsTo?).getLast?.or peer

theorem remembered_cons (peer : Option String) (turn : Turn) (turns : List Turn) :
    remembered peer (turn :: turns) = remembered (turn.leadsTo?.or peer) turns := by
  rw [remembered, List.filterMap_cons, remembered]
  cases turn.leadsTo? with
  | none => rfl
  | some host =>
      dsimp only
      rw [List.getLast?_cons]
      cases (turns.filterMap Turn.leadsTo?).getLast? <;> rfl

theorem remembered_append (peer : Option String) (first second : List Turn) :
    remembered peer (first ++ second) = remembered (remembered peer first) second := by
  induction first generalizing peer with
  | nil => rfl
  | cons turn first ih => rw [List.cons_append, remembered_cons, ih, remembered_cons]

namespace Client

/-! ## Computations of a call -/

/-- The result of a computation, the peer that is remembered and all that was done. -/
def after {α : Type} (computation : ExceptT Fault (Session (StateM (List Event))) α)
    (peer : Option String) (log : List Event) :
    (Except Fault α × Option String) × List Event :=
  (computation.run.run peer).run log

section

variable {α β : Type} (server : Server) (peer : Option String) (log : List Event)

theorem after_get (next : Option String → ExceptT Fault (Session (StateM (List Event))) α) :
    after (get >>= next) peer log = after (next peer) peer log :=
  rfl

theorem after_post (url : String) (body : Json)
    (next : Reply → ExceptT Fault (Session (StateM (List Event))) α) :
    after (liftM (server.transport.post url body) >>= next) peer log =
      after (next (server log url body)) peer
        (log ++ [.post url body (server log url body)]) :=
  rfl

/-- A delay that cannot be spent ends the call. -/
theorem after_pause (delay : Delay)
    (next : Unit → ExceptT Fault (Session (StateM (List Event))) α) :
    after (pause server.transport delay >>= next) peer log =
      match delay.check with
      | .ok _ => after (next ()) peer (log ++ [.sleep delay])
      | .error error => ((.error (.badDelay error), peer), log ++ [.sleep delay]) := by
  change after (liftFault (delay.check.mapError .badDelay) >>= next) peer
    (log ++ [.sleep delay]) = _
  cases delay.check <;> rfl

/-- A result that is looked at once more. -/
theorem after_bind_liftFault {first : ExceptT Fault (Session (StateM (List Event))) α}
    {result : Except Fault α} {remembered : Option String} {done : List Event}
    (ended : after first peer log = ((result, remembered), done))
    (next : α → Except Fault β) :
    after (first >>= fun value => liftFault (next value)) peer log =
      ((result >>= next, remembered), done) := by
  change (ExceptT.bindCont (fun value => liftFault (next value)) (after first peer log).1.1 :
    Session (StateM (List Event)) (Except Fault β)) (after first peer log).1.2
      (after first peer log).2 = _
  rw [ended]
  cases result <;> rfl

end

/-! ## Runs -/

/-- Where a call stands when it makes a post. -/
structure Standing where
  peer : Option String
  failures : Nat
  redirects : Nat
  log : List Event

/-- What a response that neither redirects nor asks for patience is worth. -/
def settled (client : Client) (response : Response) : Except Fault Response :=
  if response.isUnauthorized then
    .error (.graph (.unauthorized client.graph))
  else if 400 ≤ response.status then
    .error (.graph (.refused client.graph response.status response.body))
  else
    .ok response

namespace Standing

variable (client : Client) (server : Server) (body : Json) (now : Standing)

/-- What the rest of the call comes to. -/
def outcome : (Except Fault Response × Option String) × List Event :=
  after (client.exchange server.transport body now.failures now.redirects) now.peer now.log

/-- The reply to the next post. -/
def reply : Reply :=
  server now.log (client.queryUrl now.peer) body

/-- The next turn, with the delay that is asked for after it. -/
def turn (delay? : Option Delay) : Turn where
  url := client.queryUrl now.peer
  body := body
  reply := now.reply client server body
  delay? := delay?

/-- The turn of a failure that is not the last one. -/
def failedTurn : Turn :=
  now.turn client server body (some ((now.reply client server body).pause now.failures))

/-- The turn of every other reply. -/
def plainTurn : Turn :=
  now.turn client server body none

/-- Where the call stands after a failure. -/
def retried : Standing :=
  { now with
    failures := now.failures + 1
    log := now.log ++ (now.failedTurn client server body).events }

/-- Where the call stands after a redirect to a peer. -/
def moved (peer : String) : Standing :=
  { now with
    peer := some peer
    redirects := now.redirects + 1
    log := now.log ++ (now.plainTurn client server body).events }

/-- Where the call stands after turns that all go on. -/
def passed (turns : List Turn) : Standing where
  peer := remembered now.peer turns
  failures := now.failures + turns.countP Turn.isFailure
  redirects := now.redirects + turns.countP Turn.isRedirect
  log := now.log ++ turns.flatMap Turn.events

/-- What the call comes to if this is its last turn. -/
def ended (turn : Turn) (result : Except Fault Response) :
    (Except Fault Response × Option String) × List Event :=
  ((result, now.peer), now.log ++ turn.events)

/-- What the call comes to after a failure. -/
def failed : (Except Fault Response × Option String) × List Event :=
  if now.failures + 1 < maxFailures then
    match ((now.reply client server body).pause now.failures).check with
    | .ok _ => (now.retried client server body).outcome client server body
    | .error error => now.ended (now.failedTurn client server body) (.error (.badDelay error))
  else
    now.ended (now.plainTurn client server body)
      (.error ((now.reply client server body).lastFault (client.queryUrl now.peer)))

end Standing

/-- A call runs through turns to a result and remembers a peer in the end. -/
inductive Run (client : Client) (server : Server) (body : Json) :
    Standing → List Turn → Except Fault Response → Option String → Prop
  | retry {now : Standing} {turns : List Turn} {result : Except Fault Response}
      {peer : Option String} :
      (now.reply client server body).isFailure → now.failures + 1 < maxFailures →
      ((now.reply client server body).pause now.failures).check = .ok () →
      Run client server body (now.retried client server body) turns result peer →
      Run client server body now (now.failedTurn client server body :: turns) result peer
  | oversleep {now : Standing} {error : DelayError} :
      (now.reply client server body).isFailure → now.failures + 1 < maxFailures →
      ((now.reply client server body).pause now.failures).check = .error error →
      Run client server body now [now.failedTurn client server body] (.error (.badDelay error))
        now.peer
  | giveUp {now : Standing} :
      (now.reply client server body).isFailure → now.failures + 1 = maxFailures →
      Run client server body now [now.plainTurn client server body]
        (.error ((now.reply client server body).lastFault (client.queryUrl now.peer))) now.peer
  | follow {now : Standing} {turns : List Turn} {result : Except Fault Response}
      {peer : Option String} {location host : String} :
      (now.reply client server body).location? = some location → now.redirects < maxRedirects →
      peerOf (client.queryUrl now.peer) location = .ok host →
      Run client server body (now.moved client server body host) turns result peer →
      Run client server body now (now.plainTurn client server body :: turns) result peer
  | misled {now : Standing} {location : String} {fault : Fault} :
      (now.reply client server body).location? = some location → now.redirects < maxRedirects →
      peerOf (client.queryUrl now.peer) location = .error fault →
      Run client server body now [now.plainTurn client server body] (.error fault) now.peer
  | lost {now : Standing} {location : String} :
      (now.reply client server body).location? = some location → now.redirects = maxRedirects →
      Run client server body now [now.plainTurn client server body]
        (.error (.graph (.tooManyRedirects client.graph))) now.peer
  | settle {now : Standing} {response : Response} :
      now.reply client server body = .answered response → ¬ response.isBusy →
      response.redirect? = none →
      Run client server body now [now.plainTurn client server body] (client.settled response)
        now.peer

section

variable {client : Client} {server : Server} {body : Json} {now : Standing}

theorem events_plainTurn : (now.plainTurn client server body).events =
    [.post (client.queryUrl now.peer) body (now.reply client server body)] :=
  rfl

theorem events_failedTurn : (now.failedTurn client server body).events =
    [.post (client.queryUrl now.peer) body (now.reply client server body),
      .sleep ((now.reply client server body).pause now.failures)] :=
  rfl

theorem not_isBusy_of_isUnauthorized {response : Response} (refused : response.isUnauthorized) :
    ¬ response.isBusy := by
  simp only [Response.isUnauthorized, Response.isBusy, Bool.or_eq_true, beq_iff_eq] at refused ⊢
  omega

theorem redirect?_of_isBusy {response : Response} (busy : response.isBusy) :
    response.redirect? = none := by
  simp only [Response.isBusy, Bool.or_eq_true, beq_iff_eq] at busy
  exact if_neg (by omega)

/-- One turn of the loop. -/
theorem outcome_eq (enough : now.failures < maxFailures) :
    now.outcome client server body =
      match now.reply client server body with
      | .failed _ => now.failed client server body
      | .answered response =>
        match response.redirect? with
        | some location =>
          if now.redirects < maxRedirects then
            match peerOf (client.queryUrl now.peer) location with
            | .ok host => (now.moved client server body host).outcome client server body
            | .error fault => now.ended (now.plainTurn client server body) (.error fault)
          else
            now.ended (now.plainTurn client server body)
              (.error (.graph (.tooManyRedirects client.graph)))
        | none =>
          if response.isBusy then
            now.failed client server body
          else
            now.ended (now.plainTurn client server body) (client.settled response) := by
  have replied : server now.log (client.queryUrl now.peer) body = now.reply client server body :=
    rfl
  rw [Standing.outcome]
  unfold exchange
  rw [after_get]
  dsimp only
  rw [if_pos enough, after_post, replied]
  simp only [Standing.failed, Standing.ended, Standing.outcome, Standing.retried, Standing.moved,
    events_failedTurn, events_plainTurn]
  cases now.reply client server body with
  | failed cause =>
      dsimp only [Reply.pause]
      split
      · rw [after_pause, List.append_assoc]
        rfl
      · rfl
  | answered response =>
      dsimp only [Reply.pause]
      cases redirected : response.redirect? with
      | some location =>
          dsimp only
          split
          · cases peerOf (client.queryUrl now.peer) location <;> rfl
          · rfl
      | none =>
          dsimp only [settled]
          by_cases refused : response.isUnauthorized
          · rw [if_pos refused, if_neg (not_isBusy_of_isUnauthorized refused), if_pos refused]
            rfl
          · rw [if_neg refused]
            by_cases busy : response.isBusy
            · rw [if_pos busy, if_pos busy]
              split
              · rw [after_pause, List.append_assoc]
                rfl
              · rfl
            · rw [if_neg busy, if_neg busy, if_neg refused]
              split <;> rfl

theorem outcome_of_failure (enough : now.failures < maxFailures)
    (failed : (now.reply client server body).isFailure) :
    now.outcome client server body = now.failed client server body := by
  rw [outcome_eq enough]
  cases replied : now.reply client server body with
  | failed cause => rfl
  | answered response =>
      rw [replied] at failed
      dsimp only
      rw [redirect?_of_isBusy failed]
      exact if_pos failed

theorem outcome_of_retry (enough : now.failures < maxFailures)
    (failed : (now.reply client server body).isFailure) (more : now.failures + 1 < maxFailures)
    (spent : ((now.reply client server body).pause now.failures).check = .ok ()) :
    now.outcome client server body =
      (now.retried client server body).outcome client server body := by
  rw [outcome_of_failure enough failed, Standing.failed, if_pos more, spent]

theorem outcome_of_redirect (enough : now.failures < maxFailures) {location : String}
    (redirected : (now.reply client server body).location? = some location) :
    now.outcome client server body =
      if now.redirects < maxRedirects then
        match peerOf (client.queryUrl now.peer) location with
        | .ok host => (now.moved client server body host).outcome client server body
        | .error fault => now.ended (now.plainTurn client server body) (.error fault)
      else
        now.ended (now.plainTurn client server body)
          (.error (.graph (.tooManyRedirects client.graph))) := by
  rw [outcome_eq enough]
  cases replied : now.reply client server body with
  | failed cause =>
      rw [replied] at redirected
      cases redirected
  | answered response =>
      rw [replied, Reply.location?] at redirected
      dsimp only
      rw [redirected]

theorem outcome_of_answer (enough : now.failures < maxFailures) {response : Response}
    (answered : now.reply client server body = .answered response)
    (calm : ¬ response.isBusy) (stays : response.redirect? = none) :
    now.outcome client server body =
      now.ended (now.plainTurn client server body) (client.settled response) := by
  rw [outcome_eq enough, answered]
  dsimp only
  rw [stays]
  exact if_neg calm

/-- A run is what the call does. -/
theorem Run.outcome_eq {turns : List Turn} {result : Except Fault Response}
    {peer : Option String} (run : Run client server body now turns result peer)
    (enough : now.failures < maxFailures) :
    now.outcome client server body = ((result, peer), now.log ++ turns.flatMap Turn.events) := by
  induction run with
  | @retry now turns result peer failed more spent rest ih =>
      rw [outcome_of_retry enough failed more spent, ih more, Standing.retried,
        List.flatMap_cons, List.append_assoc]
  | @oversleep now error failed more long =>
      rw [outcome_of_failure enough failed, Standing.failed, if_pos more, long,
        List.flatMap_singleton]
      rfl
  | @giveUp now failed last =>
      rw [outcome_of_failure enough failed, Standing.failed,
        if_neg (Nat.not_lt.mpr (Nat.le_of_eq last.symm)), Standing.ended, List.flatMap_singleton]
  | @follow now turns result peer location host redirected more leads rest ih =>
      rw [outcome_of_redirect enough redirected, if_pos more, leads]
      dsimp only
      rw [ih enough, Standing.moved, List.flatMap_cons, List.append_assoc]
  | @misled now location fault redirected more astray =>
      rw [outcome_of_redirect enough redirected, if_pos more, astray, List.flatMap_singleton]
      rfl
  | @lost now location redirected spent =>
      rw [outcome_of_redirect enough redirected, if_neg (Nat.not_lt.mpr (Nat.le_of_eq spent.symm)),
        Standing.ended, List.flatMap_singleton]
  | @settle now response answered calm stays =>
      rw [outcome_of_answer enough answered calm stays, Standing.ended, List.flatMap_singleton]

theorem location?_of_isFailure {reply : Reply} (failed : reply.isFailure) :
    reply.location? = none := by
  cases reply with
  | failed cause => rfl
  | answered response => exact redirect?_of_isBusy failed

theorem passed_nil : now.passed [] = now := by
  simp [Standing.passed, remembered]

theorem passed_failedTurn (failed : (now.reply client server body).isFailure)
    (turns : List Turn) : now.passed (now.failedTurn client server body :: turns) =
      (now.retried client server body).passed turns := by
  have stays : (now.failedTurn client server body).reply.location? = none :=
    location?_of_isFailure failed
  have counts : (now.failedTurn client server body).isFailure := failed
  have same : (now.failedTurn client server body).leadsTo? = none := by
    rw [Turn.leadsTo?, stays]
    rfl
  rw [Standing.passed, Standing.passed, remembered_cons, same, List.countP_cons_of_pos counts,
    List.countP_cons_of_neg (by rw [Turn.isRedirect, stays]; decide), List.flatMap_cons,
    ← List.append_assoc, Nat.add_comm _ 1, ← Nat.add_assoc]
  rfl

theorem passed_plainTurn {location host : String}
    (redirected : (now.reply client server body).location? = some location)
    (leads : peerOf (client.queryUrl now.peer) location = .ok host) (turns : List Turn) :
    now.passed (now.plainTurn client server body :: turns) =
      (now.moved client server body host).passed turns := by
  have moves : (now.plainTurn client server body).reply.location? = some location := redirected
  have calm : ¬ (now.plainTurn client server body).isFailure := by
    intro failed
    rw [location?_of_isFailure failed] at moves
    cases moves
  have next : (now.plainTurn client server body).leadsTo? = some host := by
    rw [Turn.leadsTo?, moves, Option.bind_some]
    exact congrArg Except.toOption leads
  rw [Standing.passed, Standing.passed, remembered_cons, next, List.countP_cons_of_neg calm,
    List.countP_cons_of_pos (by rw [Turn.isRedirect, moves]; rfl), List.flatMap_cons,
    ← List.append_assoc, Nat.add_comm _ 1, ← Nat.add_assoc]
  rfl

theorem Run.exists_cons {turns : List Turn} {result : Except Fault Response}
    {peer : Option String} (run : Run client server body now turns result peer) :
    ∃ turn others, turns = turn :: others := by
  cases run <;> exact ⟨_, _, rfl⟩

theorem Run.ne_nil {turns : List Turn} {result : Except Fault Response} {peer : Option String}
    (run : Run client server body now turns result peer) : turns ≠ [] := by
  rcases run.exists_cons with ⟨first, others, rfl⟩
  exact List.cons_ne_nil first others

/-- Every turn is a post to the peer that is remembered, and the reply of the server. -/
theorem Run.head {turn : Turn} {turns : List Turn} {result : Except Fault Response}
    {peer : Option String} (run : Run client server body now (turn :: turns) result peer) :
    turn.url = client.queryUrl now.peer ∧ turn.body = body ∧
      turn.reply = server now.log turn.url turn.body := by
  cases run <;> exact ⟨rfl, rfl, rfl⟩

/-- A run comes by where its turns lead to, and goes on from there. -/
theorem Run.passed {before after : List Turn} {turn : Turn} {result : Except Fault Response}
    {peer : Option String}
    (run : Run client server body now (before ++ turn :: after) result peer)
    (enough : now.failures < maxFailures) :
    Run client server body (now.passed before) (turn :: after) result peer ∧
      (now.passed before).outcome client server body = now.outcome client server body ∧
      (now.passed before).failures < maxFailures := by
  induction before generalizing now with
  | nil =>
      rw [passed_nil]
      exact ⟨run, rfl, enough⟩
  | cons first before ih =>
      rw [List.cons_append] at run
      have goesOn : before ++ turn :: after ≠ [] := by simp
      generalize before ++ turn :: after = rest at run ih goesOn
      cases run with
      | retry failed more spent rest =>
          rcases ih rest more with ⟨there, same, left⟩
          rw [passed_failedTurn failed]
          refine ⟨there, ?_, left⟩
          rw [same, outcome_of_retry enough failed more spent]
      | follow redirected more leads rest =>
          rcases ih rest enough with ⟨there, same, left⟩
          rw [passed_plainTurn redirected leads]
          refine ⟨there, ?_, left⟩
          rw [same, outcome_of_redirect enough redirected, if_pos more, leads]
      | oversleep | giveUp | misled | lost | settle => exact absurd rfl goesOn

/-- Every call is a run.  The induction is on what is left of both budgets. -/
theorem exists_run (client : Client) (server : Server) (body : Json) (now : Standing)
    (enough : now.failures < maxFailures) (few : now.redirects ≤ maxRedirects) :
    ∃ turns result peer, Run client server body now turns result peer := by
  obtain ⟨left, spent⟩ : ∃ left, maxFailures - now.failures + (maxRedirects - now.redirects) = left :=
    ⟨_, rfl⟩
  induction left using Nat.strongRecOn generalizing now with
  | ind left ih =>
      by_cases failed : (now.reply client server body).isFailure
      · rcases Nat.lt_or_ge (now.failures + 1) maxFailures with more | last
        · cases spent : ((now.reply client server body).pause now.failures).check with
          | error error => exact ⟨_, _, _, .oversleep failed more spent⟩
          | ok _ =>
              have shorter : maxFailures - (now.failures + 1) +
                  (maxRedirects - now.redirects) < left := by
                omega
              rcases ih _ shorter (now.retried client server body) more few rfl with
                ⟨turns, result, peer, rest⟩
              exact ⟨_, _, _, .retry failed more spent rest⟩
        · exact ⟨_, _, _, .giveUp failed (Nat.le_antisymm enough last)⟩
      · cases redirected : (now.reply client server body).location? with
        | some location =>
            rcases Nat.lt_or_ge now.redirects maxRedirects with more | last
            · cases leads : peerOf (client.queryUrl now.peer) location with
              | ok host =>
                  have shorter : maxFailures - now.failures +
                      (maxRedirects - (now.redirects + 1)) < left := by
                    omega
                  rcases ih _ shorter (now.moved client server body host) enough more rfl with
                    ⟨turns, result, peer, rest⟩
                  exact ⟨_, _, _, .follow redirected more leads rest⟩
              | error fault => exact ⟨_, _, _, .misled redirected more leads⟩
            · exact ⟨_, _, _, .lost redirected (Nat.le_antisymm few last)⟩
        | none =>
            cases replied : now.reply client server body with
            | failed cause =>
                rw [replied] at failed
                exact absurd rfl failed
            | answered response =>
                rw [replied] at failed redirected
                exact ⟨_, _, _, .settle replied failed redirected⟩

end

/-! ## Calls -/

/-- A call that starts with a remembered peer, after all that was done before. -/
def call (client : Client) (server : Server) (request : Datalog.Request) (peer : Option String)
    (log : List Event) : (Except Fault Json × Option String) × List Event :=
  after (client.run server.transport request) peer log

theorem maxFailures_pos : 0 < maxFailures := by
  decide

theorem call_eq_of_run {client : Client} {server : Server} {request : Datalog.Request}
    {peer remembered : Option String} {log : List Event} {turns : List Turn}
    {result : Except Fault Response}
    (run : Run client server (payload request) ⟨peer, 0, 0, log⟩ turns result remembered) :
    client.call server request peer log =
      ((result >>= client.rowsOf, remembered), log ++ turns.flatMap Turn.events) :=
  after_bind_liftFault peer log (run.outcome_eq maxFailures_pos) client.rowsOf

theorem exists_run_call (client : Client) (server : Server) (request : Datalog.Request)
    (peer : Option String) (log : List Event) :
    ∃ turns result remembered,
      Run client server (payload request) ⟨peer, 0, 0, log⟩ turns result remembered ∧
        client.call server request peer log =
          ((result >>= client.rowsOf, remembered), log ++ turns.flatMap Turn.events) := by
  rcases exists_run client server (payload request) ⟨peer, 0, 0, log⟩ maxFailures_pos
    (Nat.zero_le _) with ⟨turns, result, remembered, run⟩
  exact ⟨turns, result, remembered, run, call_eq_of_run run⟩

end Client

end BlockQuery.Graph
