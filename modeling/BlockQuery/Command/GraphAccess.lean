import BlockQuery.Command.Host
import BlockQuery.Graph.Execution

/-!
# Access to the graph

Commands that run queries need settings with a graph and a token. All queries of
one command share a session, so that a redirect is followed only once.
-/

namespace BlockQuery.Command

open BlockQuery.Graph

variable {m : Type → Type} [Monad m]

/-- The settings and the client of the graph, or the end of the command. -/
def Host.graphAccess (host : Host m) (context : Context) : Action m (Settings × Client) := do
  match context.settings with
  | none =>
    host.error "Configuration not loaded"
    exit 2
  | some settings =>
    match settings.client? with
    | none =>
      host.error notConfiguredMessage
      host.hint "Create a config with: roam-query init-config"
      exit 2
    | some client => return (settings, client)

/-- The outcomes of query blocks, run one after the other in one session. -/
def Host.outcomes (host : Host m) (client : Client) (depth : Option Nat)
    (options : Datalog.RequestOptions) (sources : List String) : Action m (List Outcome) :=
  let engine := Engine.ofRunner (client.run (host.transport client)) depth host.clock
  ExceptT.lift ((sources.mapM fun source => engine.execute source options).run' none)

end BlockQuery.Command
