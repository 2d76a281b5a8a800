import SurfaceStudio.Backend.Exchange
import SurfaceStudio.Backend.Ops
import SurfaceStudio.Chat.Decoding
import SurfaceStudio.Log.Logged

/-!
# The live backend

A live backend takes queries for its agent and requests about its operation, each under a path of
its own.  Requests that change something are logged before they are sent.

  • `Endpoint.ask` — what comes of a query,
  • `Endpoint.health`, `Endpoint.logs`, `Endpoint.resetLogs` — what comes of the other requests,
  • `Endpoint.queryRequest` and its siblings — the requests themselves.
-/

namespace SurfaceStudio.Endpoint

/-! ## §1. Requests. -/

/-- A query is posted with the messages before it. -/
def queryRequest (e : Endpoint) (r : Request) : Except QueryError HttpRequest := do
  return ⟨.post, ← e.url "agent/query", some r.toJson⟩

/-- The request for one of the other resources. -/
def opsRequest (e : Endpoint) : OpsRequest → Except QueryError HttpRequest
  | .logs => do return ⟨.get, ← e.url "agent/logs", none⟩
  | .health => do return ⟨.get, ← e.url "health", none⟩
  | .resetLogs => do return ⟨.post, ← e.url "agent/debug/reset", none⟩

/-! ## §2. Queries. -/

/-- How long a query is, and how many messages go along. -/
def queryMeasures (r : Request) : String :=
  "query_len=" ++ Nat.repr r.query.utf8ByteSize ++ " history=" ++ Nat.repr r.history.length

/-- Notes a reply, if one came. -/
def noteReply : Except QueryError Reply → Logged Unit
  | .ok reply =>
    Logged.record .debug ("Agent replied text_len=" ++ Nat.repr reply.text.utf8ByteSize
      ++ " surface=" ++ (if reply.surface.isSome then "true" else "false"))
  | .error _ => return ()

/-- **What comes of a query**, if this is what comes of its request. -/
def ask (e : Endpoint) (r : Request) (answer : HttpAnswer) :
    Logged (Except QueryError Reply) :=
  match e.queryRequest r with
  | .error error => return .error error
  | .ok request => do
    Logged.record .info ("POST " ++ request.url.text ++ " " ++ queryMeasures r)
    let result := request.outcome Reply.decoder answer
    noteReply result
    return result

/-! ## §3. Operations. -/

/-- The entries of the backend's log. -/
def logs (e : Endpoint) (answer : HttpAnswer) : Except QueryError (List LogEntry) := do
  (← e.opsRequest .logs).outcome (.list LogEntry.decoder) answer

/-- The health of the backend. -/
def health (e : Endpoint) (answer : HttpAnswer) : Except QueryError Health := do
  (← e.opsRequest .health).outcome Health.decoder answer

/-- Clears the backend's log; what a successful answer holds does not matter. -/
def resetLogs (e : Endpoint) (answer : HttpAnswer) : Logged (Except QueryError Unit) :=
  match e.opsRequest .resetLogs with
  | .error error => return .error error
  | .ok request => do
    Logged.record .info ("POST " ++ request.url.text)
    return do
      request.check
      let _ ← request.successBody answer

/-- **What comes of a request about the operation of the backend.** -/
def operate (e : Endpoint) (request : OpsRequest) (answer : HttpAnswer) : Logged OpsOutcome :=
  match request with
  | .logs => return .logs (e.logs answer)
  | .health => return .health (e.health answer)
  | .resetLogs => do return .logsReset (← e.resetLogs answer)

end SurfaceStudio.Endpoint
