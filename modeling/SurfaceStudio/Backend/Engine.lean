import SurfaceStudio.Backend.Live
import SurfaceStudio.Backend.Simulated
import SurfaceStudio.Studio.Update

/-!
# The engine

The engine carries out jobs: queries, and requests about the operation of the backend.  Every job
ends in exactly one completion, whether it succeeds or not.

  • `Engine.ofBackend` — the engine for a backend,
  • `Job`, `Completion` — what goes in and what comes out,
  • `Engine.perform` — the completion of a job.
-/

namespace SurfaceStudio

open Studio

/-- Who answers queries, and where the operation of the backend is asked about, if anywhere. -/
structure Engine where
  agent : Backend
  ops : Option Endpoint
deriving DecidableEq, Repr

inductive Job where
  | query (outgoing : Outgoing)
  | ops (request : OpsRequest)

inductive Completion where
  | answered (id : RequestId) (result : Except QueryError Reply)
  | ops (outcome : OpsOutcome)

namespace Engine

/-- **The engine for a backend.**  Only a live one can be asked about its operation. -/
def ofBackend (backend : Backend) : Engine :=
  match backend with
  | .live endpoint => ⟨backend, some endpoint⟩
  | .simulated _ => ⟨backend, none⟩

/-- There is no backend to ask. -/
def opsUnavailable : QueryError := ⟨.unavailable, "ops endpoints need a live backend"⟩

/-- A request failed before it was made. -/
def failedOps (error : QueryError) : OpsRequest → OpsOutcome
  | .logs => .logs (.error error)
  | .health => .health (.error error)
  | .resetLogs => .logsReset (.error error)

/-- What comes of a query. -/
def ask (engine : Engine) (r : Request) (answer : HttpAnswer) :
    Logged (Except QueryError Reply) :=
  match engine.agent with
  | .live endpoint => endpoint.ask r answer
  | .simulated _ => return .ok (simulatedReply r.query)

/-- What comes of a request about the operation of the backend. -/
def operate (engine : Engine) (request : OpsRequest) (answer : HttpAnswer) : Logged OpsOutcome :=
  match engine.ops with
  | some endpoint => endpoint.operate request answer
  | none => return failedOps opsUnavailable request

/-- **The completion of a job**, if `answer` is what comes of a request that it sends. -/
def perform (engine : Engine) (answer : HttpAnswer) : Job → Logged Completion
  | .query outgoing => do return .answered outgoing.id (← engine.ask outgoing.request answer)
  | .ops request => do return .ops (← engine.operate request answer)

/-- How long a job waits although nothing is sent. -/
def delay (engine : Engine) : Job → Millis
  | .query _ =>
    match engine.agent with
    | .simulated delay => delay
    | .live _ => 0
  | .ops _ => 0

end Engine

/-- What is logged when a job is handed in. -/
def Job.announce : Job → Logged Unit
  | .query outgoing =>
    Logged.record .info ("Dispatching agent request " ++ Nat.repr outgoing.id.toNat)
  | .ops _ => return ()

/-- The event that an answer to a query is for the studio. -/
def receiveEvent (id : RequestId) (result : Except QueryError Reply) : Event :=
  .receive id (result.mapError QueryError.text)

end SurfaceStudio
