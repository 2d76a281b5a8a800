import SurfaceStudio.Backend.Failure
import SurfaceStudio.Wire.Record

/-!
# Operations data

Besides answering queries the backend can be asked for its health and for the log of its
conversation with the agent, and that log can be cleared.

  • `LogEntry`, `Health` — the data, with their decoders and written forms,
  • `OpsRequest`, `OpsOutcome` — what can be asked for, and what came of it.
-/

namespace SurfaceStudio

open Wire

/-! ## §1. Types. -/

/-- Which way a message of the conversation went. -/
inductive Direction where
  | clientToServer
  | serverToClient
deriving DecidableEq, Repr

/-- A message of the conversation, with its time in seconds. -/
structure LogEntry where
  timestamp : Binary64
  direction : Direction
  data : Json

structure Health where
  status : String
  project : String
deriving DecidableEq, Repr

/-- What the backend can be asked for besides queries. -/
inductive OpsRequest where
  | health
  | logs
  | resetLogs
deriving DecidableEq, Repr

/-- What came of a request. -/
inductive OpsOutcome where
  | health (result : Except QueryError Health)
  | logs (result : Except QueryError (List LogEntry))
  | logsReset (result : Except QueryError Unit)

/-! ## §2. Decoding. -/

/-- The name of a direction on the wire. -/
def Direction.name : Direction → String
  | .clientToServer => "CLIENT_TO_SERVER"
  | .serverToClient => "SERVER_TO_CLIENT"

def Direction.decoder : Decoder Direction :=
  .variants [(Direction.clientToServer.name, .clientToServer),
    (Direction.serverToClient.name, .serverToClient)]

structure LogEntry.Draft where
  timestamp : Option Binary64
  direction : Option Direction
  data : Option Json

def LogEntry.record : Record LogEntry.Draft LogEntry where
  name := "struct LogEntry"
  empty := ⟨none, none, none⟩
  fields := [
    .of "timestamp" false (·.timestamp) (fun draft t => { draft with timestamp := some t }) .double,
    .of "direction" false (·.direction) (fun draft d => { draft with direction := some d })
      Direction.decoder,
    .of "data" false (·.data) (fun draft v => { draft with data := some v }) .json]
  keep := none
  complete draft := do
    return ⟨← required "timestamp" draft.timestamp, ← required "direction" draft.direction,
      ← required "data" draft.data⟩

def LogEntry.decoder : Decoder LogEntry := LogEntry.record.decoder

structure Health.Draft where
  status : Option String
  project : Option String

def Health.record : Record Health.Draft Health where
  name := "struct Health"
  empty := ⟨none, none⟩
  fields := [
    .of "status" false (·.status) (fun draft s => { draft with status := some s }) .string,
    .of "project" false (·.project) (fun draft s => { draft with project := some s }) .string]
  keep := none
  complete draft := do
    return ⟨← required "status" draft.status, ← required "project" draft.project⟩

def Health.decoder : Decoder Health := Health.record.decoder

/-! ## §3. Writing. -/

def LogEntry.toJson (e : LogEntry) : Json :=
  .object [("timestamp", .number (.double e.timestamp)), ("direction", .string e.direction.name),
    ("data", e.data)]

def Health.toJson (h : Health) : Json :=
  .object [("status", .string h.status), ("project", .string h.project)]

end SurfaceStudio
