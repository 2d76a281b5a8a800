import SurfaceStudio.Backend.Ops
import SurfaceStudio.Console.Listing
import SurfaceStudio.Render.Walk

/-!
# Reports on operations

What is printed when the backend has answered a request for its health or its log.

  • `OpsOutcome.lines` — the lines of a report,
  • `LogEntry.lines` — the lines of one entry; data that is a surface is listed as its tree.
-/

namespace SurfaceStudio

/-- The arrow of a direction. -/
def Direction.arrow : Direction → String
  | .clientToServer => "->"
  | .serverToClient => "<-"

/-- The time to the millisecond, the arrow, and the data: as the tree of a surface if it is one,
and as compact text otherwise. -/
def LogEntry.lines (e : LogEntry) : Logged (List String) :=
  let head := indent 1 ++ e.timestamp.fixed 3 ++ " " ++ e.direction.arrow
  match Surface.ofJson e.data with
  | .ok surface => do
    let tree ← surface.render
    return head :: tree.listing 2
  | .error _ => return [head ++ " " ++ e.data.compact]

/-- The entries one after the other. -/
def LogEntry.listLines : List LogEntry → Logged (List String)
  | [] => return []
  | e :: es => do
    let first ← e.lines
    let others ← listLines es
    return first ++ others

/-- **The lines of a report.** -/
def OpsOutcome.lines : OpsOutcome → Logged (List String)
  | .health (.ok report) =>
    return ["health: status=" ++ report.status ++ " project=" ++ report.project]
  | .logs (.ok []) => return ["logs: empty"]
  | .logs (.ok (entry :: others)) => do
    let entries ← LogEntry.listLines (entry :: others)
    return ("logs: " ++ Nat.repr (others.length + 1) ++ " entries") :: entries
  | .logsReset (.ok ()) => return ["logs: cleared"]
  | .health (.error e) | .logs (.error e) | .logsReset (.error e) => return ["ops: " ++ e.text]

end SurfaceStudio
