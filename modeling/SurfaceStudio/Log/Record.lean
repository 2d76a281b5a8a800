/-!
# Log records

Every part of the studio that logs returns what it logs, in order, beside its result.

  • `Log.Level` — the levels, from the gravest to the most detailed,
  • `Log.Record` — a level and a message.
-/

namespace SurfaceStudio.Log

inductive Level where
  | error
  | warn
  | info
  | debug
  | trace
deriving DecidableEq, Repr

/-- How much detail a level stands for; graver levels come first. -/
def Level.detail : Level → Nat
  | .error => 1
  | .warn => 2
  | .info => 3
  | .debug => 4
  | .trace => 5

/-- The name a level is written with. -/
def Level.name : Level → String
  | .error => "ERROR"
  | .warn => "WARN"
  | .info => "INFO"
  | .debug => "DEBUG"
  | .trace => "TRACE"

structure Record where
  level : Level
  message : String
deriving DecidableEq, Repr

/-- The level in brackets before the message. -/
def Record.line (r : Record) : String := "[" ++ r.level.name ++ "] " ++ r.message

end SurfaceStudio.Log
