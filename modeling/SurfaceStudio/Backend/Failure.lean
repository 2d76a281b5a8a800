/-!
# Failed requests

A request to the backend fails in one of six ways, each with a message about the particulars.

  • `FailureKind.name` — what a kind of failure is called,
  • `QueryError.text` — the kind and the message on one line.
-/

namespace SurfaceStudio

inductive FailureKind where
  /-- The address does not make a URL. -/
  | invalidUrl
  /-- The answer has a status other than success. -/
  | httpStatus (code : Nat)
  /-- No answer came in time. -/
  | timeout
  /-- The request could not be sent, or its answer not received. -/
  | network
  /-- The answer is not what was asked for. -/
  | undecodable
  /-- There is nothing to send the request to. -/
  | unavailable
deriving DecidableEq, Repr

structure QueryError where
  kind : FailureKind
  message : String
deriving DecidableEq, Repr

def FailureKind.name : FailureKind → String
  | .invalidUrl => "invalid url"
  | .httpStatus code => "http status " ++ Nat.repr code
  | .timeout => "timeout"
  | .network => "network error"
  | .undecodable => "undecodable response"
  | .unavailable => "unavailable"

/-- The kind and the message on one line. -/
def QueryError.text (e : QueryError) : String := e.kind.name ++ ": " ++ e.message

end SurfaceStudio
