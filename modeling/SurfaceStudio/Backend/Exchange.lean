import SurfaceStudio.Backend.Endpoint
import SurfaceStudio.Backend.Status
import SurfaceStudio.Wire.Decoder

/-!
# Exchanges

A request over HTTP is sent to a URL, and something comes of it: perhaps nothing, perhaps an answer
with a status and a body.

  • `HttpRequest`, `HttpAnswer` — the two sides of an exchange,
  • `HttpRequest.check` — only some URLs can be sent to,
  • `HttpRequest.successBody`, `HttpRequest.decode` — what a successful answer holds.
-/

namespace SurfaceStudio

/-! ## §1. Types. -/

inductive HttpMethod where
  | get
  | post
deriving DecidableEq, Repr

/-- A request; its body is JSON, if it has one. -/
structure HttpRequest where
  method : HttpMethod
  url : Url
  body : Option Json

/-- What comes of a request. -/
inductive HttpAnswer where
  /-- There was no connection, or it was closed before an answer came. -/
  | unreachable
  /-- No answer came in time. -/
  | timedOut
  /-- An answer whose body ended before its length was reached. -/
  | cutShort (status : Status)
  | complete (status : Status) (body : List UInt8)
deriving DecidableEq, Repr

namespace HttpRequest

/-! ## §2. Sending. -/

/-- A message about the URL of a request; it does not tell the password. -/
def about (r : HttpRequest) (problem : String) : String :=
  problem ++ " for url (" ++ r.url.withoutUser.text ++ ")"

/-- May not stand in the host of a request. -/
def isUnsendable (c : Char) : Bool := c == '"' || c == '\x60' || c == '\x7b' || c == '\x7d'

/-- A request can be sent to this URL. -/
def isSendable (url : Url) : Bool :=
  (url.scheme == "http" || url.scheme == "https")
    && url.authority.any fun a => !a.host.toList.any isUnsendable

/-- **A request that cannot be sent fails before it is.** -/
def check (r : HttpRequest) : Except QueryError Unit :=
  if isSendable r.url then .ok () else .error ⟨.network, r.about "builder error"⟩

/-! ## §3. Answers. -/

/-- **The body of a successful answer.**  The body of any other answer is not looked at. -/
def successBody (r : HttpRequest) : HttpAnswer → Except QueryError (List UInt8)
  | .unreachable => .error ⟨.network, r.about "error sending request"⟩
  | .timedOut => .error ⟨.timeout, r.about "error sending request"⟩
  | .cutShort status =>
    if status.isSuccess then .error ⟨.undecodable, r.about "error decoding response body"⟩
    else .error ⟨.httpStatus status.code, status.text⟩
  | .complete status body =>
    if status.isSuccess then .ok body else .error ⟨.httpStatus status.code, status.text⟩

/-- **What the body of a successful answer says.** -/
def decode {α : Type} (r : HttpRequest) (d : Wire.Decoder α) (answer : HttpAnswer) :
    Except QueryError α := do
  let body ← r.successBody answer
  (d.readText body).mapError fun fault => ⟨.undecodable, fault.message⟩

/-- What comes of a request that can be sent or not. -/
def outcome {α : Type} (r : HttpRequest) (d : Wire.Decoder α) (answer : HttpAnswer) :
    Except QueryError α := do
  r.check
  r.decode d answer

end HttpRequest

end SurfaceStudio
