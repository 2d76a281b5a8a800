import SurfaceStudio.Backend.Failure
import SurfaceStudio.Url.Reader

/-!
# Endpoints

Queries are answered by a live backend, which is reached under a base address, or by a simulated
one, which takes a while.

  • `Backend`, `Endpoint` — who answers, and where a live backend is reached,
  • `Endpoint.url` — the URL of a resource of the backend.
-/

namespace SurfaceStudio

/-- Milliseconds. -/
abbrev Millis := UInt64

/-- Where the backend is reached and how long it is waited for. -/
structure Endpoint where
  baseUrl : String
  connectTimeout : Millis
  requestTimeout : Millis
deriving DecidableEq, Repr

/-- Who answers queries. -/
inductive Backend where
  | live (endpoint : Endpoint)
  | simulated (delay : Millis)
deriving DecidableEq, Repr

/-- The address of the backend unless it is set otherwise. -/
def defaultBaseUrl : String := "http://localhost:8000"

namespace Endpoint

/-- A text without the slashes at its end. -/
def withoutEndSlashes (text : List Char) : List Char :=
  (text.reverse.dropWhile (· == '/')).reverse

/-- The base address and a path with one slash between them. -/
def address (e : Endpoint) (path : String) : String :=
  String.ofList (withoutEndSlashes e.baseUrl.toList) ++ "/" ++ path

/-- **The URL of a resource of the backend.** -/
def url (e : Endpoint) (path : String) : Except QueryError Url :=
  (Url.parse (e.address path)).mapError fun fault =>
    ⟨.invalidUrl, e.address path ++ ": " ++ fault.message⟩

end Endpoint

end SurfaceStudio
