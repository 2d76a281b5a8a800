import SurfaceStudio.Backend.Endpoint
import SurfaceStudio.Log.Setup
import SurfaceStudio.Studio.State

/-!
# Settings

Which backend answers, how long to wait for it, how many messages go along with a query, and where
the log is written.

  • `Settings` — the settings, with their defaults,
  • `Settings.backend` — the backend they describe.
-/

namespace SurfaceStudio

inductive BackendChoice where
  | live (baseUrl : String)
  | simulated
deriving DecidableEq, Repr

structure Settings where
  backendChoice : BackendChoice
  historyWindow : UInt64
  connectTimeout : Millis
  requestTimeout : Millis
  simulatedDelay : Millis
  logTarget : Log.Target
deriving DecidableEq, Repr

namespace Settings

/-- **What holds unless it is set otherwise.** -/
def initial : Settings where
  backendChoice := .live defaultBaseUrl
  historyWindow := UInt64.ofNat Studio.defaultHistoryWindow
  connectTimeout := 5000
  requestTimeout := 30000
  simulatedDelay := 1000
  logTarget := .file

/-- The backend that the settings describe. -/
def backend (s : Settings) : Backend :=
  match s.backendChoice with
  | .live baseUrl => .live ⟨baseUrl, s.connectTimeout, s.requestTimeout⟩
  | .simulated => .simulated s.simulatedDelay

end Settings

end SurfaceStudio
