import SurfaceStudio.Ron.Document
import SurfaceStudio.Settings.Basic

/-!
# Reading settings

A text of settings names some of the six fields, in any order; the others keep their defaults.  A
field that nobody knows is skipped, a known field must not come twice.

  • `Settings.parse` — the settings of a text,
  • `Settings.Draft` — the fields that have been read.
-/

namespace SurfaceStudio

open Ron Ron.Reader

/-! ## §1. Values of fields. -/

/-- How many nested values there may be around and in a value. -/
def nestingBudget : Nat := 128

/-- Sets a field that has not been read. -/
def setOnce {α σ : Type} (key : String) (old : Option α) (value : Reader α) (set : α → σ) :
    Reader σ :=
  match old with
  | some _ => fail (.duplicateField key)
  | none => do return set (← value)

/-- A word of 64 bits. -/
def word : Reader UInt64 := do return UInt64.ofNat (← integer)

/-- Where the log is written. -/
def logTarget : Reader Log.Target := do
  let target ← name
  if target = "Terminal" then return .terminal
  else if target = "File" then return .file
  else if target = "Both" then return .both
  else fail (.wrongName target)

/-- A field of the live backend. -/
def liveField (e : Extensions) (baseUrl : Option String) (key : String) : Reader (Option String) :=
  if key = "base_url" then setOnce key baseUrl string some
  else do
    skipValue e (nestingBudget - 5)
    return baseUrl

/-- Which backend answers. -/
def backendChoice (e : Extensions) : Reader BackendChoice := do
  let choice ← name
  if choice = "Simulated" then return .simulated
  else if choice = "Live" then do
    skipBlanks
    expect '('
    match ← separated ')' (field (liveField e)) none with
    | some baseUrl => return .live baseUrl
    | none => fail (.missingField "base_url")
  else fail (.wrongName choice)

/-! ## §2. Settings. -/

/-- The fields that have been read. -/
structure Settings.Draft where
  backendChoice : Option BackendChoice
  historyWindow : Option UInt64
  connectTimeout : Option Millis
  requestTimeout : Option Millis
  simulatedDelay : Option Millis
  logTarget : Option Log.Target
deriving DecidableEq, Repr

namespace Settings.Draft

/-- No field has been read. -/
def empty : Draft := ⟨none, none, none, none, none, none⟩

/-- Reads the value of a field into the draft. -/
def read (e : Extensions) (d : Draft) (key : String) : Reader Draft :=
  if key = "backend" then
    setOnce key d.backendChoice (SurfaceStudio.backendChoice e)
      fun v => { d with backendChoice := some v }
  else if key = "history_window" then
    setOnce key d.historyWindow word fun v => { d with historyWindow := some v }
  else if key = "connect_timeout_ms" then
    setOnce key d.connectTimeout word fun v => { d with connectTimeout := some v }
  else if key = "request_timeout_ms" then
    setOnce key d.requestTimeout word fun v => { d with requestTimeout := some v }
  else if key = "simulated_delay_ms" then
    setOnce key d.simulatedDelay word fun v => { d with simulatedDelay := some v }
  else if key = "log_destination" then
    setOnce key d.logTarget SurfaceStudio.logTarget fun v => { d with logTarget := some v }
  else do
    skipValue e (nestingBudget - 2)
    return d

/-- What has been read, and the defaults for the rest. -/
def complete (d : Draft) : Settings where
  backendChoice := d.backendChoice.getD initial.backendChoice
  historyWindow := d.historyWindow.getD initial.historyWindow
  connectTimeout := d.connectTimeout.getD initial.connectTimeout
  requestTimeout := d.requestTimeout.getD initial.requestTimeout
  simulatedDelay := d.simulatedDelay.getD initial.simulatedDelay
  logTarget := d.logTarget.getD initial.logTarget

end Settings.Draft

namespace Settings

/-- The name of the record, which may be left out unless names are asked for. -/
def recordName (e : Extensions) : Reader Unit := do
  if (← peek?).any Text.isNamePart then do
    let found ← name
    if found = "AppConfig" then pure () else fail (.wrongName found)
  else if e.explicitNames then fail .nameExpected
  else pure ()

/-- Settings up to the end of the text. -/
def reader : Reader Settings := do
  let e ← extensions
  recordName e
  skipBlanks
  expect '('
  let draft ← separated ')' (field fun d key => d.read e key) Draft.empty
  skipBlanks
  if (← rest).isEmpty then return draft.complete else failNext

/-- **The settings of a text.** -/
def parse (text : String) : Except Ron.Fault Settings := (reader text.toList).map (·.1)

end Settings

end SurfaceStudio
