import SurfaceStudio.Files
import SurfaceStudio.Log.Logged
import SurfaceStudio.Settings.Reader
import SurfaceStudio.Text.Quoted

/-!
# Loading settings

The file of settings may be missing; one that is there must be readable and hold settings.

  • `Settings.load` — the settings of a file, if there is one,
  • `Settings.effective` — the settings in force: those of the file or the defaults, with the
    backend that was asked for on the command line.
-/

namespace SurfaceStudio

/-- Why a file of settings cannot be used. -/
inductive SettingsError where
  | unreadable (fault : FileFault)
  | malformed (fault : Ron.Fault)
deriving DecidableEq, Repr

def SettingsError.message : SettingsError → String
  | .unreadable fault => "could not read config: " ++ fault.message
  | .malformed fault => "could not parse config: " ++ fault.message

namespace Settings

/-- Where settings are looked for unless another file is named. -/
def defaultPath : String := "surface_app.ron"

/-- **The settings of a file, if there is one.** -/
def load (path : String) (answer : FileAnswer) : Logged (Except SettingsError (Option Settings)) :=
  match answer.text with
  | .error .notFound => return .ok none
  | .error fault => return .error (.unreadable fault)
  | .ok text =>
    match parse text with
    | .error fault => return .error (.malformed fault)
    | .ok settings => do
      Logged.record .info ("Loaded config from " ++ Text.quoted path)
      return .ok (some settings)

/-- **The settings in force.**  A file that is missing or cannot be used counts for nothing; a
backend that was asked for takes the place of the one in the file. -/
def effective (loaded : Except SettingsError (Option Settings)) (asked : Option BackendChoice) :
    Settings :=
  let base := match loaded with
    | .ok (some settings) => settings
    | _ => initial
  match asked with
  | some choice => { base with backendChoice := choice }
  | none => base

end Settings

end SurfaceStudio
