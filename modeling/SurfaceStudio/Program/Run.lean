import SurfaceStudio.Console.Loop
import SurfaceStudio.Program.Options

/-!
# Running the program

The program reads its settings, sets its log up, puts the first text into the editor and hands the
input over to the console.

  • `Program.launch` — the settings in force and the log that is set up,
  • `Program.openingText` — the first text for the editor,
  • `Program.run` — a whole run on input that is known beforehand.
-/

namespace SurfaceStudio

/-! ## §1. Channels. -/

/-- Where text is written. -/
inductive Channel where
  | stdout
  | stderr
  | logFile
deriving DecidableEq, Repr

/-- Where a record is written: on the terminal errors stand apart. -/
def Log.Sink.channel (level : Log.Level) : Log.Sink → Channel
  | .file => .logFile
  | .terminal => if level = .error then .stderr else .stdout

/-- What an output writes on which channels. -/
def Output.written (setup : Log.Setup) : Output → List (Channel × String)
  | .line text => [(.stdout, text)]
  | .record r => (setup.sinks r).map fun sink => (sink.channel r.level, r.line)

namespace Program

/-! ## §2. Launching. -/

/-- Where the log is written if it is written to a file. -/
def logPath : String := "./surface.log"

/-- The backend that the options ask for. -/
def askedBackend (o : Options) : Option BackendChoice :=
  match o.baseUrl with
  | some url => some (.live url)
  | none => if o.simulated then some .simulated else none

/-- The most detailed level that is logged. -/
def logLimit (o : Options) : Log.Limit := some (if o.verbose then .debug else .info)

/-- A choice of a backend in words. -/
def backendText : BackendChoice → String
  | .live url => "Live \x7b base_url: " ++ Text.quoted url ++ " \x7d"
  | .simulated => "Simulated"

/-- What is known when the program has been launched. -/
structure Launch where
  settings : Settings
  setup : Log.Setup
  /-- What has been written so far. -/
  written : List (Channel × String)

/-- What is logged once there is a log. -/
def launchRecords (o : Options) (loaded : Except SettingsError (Option Settings))
    (settings : Settings) : List Output :=
  (match loaded with
    | .error e =>
      [.record ⟨.warn, "Ignoring config " ++ Text.quoted o.config ++ ": " ++ e.message⟩]
    | .ok _ => [])
    ++ [.record ⟨.info, "Starting with backend " ++ backendText settings.backendChoice⟩]

/-- Says why the file of the log could not be created, if it is needed. -/
def logWarning (target : Log.Target) (fault : Option FileFault) : List (Channel × String) :=
  if Log.Setup.usesFile target then
    (fault.map fun f => (Channel.stderr, Log.Setup.warning logPath f)).toList
  else []

/-- **Launches the program**: `config` is the answer of the system for the file of settings, and
`fault` why the file of the log could not be created.  What is logged while the settings are loaded
comes too early for the log. -/
def launch (o : Options) (config : FileAnswer) (fault : Option FileFault) : Launch :=
  let loaded := (Settings.load o.config config).value
  let settings := Settings.effective loaded (askedBackend o)
  let setup := Log.Setup.start.add settings.logTarget (logLimit o) fault
  { settings, setup
    written := logWarning settings.logTarget fault
      ++ (launchRecords o loaded settings).flatMap (Output.written setup) }

/-- What is said when the file for the editor could not be read. -/
def openingFault (path : String) (fault : FileFault) : List String :=
  ["Error: reading editor file " ++ Text.quoted path, "", "Caused by:", "    " ++ fault.message]

/-- **The first text for the editor**, if a file is named. -/
def openingText (o : Options) (files : String → FileAnswer) :
    Except (List String) (Option String) :=
  match o.editorFile with
  | none => .ok none
  | some path =>
    match (files path).text with
    | .ok text => .ok (some text)
    | .error fault => .error (openingFault path fault)

/-! ## §3. Whole runs. -/

/-- What a run leaves behind. -/
structure Report where
  code : Nat
  /-- The file of the log was created. -/
  logCreated : Bool
  written : List (Channel × String)

namespace Report

/-- What was written on a channel, in order. -/
def on (r : Report) (channel : Channel) : List String :=
  (r.written.filter (·.1 == channel)).map (·.2)

/-- A run that prints lines and does nothing else. -/
def printing (lines : List String) : Report := ⟨0, false, lines.map ((.stdout, ·))⟩

/-- A run that cannot begin. -/
def misused (error : UsageError) : Report := ⟨2, false, [(.stderr, error.message)]⟩

end Report

/-- What surrounds a run: the files, why the file of the log could not be created, and what is
typed. -/
structure Surroundings where
  files : String → FileAnswer
  logFault : Option FileFault
  input : String

/-- The commands that are typed. -/
def commands (input : String) : List Command :=
  (Text.splitAt '\n' input.toList).filterMap fun line => Command.parse? (String.ofList line)

/-- A turn for each command, and one that closes the input: all of it is there before the first job
is finished. -/
def inputTurns (input : String) : List Turn :=
  (commands input).map (fun c => ⟨some (.command c), []⟩) ++ [⟨some .closed, []⟩]

/-- A turn in which the engine takes up every job and finishes those that need not wait, and then
one in which it finishes the others. -/
def finishAll (answer : HttpAnswer) (files : String → FileAnswer) (c : Console) :
    Shown Console := do
  let work := c.session.work
  let isShort (job : Job) : Bool := c.session.engine.delay job == 0
  let short := (work.running ++ work.queued).map isShort
  let c ← c.turn files ⟨none, work.takeUpAll ++ Workload.finishDue answer 0 short⟩
  let rest := c.session.work.running.map fun _ => true
  c.turn files ⟨none, Workload.finishDue answer 0 rest⟩

/-- What the console puts out from its beginning to its end. -/
def converse (launch : Launch) (w : Surroundings) (text : Option String) : Shown Unit := do
  let engine := Engine.ofBackend launch.settings.backend
  let console ← Console.start engine launch.settings.historyWindow.toNat text
  let console ← console.run w.files (inputTurns w.input)
  let console ← finishAll .unreachable w.files console
  console.farewell

/-- A run with options. -/
def runWith (w : Surroundings) (o : Options) : Report :=
  let launch := launch o (w.files o.config) w.logFault
  let created := Log.Setup.usesFile launch.settings.logTarget && w.logFault.isNone
  match openingText o w.files with
  | .error lines => ⟨1, created, launch.written ++ lines.map ((.stderr, ·))⟩
  | .ok text =>
    let output := (converse launch w text).output
    ⟨0, created, launch.written ++ output.flatMap (Output.written launch.setup)⟩

/-- **A whole run on input that is known beforehand.**  No request reaches a server. -/
def run (w : Surroundings) (arguments : List String) : Report :=
  match Invocation.parse arguments with
  | .run options => runWith w options
  | .help => .printing usageLines
  | .version => .printing [versionLine]
  | .misuse error => .misused error

end Program

end SurfaceStudio
