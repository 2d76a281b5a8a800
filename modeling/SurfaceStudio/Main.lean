import SurfaceStudio.Program.Run

/-!
# The program

Reads files and the input, keeps the time and writes what is put out; all else is decided by the
library.  There is no connection to a server, so every request finds it unreachable.
-/

namespace SurfaceStudio.Program

/-- The answer of the system when a file is to be read. -/
def readFile (path : String) : IO FileAnswer := do
  try
    return .ok (← IO.FS.readBinFile path).toList
  catch
    | .noFileOrDirectory .. => return .error .notFound
    | .inappropriateType .. => return .error .isDirectory
    | fault => return .error (.other (toString fault))

/-- The file of the log, or why it could not be created. -/
def createLog : IO (Except FileFault IO.FS.Handle) := do
  try
    return .ok (← IO.FS.Handle.mk logPath .write)
  catch
    | .noFileOrDirectory .. => return .error .notFound
    | .inappropriateType .. => return .error .isDirectory
    | fault => return .error (.other (toString fault))

/-- Writes on a channel. -/
def write (log : Option IO.FS.Handle) : Channel × String → IO Unit
  | (.stdout, line) => do
    (← IO.getStdout).putStrLn line
    (← IO.getStdout).flush
  | (.stderr, line) => IO.eprintln line
  | (.logFile, line) => do
    if let some handle := log then
      handle.putStrLn line
      handle.flush

/-- The console, when each job under way is finished, and the line that is being read. -/
structure Waiting where
  console : Console
  deadlines : List Nat
  line : Option (Task (Except IO.Error String))

/-- Begins to read a line. -/
def beginLine : IO (Task (Except IO.Error String)) := do
  IO.asTask (← IO.getStdin).getLine Task.Priority.dedicated

/-- What has come in, and the next line that is being read. -/
def takeInput (w : Waiting) : IO (Option Input × Waiting) := do
  match w.line with
  | none => return (none, w)
  | some task =>
    if ← IO.hasFinished task then
      match task.get with
      | .ok "" | .error _ => return (some .closed, { w with line := none })
      | .ok line =>
        let next ← beginLine
        return ((Command.parse? line).map .command, { w with line := some next })
    else return (none, w)

/-- The answers of the system that a command needs. -/
def filesFor : Option Input → IO (String → FileAnswer)
  | some (.command (.load path)) => do
    let answer ← readFile path
    return fun _ => answer
  | _ => return fun _ => .error .notFound

/-- One turn after the other, as long as the console goes on. -/
partial def converseLive (log : Option IO.FS.Handle) (setup : Log.Setup) (w : Waiting) :
    IO Unit := do
  let (input, w) ← takeInput w
  let files ← filesFor input
  let now ← IO.monoMsNow
  let work := w.console.session.work
  let due := w.deadlines.map fun deadline => decide (deadline ≤ now)
  let moves := Workload.finishDue .unreachable 0 due ++ work.takeUpAll
  let begun := work.queued.map fun job => now + (w.console.session.engine.delay job).toNat
  let turned := w.console.turn files ⟨input, moves⟩
  (turned.output.flatMap (Output.written setup)).forM (write log)
  if turned.value.ended then
    (turned.value.farewell.output.flatMap (Output.written setup)).forM (write log)
  else
    if input.isNone then IO.sleep 50
    let kept := w.deadlines.filter fun deadline => now < deadline
    converseLive log setup { w with console := turned.value, deadlines := kept ++ begun }

/-- A run with options, as it happens. -/
def runLive (o : Options) : IO UInt32 := do
  let config ← readFile o.config
  let target := (launch o config none).settings.logTarget
  let log ← if Log.Setup.usesFile target then createLog else pure (.error .notFound)
  let (handle, fault) := match log with
    | .ok handle => (some handle, none)
    | .error fault => (none, some fault)
  let launch := launch o config fault
  launch.written.forM (write handle)
  let opening ← match o.editorFile with
    | some path => readFile path
    | none => pure (.error .notFound)
  match openingText o fun _ => opening with
  | .error lines =>
    lines.forM fun line => write handle (.stderr, line)
    return 1
  | .ok text =>
    let engine := Engine.ofBackend launch.settings.backend
    let started := Console.start engine launch.settings.historyWindow.toNat text
    (started.output.flatMap (Output.written launch.setup)).forM (write handle)
    converseLive handle launch.setup ⟨started.value, [], some (← beginLine)⟩
    return 0

end SurfaceStudio.Program

open SurfaceStudio SurfaceStudio.Program in
def main (arguments : List String) : IO UInt32 := do
  match Invocation.parse arguments with
  | .run options => runLive options
  | .help =>
    usageLines.forM fun line => IO.println line
    return 0
  | .version =>
    IO.println versionLine
    return 0
  | .misuse error =>
    IO.eprintln error.message
    return 2
