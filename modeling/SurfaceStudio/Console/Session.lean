import SurfaceStudio.Backend.Workload
import SurfaceStudio.Console.Command
import SurfaceStudio.Console.Output
import SurfaceStudio.Console.Presenter
import SurfaceStudio.Console.Report
import SurfaceStudio.Files

/-!
# Sessions

A session joins the studio, the presenter and the engine.  Commands change the studio and hand in
jobs; completions are collected later and change the studio again.  After each change what is new
is printed.

  • `Session.start` — the beginning of a session,
  • `Session.handle` — the effect of a command,
  • `Session.collect` — the effect of the completions that have come in.
-/

namespace SurfaceStudio

open Studio

structure Session where
  engine : Engine
  studio : State
  presenter : Presenter
  work : Workload

namespace Session

/-! ## §1. Showing. -/

/-- Prints what is new. -/
def showFrame (s : Session) : Shown Session := do
  let view ← Shown.ofLogged s.studio.view
  let (lines, presenter) := s.presenter.frame view
  Shown.print lines
  return { s with presenter }

/-- Prints everything. -/
def showFull (s : Session) : Shown Session := do
  let view ← Shown.ofLogged s.studio.view
  let (lines, presenter) := Presenter.full view
  Shown.print lines
  return { s with presenter }

/-! ## §2. Events. -/

/-- How long a query is, and how many messages go along. -/
def sendText (o : Outgoing) : String :=
  "SendQuery request_id=" ++ Nat.repr o.id.toNat ++ " " ++ Endpoint.queryMeasures o.request

/-- Hands in a query. -/
def send (s : Session) (o : Outgoing) : Shown Session := do
  Shown.record .debug (sendText o)
  Shown.ofLogged (Job.query o).announce
  return { s with work := s.work.submit (.query o) }

/-- Hands in queries in their order. -/
def sendAll (s : Session) : List Outgoing → Shown Session
  | [] => return s
  | o :: others => do sendAll (← s.send o) others

/-- **Lets an event happen**: its queries are handed in, and what is new is printed if there may be
something new. -/
def dispatch (s : Session) (event : Event) : Shown Session := do
  let next ← Shown.ofLogged (s.studio.update event)
  let sent ← { s with studio := next.state.clean }.sendAll next.outgoing
  if next.state.dirty then sent.showFrame else return sent

/-! ## §3. Commands. -/

/-- Puts the text of a file into the editor, or prints why it could not be read. -/
def load (s : Session) (path : String) (answer : FileAnswer) : Shown Session :=
  match answer.text with
  | .ok text => s.dispatch (.edit text)
  | .error fault => do
    Shown.record .warn ("Could not read " ++ Text.quoted path ++ ": " ++ fault.message)
    Shown.print ["! could not read " ++ path ++ ": " ++ fault.message]
    return s

/-- Prints lines and changes nothing. -/
def say (s : Session) (lines : List String) : Shown Session := do
  Shown.print lines
  return s

/-- **The effect of a command**, where `files` answers when a file is read. -/
def handle (s : Session) (files : String → FileAnswer) : Command → Shown Session
  | .event event => s.dispatch event
  | .chat query => do (← s.dispatch (.typeChat query)).dispatch .sendChat
  | .load path => s.load path (files path)
  | .ops request => return { s with work := s.work.submit (.ops request) }
  | .listTemplates => s.say (Template.all.map fun t => indent 1 ++ t.name)
  | .showAll => s.showFull
  | .help => s.say Command.helpLines
  | .quit => return s
  | .invalid fault => s.say ["! " ++ fault.message]

/-! ## §4. Completions. -/

/-- Lets the engine do something. -/
def advance (s : Session) (moves : List EngineMove) : Shown Session := do
  return { s with work := ← Shown.ofLogged (s.work.moves s.engine moves) }

/-- The effect of a completion: an answer is an event, a report is printed. -/
def receive (s : Session) : Completion → Shown Session
  | .answered id result => s.dispatch (receiveEvent id result)
  | .ops outcome => do s.say (← Shown.ofLogged outcome.lines)

/-- The effects of completions in their order. -/
def receiveAll (s : Session) : List Completion → Shown Session
  | [] => return s
  | c :: others => do receiveAll (← s.receive c) others

/-- **The effect of the completions that have come in.** -/
def collect (s : Session) : Shown Session :=
  let (done, work) := s.work.collect
  { s with work }.receiveAll done

/-! ## §5. The beginning. -/

/-- Puts a text into the editor, if there is one. -/
def editFirst (s : Session) : Option String → Shown Session
  | some text => s.dispatch (.edit text)
  | none => return s

/-- **The beginning of a session**: the text for the editor, if there is one, is put in before
everything is printed. -/
def start (engine : Engine) (historyWindow : Nat) (editor : Option String) : Shown Session := do
  let s : Session := ⟨engine, State.initial historyWindow, .blank, .idle⟩
  (← s.editFirst editor).showFull

end Session

end SurfaceStudio
