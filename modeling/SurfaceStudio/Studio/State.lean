import SurfaceStudio.Chat.Message
import SurfaceStudio.Surface.Template

/-!
# The state of the studio

The studio holds a conversation with the agent and a document in an editor.  The document has a
text and a preview; the preview is the last surface that was valid, and stays when the text is not.

  • `State` — everything the studio remembers,
  • `State.initial` — the state at the start, with the welcome surface,
  • `State.window` — the messages that go along with a query.
-/

namespace SurfaceStudio.Studio

/-! ## §1. Types. -/

/-- Numbers requests in the order they are sent, from 1 on. -/
abbrev RequestId := UInt64

inductive Mode where
  | editor
  | agent
deriving DecidableEq, Repr

/-- Why the editor shows an older surface than was asked for. -/
inductive EditorFault where
  /-- The text in the editor is not a surface. -/
  | rejected (error : ParseError)
  /-- There is no template of that name. -/
  | unknownTemplate (name : String)
deriving DecidableEq

def EditorFault.message : EditorFault → String
  | .rejected error => error.message
  | .unknownTemplate name => "unknown template `" ++ name ++ "`"

structure State where
  /-- How many messages go along with a query. -/
  historyWindow : Nat
  mode : Mode
  transcript : List Message
  /-- The requests that have not been answered, each once. -/
  inFlight : List RequestId
  nextId : RequestId
  chatInput : String
  editorText : String
  editorFault : Option EditorFault
  /-- The last valid surface, if there has been one. -/
  preview : Option Surface
  /-- How many times the next template has been asked for. -/
  templateTurn : UInt64
  /-- There may be something new to show. -/
  dirty : Bool

/-- How many messages go along with a query unless it is set otherwise. -/
def defaultHistoryWindow : Nat := 5

namespace State

/-- **The state at the start.** -/
def initial (historyWindow : Nat) : State where
  historyWindow
  mode := .editor
  transcript := []
  inFlight := []
  nextId := 1
  chatInput := ""
  editorText := Surface.welcome.pretty
  editorFault := none
  preview := some Surface.welcome
  templateTurn := 0
  dirty := false

/-! ## §2. Reading the state. -/

/-- Some request has not been answered. -/
def isPending (s : State) : Bool := !s.inFlight.isEmpty

/-- The last messages of the transcript, as many as the window takes. -/
def window (s : State) : List Message :=
  s.transcript.drop (s.transcript.length - s.historyWindow)

/-! ## §3. Small changes. -/

/-- Forgets that there was something new to show. -/
def clean (s : State) : State := { s with dirty := false }

/-- Shows a surface in the preview and its text in the editor. -/
def showSurface (s : State) (surface : Surface) : State :=
  { s with
    editorText := surface.pretty
    preview := some surface
    editorFault := none
    dirty := true }

/-- Appends a message to the transcript. -/
def say (s : State) (m : Message) : State :=
  { s with transcript := s.transcript ++ [m], dirty := true }

end State

end SurfaceStudio.Studio
