import SurfaceStudio.Log.Logged
import SurfaceStudio.Studio.State

/-!
# What happens in the studio

An event changes the state and may send a query to the agent.  Several queries may be under way at
once; an answer counts only if its request is.

  • `State.update` — the effect of an event,
  • `State.ask` — sends a query unless it is blank,
  • `State.receive` — takes the answer to a request.
-/

namespace SurfaceStudio.Studio

/-! ## §1. Types. -/

inductive Event where
  /-- The text in the editor is now this. -/
  | edit (text : String)
  /-- Load the template of a name. -/
  | loadTemplate (name : String)
  /-- Load the template that is next in the round. -/
  | nextTemplate
  | switchMode (mode : Mode)
  /-- The text in the chat input is now this. -/
  | typeChat (text : String)
  /-- Send what is in the chat input. -/
  | sendChat
  /-- Send a query, leaving the chat input as it is. -/
  | ask (query : String)
  /-- A request has been answered, or will not be for the reason given. -/
  | receive (id : RequestId) (answer : Except String Reply)

/-- A request on its way to the agent. -/
structure Outgoing where
  id : RequestId
  request : Request

/-- A state and the requests to be sent. -/
structure Transition where
  state : State
  outgoing : List Outgoing

/-- Stands in the transcript where a request was not answered. -/
def connectivityText : String :=
  "Error: Could not connect to the Agent Engine. Please ensure the backend is running."

namespace State

/-! ## §2. The editor. -/

/-- Takes a text into the editor; the preview follows if the text is a surface. -/
def edit (s : State) (text : String) : Logged State :=
  match Surface.parse text with
  | .ok surface =>
    return { s with
      editorText := text
      preview := some surface
      editorFault := none
      dirty := true }
  | .error error => do
    Logged.record .debug ("Editor text rejected: " ++ error.message)
    return { s with editorText := text, editorFault := some (.rejected error), dirty := true }

/-- Shows a template. -/
def load (s : State) (template : Template) : Logged State := do
  Logged.record .info ("Loading template " ++ Text.quoted template.name)
  return s.showSurface template.surface

/-- Shows the template of a name, or notes that there is none. -/
def loadNamed (s : State) (name : String) : Logged State :=
  match Template.find? name with
  | some template => s.load template
  | none =>
    return { s with editorFault := some (.unknownTemplate (Text.trim name)), dirty := true }

/-- Shows the template that is next in the round. -/
def loadNext (s : State) : Logged State :=
  { s with templateTurn := s.templateTurn + 1 }.load (Template.atTurn s.templateTurn.toNat)

/-- Switches to a mode. -/
def switchMode (s : State) (mode : Mode) : State :=
  if s.mode = mode then s else { s with mode, dirty := true }

/-! ## §3. The conversation. -/

/-- **Sends a query unless it is blank.**  The messages before it go along. -/
def ask (s : State) (query : String) : Transition :=
  if Text.isBlankText query then ⟨s, []⟩
  else
    let sent := { s with nextId := s.nextId + 1, inFlight := s.inFlight.insert s.nextId }
    ⟨sent.say (.ofUser query), [⟨s.nextId, ⟨query, s.window⟩⟩]⟩

/-- Sends what is in the chat input and empties it, unless it is blank. -/
def sendChat (s : State) : Transition :=
  if Text.isBlankText s.chatInput then ⟨s, []⟩
  else { s with chatInput := "", dirty := true }.ask s.chatInput

/-- The surface of a reply is shown, if it has one. -/
def showReply (s : State) (reply : Reply) : State :=
  match reply.surface with
  | some surface => s.showSurface surface
  | none => s

/-- **Takes the answer to a request.**  An answer to a request that is not under way changes
nothing. -/
def receive (s : State) (id : RequestId) (answer : Except String Reply) : Logged State :=
  if s.inFlight.contains id then
    let answered := { s with inFlight := s.inFlight.erase id }
    match answer with
    | .ok reply => do
      Logged.record .info ("Agent reply for request " ++ Nat.repr id.toNat ++ " (surface: "
        ++ (if reply.surface.isSome then "true" else "false") ++ ")")
      return (answered.showReply reply).say (.ofReply reply)
    | .error reason => do
      Logged.record .warn ("Agent request " ++ Nat.repr id.toNat ++ " failed: " ++ reason)
      return answered.say (.ofAgent connectivityText)
  else do
    Logged.record .warn ("Ignoring reply for unknown request " ++ Nat.repr id.toNat)
    return s

/-! ## §4. Events. -/

/-- A change of the state alone. -/
def quietly (change : Logged State) : Logged Transition := do
  return ⟨← change, []⟩

/-- **The effect of an event.** -/
def update (s : State) : Event → Logged Transition
  | .edit text => quietly (s.edit text)
  | .loadTemplate name => quietly (s.loadNamed name)
  | .nextTemplate => quietly s.loadNext
  | .switchMode mode => return ⟨s.switchMode mode, []⟩
  | .typeChat text => return ⟨{ s with chatInput := text, dirty := true }, []⟩
  | .sendChat => return s.sendChat
  | .ask query => return s.ask query
  | .receive id answer => quietly (s.receive id answer)

end State

end SurfaceStudio.Studio
