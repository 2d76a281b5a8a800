import SurfaceStudio.Render.Walk
import SurfaceStudio.Studio.State

/-!
# Views

A view is what there is to show of a state: the surfaces of the transcript and the preview are
rendered, everything else is as it stands.

  • `State.view` — the view of a state; rendering logs in the order of the transcript, the preview
    last.
-/

namespace SurfaceStudio.Studio

/-- An entry of the transcript with its surface rendered. -/
structure MessageView where
  role : Role
  text : String
  inline : Option RenderTree
  source : Option Source

structure View where
  mode : Mode
  pendingCount : Nat
  chatInput : String
  transcript : List MessageView
  editorText : String
  /-- Shown above the preview when the editor shows an older surface than was asked for. -/
  editorError : Option String
  preview : Option RenderTree

/-- A surface rendered, if there is one. -/
def renderInline : Option Surface → Logged (Option RenderTree)
  | some surface => do return some (← surface.render)
  | none => return none

def messageView (m : Message) : Logged MessageView := do
  return ⟨m.role, m.text, ← renderInline m.surface, m.source⟩

/-- The entries of a transcript in order. -/
def messageViews : List Message → Logged (List MessageView)
  | [] => return []
  | m :: ms => do
    let first ← messageView m
    let others ← messageViews ms
    return first :: others

/-- **The view of a state.** -/
def State.view (s : State) : Logged View := do
  let transcript ← messageViews s.transcript
  let preview ← renderInline s.preview
  return {
    mode := s.mode
    pendingCount := s.inFlight.length
    chatInput := s.chatInput
    transcript
    editorText := s.editorText
    editorError := s.editorFault.map EditorFault.message
    preview }

end SurfaceStudio.Studio
