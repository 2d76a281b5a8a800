import SurfaceStudio.Console.Listing
import SurfaceStudio.Studio.View

/-!
# Showing changes

The presenter remembers what it has shown, so that each frame holds only what is new: the status,
the messages not shown yet, the error of the editor and the preview.

  • `Presenter.frame` — the lines that are new in a view, and what has been shown then,
  • `Presenter.full` — all lines of a view,
  • `statusLine`, `messageLines` — the parts of a frame.
-/

namespace SurfaceStudio

open Studio

/-! ## §1. Parts of a frame. -/

/-- The name of a mode. -/
def Studio.Mode.name : Mode → String
  | .editor => "editor"
  | .agent => "agent"

/-- The mode, and how many requests are under way. -/
def statusLine (v : View) : String :=
  "[" ++ v.mode.name ++ "] "
    ++ (if v.pendingCount = 0 then "idle"
        else "thinking... (" ++ Nat.repr v.pendingCount ++ " pending)")

/-- Who speaks. -/
def speaker : Role → String
  | .user => "you"
  | .agent => "agent"

/-- Where the surface of a message comes from. -/
def sourceLine (s : Source) : String :=
  indent 1 ++ "source: " ++ s.provider ++ " - " ++ s.title ++ " <" ++ s.url ++ ">"

/-- A message, its surface and its source. -/
def messageLines (m : MessageView) : List String :=
  (speaker m.role ++ "> " ++ m.text)
    :: ((m.inline.map (RenderTree.listing 1)).getD [] ++ (m.source.map sourceLine).toList)

/-- The error of the editor. -/
def errorLine (error : String) : String := "! editor: " ++ error ++ " (showing last valid surface)"

/-- The preview below its heading. -/
def previewLines (tree : RenderTree) : List String := "preview:" :: tree.listing 1

/-! ## §2. The presenter. -/

/-- What has been shown. -/
structure Presenter where
  /-- How many messages. -/
  messages : Nat
  preview : Option RenderTree
  error : Option String
  status : Option String

namespace Presenter

/-- Nothing has been shown. -/
def blank : Presenter := ⟨0, none, none, none⟩

/-- The preview shown is equal to this one, or there is none and none is shown. -/
def hasPreview (p : Presenter) (preview : Option RenderTree) : Bool :=
  match preview, p.preview with
  | some tree, some shown => tree.same shown
  | none, none => true
  | _, _ => false

/-- The lines that are new in a view. -/
def newLines (p : Presenter) (v : View) : List String :=
  (if p.status = some (statusLine v) then [] else [statusLine v])
    ++ (v.transcript.drop p.messages).flatMap messageLines
    ++ (if v.editorError = p.error then [] else (v.editorError.map errorLine).toList)
    ++ (if p.hasPreview v.preview then [] else (v.preview.map previewLines).getD [])

/-- What has been shown once the new lines of a view are: what has not changed stays. -/
def remember (p : Presenter) (v : View) : Presenter where
  messages := v.transcript.length
  preview := if p.hasPreview v.preview then p.preview else v.preview
  error := if v.editorError = p.error then p.error else v.editorError
  status := if p.status = some (statusLine v) then p.status else some (statusLine v)

/-- **The lines that are new in a view, and what has been shown then.** -/
def frame (p : Presenter) (v : View) : List String × Presenter := (p.newLines v, p.remember v)

/-- All lines of a view, whatever has been shown before. -/
def full (v : View) : List String × Presenter := blank.frame v

end Presenter

end SurfaceStudio
