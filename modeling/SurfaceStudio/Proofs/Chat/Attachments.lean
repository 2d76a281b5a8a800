import SurfaceStudio.Chat.Message
import SurfaceStudio.Proofs.Json.Values

/-!
# Attachments

A surface and a source are written behind the other members of a message or a reply, each under its
key.  What is absent is left out altogether.

  • `nodup_keys_attachments` — no key comes twice,
  • `attachmentsInOrder` — a text and its attachments in the order of their keys,
  • `Attaches`, `Message.attaches`, `Reply.attaches` — **what is attached is found under its key,
    and what is absent has no key**.
-/

namespace SurfaceStudio

open Json

/-! ## §1. Keys. -/

/-- What is attached to a message is written after its role and its text. -/
theorem nodup_keys_attachments (surface : Option Surface) (source : Option Source) :
    ("role" :: "text" :: Members.keys (attachments surface source)).Nodup := by
  have hsublist : List.Sublist (Members.keys (attachments surface source))
      ["surface", "source"] := by
    cases surface with
    | none => cases source <;> simp [attachments, Members.keys]
    | some s => cases source <;> simp [attachments, Members.keys]
  have hall : ["role", "text", "surface", "source"].Nodup := by decide
  exact hall.sublist ((hsublist.cons_cons "text").cons_cons "role")

/-- A text with what is attached to it, in the order of the keys. -/
def attachmentsInOrder (surface : Option Surface) (source : Option Source) (text : String) :
    Members :=
  (source.map fun s => ("source", s.toJson)).toList
    ++ ((surface.map fun s => ("surface", s.toJson)).toList ++ [("text", .string text)])

theorem perm_attachmentsInOrder (surface : Option Surface) (source : Option Source)
    (text : String) :
    List.Perm (("text", .string text) :: attachments surface source)
      (attachmentsInOrder surface source text) := by
  have hfirst : List.Perm (("text", Json.string text) :: attachments surface source)
      (attachments surface source ++ [("text", .string text)]) :=
    (List.perm_append_singleton _ _).symm
  refine hfirst.trans ?_
  rw [attachmentsInOrder, ← List.append_assoc]
  exact List.perm_append_comm.append_right _

theorem keys_attachmentsInOrder_sublist (surface : Option Surface) (source : Option Source)
    (text : String) :
    List.Sublist (Members.keys (attachmentsInOrder surface source text))
      ["source", "surface", "text"] := by
  cases surface with
  | none => cases source <;> simp [attachmentsInOrder, Members.keys]
  | some s => cases source <;> simp [attachmentsInOrder, Members.keys]

/-! ## §2. What is attached. -/

/-- **What is attached is written under its key, and what is absent has no key**, among the members
that are written and in the value. -/
structure Attaches (written : Json) (surface : Option Surface) (source : Option Source) : Prop where
  writtenSurface : written.member? "surface" = surface.map Surface.toJson
  writtenSource : written.member? "source" = source.map Source.toJson
  surface : written.canonical.member? "surface" = surface.map fun s => s.toJson.canonical
  source : written.canonical.member? "source" = source.map fun s => s.toJson.canonical

variable {surface : Option Surface} {source : Option Source}

theorem get?_surface_attachments :
    Members.get? "surface" (attachments surface source) = surface.map Surface.toJson := by
  cases surface with
  | none => cases source <;> rfl
  | some s => rfl

theorem get?_source_attachments :
    Members.get? "source" (attachments surface source) = source.map Source.toJson := by
  cases surface <;> cases source <;> rfl

/-- The attachments may stand behind other members. -/
theorem attaches_append (front : Members)
    (hnodup : (Members.keys (front ++ attachments surface source)).Nodup)
    (hsurface : Members.get? "surface" front = none)
    (hsource : Members.get? "source" front = none) :
    Attaches (.object (front ++ attachments surface source)) surface source := by
  have hwrittenSurface : Members.get? "surface" (front ++ attachments surface source)
      = surface.map Surface.toJson := by
    rw [Members.get?_append, hsurface, Option.none_or, get?_surface_attachments]
  have hwrittenSource : Members.get? "source" (front ++ attachments surface source)
      = source.map Source.toJson := by
    rw [Members.get?_append, hsource, Option.none_or, get?_source_attachments]
  exact {
    writtenSurface := hwrittenSurface
    writtenSource := hwrittenSource
    surface := by
      rw [member?_canonical _ hnodup, hwrittenSurface, Option.map_map]
      rfl
    source := by
      rw [member?_canonical _ hnodup, hwrittenSource, Option.map_map]
      rfl }

theorem Message.attaches (m : Message) : Attaches m.toJson m.surface m.source :=
  attaches_append [("role", .string m.role.name), ("text", .string m.text)]
    (nodup_keys_attachments m.surface m.source) rfl rfl

theorem Reply.attaches (r : Reply) : Attaches r.toJson r.surface r.source := by
  have hnodup := (List.nodup_cons.1 (nodup_keys_attachments r.surface r.source)).2
  exact attaches_append [("text", .string r.text)] hnodup rfl rfl

end SurfaceStudio
