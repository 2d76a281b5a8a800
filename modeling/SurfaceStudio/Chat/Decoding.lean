import SurfaceStudio.Chat.Message
import SurfaceStudio.Wire.Record

/-!
# Decoding messages

The decoders of everything that is said between the studio and the agent.  A surface in a reply is
decoded as it stands, without the check that a text in the editor goes through.

  • `Surface.decoder`, `Message.decoder`, `Request.decoder`, `Reply.decoder`.
-/

namespace SurfaceStudio

open Wire

/-! ## §1. Surfaces. -/

/-- Any value is a node. -/
def Node.decoder : Decoder Node := Decoder.json.map Node.ofJson

structure Surface.Draft where
  id : Option String
  content : Option (List Node)
  extra : Members

/-- A surface; unknown members are kept. -/
def Surface.record : Record Surface.Draft Surface where
  name := "struct Surface"
  empty := ⟨none, none, []⟩
  fields := [
    .of "surfaceId" false (·.id) (fun draft id => { draft with id := some id }) .string,
    .of "content" false (·.content) (fun draft content => { draft with content := some content })
      (.list Node.decoder)]
  keep := some fun draft key v => { draft with extra := draft.extra.insert key v }
  complete draft := do
    return ⟨← required "surfaceId" draft.id, ← required "content" draft.content, draft.extra⟩

def Surface.decoder : Decoder Surface := Surface.record.decoder

/-! ## §2. Sources and roles. -/

def Role.decoder : Decoder Role :=
  .variants [(Role.user.name, .user), (Role.agent.name, .agent)]

structure Source.Draft where
  provider : Option String
  title : Option String
  url : Option String

def Source.record : Record Source.Draft Source where
  name := "struct Source"
  empty := ⟨none, none, none⟩
  fields := [
    .of "provider" false (·.provider) (fun draft s => { draft with provider := some s }) .string,
    .of "title" false (·.title) (fun draft s => { draft with title := some s }) .string,
    .of "url" false (·.url) (fun draft s => { draft with url := some s }) .string]
  keep := none
  complete draft := do
    return ⟨← required "provider" draft.provider, ← required "title" draft.title,
      ← required "url" draft.url⟩

def Source.decoder : Decoder Source := Source.record.decoder

/-! ## §3. Messages and requests. -/

structure Message.Draft where
  role : Option Role
  text : Option String
  surface : Option (Option Surface)
  source : Option (Option Source)

def Message.record : Record Message.Draft Message where
  name := "struct ChatMessage"
  empty := ⟨none, none, none, none⟩
  fields := [
    .of "role" false (·.role) (fun draft role => { draft with role := some role }) Role.decoder,
    .of "text" false (·.text) (fun draft text => { draft with text := some text }) .string,
    .of "surface" true (·.surface) (fun draft s => { draft with surface := some s })
      (.optional Surface.decoder),
    .of "source" true (·.source) (fun draft s => { draft with source := some s })
      (.optional Source.decoder)]
  keep := none
  complete draft := do
    return ⟨← required "role" draft.role, ← required "text" draft.text, draft.surface.join,
      draft.source.join⟩

def Message.decoder : Decoder Message := Message.record.decoder

structure Request.Draft where
  query : Option String
  history : Option (List Message)

def Request.record : Record Request.Draft Request where
  name := "struct AgentRequest"
  empty := ⟨none, none⟩
  fields := [
    .of "query" false (·.query) (fun draft query => { draft with query := some query }) .string,
    .of "history" false (·.history) (fun draft history => { draft with history := some history })
      (.list Message.decoder)]
  keep := none
  complete draft := do
    return ⟨← required "query" draft.query, ← required "history" draft.history⟩

def Request.decoder : Decoder Request := Request.record.decoder

/-! ## §4. Replies. -/

structure Reply.Draft where
  text : Option String
  surface : Option (Option Surface)
  source : Option (Option Source)

/-- A reply; its text may be left out. -/
def Reply.record : Record Reply.Draft Reply where
  name := "struct AgentReply"
  empty := ⟨none, none, none⟩
  fields := [
    .of "text" true (·.text) (fun draft text => { draft with text := some text }) .string,
    .of "surface" true (·.surface) (fun draft s => { draft with surface := some s })
      (.optional Surface.decoder),
    .of "source" true (·.source) (fun draft s => { draft with source := some s })
      (.optional Source.decoder)]
  keep := none
  complete draft := .ok ⟨draft.text.getD "", draft.surface.join, draft.source.join⟩

def Reply.decoder : Decoder Reply := Reply.record.decoder

end SurfaceStudio
