import SurfaceStudio.Surface.Document

/-!
# Messages

The transcript of a conversation is a list of messages from the user and the agent.  A query goes
out as a request with the messages that came just before it; the reply may bring a surface and
name the source it is taken from.

  • `Message`, `Request`, `Reply` — the types,
  • `Message.toJson`, `Request.toJson`, `Reply.toJson` — the values they are written as; what is
    absent is left out.
-/

namespace SurfaceStudio

/-! ## §1. Types. -/

inductive Role where
  | user
  | agent
deriving DecidableEq, Repr

/-- Where a surface of the agent comes from. -/
structure Source where
  provider : String
  title : String
  url : String
deriving DecidableEq, Repr

/-- An entry of the transcript. -/
structure Message where
  role : Role
  text : String
  surface : Option Surface
  source : Option Source

/-- A query with the messages before it. -/
structure Request where
  query : String
  history : List Message

/-- What the agent answers. -/
structure Reply where
  text : String
  surface : Option Surface
  source : Option Source

namespace Message

/-- A message of the user. -/
def ofUser (text : String) : Message := ⟨.user, text, none, none⟩

/-- A message of the agent without a surface. -/
def ofAgent (text : String) : Message := ⟨.agent, text, none, none⟩

/-- A reply as an entry of the transcript. -/
def ofReply (reply : Reply) : Message := ⟨.agent, reply.text, reply.surface, reply.source⟩

end Message

/-! ## §2. Writing. -/

/-- The name of a role on the wire. -/
def Role.name : Role → String
  | .user => "user"
  | .agent => "agent"

def Source.toJson (s : Source) : Json :=
  .object [("provider", .string s.provider), ("title", .string s.title), ("url", .string s.url)]

/-- The members for a surface and a source, as far as there are any. -/
def attachments (surface : Option Surface) (source : Option Source) : Members :=
  (surface.map fun s => ("surface", s.toJson)).toList
    ++ (source.map fun s => ("source", s.toJson)).toList

def Message.toJson (m : Message) : Json :=
  .object (("role", .string m.role.name) :: ("text", .string m.text)
    :: attachments m.surface m.source)

def Request.toJson (r : Request) : Json :=
  .object [("query", .string r.query), ("history", .array (r.history.map Message.toJson))]

def Reply.toJson (r : Reply) : Json :=
  .object (("text", .string r.text) :: attachments r.surface r.source)

end SurfaceStudio
