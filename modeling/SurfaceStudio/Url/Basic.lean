import SurfaceStudio.Url.Host

/-!
# URLs

A URL has a scheme, perhaps a host with what belongs to it, a path, and perhaps a query and a
fragment.

  • `Url`, `Url.text` — a URL and how it is written,
  • `Url.withoutUser` — the URL without the name and password before its host.
-/

namespace SurfaceStudio

/-- Who is asked: a host, perhaps on a port of its own, perhaps under a name. -/
structure Url.Authority where
  /-- The name and the password before the host, as they are written. -/
  user : String
  /-- The host as it is written; it may be empty. -/
  host : String
  /-- The port, unless it is the usual one of the scheme. -/
  port : Option Nat
deriving DecidableEq, Repr

/-- What stands between the host and the query. -/
inductive Url.Path where
  /-- Segments, each behind a slash. -/
  | segments (list : List String)
  /-- Anything, where there is no host and no slash. -/
  | rootless (text : String)
deriving DecidableEq, Repr

structure Url where
  scheme : String
  authority : Option Url.Authority
  path : Url.Path
  query : Option String
  fragment : Option String
deriving DecidableEq, Repr

namespace Url

/-- How a path is written. -/
def Path.text : Path → String
  | .segments list => String.join (list.map ("/" ++ ·))
  | .rootless text => text

/-- How an authority is written. -/
def Authority.text (a : Authority) : String :=
  (if a.user = "" then "" else a.user ++ "@") ++ a.host
    ++ (match a.port with
        | some port => ":" ++ Nat.repr port
        | none => "")

/-- A text behind its mark, if there is one. -/
def behindMark (mark : String) : Option String → String
  | some text => mark ++ text
  | none => ""

/-- What stands between the scheme and the path.  Without a host, a path that begins with two
slashes would look like one. -/
def hostPart (u : Url) : String :=
  match u.authority, u.path with
  | some a, _ => "//" ++ a.text
  | none, .segments ("" :: _ :: _) => "/."
  | none, _ => ""

/-- **How a URL is written.** -/
def text (u : Url) : String :=
  u.scheme ++ ":" ++ u.hostPart ++ u.path.text ++ behindMark "?" u.query
    ++ behindMark "#" u.fragment

/-- The bytes that a text with percent signs stands for are UTF-8. -/
def isReadable (text : List Char) : Bool :=
  (String.fromUTF8? ⟨(unescape text).toArray⟩).isSome

/-- A name and a password that can be told to a server: the name is readable, and so is the
password where the name is empty. -/
def Authority.hasReadableUser (a : Authority) : Bool :=
  let name := a.user.toList.takeWhile (· != ':')
  isReadable name && (!name.isEmpty || isReadable (a.user.toList.drop 1))

/-- An authority without name and password; what cannot be told to a server stays. -/
def Authority.withoutUser (a : Authority) : Authority :=
  if a.hasReadableUser then { a with user := "" } else a

/-- The URL without the name and password before its host. -/
def withoutUser (u : Url) : Url := { u with authority := u.authority.map Authority.withoutUser }

end Url

end SurfaceStudio
