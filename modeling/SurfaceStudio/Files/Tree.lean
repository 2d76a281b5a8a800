import SurfaceStudio.Files
import SurfaceStudio.Text.Parts

/-!
# Trees of files

What a file system answers that holds certain files and directories and nothing else.  A path leads
from directory to directory, name by name, and every name but the last has to be that of a
directory.

  • `Tree.walk` — where a path leads,
  • `Tree.read`, `Tree.creationFault` — the answers when a file is to be read or created.
-/

namespace SurfaceStudio.Files

/-! ## §1. Types. -/

/-- A file with its bytes, or a directory. -/
inductive Entry where
  | file (bytes : List UInt8)
  | directory
deriving DecidableEq, Repr

/-- The names on the way to an entry, from the directory where the program runs.  A way to somewhere
else begins with `/`, the top of all directories, or with `..`. -/
abbrev Place := List String

/-- Entries with their places.  The directories on the way to an entry need not be listed. -/
abbrev Tree := List (Place × Entry)

/-- The top of all directories. -/
def top : String := "/"

namespace Tree

/-! ## §2. Places. -/

/-- The directories that are always there: the one where the program runs, and those it is in. -/
def isGiven (place : Place) : Bool := place == [top] || place.all (· == "..")

/-- What stands at a place. -/
def at? (t : Tree) (place : Place) : Option Entry :=
  if isGiven place then some .directory
  else
    match t.lookup place with
    | some entry => some entry
    | none => if t.any fun e => place.isPrefixOf e.1 then some .directory else none

/-- The directory around a place. -/
def parent (place : Place) : Place :=
  if place = [top] then [top]
  else if isGiven place then place ++ [".."]
  else place.dropLast

/-- The longest name, in bytes. -/
def longestName : Nat := 255

/-- The longest path, in bytes. -/
def longestPath : Nat := 4095

/-- One name further.  An empty name, as between two slashes, and a single dot lead nowhere, but
only a directory has them. -/
def step (t : Tree) (place : Place) (name : String) : Except FileFault Place :=
  match t.at? place with
  | none => .error .notFound
  | some (.file _) => .error .notDirectory
  | some .directory =>
    if name = "" ∨ name = "." then .ok place
    else if name = ".." then .ok (parent place)
    else if longestName < name.utf8ByteSize then .error .nameTooLong
    else .ok (place ++ [name])

/-- The place from which a path leads, and the names on it. -/
def names (path : String) : Place × List String :=
  let parts := (Text.splitAt '/' path.toList).map String.ofList
  if path.toList.head? = some '/' then ([top], parts.drop 1) else ([], parts)

/-- **Where a path leads.** -/
def walk (t : Tree) (path : String) : Except FileFault Place :=
  if path.toList.contains '\x00' then .error .nulInName
  else if path = "" then .error .notFound
  else if longestPath < path.utf8ByteSize then .error .nameTooLong
  else
    let (start, parts) := names path
    parts.foldlM t.step start

/-! ## §3. Files. -/

/-- **The answer when a file is to be read.** -/
def read (t : Tree) (path : String) : FileAnswer := do
  match t.at? (← t.walk path) with
  | some (.file bytes) => .ok bytes
  | some .directory => .error .isDirectory
  | none => .error .notFound

/-- Something stands where a path leads. -/
def holds (t : Tree) (path : String) : Bool :=
  match t.walk path with
  | .ok place => (t.at? place).isSome
  | .error _ => false

/-- A new file would be given a name that ends in a slash. -/
def endsInSlash (path : String) : Bool := path.toList.getLast? == some '/'

/-- **Why a file cannot be created, or emptied if it is there.** -/
def creationFault (t : Tree) (path : String) : Option FileFault :=
  match t.walk path with
  | .ok place =>
    if t.at? place = some .directory then some .isDirectory else none
  | .error .notFound =>
    if endsInSlash path && (t.walk (path.dropEndWhile (· == '/')).toString).isOk then
      some .isDirectory
    else some .notFound
  | .error fault => some fault

end Tree

end SurfaceStudio.Files
