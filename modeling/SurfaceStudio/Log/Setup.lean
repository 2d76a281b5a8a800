import SurfaceStudio.Files
import SurfaceStudio.Log.Record
import SurfaceStudio.Text.Quoted

/-!
# Where the log goes

The log is written to a file, to the terminal or to both, down to a level.  The first setting up
that has somewhere to write is the one that counts; a later one creates its file all the same, and
its level limits what is written from then on.

  • `Log.Setup.start`, `Log.Setup.add` — no log at all, and setting one up,
  • `Log.Setup.sinks` — where a record goes.
-/

namespace SurfaceStudio.Log

/-! ## §1. Types. -/

/-- Where a log is to be written. -/
inductive Target where
  | terminal
  | file
  | both
deriving DecidableEq, Repr

/-- Where a record ends up. -/
inductive Sink where
  | terminal
  | file
deriving DecidableEq, Repr

/-- The most detailed level that is written, if any is. -/
abbrev Limit := Option Level

/-- A limit lets a level through. -/
def admits (limit : Limit) (level : Level) : Bool :=
  match limit with
  | some most => level.detail ≤ most.detail
  | none => false

/-- What has been set up: the sinks and their limit, if there are any, and the limit that holds
beside it. -/
structure Setup where
  installed : Option (List Sink × Limit)
  limit : Limit
deriving DecidableEq, Repr

namespace Setup

/-! ## §2. Setting up. -/

/-- Nothing has been set up. -/
def start : Setup := ⟨none, none⟩

/-- Uses sinks down to a level, unless others are in use. -/
def install (s : Setup) (sinks : List Sink) (limit : Limit) : Setup :=
  ⟨s.installed.orElse fun _ => some (sinks, limit), limit⟩

/-- The sinks of a target; there is none for a file that could not be created. -/
def sinksOf (target : Target) (fault : Option FileFault) : List Sink :=
  match target, fault with
  | .terminal, _ | .both, some _ => [.terminal]
  | .file, none => [.file]
  | .both, none => [.terminal, .file]
  | .file, some _ => []

/-- **Sets a log up**, where `fault` tells why the file could not be created.  Without any sink
everything stays as it was. -/
def add (s : Setup) (target : Target) (limit : Limit) (fault : Option FileFault) : Setup :=
  match sinksOf target fault with
  | [] => s
  | sinks => s.install sinks limit

/-- A target uses the file. -/
def usesFile : Target → Bool
  | .terminal => false
  | .file | .both => true

/-- What is said when the file could not be created. -/
def warning (path : String) (fault : FileFault) : String :=
  "Warning: Could not create log file at " ++ Text.quoted path ++ ": " ++ fault.message

/-! ## §3. Writing. -/

/-- **Where a record goes.** -/
def sinks (s : Setup) (r : Record) : List Sink :=
  match s.installed with
  | some (sinks, limit) => if admits s.limit r.level && admits limit r.level then sinks else []
  | none => []

end Setup

end SurfaceStudio.Log
