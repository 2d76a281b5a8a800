import SurfaceStudio.Log.Logged

/-!
# Output

The console prints lines and logs records; the order in which it does both is kept.

  • `Output` — a line or a record,
  • `Shown` — a value and what was put out on the way to it,
  • `Shown.lines`, `Shown.records` — the lines alone and the records alone.
-/

namespace SurfaceStudio

/-- Something put out. -/
inductive Output where
  /-- A line for the reader. -/
  | line (text : String)
  /-- A record for the log. -/
  | record (record : Log.Record)
deriving DecidableEq, Repr

/-- The line, if it is one. -/
def Output.line? : Output → Option String
  | .line text => some text
  | .record _ => none

/-- The record, if it is one. -/
def Output.record? : Output → Option Log.Record
  | .line _ => none
  | .record r => some r

structure Shown (α : Type) where
  value : α
  output : List Output

namespace Shown

variable {α β : Type}

/-- A value reached without output. -/
def pure (value : α) : Shown α := ⟨value, []⟩

/-- One part after the other. -/
def bind (x : Shown α) (f : α → Shown β) : Shown β :=
  ⟨(f x.value).value, x.output ++ (f x.value).output⟩

instance : Monad Shown where
  pure := pure
  bind := bind

/-- Prints lines. -/
def print (lines : List String) : Shown Unit := ⟨(), lines.map .line⟩

/-- Logs what has been logged on the way to a value. -/
def ofLogged (x : Logged α) : Shown α := ⟨x.value, x.log.map .record⟩

/-- Logs one message. -/
def record (level : Log.Level) (message : String) : Shown Unit :=
  ofLogged (Logged.record level message)

/-- The lines that were printed. -/
def lines (x : Shown α) : List String := x.output.filterMap Output.line?

/-- The records that were logged. -/
def records (x : Shown α) : List Log.Record := x.output.filterMap Output.record?

theorem value_bind (x : Shown α) (f : α → Shown β) : (x >>= f).value = (f x.value).value := rfl

end Shown

end SurfaceStudio
