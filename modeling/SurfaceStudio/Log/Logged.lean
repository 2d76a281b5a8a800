import SurfaceStudio.Log.Record

/-!
# Logged values

A computation that logs returns what it logs, in order, beside its result.

  • `Logged` — a value and the records made on the way to it,
  • `Logged.bind` — the records of the first part stand before those of the second.
-/

namespace SurfaceStudio

structure Logged (α : Type) where
  value : α
  log : List Log.Record

namespace Logged

variable {α β : Type}

/-- A value reached without logging. -/
def pure (value : α) : Logged α := ⟨value, []⟩

/-- One part after the other. -/
def bind (x : Logged α) (f : α → Logged β) : Logged β :=
  ⟨(f x.value).value, x.log ++ (f x.value).log⟩

instance : Monad Logged where
  pure := pure
  bind := bind

/-- Logs one message. -/
def record (level : Log.Level) (message : String) : Logged Unit := ⟨(), [⟨level, message⟩]⟩

end Logged

end SurfaceStudio
