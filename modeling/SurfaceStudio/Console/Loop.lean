import SurfaceStudio.Console.Session

/-!
# The loop of the console

Input and completions come in at their own pace.  The console takes turns: in each it handles one
command at most, lets the engine go on, and collects completions.  It ends at once when it is told
to; when the input is closed, it ends as soon as no query is under way.

  • `Turn` — what happens in one turn,
  • `Console.turn`, `Console.run` — its effect, and that of several,
  • `Workload.takeUpAll`, `Workload.finishDue` — what the engine does when its time has come.
-/

namespace SurfaceStudio

/-! ## §1. Types. -/

/-- What comes in. -/
inductive Input where
  | command (command : Command)
  /-- There will be no more commands. -/
  | closed

/-- What comes in during a turn, and what the engine does before completions are collected. -/
structure Turn where
  input : Option Input
  moves : List EngineMove

structure Console where
  session : Session
  /-- There will be no more commands. -/
  closed : Bool
  ended : Bool

namespace Console

/-! ## §2. Turns. -/

/-- The end of a turn: the engine goes on and completions are collected.  It is the last one if the
input is closed and no query is under way. -/
def endTurn (c : Console) (moves : List EngineMove) : Shown Console := do
  let session ← (← c.session.advance moves).collect
  return { c with session, ended := c.closed && !session.studio.isPending }

/-- **The effect of a turn.**  After the end nothing happens. -/
def turn (files : String → FileAnswer) (c : Console) (t : Turn) : Shown Console :=
  if c.ended then return c
  else match t.input with
    | some (.command .quit) => return { c with ended := true }
    | some (.command command) => do
      let session ← c.session.handle files command
      { c with session }.endTurn t.moves
    | some .closed => { c with closed := true }.endTurn t.moves
    | none => c.endTurn t.moves

/-- One turn after the other. -/
def run (files : String → FileAnswer) : Console → List Turn → Shown Console
  | c, [] => return c
  | c, t :: ts => do run files (← c.turn files t) ts

/-- The line that ends the greeting. -/
def hint : String := "Type :help for commands."

/-- The beginning: everything is printed, and how to get help. -/
def start (engine : Engine) (historyWindow : Nat) (editor : Option String) : Shown Console := do
  let session ← Session.start engine historyWindow editor
  Shown.print [hint]
  return ⟨session, false, false⟩

/-- What is logged at the end. -/
def farewell (c : Console) : Shown Unit :=
  Shown.record .info ("Exiting with " ++ Nat.repr c.session.studio.transcript.length
    ++ " transcript entries")

end Console

/-! ## §3. The pace of the engine. -/

namespace Workload

/-- Takes up every job that is queued. -/
def takeUpAll (w : Workload) : List EngineMove := w.queued.map fun _ => .takeUp

/-- Finishes the jobs under way whose time has come, first those taken up first.  `kept` counts
the jobs before them that go on. -/
def finishDue (answer : HttpAnswer) : Nat → List Bool → List EngineMove
  | _, [] => []
  | kept, true :: due => .finish kept answer :: finishDue answer kept due
  | kept, false :: due => finishDue answer (kept + 1) due

end Workload

end SurfaceStudio
