import SurfaceStudio.Backend.Engine

/-!
# Jobs on their way

Jobs are handed in, taken up in the order in which they came, and finished in any order; their
completions wait until they are collected.

  • `Workload` — the jobs handed in, those under way, and the completions not collected,
  • `Workload.submit`, `Workload.collect` — how jobs go in and completions come out,
  • `Workload.move` — what the engine does in between.
-/

namespace SurfaceStudio

structure Workload where
  queued : List Job
  running : List Job
  done : List Completion

/-- What the engine does on its own. -/
inductive EngineMove where
  /-- Takes up the job that has been queued for the longest time. -/
  | takeUp
  /-- Finishes the job at a position among those under way; `answer` is what comes of a request
  that it sends. -/
  | finish (position : Nat) (answer : HttpAnswer)
deriving Repr

namespace Workload

/-- No job has been handed in. -/
def idle : Workload := ⟨[], [], []⟩

/-- Hands in a job. -/
def submit (w : Workload) (job : Job) : Workload := { w with queued := w.queued ++ [job] }

/-- Takes up the job that has been queued for the longest time. -/
def takeUp (w : Workload) : Workload :=
  match w.queued with
  | [] => w
  | job :: others => { w with queued := others, running := w.running ++ [job] }

/-- Finishes a job that is under way. -/
def finish (engine : Engine) (position : Nat) (answer : HttpAnswer) (w : Workload) :
    Logged Workload :=
  match w.running[position]? with
  | none => return w
  | some job => do
    let completion ← engine.perform answer job
    return { w with running := w.running.eraseIdx position, done := w.done ++ [completion] }

/-- **What the engine does.**  A move that is not possible changes nothing. -/
def move (engine : Engine) (w : Workload) : EngineMove → Logged Workload
  | .takeUp => return w.takeUp
  | .finish position answer => w.finish engine position answer

/-- One move after the other. -/
def moves (engine : Engine) : Workload → List EngineMove → Logged Workload
  | w, [] => return w
  | w, m :: ms => do moves engine (← w.move engine m) ms

/-- The completions, which then wait no longer. -/
def collect (w : Workload) : List Completion × Workload := (w.done, { w with done := [] })

/-- Some job has not been collected. -/
def isOutstanding (w : Workload) : Bool :=
  !w.queued.isEmpty || !w.running.isEmpty || !w.done.isEmpty

end Workload

end SurfaceStudio
