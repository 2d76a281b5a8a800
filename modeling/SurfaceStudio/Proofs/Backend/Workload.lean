import Mathlib.Data.List.Perm.Basic
import SurfaceStudio.Backend.Workload

/-!
# Jobs are neither lost nor doubled

Whatever the engine does, the jobs that it holds stay the same: each of them waits, is under way,
or is done and not collected.  And each thing that the engine does brings some job one step further,
so that it cannot go on for ever.

  • `Belongs` — a completion belongs to the job it is of,
  • `Workload.held`, `Workload.held_moves`, `Workload.held_collected` — **what the engine holds, and
    what becomes of it**,
  • `Workload.enqueue`, `Workload.held_enqueue` — jobs handed in in their order,
  • `Workload.queryIds`, `Workload.operations` — the queries that it holds, and the requests about
    operations,
  • `Workload.weight`, `Workload.weight_move` — **how many steps are left**.
-/

namespace SurfaceStudio

open Studio

/-! ## §1. Jobs and their completions. -/

/-- **A completion belongs to the job it is of**: what `g` finds in the completion is what `f` finds
in the job, whether the job succeeds or not. -/
def Belongs {α : Type} (f : Job → Option α) (g : Completion → Option α) : Prop :=
  ∀ (engine : Engine) (answer : HttpAnswer) (job : Job),
    g (engine.perform answer job).value = f job

/-- The id of a query. -/
def Job.id? : Job → Option RequestId
  | .query outgoing => some outgoing.id
  | .ops _ => none

/-- The id of the query that was answered. -/
def Completion.id? : Completion → Option RequestId
  | .answered id _ => some id
  | .ops _ => none

theorem belongs_id? : Belongs Job.id? Completion.id? := by
  intro engine answer job
  cases job with
  | query outgoing => rfl
  | ops request => rfl

/-- The request about operations. -/
def Job.request? : Job → Option OpsRequest
  | .query _ => none
  | .ops request => some request

/-- The request that an outcome is of. -/
def OpsOutcome.request : OpsOutcome → OpsRequest
  | .health _ => .health
  | .logs _ => .logs
  | .logsReset _ => .resetLogs

/-- The request about operations that was answered. -/
def Completion.request? : Completion → Option OpsRequest
  | .answered _ _ => none
  | .ops outcome => some outcome.request

theorem Engine.request_operate (engine : Engine) (request : OpsRequest) (answer : HttpAnswer) :
    (engine.operate request answer).value.request = request := by
  unfold operate
  cases engine.ops with
  | none => cases request <;> rfl
  | some endpoint => cases request <;> rfl

theorem belongs_request? : Belongs Job.request? Completion.request? := by
  intro engine answer job
  cases job with
  | query outgoing => rfl
  | ops request => exact congrArg some (engine.request_operate request answer)

namespace Workload

/-! ## §2. What is held. -/

theorem filterMap_cons_eq_append {α β : Type} (f : α → Option β) (a : α) (as : List α) :
    (a :: as).filterMap f = (f a).toList ++ as.filterMap f := by
  rw [List.filterMap_cons]
  cases f a with
  | none => rfl
  | some b => rfl

/-- **What the engine holds**: what `f` finds in the jobs that are queued and those under way, and
`g` in those that are done and not collected. -/
def held {α : Type} (w : Workload) (f : Job → Option α) (g : Completion → Option α) : List α :=
  w.queued.filterMap f ++ w.running.filterMap f ++ w.done.filterMap g

/-- Hands in jobs in their order. -/
def enqueue (w : Workload) (jobs : List Job) : Workload := { w with queued := w.queued ++ jobs }

theorem enqueue_nil (w : Workload) : w.enqueue [] = w := by
  rw [enqueue, List.append_nil]

theorem enqueue_append (w : Workload) (jobs others : List Job) :
    w.enqueue (jobs ++ others) = (w.enqueue jobs).enqueue others := by
  rw [enqueue, ← List.append_assoc]
  rfl

section

variable {α : Type} [DecidableEq α] {f : Job → Option α} {g : Completion → Option α}

theorem held_enqueue (w : Workload) (jobs : List Job) :
    ((w.enqueue jobs).held f g).Perm (w.held f g ++ jobs.filterMap f) := by
  rw [List.perm_iff_count]
  intro a
  simp only [held, enqueue, List.filterMap_append, List.count_append]
  omega

theorem held_takeUp (w : Workload) : (w.takeUp.held f g).Perm (w.held f g) := by
  obtain ⟨queued, running, done⟩ := w
  cases queued with
  | nil => exact List.Perm.refl _
  | cons job others =>
    rw [List.perm_iff_count]
    intro a
    -- The job is counted among those under way, and no longer among those queued.
    simp only [held, takeUp, List.filterMap_append, filterMap_cons_eq_append,
      List.filterMap_nil, List.append_nil, List.count_append]
    omega

theorem held_finish (h : Belongs f g) (engine : Engine) (position : Nat) (answer : HttpAnswer)
    (w : Workload) : ((w.finish engine position answer).value.held f g).Perm (w.held f g) := by
  rw [finish]
  cases hjob : w.running[position]? with
  | none => exact List.Perm.refl _
  | some job =>
    obtain ⟨hposition, rfl⟩ := List.getElem?_eq_some_iff.1 hjob
    have hsame := h engine answer w.running[position]
    -- The job stood somewhere among the others.
    have hrunning : (w.running.filterMap f).Perm
        ((w.running[position] :: w.running.eraseIdx position).filterMap f) :=
      (List.getElem_cons_eraseIdx_perm hposition).symm.filterMap _
    show List.Perm (w.queued.filterMap f
      ++ (w.running.eraseIdx position).filterMap f
      ++ (w.done ++ [(engine.perform answer w.running[position]).value]).filterMap g) _
    rw [List.perm_iff_count]
    intro a
    have hcount := hrunning.count_eq a
    simp only [filterMap_cons_eq_append, List.count_append] at hcount
    simp only [held, List.filterMap_append, filterMap_cons_eq_append, List.filterMap_nil, hsame,
      List.append_nil, List.count_append]
    omega

theorem held_move (h : Belongs f g) (engine : Engine) (w : Workload) (m : EngineMove) :
    ((w.move engine m).value.held f g).Perm (w.held f g) := by
  cases m with
  | takeUp => exact w.held_takeUp
  | finish position answer => exact w.held_finish h engine position answer

/-- **Whatever the engine does, what it holds stays the same.** -/
theorem held_moves (h : Belongs f g) (engine : Engine) (w : Workload) (ms : List EngineMove) :
    ((w.moves engine ms).value.held f g).Perm (w.held f g) := by
  induction ms generalizing w with
  | nil => exact List.Perm.refl _
  | cons m ms ih =>
    have hfirst := w.held_move h engine m
    have hothers := ih (w.move engine m).value
    exact hothers.trans hfirst

/-- What is collected is held no longer. -/
theorem held_collected {w : Workload} {c : Completion} {others : List Completion}
    (h : w.done = c :: others) :
    (w.held f g).Perm ((g c).toList ++ { w with done := others }.held f g) := by
  rw [List.perm_iff_count]
  intro a
  simp only [held, h, filterMap_cons_eq_append, List.count_append]
  omega

end

/-- **The queries that the engine holds**: those queued, those under way, and those done and not
collected. -/
def queryIds (w : Workload) : List RequestId := w.held Job.id? Completion.id?

/-- The requests about operations that the engine holds. -/
def operations (w : Workload) : List OpsRequest := w.held Job.request? Completion.request?

theorem filterMap_id?_queries (outgoing : List Outgoing) :
    (outgoing.map Job.query).filterMap Job.id? = outgoing.map (·.id) := by
  rw [List.filterMap_map]
  exact congrFun (List.filterMap_eq_map (f := fun o : Outgoing => o.id)) outgoing

theorem queryIds_enqueue_queries (w : Workload) (outgoing : List Outgoing) :
    (w.enqueue (outgoing.map .query)).queryIds.Perm (w.queryIds ++ outgoing.map (·.id)) := by
  have hheld : (w.enqueue (outgoing.map .query)).queryIds.Perm
      (w.queryIds ++ (outgoing.map Job.query).filterMap Job.id?) := w.held_enqueue _
  rwa [filterMap_id?_queries] at hheld

/-- A request about operations is no query. -/
theorem filterMap_id?_append_ops (jobs : List Job) (request : OpsRequest) :
    (jobs ++ [Job.ops request]).filterMap Job.id? = jobs.filterMap Job.id? := by
  rw [List.filterMap_append]
  exact List.append_nil _

theorem queryIds_submit_ops (w : Workload) (request : OpsRequest) :
    (w.submit (.ops request)).queryIds = w.queryIds := by
  rw [queryIds, held, submit, filterMap_id?_append_ops, queryIds, held]

/-- **Whatever the engine does, the queries that it holds stay the same.** -/
theorem queryIds_move (engine : Engine) (w : Workload) (m : EngineMove) :
    (w.move engine m).value.queryIds.Perm w.queryIds := w.held_move belongs_id? engine m

/-- What is collected is held no longer. -/
theorem queryIds_collected {w : Workload} {c : Completion} {others : List Completion}
    (h : w.done = c :: others) :
    w.queryIds.Perm (c.id?.toList ++ { w with done := others }.queryIds) := held_collected h

/-! ## §3. The steps that are left. -/

/-- A move of the engine is possible: there is a job for it. -/
def IsPossible (w : Workload) : EngineMove → Prop
  | .takeUp => w.queued ≠ []
  | .finish position _ => position < w.running.length

/-- **How many steps are left** until all is collected: a job is taken up, finished and
collected. -/
def weight (w : Workload) : Nat := 3 * w.queued.length + 2 * w.running.length + w.done.length

/-- **Every possible move is one step.** -/
theorem weight_move (engine : Engine) {w : Workload} {m : EngineMove} (h : w.IsPossible m) :
    (w.move engine m).value.weight + 1 = w.weight := by
  obtain ⟨queued, running, done⟩ := w
  cases m with
  | takeUp =>
    cases queued with
    | nil => exact absurd rfl h
    | cons job others =>
      show (Workload.mk others (running ++ [job]) done).weight + 1 = _
      simp only [weight, List.length_append, List.length_cons, List.length_nil]
      omega
  | finish position answer =>
    have hposition : position < running.length := h
    have hfinish : ((Workload.mk queued running done).move engine (.finish position answer)).value
        = ⟨queued, running.eraseIdx position,
            done ++ [(engine.perform answer running[position]).value]⟩ := by
      rw [move, finish]
      dsimp only
      rw [List.getElem?_eq_getElem hposition]
      rfl
    rw [hfinish]
    have hlength := List.length_eraseIdx_of_lt hposition
    simp only [weight, List.length_append, List.length_cons, List.length_nil, hlength]
    omega

theorem weight_collected {w : Workload} {c : Completion} {others : List Completion}
    (h : w.done = c :: others) : { w with done := others }.weight + 1 = w.weight := by
  simp only [weight, h, List.length_cons]
  omega

/-- **As long as there are steps left, one is possible.** -/
theorem exists_isPossible {w : Workload} (h : w.weight ≠ 0) :
    (∃ m, w.IsPossible m) ∨ w.done ≠ [] := by
  obtain ⟨queued, running, done⟩ := w
  cases queued with
  | cons job others => exact .inl ⟨.takeUp, List.cons_ne_nil _ _⟩
  | nil =>
    cases running with
    | cons job others => exact .inl ⟨.finish 0 .unreachable, Nat.succ_pos _⟩
    | nil =>
      cases done with
      | cons c others => exact .inr (List.cons_ne_nil _ _)
      | nil => exact absurd rfl h

/-- Where no steps are left, no query is held. -/
theorem queryIds_of_weight {w : Workload} (h : w.weight = 0) : w.queryIds = [] := by
  obtain ⟨queued, running, done⟩ := w
  have hlengths : 3 * queued.length + 2 * running.length + done.length = 0 := h
  have hqueued : queued = [] := List.length_eq_zero_iff.1 (by omega)
  have hrunning : running = [] := List.length_eq_zero_iff.1 (by omega)
  have hdone : done = [] := List.length_eq_zero_iff.1 (by omega)
  rw [hqueued, hrunning, hdone]
  rfl

end Workload

end SurfaceStudio
