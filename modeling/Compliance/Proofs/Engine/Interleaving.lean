import Mathlib.Data.List.Perm.Lattice
import Mathlib.Logic.Relation
import Compliance.Proofs.Engine.Timeless

/-!
Calls that are served at the same time. A call starts a task for each registered rule it asks for;
every task first evaluates and later appends to the log, and between any two of these steps others
may take theirs or a further call may arrive. However the steps interleave, each call is answered
as if it had been served alone and in order, and the log gains what the calls would have given it
one after the other.
-/

namespace Compliance

open scoped List

structure Service where
  engine : Engine
  requests : List Request := []
  waiting : List EvaluationTask := []
  unlogged : List FinishedTask := []
  finished : List FinishedTask := []

def Engine.allTasks (engine : Engine) (requests : List Request) : List EvaluationTask :=
  requests.zipIdx.flatMap fun (request, number) => engine.tasks number request

namespace Service

/-- What can happen next: a call arrives, some task evaluates, or some evaluation is appended. -/
inductive Step : Service → Service → Prop
  | call (service : Service) (request : Request) :
      Step service { service with
        requests := service.requests ++ [request]
        waiting := service.waiting ++ service.engine.tasks service.requests.length request }
  | evaluate (service : Service) (before after : List EvaluationTask) (task : EvaluationTask)
      (chosen : service.waiting = before ++ task :: after) :
      Step service { service with
        waiting := before ++ after
        unlogged := task.finish service.engine.config.contextRadius :: service.unlogged }
  | append (service : Service) (before after : List FinishedTask) (done : FinishedTask)
      (chosen : service.unlogged = before ++ done :: after) :
      Step service { service with
        engine := service.engine.log done.evaluation
        unlogged := before ++ after
        finished := service.finished ++ [done] }

def Reachable (start : Engine) (service : Service) : Prop :=
  Relation.ReflTransGen Step { engine := start } service

/-- All tasks of the call have appended to the log, so that the caller has them all. -/
def Served (service : Service) (number : Nat) : Prop :=
  (∀ task ∈ service.waiting, task.request ≠ number) ∧
    ∀ done ∈ service.unlogged, done.request ≠ number

def Idle (service : Service) : Prop := service.waiting = [] ∧ service.unlogged = []

def answer (service : Service) (number : Nat) (request : Request) : Aggregate :=
  service.engine.collect service.finished number request

def answers (service : Service) : List Aggregate :=
  service.requests.zipIdx.map fun (request, number) => service.answer number request

/-- Nothing is lost and nothing done twice: every task of every call is in one of the three lists,
and the log holds what was finished, in the order of the appends. -/
structure Consistent (start : Engine) (service : Service) : Prop where
  logged : service.engine = start.logAll (service.finished.map FinishedTask.evaluation)
  accounted : (service.waiting.map (EvaluationTask.finish start.config.contextRadius) ++
    (service.unlogged ++ service.finished)).Perm
      ((start.allTasks service.requests).map (EvaluationTask.finish start.config.contextRadius))

end Service

namespace Engine

theorem tasks_eq_of_registry {left right : Engine} (same : left.registry = right.registry) :
    left.tasks = right.tasks := by
  funext number request
  rw [tasks, tasks, same]

theorem allTasks_append (engine : Engine) (requests : List Request) (request : Request) :
    engine.allTasks (requests ++ [request]) =
      engine.allTasks requests ++ engine.tasks requests.length request := by
  simp [allTasks, List.zipIdx_append]

theorem mem_tasks {engine : Engine} {number : Nat} {request : Request} {task : EvaluationTask} :
    task ∈ engine.tasks number request ↔
      ∃ id rule, request.ids[task.position]? = some id ∧ engine.registry.get? id = some rule ∧
        task = ⟨number, task.position, rule, Document.ofText request.text,
          request.clock.rule task.position⟩ := by
  simp only [tasks, List.mem_filterMap, Prod.exists, Option.map_eq_some_iff]
  constructor
  · rintro ⟨id, position, member, rule, known, rfl⟩
    exact ⟨id, rule, List.mk_mem_zipIdx_iff_getElem?.mp member, known, rfl⟩
  · rintro ⟨id, rule, asked, known, same⟩
    exact ⟨id, task.position, List.mk_mem_zipIdx_iff_getElem?.mpr asked, rule, known, same.symm⟩

theorem mem_allTasks {engine : Engine} {requests : List Request} {task : EvaluationTask} :
    task ∈ engine.allTasks requests ↔
      ∃ request, requests[task.request]? = some request ∧
        task ∈ engine.tasks task.request request := by
  simp only [allTasks, List.mem_flatMap, Prod.exists]
  constructor
  · rintro ⟨request, number, member, inside⟩
    have asked := List.mk_mem_zipIdx_iff_getElem?.mp member
    obtain ⟨id, rule, _, _, same⟩ := mem_tasks.mp inside
    have numbered : task.request = number := by rw [same]
    rw [numbered]
    exact ⟨request, asked, inside⟩
  · rintro ⟨request, asked, inside⟩
    exact ⟨request, task.request, List.mk_mem_zipIdx_iff_getElem?.mpr asked, inside⟩

end Engine

namespace Service

variable {start : Engine} {service next : Service}

theorem Consistent.registry (consistent : Consistent start service) :
    service.engine.registry = start.registry := by
  rw [consistent.logged, Engine.logAll_registry]

theorem Consistent.config (consistent : Consistent start service) :
    service.engine.config = start.config := by
  rw [consistent.logged, Engine.logAll_config]

theorem Step.consistent (step : Step service next) (consistent : Consistent start service) :
    Consistent start next := by
  cases step with
  | call request =>
      refine ⟨consistent.logged, ?_⟩
      have arrived := consistent.accounted.append_right
        ((start.tasks service.requests.length request).map
          (EvaluationTask.finish start.config.contextRadius))
      simp only [Engine.allTasks_append, List.map_append,
        Engine.tasks_eq_of_registry consistent.registry]
      refine List.Perm.trans ?_ arrived
      rw [List.append_assoc, List.append_assoc]
      exact List.perm_append_comm.append_left _
  | evaluate before after task chosen =>
      refine ⟨consistent.logged, ?_⟩
      refine List.Perm.trans ?_ consistent.accounted
      simp only [chosen, consistent.config, List.map_append, List.map_cons, List.cons_append,
        List.append_assoc]
      exact List.Perm.append_left _ List.perm_middle
  | append before after done chosen =>
      constructor
      · simp only [List.map_append, Engine.logAll_append, ← consistent.logged]
        rfl
      · refine List.Perm.trans ?_ consistent.accounted
        refine List.Perm.append_left _ ?_
        calc before ++ after ++ (service.finished ++ [done])
            = (before ++ after ++ service.finished) ++ [done] := (List.append_assoc _ _ _).symm
          _ ~ done :: (before ++ after ++ service.finished) := List.perm_append_singleton _ _
          _ ~ before ++ done :: after ++ service.finished :=
              List.perm_middle.symm.append_right service.finished
          _ = service.unlogged ++ service.finished := by rw [chosen]

theorem Reachable.consistent (reached : Reachable start service) : Consistent start service := by
  induction reached with
  | refl => exact ⟨rfl, List.Perm.refl []⟩
  | tail _ step ih => exact step.consistent ih

theorem Consistent.of_finished (consistent : Consistent start service) {done : FinishedTask}
    (member : done ∈ service.finished) :
    ∃ task ∈ start.allTasks service.requests,
      task.finish start.config.contextRadius = done := by
  have listed := consistent.accounted.subset
    (List.mem_append_right _ (List.mem_append_right _ member))
  exact List.mem_map.mp listed

theorem Consistent.finished_of_served (consistent : Consistent start service) {number : Nat}
    (served : service.Served number) {task : EvaluationTask}
    (member : task ∈ start.allTasks service.requests) (own : task.request = number) :
    task.finish start.config.contextRadius ∈ service.finished := by
  have listed := consistent.accounted.symm.subset
    (List.mem_map_of_mem (f := EvaluationTask.finish start.config.contextRadius) member)
  rcases List.mem_append.mp listed with waits | later
  · obtain ⟨other, waiting, same⟩ := List.mem_map.mp waits
    have numbered : other.request = task.request := congrArg FinishedTask.request same
    exact absurd (numbered.trans own) (served.1 other waiting)
  · rcases List.mem_append.mp later with unlogged | finished
    · exact absurd own (served.2 _ unlogged)
    · exact finished

theorem Consistent.evaluation_at (consistent : Consistent start service) {number position : Nat}
    {request : Request} {id : String} (asked : service.requests[number]? = some request)
    (listed : request.ids[position]? = some id) {done : FinishedTask}
    (member : done ∈ service.finished) (numbered : done.request = number)
    (placed : done.position = position) :
    ∃ rule, start.registry.get? id = some rule ∧ done.evaluation =
      rule.evaluate (Document.ofText request.text) start.config.contextRadius
        (request.clock.rule position) := by
  obtain ⟨task, started, rfl⟩ := consistent.of_finished member
  change task.request = number at numbered
  change task.position = position at placed
  obtain ⟨request', asked', inside⟩ := Engine.mem_allTasks.mp started
  obtain ⟨id', rule, listed', known, same⟩ := Engine.mem_tasks.mp inside
  rw [numbered, asked, Option.some.injEq] at asked'
  subst asked'
  rw [placed, listed, Option.some.injEq] at listed'
  subst listed'
  refine ⟨rule, known, ?_⟩
  rw [same, EvaluationTask.finish, placed]

theorem Consistent.reportAt_eq (consistent : Consistent start service) {number position : Nat}
    {request : Request} {id : String} (asked : service.requests[number]? = some request)
    (served : service.Served number) (listed : request.ids[position]? = some id) :
    service.engine.reportAt service.finished number position id =
      start.reportOn (Document.ofText request.text) (request.clock.rule position) id := by
  let mine : FinishedTask → Bool := fun done =>
    done.request == number && done.position == position
  unfold Engine.reportAt
  cases found : service.finished.find? mine with
  | some done =>
      have taken := List.find?_some (p := mine) found
      simp only [mine, Bool.and_eq_true, beq_iff_eq] at taken
      obtain ⟨rule, known, result⟩ := consistent.evaluation_at asked listed
        (List.mem_of_find?_eq_some found) taken.1 taken.2
      simp only [Engine.reportOn_of_some known, result]
  | none =>
      cases known : start.registry.get? id with
      | none =>
          simp only [Engine.reportOn_of_none known,
            Engine.missingRule_eq_of_registry consistent.registry]
      | some rule =>
          let task : EvaluationTask := ⟨number, position, rule, Document.ofText request.text,
            request.clock.rule position⟩
          have started : task ∈ start.allTasks service.requests :=
            Engine.mem_allTasks.mpr ⟨request, asked,
              Engine.mem_tasks.mpr ⟨id, rule, listed, known, rfl⟩⟩
          have finished := consistent.finished_of_served served started rfl
          have nothing := List.find?_eq_none.mp found _ finished
          simp [task, mine, EvaluationTask.finish] at nothing

/-- The answer to a served call is that of serving it alone, with the same clock. -/
theorem Consistent.answer_eq (consistent : Consistent start service) {number : Nat}
    {request : Request} (asked : service.requests[number]? = some request)
    (served : service.Served number) :
    service.answer number request =
      (start.evaluateMany request.ids request.text request.clock).1 := by
  simp only [answer, Engine.collect, Engine.summarize, Engine.evaluateMany, Engine.reports_fst,
    consistent.config]
  congr 1
  apply List.map_congr_left
  rintro ⟨id, position⟩ member
  exact consistent.reportAt_eq asked served (List.mk_mem_zipIdx_iff_getElem?.mp member)

end Service

end Compliance
