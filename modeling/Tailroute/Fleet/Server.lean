/-
# Fleet.Server — the controller as its clients see it

A client sends a request and may get an answer. The controller is the machine of
`Controller.Tasks`; a request that was sent is a task from then on, so one that is delayed
is a task that does not move, and one that is lost a task that never does. `answers` has
how each handler that ended answered: with success or not. Every request has a number of
its own, so an answer is the answer to one request.
-/
import Tailroute.Controller.History

namespace Tailroute.Fleet

open Tailroute.Theory Tailroute.Common Tailroute.Storage Tailroute.Controller

set_option autoImplicit false

structure Server where
  controller : State
  answers : Table Nat Bool

/-- The answers after a step of task `id`. A handler that refuses writes nothing with its
last step; one that succeeds ends with a statement or with the registry replaced. -/
def recordAnswer (answers : Table Nat Bool) (id : Nat) (m : Move) : Table Nat Bool :=
  if m.next.isNone then answers.upsert id (m.statement.isSome || m.snapshot.isSome) else answers

namespace Server

def init (start : Int) : Server := ⟨.init start, .empty⟩

def spawn (env : Env) (v : Server) (id : Nat) (request : Request) : Option Server :=
  if id ∈ v.answers.keys then none
  else (Controller.step env v.controller (.spawn id request)).map fun s => ⟨s, v.answers⟩

def advance (env : Env) (v : Server) (id : Nat) (now : Int) : Option Server :=
  (v.controller.tasks.find? id).bind fun task =>
    (Controller.step env v.controller (.advance id now)).map fun s =>
      ⟨s, recordAnswer v.answers id (task.move env v.controller now)⟩

end Server

section Tasks

variable {env : Env} {s : State} {id id' : Nat} {answers : Table Nat Bool}

theorem find?_recordAnswer_of_other (other : id ≠ id') (m : Move) :
    (recordAnswer answers id' m).find? id = answers.find? id := by
  unfold recordAnswer
  split
  · rw [Table.find?_upsert, if_neg other]
  · rfl

/-- The answer of a handler that has just ended. -/
theorem find?_recordAnswer_self {m : Move} (ends : m.next = none) :
    (recordAnswer answers id m).find? id = some (m.statement.isSome || m.snapshot.isSome) := by
  rw [recordAnswer, ends, if_pos Option.isNone_none, Table.find?_upsert, if_pos rfl]

theorem find?_perform_of_other (env : Env) (other : id ≠ id') (now : Int) (m : Move) :
    (s.perform env id' now m).tasks.find? id = s.tasks.find? id := by
  simp only [State.perform, Table.find?_put, if_neg other]

theorem find?_perform_self (env : Env) (s : State) (id : Nat) (now : Int) (m : Move) :
    (s.perform env id now m).tasks.find? id = m.next := by
  simp only [State.perform, Table.find?_put, if_true]

/-- A task that is in flight stays there while others come in. -/
theorem find?_spawned {task own : Task} (fresh : s.tasks.find? id' = none)
    (found : s.tasks.find? id = some own) : (s.tasks.upsert id' task).find? id = some own := by
  have other : id ≠ id' := by
    rintro rfl
    rw [found] at fresh
    cases fresh
  rw [Table.find?_upsert, if_neg other, found]

end Tasks

namespace Server

variable {env : Env} {start : Int} {v v' : Server} {id : Nat}

theorem spawn_cases {request : Request} (taken : v.spawn env id request = some v') :
    ∃ task, request.start = some task ∧ v.controller.tasks.find? id = none ∧
      id ∉ v.answers.keys ∧
      v' = ⟨{ v.controller with tasks := v.controller.tasks.upsert id task }, v.answers⟩ ∧
      Controller.step env v.controller (.spawn id request) = some v'.controller := by
  unfold spawn at taken
  split at taken
  · cases taken
  · rename_i unanswered
    obtain ⟨s, stepped, rfl⟩ := Option.map_eq_some_iff.mp taken
    obtain ⟨_, _, task, same, started, fresh, rfl⟩ | ⟨_, _, _, other, _⟩ := step_cases stepped
    · cases same
      exact ⟨task, started, fresh, unanswered, rfl, stepped⟩
    · cases other

theorem advance_cases {now : Int} (taken : v.advance env id now = some v') :
    ∃ task, v.controller.tasks.find? id = some task ∧
      v' = ⟨v.controller.perform env id now (task.move env v.controller now),
        recordAnswer v.answers id (task.move env v.controller now)⟩ ∧
      Controller.step env v.controller (.advance id now) = some v'.controller := by
  obtain ⟨task, found, taken⟩ := Option.bind_eq_some_iff.mp taken
  obtain ⟨s, stepped, rfl⟩ := Option.map_eq_some_iff.mp taken
  obtain ⟨_, _, _, other, _⟩ | ⟨_, _, task', same, -, found', rfl⟩ := step_cases stepped
  · cases other
  · cases same
    rw [found] at found'
    cases found'
    exact ⟨task, found, rfl, stepped⟩

/-- What holds in every state: the controller's part is a run of its own, and handlers
that ended are not in flight. -/
structure Valid (env : Env) (start : Int) (v : Server) : Prop where
  reached : Run env (fun _ _ => True) start v.controller
  ended : ∀ id ∈ v.answers.keys, v.controller.tasks.find? id = none

theorem valid_init (env : Env) (start : Int) : Valid env start (init start) :=
  ⟨.start, fun _ answered => (nomatch answered)⟩

theorem Valid.spawn (valid : Valid env start v) {request : Request}
    (taken : v.spawn env id request = some v') : Valid env start v' := by
  obtain ⟨task, -, -, unanswered, rfl, stepped⟩ := spawn_cases taken
  refine ⟨valid.reached.next trivial stepped, ?_⟩
  intro id' answered
  have other : id' ≠ id := fun same => unanswered (same ▸ answered)
  simp only [Table.find?_upsert, if_neg other]
  exact valid.ended id' answered

theorem Valid.advance (valid : Valid env start v) {now : Int}
    (taken : v.advance env id now = some v') : Valid env start v' := by
  obtain ⟨task, found, rfl, stepped⟩ := advance_cases taken
  refine ⟨valid.reached.next trivial stepped, ?_⟩
  intro id' answered
  by_cases same : id' = id
  · subst same
    rw [find?_perform_self]
    by_contra going
    have kept : recordAnswer v.answers id' (task.move env v.controller now) = v.answers :=
      if_neg (by simpa using going)
    rw [kept] at answered
    rw [valid.ended id' answered] at found
    cases found
  · rw [find?_perform_of_other env same]
    apply valid.ended
    rw [Table.mem_keys_iff] at answered ⊢
    rwa [find?_recordAnswer_of_other same] at answered

/-- A request that has been answered is not in flight. -/
theorem Valid.not_running (valid : Valid env start v) {success : Bool}
    (answer : v.answers.find? id = some success) : v.controller.tasks.find? id = none :=
  valid.ended id (Table.mem_keys_iff.mpr ⟨success, answer⟩)

end Server

end Tailroute.Fleet
