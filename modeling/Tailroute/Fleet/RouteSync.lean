/-
# Fleet.RouteSync — the agents and the controller together

A reconcile replaces the proxy table, sends the route set and waits. The controller takes
its time: other handlers run between the statements of this one, and the connection may
break while the set is still being processed. `Deployment` puts the agents next to the
controller.

An agent that gave up sends its next set while the one before may still be stored after it,
and sets carry no version. `alone` remembers that no earlier set of the agent was in flight
when its last one was sent. If that one was answered with success, then every name of the
agent that DNS answers is served by its proxy at the backend the controller has on record
(`dns_name_reaches_backend`); without it a stale set may be on record
(`orphaned_set_overtakes`).
-/
import Tailroute.Agent.Reconcile
import Tailroute.Controller.LastPut
import Tailroute.Controller.Refresh
import Tailroute.Fleet.Server
import Tailroute.Proxy.Relay

namespace Tailroute.Fleet

open Tailroute.Theory Tailroute.Common Tailroute.Storage Tailroute.Controller Tailroute.Agent
  Tailroute.Proxy Tailroute.Dns

set_option autoImplicit false

/-! ## Agents and controller -/

/-- Where an agent stands in `reconcile_with_backoff`: the set it waits for or has
synchronized, and whether it was sent with no other in flight. -/
inductive Phase where
  | idle
  | waiting (task : Nat) (entries : List RouteEntry) (alone : Bool)
  | failed
  | synced (entries : List RouteEntry) (alone : Bool)
deriving DecidableEq

/-- The phases in which the agent may start a reconcile. -/
def Phase.ready : Phase → Bool
  | idle => true
  | synced _ _ => true
  | waiting _ _ _ => false
  | failed => false

/-- The last set was sent alone and answered with success. -/
def Phase.settled : Phase → Bool
  | synced _ alone => alone
  | _ => false

/-- One agent process with its credential. -/
structure Node where
  run : AgentRun
  agentToken : Text
  phase : Phase

structure Deployment where
  server : Server
  nodes : Table Text Node

def Deployment.init (start : Int) : Deployment := ⟨.init start, .empty⟩

def Deployment.setNode (f : Deployment) (agentId : Text) (node : Node) : Deployment :=
  { f with nodes := f.nodes.upsert agentId node }

/-- The agent and the route set of a `put_routes` that has not stored it yet. -/
def putOf : Task → Option (Text × List RouteEntry)
  | .putVerify agentId _ entries => some (agentId, entries)
  | .putCheck agentId entries => some (agentId, entries)
  | .putTransact agentId entries => some (agentId, entries)
  | _ => none

/-- No route set of the agent is in flight. -/
def clear (s : State) (agentId : Text) : Bool :=
  s.tasks.rows.all fun entry => (putOf entry.2).all fun put => put.1 != agentId

inductive Action where
  | join (agentId : Text) (run : AgentRun) (agentToken : Text)
  | restart (agentId : Text)
  | reconcile (agentId : Text) (task : Nat) (round : Round)
  | receive (agentId : Text)
  | lose (agentId : Text)
  | refreshLocal (agentId : Text) (round : Round)
  | controller (action : Controller.Action)

section Step

variable (env : Env) (idna : Idna) (parseUrl : UrlParser)

/-- The answer to the route set, or the error that stands for it. -/
def Node.answered (node : Node) (entries : List RouteEntry) (alone success : Bool) : Node :=
  if success then
    { node with
      run := { node.run with controllerBackoff := controllerBackoffBase }
      phase := .synced entries alone }
  else { node with run := node.run.bumpControllerBackoff, phase := .failed }

/-- `reconcile_once` up to its `put_routes`. -/
def Deployment.reconcile (f : Deployment) (agentId : Text) (node : Node) (id : Nat) (round : Round) :
    Option Deployment :=
  match round.services with
  | .error _ =>
      some (f.setNode agentId
        { node with run := node.run.bumpControllerBackoff, phase := .failed })
  | .ok services =>
      let d := round.draft idna parseUrl node.run services
      (f.server.spawn env id
          (.putRoutes agentId (some ("Bearer ".toList ++ node.agentToken)) d.apiRoutes)).map
        fun server => { f with server := server }.setNode agentId
          { node with
            run := { node.run with routes := d.localRoutes }
            phase := .waiting id d.apiRoutes (clear f.server.controller agentId) }

def step (f : Deployment) : Action → Option Deployment
  | .join agentId run agentToken =>
      if agentId ∈ f.nodes.keys then none
      else some (f.setNode agentId ⟨{ run with routes := .empty }, agentToken, .idle⟩)
  | .restart agentId =>
      (f.nodes.find? agentId).map fun node =>
        f.setNode agentId { node with run := { node.run with routes := .empty }, phase := .idle }
  | .reconcile agentId id round =>
      (f.nodes.find? agentId).bind fun node =>
        if node.phase.ready then f.reconcile env idna parseUrl agentId node id round else none
  | .receive agentId =>
      (f.nodes.find? agentId).bind fun node =>
        match node.phase with
        | .waiting id entries alone =>
            (f.server.answers.find? id).map fun success =>
              f.setNode agentId (node.answered entries alone success)
        | _ => none
  | .lose agentId =>
      (f.nodes.find? agentId).bind fun node =>
        match node.phase with
        | .waiting _ entries alone =>
            some (f.setNode agentId (node.answered entries alone false))
        | _ => none
  | .refreshLocal agentId round =>
      (f.nodes.find? agentId).bind fun node =>
        match node.phase with
        | .failed =>
            some (f.setNode agentId
              { node with
                run := (refreshLocalRoutes idna parseUrl node.run round).toOption.getD node.run
                phase := .idle })
        | _ => none
  | .controller (.spawn id request) =>
      (f.server.spawn env id request).map fun server => { f with server := server }
  | .controller (.advance id now) =>
      (f.server.advance env id now).map fun server => { f with server := server }

/-- A reconcile of the fleet, with the answer at once, is `reconcile_with_backoff`. -/
theorem reconcileWithBackoff_eq_answered {run : AgentRun} {round : Round}
    {services : List Docker.DiscoveredService} (listed : round.services = .ok services)
    (agentToken : Text) (id : Nat) (alone : Bool) :
    let d := round.draft idna parseUrl run services
    let sent : Node := ⟨{ run with routes := d.localRoutes }, agentToken, .waiting id d.apiRoutes alone⟩
    (reconcileWithBackoff idna parseUrl run round).1 =
      match round.putRoutes with
      | .ok _ => (sent.answered d.apiRoutes alone true).run
      | .error _ =>
          let failed := (sent.answered d.apiRoutes alone false).run
          (refreshLocalRoutes idna parseUrl failed round).toOption.getD failed := by
  intro d sent
  rw [reconcileWithBackoff, reconcileOnce_eq listed]
  cases round.putRoutes with
  | ok response => rfl
  | error e =>
      simp only [Node.answered, Bool.false_eq_true, if_false]
      cases refreshLocalRoutes idna parseUrl
        (AgentRun.bumpControllerBackoff { run with routes := d.localRoutes }) round <;> rfl

end Step

/-! ## What the controller has on record -/

section Record

variable {env : Env} {s : State} {agentId : Text} {entries : List RouteEntry} {id : Nat}

theorem clear_iff :
    clear s agentId = true ↔
      ∀ id task entries, s.tasks.find? id = some task → putOf task ≠ some (agentId, entries) := by
  simp only [clear, List.all_eq_true, Option.all_eq_true, bne_iff_ne, Table.find?_eq_some_iff]
  constructor
  · intro all id task entries found put
    exact all (id, task) found (agentId, entries) put rfl
  · rintro none ⟨id, task⟩ found ⟨_, entries⟩ put rfl
    exact none id task entries found put

/-- The rest of a handler has the route set the handler had. -/
theorem putOf_next {now : Int} {task next : Task} {m : Move} (moved : Moves env s now task m)
    (follows : m.next = some next) {put : Text × List RouteEntry} (later : putOf next = some put) :
    putOf task = some put := by
  cases moved with
  | putVerified agentId token entries =>
      cases follows
      exact later
  | putChecked agentId entries =>
      cases follows
      exact later
  | _ => cases follows <;> cases later

/-- The set is the last one stored, and no other of the agent is in flight. -/
structure Stored (s : State) (agentId : Text) (entries : List RouteEntry) : Prop where
  clear : ∀ id task entries, s.tasks.find? id = some task → putOf task ≠ some (agentId, entries)
  last : ∃ t, lastPut s.log agentId = some (t, entries)

/-- The request does not carry a route set of the agent. -/
def Foreign (agentId : Text) : Request → Prop
  | .putRoutes other _ _ => other ≠ agentId
  | _ => True

instance (agentId : Text) (request : Request) : Decidable (Foreign agentId request) := by
  cases request <;> unfold Foreign <;> infer_instance

theorem putOf_start {request : Request} {task : Task} (starts : Starts request task)
    (foreign : Foreign agentId request) : putOf task ≠ some (agentId, entries) := by
  cases starts with
  | putRoutes other authorization token sent =>
      rintro ⟨⟩
      exact foreign rfl
  | _ => exact nofun

theorem Stored.spawn (stored : Stored s agentId entries) {request : Request} {task : Task}
    (started : request.start = some task) (foreign : Foreign agentId request) :
    Stored { s with tasks := s.tasks.upsert id task } agentId entries := by
  refine ⟨?_, stored.last⟩
  intro id' task' entries' found
  rcases task_of_spawn started found with starts | there
  · exact putOf_start starts foreign
  · exact stored.clear id' task' entries' there

theorem Stored.perform (stored : Stored s agentId entries) (env : Env) {task : Task}
    (found : s.tasks.find? id = some task) (now : Int) :
    Stored (s.perform env id now (task.move env s now)) agentId entries := by
  have moved := moves env s now task
  constructor
  · intro id' task' entries' there put
    rcases task_of_perform there with ⟨-, follows⟩ | ⟨-, there⟩
    · exact stored.clear id task entries' found (putOf_next moved follows put)
    · exact stored.clear id' task' entries' there put
  · obtain ⟨t, last⟩ := stored.last
    refine ⟨t, ?_⟩
    rw [lastPut_perform id moved, ← last]
    cases task with
    | putTransact other entries' =>
        exact if_neg fun same : other = agentId => stored.clear id _ entries' found (same ▸ rfl)
    | _ => rfl

/-- The handler has stored its set and refreshes the registry. -/
def refreshing : Task → Bool
  | .refreshRead => true
  | .refreshReplace _ => true
  | _ => false

/-- How far the controller is with a set that was sent alone. -/
inductive Flight (s : State) (answers : Table Nat Bool) (agentId : Text) (id : Nat)
    (entries : List RouteEntry) : Prop
  | processing (task : Task) (found : s.tasks.find? id = some task)
      (own : putOf task = some (agentId, entries))
      (only : ∀ id' task' entries', s.tasks.find? id' = some task' →
        putOf task' = some (agentId, entries') → id' = id)
  | refreshes (task : Task) (found : s.tasks.find? id = some task)
      (after : refreshing task = true) (stored : Stored s agentId entries)
  | answered (success : Bool) (found : answers.find? id = some success)
      (stored : success = true → Stored s agentId entries)

variable {answers : Table Nat Bool}

theorem Flight.spawn (flight : Flight s answers agentId id entries) {id' : Nat} {request : Request}
    {task : Task} (started : request.start = some task) (foreign : Foreign agentId request)
    (fresh : s.tasks.find? id' = none) :
    Flight { s with tasks := s.tasks.upsert id' task } answers agentId id entries := by
  cases flight with
  | processing own found carries only =>
      refine .processing own (find?_spawned fresh found) carries ?_
      intro other task' entries' there put
      rcases task_of_spawn started there with starts | there
      · exact absurd put (putOf_start starts foreign)
      · exact only other task' entries' there put
  | refreshes own found after stored =>
      exact .refreshes own (find?_spawned fresh found) after (stored.spawn started foreign)
  | answered success found stored =>
      exact .answered success found fun good => (stored good).spawn started foreign

/-- What the next step of a handler with a route set does. -/
theorem move_of_putOf {now : Int} {task : Task} {m : Move} (moved : Moves env s now task m)
    (own : putOf task = some (agentId, entries)) :
    m = {} ∨ (∃ next, m.next = some next ∧ putOf next = some (agentId, entries) ∧
        task.stores = none) ∨
      (m.next = some .refreshRead ∧ task.stores = some (agentId, entries)) := by
  cases moved with
  | ended => exact Or.inl rfl
  | putVerified _ _ _ => exact Or.inr (Or.inl ⟨_, rfl, own, rfl⟩)
  | putChecked _ _ _ => exact Or.inr (Or.inl ⟨_, rfl, own, rfl⟩)
  | transacted _ _ => exact Or.inr (Or.inr ⟨rfl, own⟩)
  | _ => cases own

/-- Any other put of the agent in flight after a step was in flight before it. -/
theorem only_perform (env : Env) {id' : Nat} {task : Task} (now : Int)
    (found : s.tasks.find? id' = some task)
    (only : ∀ id' task' entries', s.tasks.find? id' = some task' →
      putOf task' = some (agentId, entries') → id' = id) :
    ∀ other task' entries',
      (s.perform env id' now (task.move env s now)).tasks.find? other = some task' →
        putOf task' = some (agentId, entries') → other = id := by
  intro other task' entries' there put
  rcases task_of_perform there with ⟨rfl, follows⟩ | ⟨-, there⟩
  · exact only other task entries' found (putOf_next (moves env s now task) follows put)
  · exact only other task' entries' there put

/-- The step of the set's own handler, before it is stored. -/
theorem Flight.advance_own {task : Task} (found : s.tasks.find? id = some task)
    (own : putOf task = some (agentId, entries))
    (only : ∀ id' task' entries', s.tasks.find? id' = some task' →
      putOf task' = some (agentId, entries') → id' = id) (now : Int) :
    Flight (s.perform env id now (task.move env s now))
      (recordAnswer answers id (task.move env s now)) agentId id entries := by
  have moved := moves env s now task
  have only := only_perform env now found only
  have here := find?_perform_self env s id now (task.move env s now)
  rcases move_of_putOf moved own with refused | ⟨next, follows, carries, -⟩ | ⟨follows, stores⟩
  · rw [refused]
    exact .answered false (by simp [recordAnswer]) nofun
  · exact .processing next (here.trans follows) carries only
  · refine .refreshes .refreshRead (here.trans follows) rfl ⟨?_, now, ?_⟩
    · intro other task' entries' there put
      obtain rfl := only other task' entries' there put
      rw [here, follows] at there
      cases there
      cases put
    · rw [lastPut_perform id moved, stores]
      exact if_pos rfl

theorem Flight.advance (flight : Flight s answers agentId id entries)
    (ended : ∀ id ∈ answers.keys, s.tasks.find? id = none) {id' : Nat} {task : Task}
    (found : s.tasks.find? id' = some task) (now : Int) :
    Flight (s.perform env id' now (task.move env s now))
      (recordAnswer answers id' (task.move env s now)) agentId id entries := by
  by_cases same : id = id'
  · subst same
    cases flight with
    | processing own found' carries only =>
        rw [found] at found'
        cases found'
        exact .advance_own found carries only now
    | refreshes own found' after stored =>
        rw [found] at found'
        cases found'
        have stored := stored.perform env found now
        have here := find?_perform_self env s id now (task.move env s now)
        cases task with
        | refreshRead => exact .refreshes _ here rfl stored
        | refreshReplace snapshot =>
            exact .answered true (by simp [recordAnswer, Task.move]) fun _ => stored
        | _ => cases after
    | answered success there stored =>
        rw [ended id (Table.mem_keys_iff.mpr ⟨success, there⟩)] at found
        cases found
  · have there := find?_perform_of_other (s := s) env same now (task.move env s now)
    cases flight with
    | processing own found' carries only =>
        exact .processing own (there.trans found') carries (only_perform env now found only)
    | refreshes own found' after stored =>
        exact .refreshes own (there.trans found') after (stored.perform env found now)
    | answered success answer stored =>
        exact .answered success ((find?_recordAnswer_of_other same _).trans answer)
          fun good => (stored good).perform env found now

end Record

/-! ## Runs -/

/-- The set has for each name what the proxy table has. -/
structure Mirrors (routes : SharedRouteStore) (entries : List RouteEntry) : Prop where
  entry : ∀ host, lastEntry entries host = (routes.find? host).map (Draft.apiEntry host)
  normalized : ∀ host route, routes.find? host = some route → Normalized host

theorem mirrors_draft {idna : Idna} {parseUrl : UrlParser} {run : AgentRun} {round : Round}
    (normalized : ∀ d ∈ round.intents, ∀ host ∈ d.hostnames, Normalized host)
    (services : List Docker.DiscoveredService) :
    Mirrors (round.draft idna parseUrl run services).localRoutes
      (round.draft idna parseUrl run services).apiRoutes := by
  have agrees : (round.draft idna parseUrl run services).Agrees := draft_agrees
  have lowercase : ∀ entry ∈ (round.draft idna parseUrl run services).apiRoutes,
      entry.host = entry.hostname := lowercase_apiRoutes normalized
  refine ⟨fun host => ?_, fun host route listed => normalized_of_find? normalized listed⟩
  rw [lastEntry_eq_lastWith lowercase, agrees.api]

/-- The table of an agent mirrors the set it waits for or has synchronized, and the
controller is that far with it. -/
structure Sound (v : Server) (agentId : Text) (node : Node) : Prop where
  waiting : ∀ id entries alone, node.phase = .waiting id entries alone →
    Mirrors node.run.routes entries ∧
      (alone = true → Flight v.controller v.answers agentId id entries)
  synced : ∀ entries alone, node.phase = .synced entries alone →
    Mirrors node.run.routes entries ∧ (alone = true → Stored v.controller agentId entries)

section Runs

variable {env : Env} {idna : Idna} {parseUrl : UrlParser} {start : Int} {f f' : Deployment}
  {v v' : Server} {agentId : Text} {node : Node}

theorem sound_of_phase (quiet : node.phase = .idle ∨ node.phase = .failed) :
    Sound v agentId node := by
  constructor
  · intro id entries alone phase
    rw [phase] at quiet
    exact quiet.elim nofun nofun
  · intro entries alone phase
    rw [phase] at quiet
    exact quiet.elim nofun nofun

/-- A request keeps an agent sound whose route set it does not carry. -/
theorem Sound.spawn (sound : Sound v agentId node) {id : Nat} {request : Request}
    (taken : v.spawn env id request = some v') (foreign : Foreign agentId request) :
    Sound v' agentId node := by
  obtain ⟨task, started, fresh, -, rfl, -⟩ := Server.spawn_cases taken
  constructor
  · intro id' entries alone phase
    obtain ⟨mirrors, flight⟩ := sound.waiting id' entries alone phase
    exact ⟨mirrors, fun only => (flight only).spawn started foreign fresh⟩
  · intro entries alone phase
    obtain ⟨mirrors, stored⟩ := sound.synced entries alone phase
    exact ⟨mirrors, fun only => (stored only).spawn started foreign⟩

theorem Sound.advance (sound : Sound v agentId node) (valid : v.Valid env start) {id : Nat}
    {now : Int} (taken : v.advance env id now = some v') : Sound v' agentId node := by
  obtain ⟨task, found, rfl, -⟩ := Server.advance_cases taken
  constructor
  · intro id' entries alone phase
    obtain ⟨mirrors, flight⟩ := sound.waiting id' entries alone phase
    exact ⟨mirrors, fun only => (flight only).advance valid.ended found now⟩
  · intro entries alone phase
    obtain ⟨mirrors, stored⟩ := sound.synced entries alone phase
    exact ⟨mirrors, fun only => (stored only).perform env found now⟩

/-- What holds in every state: the server is valid, and every agent is sound. -/
structure Invariant (env : Env) (start : Int) (f : Deployment) : Prop where
  valid : f.server.Valid env start
  sound : ∀ agentId node, f.nodes.find? agentId = some node → Sound f.server agentId node

theorem Invariant.setNode (holds : Invariant env start f) (sound : Sound f.server agentId node) :
    Invariant env start (f.setNode agentId node) := by
  refine ⟨holds.valid, ?_⟩
  intro other node' found
  simp only [Deployment.setNode, Table.find?_upsert] at found
  split at found
  · rename_i same
    cases found
    exact same ▸ sound
  · exact holds.sound other node' found

theorem sound_answered {entries : List RouteEntry} {alone success : Bool}
    (mirrors : Mirrors node.run.routes entries)
    (stored : success = true → alone = true → Stored v.controller agentId entries) :
    Sound v agentId (node.answered entries alone success) := by
  cases success with
  | false => exact sound_of_phase (Or.inr rfl)
  | true =>
      refine ⟨nofun, ?_⟩
      rintro _ _ ⟨⟩
      exact ⟨mirrors, stored rfl⟩

/-- Nobody but the agent itself sends a route set of an agent, for want of its token; the
hostnames of enabled intents are normalized, as `admin_enable_service` stores them. -/
def Permitted (f : Deployment) : Action → Prop
  | .reconcile _ _ round => ∀ d ∈ round.intents, ∀ host ∈ d.hostnames, Normalized host
  | .controller (.spawn _ request) => ∀ agentId ∈ f.nodes.keys, Foreign agentId request
  | _ => True

instance (f : Deployment) (a : Action) : Decidable (Permitted f a) := by
  unfold Permitted
  split <;> infer_instance

/-- A route set that was sent alone is the one of its agent in flight. -/
theorem flight_sent {id : Nat} {authorization : Option Text} {entries : List RouteEntry}
    (spawned : v.spawn env id (.putRoutes agentId authorization entries) = some v')
    (alone : clear v.controller agentId = true) :
    Flight v'.controller v'.answers agentId id entries := by
  obtain ⟨task, started, -, -, rfl, -⟩ := Server.spawn_cases spawned
  have carries : putOf task = some (agentId, entries) := by
    cases starts started
    rfl
  refine .processing task (by simp only [Table.find?_upsert, if_true]) carries ?_
  intro id' task' entries' there put
  by_contra apart
  simp only [Table.find?_upsert, if_neg apart] at there
  exact clear_iff.mp alone id' task' entries' there put

theorem Invariant.reconcile (holds : Invariant env start f) {id : Nat} {round : Round}
    (normalized : ∀ d ∈ round.intents, ∀ host ∈ d.hostnames, Normalized host)
    (taken : f.reconcile env idna parseUrl agentId node id round = some f') :
    Invariant env start f' := by
  unfold Deployment.reconcile at taken
  split at taken
  · cases taken
    exact holds.setNode (sound_of_phase (Or.inr rfl))
  · rename_i services listed
    obtain ⟨server, spawned, rfl⟩ := Option.map_eq_some_iff.mp taken
    refine ⟨holds.valid.spawn spawned, ?_⟩
    intro other node' found
    simp only [Deployment.setNode, Table.find?_upsert] at found
    split at found
    · rename_i same
      subst same
      cases found
      constructor
      · rintro _ _ _ ⟨⟩
        exact ⟨mirrors_draft normalized services, flight_sent spawned⟩
      · rintro _ _ ⟨⟩
    · rename_i apart
      exact (holds.sound other node' found).spawn spawned fun same => apart same.symm

theorem Invariant.step (holds : Invariant env start f) {a : Action} (permitted : Permitted f a)
    (taken : step env idna parseUrl f a = some f') : Invariant env start f' := by
  cases a with
  | join agentId run agentToken =>
      simp only [Fleet.step] at taken
      split at taken
      · cases taken
      · cases taken
        exact holds.setNode (sound_of_phase (Or.inl rfl))
  | restart agentId =>
      obtain ⟨node, -, rfl⟩ := Option.map_eq_some_iff.mp taken
      exact holds.setNode (sound_of_phase (Or.inl rfl))
  | reconcile agentId id round =>
      obtain ⟨node, -, taken⟩ := Option.bind_eq_some_iff.mp taken
      split at taken
      · exact holds.reconcile permitted taken
      · cases taken
  | receive agentId =>
      obtain ⟨node, found, taken⟩ := Option.bind_eq_some_iff.mp taken
      split at taken
      · rename_i id entries alone phase
        obtain ⟨success, answer, rfl⟩ := Option.map_eq_some_iff.mp taken
        obtain ⟨mirrors, flight⟩ := (holds.sound agentId node found).waiting id entries alone phase
        refine holds.setNode (sound_answered mirrors fun good only => ?_)
        have gone := holds.valid.not_running answer
        cases flight only with
        | processing task there => simp [gone] at there
        | refreshes task there => simp [gone] at there
        | answered success' answer' stored =>
            rw [answer] at answer'
            cases answer'
            exact stored good
      · cases taken
  | lose agentId =>
      obtain ⟨node, found, taken⟩ := Option.bind_eq_some_iff.mp taken
      split at taken
      · cases taken
        exact holds.setNode (sound_of_phase (Or.inr rfl))
      · cases taken
  | refreshLocal agentId round =>
      obtain ⟨node, -, taken⟩ := Option.bind_eq_some_iff.mp taken
      split at taken
      · cases taken
        exact holds.setNode (sound_of_phase (Or.inl rfl))
      · cases taken
  | controller action =>
      cases action with
      | spawn id request =>
          obtain ⟨server, spawned, rfl⟩ := Option.map_eq_some_iff.mp taken
          refine ⟨holds.valid.spawn spawned, ?_⟩
          intro agentId node found
          exact (holds.sound agentId node found).spawn spawned
            (permitted agentId (Table.mem_keys_iff.mpr ⟨node, found⟩))
      | advance id now =>
          obtain ⟨server, advanced, rfl⟩ := Option.map_eq_some_iff.mp taken
          refine ⟨holds.valid.advance advanced, ?_⟩
          exact fun agentId node found =>
            (holds.sound agentId node found).advance holds.valid advanced

abbrev FleetRun (env : Env) (idna : Idna) (parseUrl : UrlParser) (start : Int) :
    Deployment → Prop :=
  Transition.Reach (step env idna parseUrl) Permitted (.init start)

theorem invariant (reached : FleetRun env idna parseUrl start f) : Invariant env start f := by
  refine reached.invariant (I := Invariant env start) ?_ ?_
  · exact ⟨Server.valid_init env start, fun agentId node found => (nomatch found)⟩
  · exact fun _ _ _ _ holds permitted taken => holds.step permitted taken

/-- The proxy of an agent whose last set has settled has that set, and so has the store. -/
theorem settled_entries (reached : FleetRun env idna parseUrl start f)
    (found : f.nodes.find? agentId = some node) (settled : node.phase.settled = true) :
    ∃ entries, Mirrors node.run.routes entries ∧ Stored f.server.controller agentId entries := by
  obtain ⟨entries, synced⟩ : ∃ entries, node.phase = .synced entries true := by
    cases phase : node.phase with
    | synced entries alone =>
        rw [phase] at settled
        exact ⟨entries, congrArg (Phase.synced entries) settled⟩
    | _ =>
        rw [phase] at settled
        cases settled
  obtain ⟨mirrors, stored⟩ :=
    ((invariant reached).sound agentId node found).synced entries true synced
  exact ⟨entries, mirrors, stored rfl⟩

/-- The routes on record of an agent whose last set has settled are those of its proxy. -/
theorem settled_route (reached : FleetRun env idna parseUrl start f)
    (found : f.nodes.find? agentId = some node) (settled : node.phase.settled = true) {host : Text}
    {row : RouteRow} (there : f.server.controller.store.routes.find? host = some row)
    (own : row.agentId = agentId) :
    Normalized host ∧ ∃ route, node.run.routes.find? host = some route ∧
      row.backend = route.backend.baseUrl ∧ row.containerId = route.containerId ∧
      row.containerName = route.containerName := by
  subst own
  obtain ⟨entries, mirrors, stored⟩ := settled_entries reached found settled
  obtain ⟨t, last⟩ := stored.last
  obtain ⟨t', entries', entry, last', kept, same⟩ :=
    fromLastPut (invariant reached).valid.reached host row there
  rw [last] at last'
  cases last'
  rw [mirrors.entry] at kept
  obtain ⟨route, serves, rfl⟩ := Option.map_eq_some_iff.mp kept
  exact ⟨mirrors.normalized host route serves, route, serves, congrArg RouteRow.backend same,
    congrArg RouteRow.containerId same, congrArg RouteRow.containerName same⟩

/-- A hostname in any letter case has no colon either. -/
theorem portless_of_normalized {host name : Text} (normalized : Normalized name)
    (spelled : toAsciiLowercase host = name) : ':' ∉ host := by
  intro member
  have lower : ':' ∈ name := by
    rw [← spelled]
    exact List.mem_map.mpr ⟨':', member, rfl⟩
  exact absurd (normalized.chars lower) (by decide)

/-- A Host value that names the host leads to its route. -/
theorem resolve_of_names {routes : SharedRouteStore} {host name value : Text} {route : BackendRoute}
    (normalized : Normalized name) (spelled : toAsciiLowercase host = name)
    (serves : routes.find? name = some route) (names : Names value host) {req : ProxyRequest}
    (asked : headerText req.headers hostName = some value) :
    routes.resolve ((headerText req.headers hostName).getD []) = some route := by
  rw [asked, Option.getD_some, resolve_eq_find?,
    resolveKey_of_names names (portless_of_normalized normalized spelled), spelled, serves]

/-- **A name that DNS answers reaches the backend on record.** In every state of every run,
whatever the other agents, admins and the cleanup do: let an agent's last route set be sent
with no other in flight and answered with success, and let the controller answer a name of
its own, in any spelling. A request for that name, in any letter case and with any port, is
handed by the agent's proxy to the backend the controller has on record, and the backend's
answer is passed on. With a trailing dot in the Host the proxy does not know the name. -/
theorem dns_name_reaches_backend (reached : FleetRun env idna parseUrl start f)
    (found : f.nodes.find? agentId = some node) (settled : node.phase.settled = true)
    {q : Text} {ip : Ipv4Addr} {now : Int}
    (answer : f.server.controller.store.dnsAnswer env.rfc env.ttl now (lookupKey q) = some ip)
    (own : f.server.controller.store.owner (lookupKey q) = some agentId) :
    ∃ row route, f.server.controller.store.routes.find? (lookupKey q) = some row ∧
      node.run.routes.find? (lookupKey q) = some route ∧
      row.backend = route.backend.baseUrl ∧ row.containerId = route.containerId ∧
      row.containerName = route.containerName ∧
      (∀ host value net peer req, toAsciiLowercase host = lookupKey q → Names value host →
        headerText req.headers hostName = some value → Plain route.backend →
        let x := Proxy.handle ⟨node.run.routes, false⟩ net peer req
        (isWebsocketUpgrade req = true ∨ req.Rooted → Exchange.Serves net req peer route x) ∧
        (isWebsocketUpgrade req = false → req.Rooted →
          net.uri.parse ("http://".toList ++ (route.backend.authority ++ req.target)) ≠ none →
          x.dialed = [route.backend.authority] ∧ x.sent = [contactOf req peer route] ∧
          ∀ answer, net.request (contactOf req peer route) = .response answer →
            net.builds (relayedHeaders answer) = true → x.response.Passes answer)) ∧
      ∀ host value net peer req, toAsciiLowercase host = lookupKey q →
        Names value (host ++ ['.']) → headerText req.headers hostName = some value →
        Proxy.handle ⟨node.run.routes, false⟩ net peer req = refuse .unknownHost := by
  obtain ⟨row, -, there, -⟩ := Store.dnsAnswer_eq_some.mp answer
  have owner : row.agentId = agentId := by
    rw [Store.owner, there] at own
    exact Option.some.inj own
  obtain ⟨normalized, route, serves, backend, id, named⟩ :=
    settled_route reached found settled there owner
  refine ⟨row, route, there, serves, backend, id, named, ?_, ?_⟩
  · intro host value net peer req spelled names asked plain x
    have routed : node.run.routes.resolve ((headerText req.headers hostName).getD []) = some route :=
      resolve_of_names normalized spelled serves names asked
    refine ⟨handle_serves rfl routed plain, ?_⟩
    intro upgrade rooted parses
    obtain ⟨uri, parsed⟩ := Option.ne_none_iff_exists'.mp parses
    have http : x = ⟨httpResponse net (contactOf req peer route), [route.backend.authority],
        [contactOf req peer route], false⟩ :=
      handle_rooted rfl routed upgrade plain rooted parsed
    rw [http]
    refine ⟨rfl, rfl, ?_⟩
    intro answer answered built
    show (httpResponse net (contactOf req peer route)).Passes answer
    rw [httpResponse, answered]
    exact relay_passes built
  · intro host value net peer req spelled names asked
    obtain ⟨entries, mirrors, -⟩ := settled_entries reached found settled
    have portless : ':' ∉ host ++ ['.'] := by
      rw [List.mem_append, not_or]
      exact ⟨portless_of_normalized normalized spelled, by decide⟩
    -- the key keeps the dot, and no name of the table has one
    have unknown : node.run.routes.resolve ((headerText req.headers hostName).getD []) = none := by
      rw [asked, Option.getD_some, resolve_eq_find?, resolveKey_of_names names portless]
      rw [Option.eq_none_iff_forall_ne_some]
      intro route listed
      apply undotted_of_normalized (mirrors.normalized _ route listed)
      rw [toAsciiLowercase, List.map_append, List.map_singleton, List.getLast?_concat]
      rfl
    simp only [Proxy.handle, Bool.false_eq_true, if_false]
    rw [unknown]

end Runs

/-! ## A set that comes late -/

/-- A round in which Docker lists the container and the controller has no intents. -/
def listing (services : List Docker.DiscoveredService) : Round where
  candidates := .ok []
  putDiscovery := .ok ()
  services := .ok services
  desiredServices := .ok []
  putRoutes := .error []
  heartbeat := .ok ()
  servicesAgain := .ok services

/-- Agent `agt_a` enrolls and its process starts. -/
def enrollAndJoin : List Action :=
  [.controller (.spawn 0 (.createEnrollmentToken [] "t".toList)), .controller (.advance 0 0),
    .controller (.spawn 1 (.enroll (some "Bearer t".toList)
      ⟨"agt_a".toList, [], "a".toList, ⟨"a".toList, "100.64.0.1".toList, "e".toList⟩⟩)),
    .controller (.advance 1 0), .controller (.advance 1 0), .controller (.advance 1 0),
    .join "agt_a".toList ⟨[], .empty, "100.64.0.1".toList, controllerBackoffBase⟩ "a".toList]

/-- The five steps of a `put_routes`. -/
def processed (id : Nat) : List Action := List.replicate 5 (.controller (.advance id 0))

/-- The agent has synchronized its container under `web`, and DNS answers the name. -/
def syncedWeb (f : Deployment) : Bool :=
  ((f.nodes.find? "agt_a".toList).any fun node => node.phase.settled &&
      (node.run.routes.find? "web".toList).any fun route => route.backend.host.all inAuthority) &&
    (f.server.controller.store.dnsAnswer plainEnv.rfc plainEnv.ttl 0 "web".toList).isSome &&
    decide (f.server.controller.store.owner "web".toList = some "agt_a".toList)

/-- A run to such a state. -/
theorem exists_settled_web :
    ∃ f node ip route, FleetRun plainEnv asciiIdna httpUrl 0 f ∧
      f.nodes.find? "agt_a".toList = some node ∧ node.phase.settled = true ∧
      node.run.routes.find? "web".toList = some route ∧ Plain route.backend ∧
      f.server.controller.store.dnsAnswer plainEnv.rfc plainEnv.ttl 0 "web".toList = some ip ∧
      f.server.controller.store.owner "web".toList = some "agt_a".toList := by
  have ran : ∃ f, FleetRun plainEnv asciiIdna httpUrl 0 f ∧ syncedWeb f = true :=
    Transition.exists_reach_of_run (fun f => syncedWeb f = true)
      (enrollAndJoin ++ [.reconcile "agt_a".toList 2
        (listing [webContainer "c1".toList "172.18.0.2".toList])] ++ processed 2 ++
        [.receive "agt_a".toList]) (by decide +kernel)
  obtain ⟨f, reached, test⟩ := ran
  simp only [syncedWeb, Bool.and_eq_true, Option.any_eq_true, Option.isSome_iff_exists,
    decide_eq_true_eq] at test
  obtain ⟨⟨⟨node, found, settled, route, serves, plain⟩, ip, answer⟩, own⟩ := test
  exact ⟨f, node, ip, route, reached, found, settled, serves, plain, answer, own⟩

/-- A client of the proxy. -/
def visitor : SocketAddr := ⟨.v4 ⟨[100, 64, 0, 5], rfl⟩, 5000⟩

/-- A request for `/status` under this Host value. -/
def visit (host : HeaderValue) : ProxyRequest :=
  ⟨"GET".toList, some "/status".toList, .http11, HeaderMap.append .empty hostName host, by decide⟩

def webPort : HeaderValue := ⟨asciiBytes "WEB:8080".toList, by decide⟩

/-- A container is registered, its name is looked up with the root dot, and it is asked for in
capitals: the backend gets the request, and the client its answer. -/
theorem dns_name_reaches_backend_web :
    ∃ f node row route, FleetRun plainEnv asciiIdna httpUrl 0 f ∧
      f.nodes.find? "agt_a".toList = some node ∧
      f.server.controller.store.routes.find? "web".toList = some row ∧
      row.backend = route.backend.baseUrl ∧
      let x := Proxy.handle ⟨node.run.routes, false⟩ (answering ⟨200, .http10, .empty, [104, 105]⟩)
        visitor (visit webPort)
      x.sent = [contactOf (visit webPort) visitor route] ∧ x.response.status = 200 ∧
        x.response.body = [104, 105] := by
  obtain ⟨f, node, ip, route', reached, found, settled, serves, plain, answer, own⟩ :=
    exists_settled_web
  obtain ⟨row, route, stored, serves', backend, -, -, relayed, -⟩ :=
    dns_name_reaches_backend reached found settled (show _ = some ip from answer)
      (q := "web.".toList) own
  have same : route' = route := Option.some.inj (serves.symm.trans serves')
  subst same
  obtain ⟨-, http⟩ := relayed "WEB".toList "WEB:8080".toList
    (answering ⟨200, .http10, .empty, [104, 105]⟩) visitor (visit webPort) (by decide)
    (Or.inr ⟨"8080".toList, rfl⟩) (by decide) plain
  obtain ⟨-, sent, passes⟩ := http (by decide) ⟨'/', "status".toList, rfl, rfl⟩
    (httpUri_parse _)
  obtain ⟨status, -, body, -⟩ := passes _ rfl rfl
  exact ⟨f, node, row, route', reached, found, stored, backend, sent, status, body⟩

/-- The proxy has another backend for `web` than the controller. -/
def divergedWeb (f : Deployment) : Bool :=
  (f.nodes.find? "agt_a".toList).any fun node =>
    node.phase.ready && !node.phase.settled &&
      (f.server.controller.store.routes.find? "web".toList).any fun row =>
        (node.run.routes.resolve "web".toList).any fun route =>
          decide (row.backend ≠ route.backend.baseUrl)

/-- **A set that was given up is stored after the next one.** The container moved in
between; the agent's last reconcile succeeded, and the old backend is on record. -/
theorem orphaned_set_overtakes :
    ∃ f, FleetRun plainEnv asciiIdna httpUrl 0 f ∧ divergedWeb f = true :=
  Transition.exists_reach_of_run (fun f => divergedWeb f = true)
    (enrollAndJoin ++ [.reconcile "agt_a".toList 2
      (listing [webContainer "c1".toList "172.18.0.2".toList]), .lose "agt_a".toList,
      .refreshLocal "agt_a".toList (listing []), .reconcile "agt_a".toList 3
        (listing [webContainer "c1".toList "172.18.0.3".toList])] ++ processed 3 ++
      [.receive "agt_a".toList] ++ processed 2) (by decide +kernel)

end Tailroute.Fleet
