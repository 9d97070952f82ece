/-
# Controller.Tasks — the controller as interleaved handlers

A request handler is a sequence of storage statements with nothing held in
between: any other handler may run between two of them. A `Task` is a handler
stopped before its next statement, with the local values it carries;
`Task.move` is what that next statement reads, writes and leads to. The state
is the store, the DNS registry, the tasks in flight and the clock, and an
`Action` starts a request or lets one task take its next step at an instant not
before the last one.

The state also keeps three things the program does not: the history of what has
happened (`log`, newest first), the number of writes that DNS answers depend on
(`commits`) and the value of that number when the installed snapshot was read
(`installed`). Nothing in `Task.move` depends on them except by copying.

`moves` is the one case analysis of `Task.move`; `step_cases` the one of the step
function. The modules after this one use no other.
-/
import Tailroute.Controller.Config
import Tailroute.Dns.Registry
import Tailroute.Storage.Operations

namespace Tailroute.Controller

open Tailroute.Theory Tailroute.Common Tailroute.Storage Tailroute.Dns

set_option autoImplicit false

/-! ## Requests and tasks -/

/-- What `enroll_agent` generates and what it was sent. -/
structure NewAgent where
  agentId : Text
  salt : Text
  agentToken : Text
  body : EnrollRequest
deriving DecidableEq

/-- A request to the controller, or a tick of its cleanup task. Admin requests are
those that passed `check_admin`. -/
inductive Request where
  | createEnrollmentToken (salt token : Text)
  | enroll (authorization : Option Text) (agent : NewAgent)
  | heartbeat (agentId : Text) (authorization : Option Text) (body : HeartbeatRequest)
  | putRoutes (agentId : Text) (authorization : Option Text) (entries : List RouteEntry)
  | deleteRoute (hostname : Text)
  | revokeAgent (agentId : Text)
  | cleanupTick
deriving DecidableEq

/-- The map a refresh is about to install, when it was read and after how many
commits. -/
structure Snapshot where
  map : DnsRegistry
  version : Nat
  readAt : Int

/-- A handler before its next statement. -/
inductive Task where
  | createToken (salt token : Text)
  | enrollSelect (token : Text) (agent : NewAgent)
  | enrollMark (token hash : Text) (agent : NewAgent)
  | enrollInsert (token : Text) (agent : NewAgent)
  | heartbeatVerify (agentId token tailscaleIpv4 : Text)
  | heartbeatUpdate (agentId tailscaleIpv4 : Text)
  | putVerify (agentId token : Text) (entries : List RouteEntry)
  | putCheck (agentId : Text) (entries : List RouteEntry)
  | putTransact (agentId : Text) (entries : List RouteEntry)
  | deleteRoute (hostname : Text)
  | revokeUpdate (agentId : Text)
  | revokeDelete (agentId : Text)
  | purge
  | refreshRead
  | refreshReplace (snapshot : Snapshot)

/-- A request without a bearer token is answered 401 before any statement. -/
def Request.start : Request → Option Task
  | createEnrollmentToken salt token => some (.createToken salt token)
  | enroll authorization agent =>
      (bearerToken authorization).map fun token => .enrollSelect token agent
  | heartbeat agentId authorization body =>
      (bearerToken authorization).map fun token =>
        .heartbeatVerify agentId token body.tailscaleIpv4
  | putRoutes agentId authorization entries =>
      (bearerToken authorization).map fun token => .putVerify agentId token entries
  | deleteRoute hostname => some (.deleteRoute hostname)
  | revokeAgent agentId => some (.revokeUpdate agentId)
  | cleanupTick => some .purge

/-! ## History -/

inductive Event where
  | tokenIssued (token : Text)
  | enrolled (token agentId tailscaleIpv4 : Text)
  | heartbeat (agentId tailscaleIpv4 : Text)
  | putRoutes (agentId : Text) (entries : List RouteEntry) (outcome : PutRoutesOutcome)
  | deletedRoute (hostname : Text)
  | revoked (agentId : Text)
  | purged
deriving DecidableEq

/-- What happened and when, newest first. -/
abbrev Log := List (Int × Event)

/-- The agent an enrollment or heartbeat was for, with the address it carried. -/
def Event.beat : Event → Option (Text × Text)
  | enrolled _ agentId tailscaleIpv4 => some (agentId, tailscaleIpv4)
  | heartbeat agentId tailscaleIpv4 => some (agentId, tailscaleIpv4)
  | _ => none

/-- The most recent enrollment or heartbeat of an agent: when, and the address. -/
def lastBeat : Log → Text → Option (Int × Text)
  | [], _ => none
  | (t, event) :: past, agent =>
      match event.beat with
      | some (a, address) => if a = agent then some (t, address) else lastBeat past agent
      | none => lastBeat past agent

/-- The agent's revocation has run to its end. -/
def Revoked (log : Log) (agent : Text) : Prop := ∃ t, (t, Event.revoked agent) ∈ log

/-- The token was handed out. -/
def Issued (log : Log) (token : Text) : Prop := ∃ t, (t, Event.tokenIssued token) ∈ log

/-! ## State and step -/

structure State where
  clock : Int
  store : Store
  registry : DnsRegistry
  tasks : Table Nat Task
  log : Log
  commits : Nat
  installed : Nat

/-- The controller after it started on an empty database. -/
def State.init (start : Int) : State := ⟨start, .empty, .empty, .empty, [], 0, 0⟩

/-- One turn of the loop of `refresh_dns`: a route whose address parses. -/
def addRoute (map : DnsRegistry) (route : DnsRoute) : DnsRegistry :=
  match parseIpv4 route.tailscaleIpv4 with
  | some ip => map.upsert route.hostname ip
  | none => map

def registryMap (routes : List DnsRoute) : DnsRegistry := routes.foldl addRoute .empty

/-- What one step of a task does: the statement it executed with success, the
event that makes, the snapshot it installed, and the rest of the handler. -/
structure Move where
  statement : Option Statement := none
  event : Option Event := none
  snapshot : Option Snapshot := none
  next : Option Task := none

namespace Task

/-- The next step of a handler. A handler that answers with an error ends. -/
def move (env : Env) (s : State) (now : Int) : Task → Move
  | createToken salt token =>
      match s.store.insertToken now (env.hashToken salt token) with
      | some _ =>
          { statement := some (.insertToken (env.hashToken salt token))
            event := some (.tokenIssued token) }
      | none => {}
  | enrollSelect token agent =>
      match s.store.matchingToken env.verifyToken token with
      | some hash => { next := some (.enrollMark token hash agent) }
      | none => {}
  | enrollMark token hash agent =>
      { statement := some (.markToken hash), next := some (.enrollInsert token agent) }
  | enrollInsert token agent =>
      let credentialHash := env.hashToken agent.salt agent.agentToken
      match s.store.insertAgent now agent.agentId credentialHash agent.body with
      | some _ =>
          { statement := some (.insertAgent agent.agentId credentialHash agent.body)
            event := some (.enrolled token agent.agentId agent.body.tailscaleIpv4) }
      | none => {}
  | heartbeatVerify agentId token tailscaleIpv4 =>
      match s.store.verifyAgentToken env.verifyToken agentId token with
      | .ok _ => { next := some (.heartbeatUpdate agentId tailscaleIpv4) }
      | .error _ => {}
  | heartbeatUpdate agentId tailscaleIpv4 =>
      match s.store.heartbeat now agentId tailscaleIpv4 with
      | .ok _ =>
          { statement := some (.heartbeat agentId tailscaleIpv4)
            event := some (.heartbeat agentId tailscaleIpv4)
            next := some .refreshRead }
      | .error _ => {}
  | putVerify agentId token entries =>
      match s.store.verifyAgentToken env.verifyToken agentId token with
      | .ok _ =>
          match hostnamesAllowed env.security (entries.map RouteEntry.hostname) with
          | .ok _ => { next := some (.putCheck agentId entries) }
          | .error _ => {}
      | .error _ => {}
  | putCheck agentId entries =>
      match s.store.getAgent agentId with
      | .ok _ => { next := some (.putTransact agentId entries) }
      | .error _ => {}
  | putTransact agentId entries =>
      let outcome := (s.store.transactRoutes env.rfc env.ttl now agentId entries).1
      { statement := some (.transactRoutes env.ttl agentId entries)
        event := some (.putRoutes agentId entries outcome)
        next := some .refreshRead }
  | deleteRoute hostname =>
      { statement := some (.deleteRoute hostname)
        event := some (.deletedRoute hostname)
        next := some .refreshRead }
  | revokeUpdate agentId =>
      { statement := some (.markRevoked agentId), next := some (.revokeDelete agentId) }
  | revokeDelete agentId =>
      -- a revocation of an unknown agent marked no row and revoked nobody
      let marked := (s.store.agents.find? agentId).any fun row => row.revokedAt.isSome
      { statement := some (.clearRoutes agentId)
        event := if marked then some (.revoked agentId) else none
        next := some .refreshRead }
  | purge =>
      { statement := some (.purgeExpiredAgents env.ttl)
        event := some .purged
        next := some .refreshRead }
  | refreshRead =>
      let map := registryMap (s.store.activeDnsRoutes env.rfc env.ttl now)
      { next := some (.refreshReplace ⟨map, s.commits, now⟩) }
  | refreshReplace snapshot => { snapshot := some snapshot }

end Task

/-- Statements whose handler refreshes DNS afterwards. -/
def refreshes : Statement → Bool
  | .insertToken _ => false
  | .markToken _ => false
  | .insertAgent _ _ _ => false
  | _ => true

/-- The state after task `id` made a move. -/
def State.perform (env : Env) (s : State) (id : Nat) (now : Int) (m : Move) : State where
  clock := now
  store := m.statement.elim s.store fun st => st.exec env.rfc s.store now
  registry := m.snapshot.elim s.registry Snapshot.map
  tasks := s.tasks.put id m.next
  log := m.event.elim s.log fun event => (now, event) :: s.log
  commits := if m.statement.any refreshes then s.commits + 1 else s.commits
  installed := m.snapshot.elim s.installed Snapshot.version

inductive Action where
  | spawn (id : Nat) (request : Request)
  | advance (id : Nat) (now : Int)
deriving DecidableEq

def step (env : Env) (s : State) : Action → Option State
  | .spawn id request =>
      request.start.bind fun task =>
        (s.tasks.insert? id task).map fun tasks => { s with tasks := tasks }
  | .advance id now =>
      if s.clock ≤ now then
        (s.tasks.find? id).map fun task => s.perform env id now (task.move env s now)
      else none

/-! ## What a step can do -/

theorem step_cases {env : Env} {s s' : State} {a : Action} (taken : step env s a = some s') :
    (∃ id request task, a = .spawn id request ∧ request.start = some task ∧
      s.tasks.find? id = none ∧ s' = { s with tasks := s.tasks.upsert id task }) ∨
    (∃ id now task, a = .advance id now ∧ s.clock ≤ now ∧ s.tasks.find? id = some task ∧
      s' = s.perform env id now (task.move env s now)) := by
  cases a with
  | spawn id request =>
      left
      obtain ⟨task, started, taken⟩ := Option.bind_eq_some_iff.mp taken
      obtain ⟨tasks, inserted, rfl⟩ := Option.map_eq_some_iff.mp taken
      obtain ⟨fresh, rfl⟩ := Table.insert?_eq_some inserted
      exact ⟨id, request, task, rfl, started, fresh, rfl⟩
  | advance id now =>
      right
      simp only [step] at taken
      split at taken
      · rename_i later
        obtain ⟨task, found, rfl⟩ := Option.map_eq_some_iff.mp taken
        exact ⟨id, now, task, rfl, later, found, rfl⟩
      · cases taken

/-- A task in flight after a move: the rest of the handler, or another task. -/
theorem task_of_perform {env : Env} {s : State} {id id' : Nat} {now : Int} {m : Move} {task : Task}
    (found : (s.perform env id now m).tasks.find? id' = some task) :
    (id' = id ∧ m.next = some task) ∨ (id' ≠ id ∧ s.tasks.find? id' = some task) := by
  simp only [State.perform, Table.find?_put] at found
  split at found
  · rename_i same
    exact Or.inl ⟨same, found⟩
  · rename_i other
    exact Or.inr ⟨other, found⟩

/-- Steps that may end the handler with an error answer. -/
def Task.refusable : Task → Bool
  | createToken _ _ => true
  | enrollSelect _ _ => true
  | enrollInsert _ _ => true
  | heartbeatVerify _ _ _ => true
  | heartbeatUpdate _ _ => true
  | putVerify _ _ _ => true
  | putCheck _ _ => true
  | _ => false

/-- The moves of each program point. `ended` stands for every refusal: an error
answer, with nothing written. -/
inductive Moves (env : Env) (s : State) (now : Int) : Task → Move → Prop
  | ended (task : Task) (refusable : task.refusable = true) : Moves env s now task {}
  | issued (salt token : Text)
      (fresh : env.hashToken salt token ∉ s.store.enrollmentTokens.keys) :
      Moves env s now (.createToken salt token)
        { statement := some (.insertToken (env.hashToken salt token))
          event := some (.tokenIssued token) }
  | selected (token hash : Text) (agent : NewAgent)
      (matched : s.store.matchingToken env.verifyToken token = some hash) :
      Moves env s now (.enrollSelect token agent) { next := some (.enrollMark token hash agent) }
  | marked (token hash : Text) (agent : NewAgent) :
      Moves env s now (.enrollMark token hash agent)
        { statement := some (.markToken hash), next := some (.enrollInsert token agent) }
  | enrolled (token : Text) (agent : NewAgent) (fresh : agent.agentId ∉ s.store.agents.keys) :
      Moves env s now (.enrollInsert token agent)
        { statement := some (.insertAgent agent.agentId
            (env.hashToken agent.salt agent.agentToken) agent.body)
          event := some (.enrolled token agent.agentId agent.body.tailscaleIpv4) }
  | heartbeatVerified (agentId token tailscaleIpv4 : Text)
      (verified : s.store.verifyAgentToken env.verifyToken agentId token = .ok ()) :
      Moves env s now (.heartbeatVerify agentId token tailscaleIpv4)
        { next := some (.heartbeatUpdate agentId tailscaleIpv4) }
  | beat (agentId tailscaleIpv4 : Text) (row : AgentRow)
      (live : s.store.getAgent agentId = .ok row) :
      Moves env s now (.heartbeatUpdate agentId tailscaleIpv4)
        { statement := some (.heartbeat agentId tailscaleIpv4)
          event := some (.heartbeat agentId tailscaleIpv4)
          next := some .refreshRead }
  | putVerified (agentId token : Text) (entries : List RouteEntry)
      (verified : s.store.verifyAgentToken env.verifyToken agentId token = .ok ())
      (allowed : hostnamesAllowed env.security (entries.map RouteEntry.hostname) = .ok ()) :
      Moves env s now (.putVerify agentId token entries)
        { next := some (.putCheck agentId entries) }
  | putChecked (agentId : Text) (entries : List RouteEntry) (row : AgentRow)
      (live : s.store.getAgent agentId = .ok row) :
      Moves env s now (.putCheck agentId entries) { next := some (.putTransact agentId entries) }
  | transacted (agentId : Text) (entries : List RouteEntry) :
      Moves env s now (.putTransact agentId entries)
        { statement := some (.transactRoutes env.ttl agentId entries)
          event := some (.putRoutes agentId entries
            (s.store.transactRoutes env.rfc env.ttl now agentId entries).1)
          next := some .refreshRead }
  | deleted (hostname : Text) :
      Moves env s now (.deleteRoute hostname)
        { statement := some (.deleteRoute hostname)
          event := some (.deletedRoute hostname)
          next := some .refreshRead }
  | revokeMarked (agentId : Text) :
      Moves env s now (.revokeUpdate agentId)
        { statement := some (.markRevoked agentId), next := some (.revokeDelete agentId) }
  | revokeCleared (agentId : Text) (row : AgentRow)
      (found : s.store.agents.find? agentId = some row) (gone : row.revokedAt ≠ none) :
      Moves env s now (.revokeDelete agentId)
        { statement := some (.clearRoutes agentId)
          event := some (.revoked agentId)
          next := some .refreshRead }
  | revokeMissed (agentId : Text)
      (unmarked : ∀ row, s.store.agents.find? agentId = some row → row.revokedAt = none) :
      Moves env s now (.revokeDelete agentId)
        { statement := some (.clearRoutes agentId), next := some .refreshRead }
  | purged :
      Moves env s now .purge
        { statement := some (.purgeExpiredAgents env.ttl)
          event := some .purged
          next := some .refreshRead }
  | read :
      Moves env s now .refreshRead
        { next := some (.refreshReplace
            ⟨registryMap (s.store.activeDnsRoutes env.rfc env.ttl now), s.commits, now⟩) }
  | replaced (snapshot : Snapshot) :
      Moves env s now (.refreshReplace snapshot) { snapshot := some snapshot }

theorem moves (env : Env) (s : State) (now : Int) (task : Task) :
    Moves env s now task (task.move env s now) := by
  cases task with
  | createToken salt token =>
      by_cases taken : env.hashToken salt token ∈ s.store.enrollmentTokens.keys
      · simp only [Task.move, Store.insertToken, Table.insert?, if_pos taken, Option.map_none]
        exact .ended _ rfl
      · simp only [Task.move, Store.insertToken, Table.insert?, if_neg taken, Option.map_some]
        exact .issued salt token taken
  | enrollSelect token agent =>
      cases matched : s.store.matchingToken env.verifyToken token with
      | none =>
          simp only [Task.move, matched]
          exact .ended _ rfl
      | some hash =>
          simp only [Task.move, matched]
          exact .selected token hash agent matched
  | enrollMark token hash agent => exact .marked token hash agent
  | enrollInsert token agent =>
      by_cases taken : agent.agentId ∈ s.store.agents.keys
      · simp only [Task.move, Store.insertAgent, Table.insert?, if_pos taken, Option.map_none]
        exact .ended _ rfl
      · simp only [Task.move, Store.insertAgent, Table.insert?, if_neg taken, Option.map_some]
        exact .enrolled token agent taken
  | heartbeatVerify agentId token tailscaleIpv4 =>
      cases verified : s.store.verifyAgentToken env.verifyToken agentId token with
      | error e =>
          simp only [Task.move, verified]
          exact .ended _ rfl
      | ok _ =>
          simp only [Task.move, verified]
          exact .heartbeatVerified agentId token tailscaleIpv4 verified
  | heartbeatUpdate agentId tailscaleIpv4 =>
      cases live : s.store.getAgent agentId with
      | error e =>
          simp only [Task.move, Store.heartbeat, live]
          exact .ended _ rfl
      | ok row =>
          simp only [Task.move, Store.heartbeat, live]
          exact .beat agentId tailscaleIpv4 row live
  | putVerify agentId token entries =>
      cases verified : s.store.verifyAgentToken env.verifyToken agentId token with
      | error e =>
          simp only [Task.move, verified]
          exact .ended _ rfl
      | ok _ =>
          cases allowed : hostnamesAllowed env.security (entries.map RouteEntry.hostname) with
          | error message =>
              simp only [Task.move, verified, allowed]
              exact .ended _ rfl
          | ok _ =>
              simp only [Task.move, verified, allowed]
              exact .putVerified agentId token entries verified allowed
  | putCheck agentId entries =>
      cases live : s.store.getAgent agentId with
      | error e =>
          simp only [Task.move, live]
          exact .ended _ rfl
      | ok row =>
          simp only [Task.move, live]
          exact .putChecked agentId entries row live
  | putTransact agentId entries => exact .transacted agentId entries
  | deleteRoute hostname => exact .deleted hostname
  | revokeUpdate agentId => exact .revokeMarked agentId
  | revokeDelete agentId =>
      cases found : s.store.agents.find? agentId with
      | none =>
          simp only [Task.move, found, Option.any_none, Bool.false_eq_true, if_false]
          exact .revokeMissed agentId (by simp [found])
      | some row =>
          by_cases gone : row.revokedAt = none
          · simp only [Task.move, found, Option.any_some, gone, Option.isSome_none,
              Bool.false_eq_true, if_false]
            exact .revokeMissed agentId (by simp [found, gone])
          · simp only [Task.move, found, Option.any_some, Option.isSome_iff_ne_none.mpr gone,
              if_true]
            exact .revokeCleared agentId row found gone
  | purge => exact .purged
  | refreshRead => exact .read
  | refreshReplace snapshot => exact .replaced snapshot

/-- A task that has just started is before its first statement. -/
inductive Starts : Request → Task → Prop
  | createToken (salt token : Text) :
      Starts (.createEnrollmentToken salt token) (.createToken salt token)
  | enroll (authorization : Option Text) (token : Text) (agent : NewAgent)
      (bears : bearerToken authorization = some token) :
      Starts (.enroll authorization agent) (.enrollSelect token agent)
  | heartbeat (agentId : Text) (authorization : Option Text) (token : Text)
      (body : HeartbeatRequest) (bears : bearerToken authorization = some token) :
      Starts (.heartbeat agentId authorization body)
        (.heartbeatVerify agentId token body.tailscaleIpv4)
  | putRoutes (agentId : Text) (authorization : Option Text) (token : Text)
      (entries : List RouteEntry) (bears : bearerToken authorization = some token) :
      Starts (.putRoutes agentId authorization entries) (.putVerify agentId token entries)
  | deleteRoute (hostname : Text) : Starts (.deleteRoute hostname) (.deleteRoute hostname)
  | revokeAgent (agentId : Text) : Starts (.revokeAgent agentId) (.revokeUpdate agentId)
  | cleanupTick : Starts .cleanupTick .purge

theorem starts {request : Request} {task : Task} (started : request.start = some task) :
    Starts request task := by
  cases request with
  | createEnrollmentToken salt token =>
      cases started
      exact .createToken salt token
  | enroll authorization agent =>
      obtain ⟨token, bears, rfl⟩ := Option.map_eq_some_iff.mp started
      exact .enroll authorization token agent bears
  | heartbeat agentId authorization body =>
      obtain ⟨token, bears, rfl⟩ := Option.map_eq_some_iff.mp started
      exact .heartbeat agentId authorization token body bears
  | putRoutes agentId authorization entries =>
      obtain ⟨token, bears, rfl⟩ := Option.map_eq_some_iff.mp started
      exact .putRoutes agentId authorization token entries bears
  | deleteRoute hostname =>
      cases started
      exact .deleteRoute hostname
  | revokeAgent agentId =>
      cases started
      exact .revokeAgent agentId
  | cleanupTick =>
      cases started
      exact .cleanupTick

/-- A task in flight after a request came in: its first step, or another task. -/
theorem task_of_spawn {tasks : Table Nat Task} {request : Request} {task other : Task}
    {id id' : Nat} (started : request.start = some task)
    (found : (tasks.upsert id task).find? id' = some other) :
    Starts request other ∨ tasks.find? id' = some other := by
  rw [Table.find?_upsert] at found
  split at found
  · cases found
    exact Or.inl (starts started)
  · exact Or.inr found

end Tailroute.Controller
