/-
# Storage.Store — the controller's tables and the statements over them

The tables of `migrations/001_init.sql` that the lease machinery reads and
writes, and every SQL statement of `store.rs` over them, one definition each.
A statement is atomic; an operation of `store.rs` made of several statements is
not, and is put together in `Storage.Operations` (one after the other) and in
`Controller.Tasks` (interleaved). The transaction of `put_routes` is one atomic
step as well and has its own module, `Storage.PutRoutes`.

Timestamps are stored as the text of `toRfc3339`. The two readers of
`last_seen_at` disagree in kind: `leaseAlive` parses it and subtracts instants,
`purgeExpiredAgents` compares it with a cutoff as text.
-/
import Tailroute.Theory.Table
import Tailroute.Common.Rfc3339
import Tailroute.Common.Api

namespace Tailroute.Storage

open Tailroute.Theory Tailroute.Common

set_option autoImplicit false

/-! ## Tables -/

structure AgentRow where
  displayName : Text
  tailscaleIpv4 : Text
  dockerEngineId : Text
  credentialHash : Text
  createdAt : Text
  lastSeenAt : Option Text
  revokedAt : Option Text
deriving DecidableEq

structure TokenRow where
  createdAt : Text
  usedAt : Option Text
deriving DecidableEq

structure RouteRow where
  agentId : Text
  backend : Text
  containerId : Option Text
  containerName : Option Text
  updatedAt : Text
deriving DecidableEq

/-- `agents`, `enrollment_tokens` and `routes`, by their primary keys. -/
structure Store where
  agents : Table Text AgentRow
  enrollmentTokens : Table Text TokenRow
  routes : Table Text RouteRow

/-! ## Results -/

structure DnsRoute where
  hostname : Text
  tailscaleIpv4 : Text
deriving DecidableEq

structure AdminRoute where
  hostname : Text
  agentId : Text
  backend : Text
  containerId : Option Text
  containerName : Option Text
  leaseExpiresAt : Int
deriving DecidableEq

inductive StorageError where
  | notFound
  | constraint
  | other (message : Text)
deriving DecidableEq

namespace Store

def empty : Store := ⟨.empty, .empty, .empty⟩

/-- The agent that owns a hostname. -/
def owner (s : Store) (host : Text) : Option Text := (s.routes.find? host).map RouteRow.agentId

theorem owner_eq_some {s : Store} {host agent : Text} :
    s.owner host = some agent ↔ ∃ row, s.routes.find? host = some row ∧ row.agentId = agent := by
  simp [owner]

/-! ## Enrollment tokens -/

/-- `INSERT INTO enrollment_tokens`. -/
def insertToken (s : Store) (now : Int) (hash : Text) : Option Store :=
  (s.enrollmentTokens.insert? hash ⟨toRfc3339 now, none⟩).map fun tokens =>
    { s with enrollmentTokens := tokens }

/-- `SELECT token_hash … WHERE used_at IS NULL`, in row order. -/
def unusedTokens (s : Store) : List Text :=
  (s.enrollmentTokens.rows.filter fun row => row.2.usedAt.isNone).map Prod.fst

/-- The first unused hash that the presented token verifies against. -/
def matchingToken (verifyToken : Text → Text → Bool) (s : Store) (token : Text) : Option Text :=
  s.unusedTokens.find? fun hash => verifyToken hash token

/-- `UPDATE enrollment_tokens SET used_at = ? WHERE token_hash = ?`. -/
def markToken (s : Store) (now : Int) (hash : Text) : Store :=
  { s with enrollmentTokens := s.enrollmentTokens.modifyAt hash fun row =>
      { row with usedAt := some (toRfc3339 now) } }

/-! ## Agents -/

/-- The row of a new agent; both timestamps are the same reading of the clock. -/
def enrolledRow (now : Int) (credentialHash : Text) (body : EnrollRequest) : AgentRow where
  displayName := body.displayName
  tailscaleIpv4 := body.tailscaleIpv4
  dockerEngineId := body.dockerEngineId
  credentialHash := credentialHash
  createdAt := toRfc3339 now
  lastSeenAt := some (toRfc3339 now)
  revokedAt := none

/-- `INSERT INTO agents`. -/
def insertAgent (s : Store) (now : Int) (agentId credentialHash : Text) (body : EnrollRequest) :
    Option Store :=
  (s.agents.insert? agentId (enrolledRow now credentialHash body)).map fun agents =>
    { s with agents := agents }

/-- `SELECT credential_hash, revoked_at FROM agents WHERE agent_id = ?`, then the
checks of `verify_agent_token`. -/
def verifyAgentToken (verifyToken : Text → Text → Bool) (s : Store) (agentId token : Text) :
    Except StorageError Unit :=
  match s.agents.find? agentId with
  | none => .error .notFound
  | some row =>
      if row.revokedAt.isSome then .error (.other "revoked".toList)
      else if verifyToken row.credentialHash token then .ok ()
      else .error (.other "bad token".toList)

/-- `SELECT … FROM agents WHERE agent_id = ? AND revoked_at IS NULL`. -/
def getAgent (s : Store) (agentId : Text) : Except StorageError AgentRow :=
  match s.agents.find? agentId with
  | some row => if row.revokedAt.isNone then .ok row else .error .notFound
  | none => .error .notFound

/-- `UPDATE agents SET last_seen_at = ?, tailscale_ipv4 = ? WHERE agent_id = ? AND
revoked_at IS NULL`; no row affected is `NotFound`. -/
def heartbeat (s : Store) (now : Int) (agentId tailscaleIpv4 : Text) : Except StorageError Store :=
  match s.getAgent agentId with
  | .ok _ => .ok { s with agents := s.agents.modifyAt agentId fun row =>
      { row with lastSeenAt := some (toRfc3339 now), tailscaleIpv4 := tailscaleIpv4 } }
  | .error e => .error e

/-- `UPDATE agents SET revoked_at = ? WHERE agent_id = ?`. -/
def markRevoked (s : Store) (now : Int) (agentId : Text) : Store :=
  { s with agents := s.agents.modifyAt agentId fun row =>
      { row with revokedAt := some (toRfc3339 now) } }

/-! ## Leases and routes -/

/-- The lease test shared by `put_routes`, `list_routes_admin` and
`active_dns_routes`: a timestamp that parses and lies less than `ttl` back. -/
def leaseAlive (rfc : Rfc3339) (ttl now : Int) (lastSeenAt : Option Text) : Bool :=
  match lastSeenAt.bind rfc.parse with
  | some t => decide (now - t < ttl)
  | none => false

/-- `routes r JOIN agents a … WHERE a.revoked_at IS NULL`, in row order. -/
def joined (s : Store) : List (Text × RouteRow × AgentRow) :=
  s.routes.rows.filterMap fun row =>
    match s.getAgent row.2.agentId with
    | .ok agent => some (row.1, row.2, agent)
    | .error _ => none

/-- The joined rows whose owner's lease is alive. -/
def liveRows (s : Store) (rfc : Rfc3339) (ttl now : Int) : List (Text × RouteRow × AgentRow) :=
  s.joined.filter fun row => leaseAlive rfc ttl now row.2.2.lastSeenAt

def activeDnsRoutes (s : Store) (rfc : Rfc3339) (ttl now : Int) : List DnsRoute :=
  (s.liveRows rfc ttl now).map fun row => ⟨row.1, row.2.2.tailscaleIpv4⟩

def listRoutesAdmin (s : Store) (rfc : Rfc3339) (ttl now : Int) : List AdminRoute :=
  (s.liveRows rfc ttl now).map fun row =>
    { hostname := row.1
      agentId := row.2.1.agentId
      backend := row.2.1.backend
      containerId := row.2.1.containerId
      containerName := row.2.1.containerName
      leaseExpiresAt := (row.2.2.lastSeenAt.bind rfc.parse).getD now + ttl }

/-- `DELETE FROM routes WHERE hostname = ?`. -/
def deleteRoute (s : Store) (hostname : Text) : Store :=
  { s with routes := s.routes.deleteWhere fun host _ => decide (host = toAsciiLowercase hostname) }

/-- `DELETE FROM routes WHERE agent_id = ?`. -/
def clearRoutes (s : Store) (agentId : Text) : Store :=
  { s with routes := s.routes.deleteWhere fun _ row => decide (row.agentId = agentId) }

/-- `last_seen_at < ? OR last_seen_at IS NULL`, over text. -/
def expiredText (cutoff : Text) : Option Text → Bool
  | none => true
  | some lastSeenAt => decide (lastSeenAt < cutoff)

/-- `SELECT agent_id FROM agents WHERE last_seen_at < ? OR last_seen_at IS NULL`. -/
def expiredAgent (s : Store) (cutoff agentId : Text) : Bool :=
  match s.agents.find? agentId with
  | some row => expiredText cutoff row.lastSeenAt
  | none => false

/-- `DELETE FROM routes WHERE agent_id IN (…)`, with the cutoff `now - ttl`. -/
def purgeExpiredAgents (s : Store) (ttl now : Int) : Store :=
  { s with routes := s.routes.deleteWhere fun _ row =>
      s.expiredAgent (toRfc3339 (now - ttl)) row.agentId }

/-! ## What each statement reads and writes -/

theorem getAgent_eq_ok {s : Store} {agentId : Text} {row : AgentRow} :
    s.getAgent agentId = .ok row ↔ s.agents.find? agentId = some row ∧ row.revokedAt = none := by
  rw [getAgent]
  cases found : s.agents.find? agentId with
  | none => simp
  | some stored =>
      simp only [Option.isNone_iff_eq_none, Option.some.injEq]
      by_cases live : stored.revokedAt = none
      · rw [if_pos live, Except.ok.injEq]
        exact ⟨fun same => ⟨same, same ▸ live⟩, fun same => same.1⟩
      · rw [if_neg live]
        refine ⟨fun failed => (nomatch failed), ?_⟩
        rintro ⟨rfl, unrevoked⟩
        exact absurd unrevoked live

/-- A row of the join is a route row and its owner's unrevoked row. -/
theorem mem_joined {s : Store} {host : Text} {route : RouteRow} {agent : AgentRow} :
    (host, route, agent) ∈ s.joined ↔
      s.routes.find? host = some route ∧ s.agents.find? route.agentId = some agent ∧
        agent.revokedAt = none := by
  simp only [joined, List.mem_filterMap]
  rw [Table.find?_eq_some_iff, ← getAgent_eq_ok]
  constructor
  · rintro ⟨row, member, join⟩
    split at join
    · rename_i found hagent
      cases join
      exact ⟨member, hagent⟩
    · cases join
  · rintro ⟨member, hagent⟩
    exact ⟨(host, route), member, by simp [hagent]⟩

theorem mem_liveRows {s : Store} {rfc : Rfc3339} {ttl now : Int} {host : Text} {route : RouteRow}
    {agent : AgentRow} :
    (host, route, agent) ∈ s.liveRows rfc ttl now ↔
      s.routes.find? host = some route ∧ s.agents.find? route.agentId = some agent ∧
        agent.revokedAt = none ∧ leaseAlive rfc ttl now agent.lastSeenAt = true := by
  rw [liveRows, List.mem_filter, mem_joined]
  tauto

@[simp] theorem owner_deleteRoute (s : Store) (hostname host : Text) :
    (s.deleteRoute hostname).owner host =
      if host = toAsciiLowercase hostname then none else s.owner host := by
  simp only [owner, deleteRoute, Table.find?_deleteWhere]
  by_cases same : host = toAsciiLowercase hostname
  · cases s.routes.find? host <;> simp [same]
  · cases s.routes.find? host <;> simp [same]

@[simp] theorem owner_clearRoutes (s : Store) (agentId host : Text) :
    (s.clearRoutes agentId).owner host = (s.owner host).filter fun a => decide (a ≠ agentId) := by
  simp only [owner, clearRoutes, Table.find?_deleteWhere]
  cases s.routes.find? host with
  | none => rfl
  | some row => by_cases same : row.agentId = agentId <;> simp [Option.filter, same]

@[simp] theorem owner_purgeExpiredAgents (s : Store) (ttl now : Int) (host : Text) :
    (s.purgeExpiredAgents ttl now).owner host =
      (s.owner host).filter fun a => !s.expiredAgent (toRfc3339 (now - ttl)) a := by
  simp only [owner, purgeExpiredAgents, Table.find?_deleteWhere]
  cases s.routes.find? host with
  | none => rfl
  | some row =>
      cases gone : s.expiredAgent (toRfc3339 (now - ttl)) row.agentId <;> simp [Option.filter, gone]

end Store

end Tailroute.Storage
