/-
# Storage.Operations — statements as one type, and the operations built of them

`Statement` collects the atomic writes of `store.rs` and `Statement.exec` runs
one at an instant; a statement that fails leaves the store as it was. Every
invariant of the tables is a fact about `exec`, so the facts stated here, one per
column that a proof reads, serve the sequential operations of this module and the
interleaved handlers of `Controller.Tasks` alike:

* `agentChange_exec`: what can happen to an agent's row;
* `ownerChange_exec`: the only ways a hostname changes hands.

The operations are the public functions of `store.rs`, one statement after the
other with nothing in between, and `Clocked.step` runs them in sequence.
-/
import Tailroute.Theory.Transition
import Tailroute.Storage.PutRoutes

namespace Tailroute.Storage

open Tailroute.Theory Tailroute.Common

set_option autoImplicit false

/-! ## Statements -/

/-- One atomic write of `store.rs`. Generated values (the hash of a new token, a
new agent's id and credential) are carried by the statement that stores them. -/
inductive Statement where
  | insertToken (hash : Text)
  | markToken (hash : Text)
  | insertAgent (agentId credentialHash : Text) (body : EnrollRequest)
  | heartbeat (agentId tailscaleIpv4 : Text)
  | transactRoutes (ttl : Int) (agentId : Text) (entries : List RouteEntry)
  | deleteRoute (hostname : Text)
  | markRevoked (agentId : Text)
  | clearRoutes (agentId : Text)
  | purgeExpiredAgents (ttl : Int)
deriving DecidableEq

namespace Statement

def exec (rfc : Rfc3339) (s : Store) (now : Int) : Statement → Store
  | insertToken hash => (s.insertToken now hash).getD s
  | markToken hash => s.markToken now hash
  | insertAgent agentId credentialHash body =>
      (s.insertAgent now agentId credentialHash body).getD s
  | heartbeat agentId tailscaleIpv4 => (s.heartbeat now agentId tailscaleIpv4).toOption.getD s
  | transactRoutes ttl agentId entries => (s.transactRoutes rfc ttl now agentId entries).2
  | deleteRoute hostname => s.deleteRoute hostname
  | markRevoked agentId => s.markRevoked now agentId
  | clearRoutes agentId => s.clearRoutes agentId
  | purgeExpiredAgents ttl => s.purgeExpiredAgents ttl now

/-- Statements that write `last_seen_at`. -/
def stampsLastSeen : Statement → Bool
  | insertAgent _ _ _ => true
  | heartbeat _ _ => true
  | _ => false

/-- Statements that write `enrollment_tokens`. -/
def writesTokens : Statement → Bool
  | insertToken _ => true
  | markToken _ => true
  | _ => false

variable (rfc : Rfc3339) (s : Store) (now : Int)

theorem insertToken_exec (hash : Text) :
    (insertToken hash).exec rfc s now =
      if hash ∈ s.enrollmentTokens.keys then s
      else { s with enrollmentTokens := s.enrollmentTokens.upsert hash ⟨toRfc3339 now, none⟩ } := by
  rw [exec, Store.insertToken, Table.insert?]
  split <;> rfl

theorem insertAgent_exec (agentId credentialHash : Text) (body : EnrollRequest) :
    (insertAgent agentId credentialHash body).exec rfc s now =
      if agentId ∈ s.agents.keys then s
      else
        ⟨s.agents.upsert agentId (Store.enrolledRow now credentialHash body),
          s.enrollmentTokens, s.routes⟩ := by
  rw [exec, Store.insertAgent, Table.insert?]
  split <;> rfl

/-- The `WHERE` clause of the update as a condition on the row it rewrites. -/
theorem heartbeat_exec_find? (agentId tailscaleIpv4 a : Text) :
    ((heartbeat agentId tailscaleIpv4).exec rfc s now).agents.find? a =
      (s.agents.find? a).map fun row =>
        if a = agentId ∧ row.revokedAt = none then
          { row with lastSeenAt := some (toRfc3339 now), tailscaleIpv4 := tailscaleIpv4 }
        else row := by
  rw [exec, Store.heartbeat]
  cases known : s.getAgent agentId with
  | error e =>
      have absent : ∀ row, s.agents.find? agentId = some row → row.revokedAt ≠ none := by
        intro row found live
        rw [Store.getAgent_eq_ok.mpr ⟨found, live⟩] at known
        cases known
      show s.agents.find? a = _
      cases found : s.agents.find? a with
      | none => rfl
      | some row =>
          rw [Option.map_some, if_neg]
          rintro ⟨rfl, live⟩
          exact absent row found live
  | ok row =>
      obtain ⟨found, live⟩ := Store.getAgent_eq_ok.mp known
      show (s.agents.modifyAt agentId _).find? a = _
      rw [Table.find?_modifyAt]
      by_cases same : a = agentId
      · subst same
        simp [found, live]
      · simp [same]

theorem heartbeat_exec_routes (agentId tailscaleIpv4 : Text) :
    ((heartbeat agentId tailscaleIpv4).exec rfc s now).routes = s.routes ∧
      ((heartbeat agentId tailscaleIpv4).exec rfc s now).enrollmentTokens =
        s.enrollmentTokens := by
  rw [exec, Store.heartbeat]
  cases s.getAgent agentId <;> exact ⟨rfl, rfl⟩

theorem enrollmentTokens_exec {st : Statement} (silent : st.writesTokens = false) :
    (st.exec rfc s now).enrollmentTokens = s.enrollmentTokens := by
  cases st with
  | insertToken _ => cases silent
  | markToken _ => cases silent
  | insertAgent agentId credentialHash body =>
      rw [insertAgent_exec]
      split <;> rfl
  | heartbeat agentId tailscaleIpv4 => exact (heartbeat_exec_routes rfc s now _ _).2
  | transactRoutes _ _ _ => rfl
  | deleteRoute _ => rfl
  | markRevoked _ => rfl
  | clearRoutes _ => rfl
  | purgeExpiredAgents _ => rfl

/-! ## What a statement can do -/

/-- The ways a statement touches the row of an agent. -/
inductive AgentChange (agent : Text) (now : Int) : Statement → Option AgentRow → Option AgentRow →
    Prop
  | kept (st : Statement) (row : Option AgentRow) : AgentChange agent now st row row
  | enrolled (credentialHash : Text) (body : EnrollRequest) :
      AgentChange agent now (insertAgent agent credentialHash body) none
        (some (Store.enrolledRow now credentialHash body))
  | seen (tailscaleIpv4 : Text) (row : AgentRow) (live : row.revokedAt = none) :
      AgentChange agent now (heartbeat agent tailscaleIpv4) (some row)
        (some { row with lastSeenAt := some (toRfc3339 now), tailscaleIpv4 := tailscaleIpv4 })
  | revoked (row : AgentRow) :
      AgentChange agent now (markRevoked agent) (some row)
        (some { row with revokedAt := some (toRfc3339 now) })

theorem agentChange_exec (st : Statement) (agent : Text) :
    AgentChange agent now st (s.agents.find? agent) ((st.exec rfc s now).agents.find? agent) := by
  cases st with
  | insertAgent agentId credentialHash body =>
      rw [insertAgent_exec]
      by_cases known : agentId ∈ s.agents.keys
      · rw [if_pos known]
        exact .kept _ _
      · rw [if_neg known, Table.find?_upsert]
        by_cases same : agent = agentId
        · subst same
          rw [if_pos rfl, Table.find?_eq_none_iff.mpr known]
          exact .enrolled credentialHash body
        · rw [if_neg same]
          exact .kept _ _
  | heartbeat agentId tailscaleIpv4 =>
      rw [heartbeat_exec_find?]
      cases s.agents.find? agent with
      | none => exact .kept _ _
      | some row =>
          rw [Option.map_some]
          split
          · rename_i hit
            obtain ⟨rfl, live⟩ := hit
            exact .seen tailscaleIpv4 row live
          · exact .kept _ _
  | markRevoked agentId =>
      rw [exec, Store.markRevoked, Table.find?_modifyAt]
      by_cases same : agent = agentId
      · subst same
        rw [if_pos rfl]
        cases s.agents.find? agent with
        | none => exact .kept _ _
        | some row => exact .revoked row
      · rw [if_neg same]
        exact .kept _ _
  | insertToken hash =>
      rw [insertToken_exec]
      split <;> exact .kept _ _
  | markToken _ => exact .kept _ _
  | transactRoutes _ _ _ => exact .kept _ _
  | deleteRoute _ => exact .kept _ _
  | clearRoutes _ => exact .kept _ _
  | purgeExpiredAgents _ => exact .kept _ _

/-- The ways a statement changes the owner of a hostname. -/
inductive OwnerChange (rfc : Rfc3339) (s : Store) (now : Int) (host : Text) :
    Statement → Option Text → Prop
  | kept (st : Statement) : OwnerChange rfc s now host st (s.owner host)
  | claimed (ttl : Int) (agent : Text) (entries : List RouteEntry)
      (named : host ∈ entries.map RouteEntry.host)
      (free : conflictWith rfc ttl now s.agents agent s.routes host = none) :
      OwnerChange rfc s now host (transactRoutes ttl agent entries) (some agent)
  | withdrawn (ttl : Int) (agent : Text) (entries : List RouteEntry)
      (omitted : host ∉ entries.map RouteEntry.host) (own : s.owner host = some agent) :
      OwnerChange rfc s now host (transactRoutes ttl agent entries) none
  | deleted (hostname : Text) (same : host = toAsciiLowercase hostname) :
      OwnerChange rfc s now host (deleteRoute hostname) none
  | cleared (agent : Text) (own : s.owner host = some agent) :
      OwnerChange rfc s now host (clearRoutes agent) none
  | purged (ttl : Int) (agent : Text) (own : s.owner host = some agent)
      (expired : s.expiredAgent (toRfc3339 (now - ttl)) agent = true) :
      OwnerChange rfc s now host (purgeExpiredAgents ttl) none

theorem ownerChange_exec (st : Statement) (host : Text) :
    OwnerChange rfc s now host st ((st.exec rfc s now).owner host) := by
  cases st with
  | transactRoutes ttl agent entries =>
      rw [exec, Store.owner_transactRoutes]
      by_cases named : host ∈ entries.map RouteEntry.host
      · rw [if_pos named]
        by_cases free : conflictWith rfc ttl now s.agents agent s.routes host = none
        · rw [if_pos free]
          exact .claimed ttl agent entries named free
        · rw [if_neg free]
          exact .kept _
      · rw [if_neg named]
        cases own : s.owner host with
        | none =>
            rw [Option.filter_none, ← own]
            exact .kept _
        | some a =>
            by_cases same : a = agent
            · subst same
              rw [Option.filter_some_neg (by simp)]
              exact .withdrawn ttl a entries named own
            · rw [Option.filter_some_pos (by simpa using same), ← own]
              exact .kept _
  | deleteRoute hostname =>
      rw [exec, Store.owner_deleteRoute]
      by_cases same : host = toAsciiLowercase hostname
      · rw [if_pos same]
        exact .deleted hostname same
      · rw [if_neg same]
        exact .kept _
  | clearRoutes agent =>
      rw [exec, Store.owner_clearRoutes]
      cases own : s.owner host with
      | none =>
          rw [Option.filter_none, ← own]
          exact .kept _
      | some a =>
          by_cases same : a = agent
          · subst same
            rw [Option.filter_some_neg (by simp)]
            exact .cleared a own
          · rw [Option.filter_some_pos (by simpa using same), ← own]
            exact .kept _
  | purgeExpiredAgents ttl =>
      rw [exec, Store.owner_purgeExpiredAgents]
      cases own : s.owner host with
      | none =>
          rw [Option.filter_none, ← own]
          exact .kept _
      | some a =>
          by_cases expired : s.expiredAgent (toRfc3339 (now - ttl)) a = true
          · rw [Option.filter_some_neg (by simpa using expired)]
            exact .purged ttl a own expired
          · rw [Option.filter_some_pos (by simpa using expired), ← own]
            exact .kept _
  | insertToken hash =>
      rw [insertToken_exec]
      split <;> exact .kept _
  | insertAgent agentId credentialHash body =>
      rw [insertAgent_exec]
      split <;> exact .kept _
  | heartbeat agentId tailscaleIpv4 =>
      rw [Store.owner, (heartbeat_exec_routes rfc s now agentId tailscaleIpv4).1]
      exact .kept _
  | markToken _ => exact .kept _
  | markRevoked _ => exact .kept _

/-- Agents are never deleted and never revoked back. -/
theorem find?_agents_exec {s : Store} (st : Statement) {agent : Text} {row : AgentRow}
    (found : s.agents.find? agent = some row) :
    ∃ row', (st.exec rfc s now).agents.find? agent = some row' ∧
      (row.revokedAt ≠ none → row'.revokedAt ≠ none) := by
  have change := agentChange_exec rfc s now st agent
  rw [found] at change
  generalize (st.exec rfc s now).agents.find? agent = after at change ⊢
  cases change with
  | kept => exact ⟨row, rfl, id⟩
  | seen => exact ⟨_, rfl, id⟩
  | revoked => exact ⟨_, rfl, fun _ => by simp⟩

/-- No statement but the revocation of an agent makes it unusable. -/
theorem getAgent_exec {s : Store} {st : Statement} {agent : Text} {row : AgentRow}
    (live : s.getAgent agent = .ok row) (unrevoked : st ≠ markRevoked agent) :
    ∃ row', (st.exec rfc s now).getAgent agent = .ok row' := by
  obtain ⟨found, usable⟩ := Store.getAgent_eq_ok.mp live
  have change := agentChange_exec rfc s now st agent
  rw [found] at change
  simp only [Store.getAgent_eq_ok]
  generalize (st.exec rfc s now).agents.find? agent = after at change ⊢
  cases change with
  | kept => exact ⟨row, rfl, usable⟩
  | seen tailscaleIpv4 _ _ => exact ⟨_, rfl, usable⟩
  | revoked => exact absurd rfl unrevoked

end Statement

namespace Store

/-! ## Two invariants of the routes table -/

/-- Every stored hostname is lowercase. -/
def LowercaseHosts (s : Store) : Prop :=
  ∀ host agent, s.owner host = some agent → toAsciiLowercase host = host

theorem LowercaseHosts.exec {s : Store} (lower : LowercaseHosts s) (rfc : Rfc3339) (now : Int)
    (st : Statement) : LowercaseHosts (st.exec rfc s now) := by
  intro host agent owned
  have change := st.ownerChange_exec rfc s now host
  rw [owned] at change
  generalize held : some agent = after at change
  cases change with
  | kept => exact lower host agent held.symm
  | claimed ttl agent entries named free =>
      obtain ⟨entry, -, rfl⟩ := List.mem_map.mp named
      exact toAsciiLowercase_idem entry.hostname
  | withdrawn => cases held
  | deleted => cases held
  | cleared => cases held
  | purged => cases held

/-- Every route belongs to an agent that exists and is not revoked. -/
def OwnersLive (s : Store) : Prop :=
  ∀ host agent, s.owner host = some agent → ∃ row, s.getAgent agent = .ok row

theorem OwnersLive.exec {s : Store} (live : OwnersLive s) (rfc : Rfc3339) (now : Int)
    (st : Statement)
    (checked : ∀ ttl agent entries, st = .transactRoutes ttl agent entries →
      ∃ row, s.getAgent agent = .ok row)
    (unrevoking : ∀ agent, st ≠ .markRevoked agent) : OwnersLive (st.exec rfc s now) := by
  intro host agent owned
  have change := st.ownerChange_exec rfc s now host
  rw [owned] at change
  suffices usable : ∃ row, s.getAgent agent = .ok row by
    obtain ⟨row, known⟩ := usable
    exact st.getAgent_exec rfc now known (unrevoking agent)
  generalize held : some agent = after at change
  cases change with
  | kept => exact live host agent held.symm
  | claimed ttl claimant entries named free =>
      cases held
      exact checked ttl agent entries rfl
  | withdrawn => cases held
  | deleted => cases held
  | cleared => cases held
  | purged => cases held

/-! ## The operations of `store.rs` -/

def createEnrollmentToken (s : Store) (now : Int) (hash : Text) : Except StorageError Store :=
  match s.insertToken now hash with
  | some s' => .ok s'
  | none => .error .constraint

def consumeEnrollmentToken (verifyToken : Text → Text → Bool) (s : Store) (now : Int)
    (token : Text) : Except StorageError Store :=
  match s.matchingToken verifyToken token with
  | some hash => .ok (s.markToken now hash)
  | none => .error (.other "invalid enrollment token".toList)

def enrollAgent (s : Store) (now : Int) (agentId credentialHash : Text) (body : EnrollRequest) :
    Except StorageError Store :=
  match s.insertAgent now agentId credentialHash body with
  | some s' => .ok s'
  | none => .error .constraint

/-- `Storage::put_routes`: the agent check, then the transaction. -/
def putRoutes (s : Store) (rfc : Rfc3339) (ttl now : Int) (agentId : Text)
    (entries : List RouteEntry) : Except StorageError (PutRoutesOutcome × Store) :=
  match s.getAgent agentId with
  | .ok _ => .ok (s.transactRoutes rfc ttl now agentId entries)
  | .error e => .error e

def revokeAgent (s : Store) (now : Int) (agentId : Text) : Store :=
  (s.markRevoked now agentId).clearRoutes agentId

/-- The store an operation leaves: a failed one changed nothing. -/
def commit (s : Store) (result : Except StorageError Store) : Store :=
  match result with
  | .ok s' => s'
  | .error _ => s

end Store

/-- A call of one of the operations, with the values it generates. -/
inductive Operation where
  | createEnrollmentToken (hash : Text)
  | consumeEnrollmentToken (token : Text)
  | enrollAgent (agentId credentialHash : Text) (body : EnrollRequest)
  | heartbeat (agentId tailscaleIpv4 : Text)
  | putRoutes (ttl : Int) (agentId : Text) (entries : List RouteEntry)
  | deleteRoute (hostname : Text)
  | revokeAgent (agentId : Text)
  | purgeExpiredAgents (ttl : Int)

def Operation.apply (rfc : Rfc3339) (verifyToken : Text → Text → Bool) (s : Store) (now : Int) :
    Operation → Store
  | createEnrollmentToken hash => s.commit (s.createEnrollmentToken now hash)
  | consumeEnrollmentToken token => s.commit (s.consumeEnrollmentToken verifyToken now token)
  | enrollAgent agentId credentialHash body =>
      s.commit (s.enrollAgent now agentId credentialHash body)
  | heartbeat agentId tailscaleIpv4 => s.commit (s.heartbeat now agentId tailscaleIpv4)
  | putRoutes ttl agentId entries =>
      s.commit ((s.putRoutes rfc ttl now agentId entries).map Prod.snd)
  | deleteRoute hostname => s.deleteRoute hostname
  | revokeAgent agentId => s.revokeAgent now agentId
  | purgeExpiredAgents ttl => s.purgeExpiredAgents ttl now

/-! ## Sequential runs -/

/-- A store and the last reading of the clock. -/
structure Clocked where
  clock : Int
  store : Store

/-- One operation at a later instant. -/
def Clocked.step (rfc : Rfc3339) (verifyToken : Text → Text → Bool) (c : Clocked)
    (call : Int × Operation) : Option Clocked :=
  if c.clock ≤ call.1 then some ⟨call.1, call.2.apply rfc verifyToken c.store call.1⟩ else none

/-- The state is reached from the empty database by operations executed one at a
time, the clock never going back. -/
def Clocked.Sequential (rfc : Rfc3339) (verifyToken : Text → Text → Bool) (start : Int)
    (c : Clocked) : Prop :=
  Transition.Reach (Clocked.step rfc verifyToken) (fun _ _ => True) ⟨start, .empty⟩ c

end Tailroute.Storage
