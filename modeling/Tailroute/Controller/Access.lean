/-
# Controller.Access — who may change what

`ApiRequest.access` says whose credential a request needs and `Change` which writes that
credential is good for; `handle_obeys` ties the two to the handlers, once, for any
contract. `ApiRun.invariant` is the rule that comes of it: what survives the changes of the
permitted accesses holds over every interleaving of any requests, with any statement
failing.
-/
import Tailroute.Controller.Api

namespace Tailroute.Controller

open Tailroute.Theory Tailroute.Common Tailroute.Storage Tailroute.Dns

set_option autoImplicit false

/-! ## Credentials -/

/-- The credential that a request needs. -/
inductive Access where
  | anyone
  | password
  | enrollment
  | agent (agentId : Text)
  | admin
  | cleanup
deriving DecidableEq

def ApiRequest.access : ApiRequest → Access
  | .health => .anyone
  | .ready => .anyone
  | .root _ => .anyone
  | .adminUi => .anyone
  | .adminLogin _ _ _ => .password
  | .adminLogout _ => .anyone
  | .enroll _ _ => .enrollment
  | .heartbeat agentId _ _ => .agent agentId
  | .putRoutes agentId _ _ => .agent agentId
  | .putDiscovery agentId _ _ => .agent agentId
  | .desiredServices agentId _ => .agent agentId
  | .adminDiscovery _ => .admin
  | .adminEnableService _ _ _ => .admin
  | .adminDisableService _ _ => .admin
  | .adminAgents _ => .admin
  | .adminRoutes _ => .admin
  | .adminDashboard _ => .admin
  | .adminDeleteRoute _ _ => .admin
  | .adminCreateEnrollmentToken _ _ _ => .admin
  | .adminRevokeAgent _ _ => .admin
  | .cleanupTick => .cleanup

/-- The `Authorization` header. -/
def ApiRequest.authorization : ApiRequest → Option Text
  | .adminLogout authorization => authorization
  | .enroll authorization _ => authorization
  | .heartbeat _ authorization _ => authorization
  | .putRoutes _ authorization _ => authorization
  | .putDiscovery _ authorization _ => authorization
  | .desiredServices _ authorization => authorization
  | .adminDiscovery authorization => authorization
  | .adminEnableService authorization _ _ => authorization
  | .adminDisableService authorization _ => authorization
  | .adminAgents authorization => authorization
  | .adminRoutes authorization => authorization
  | .adminDashboard authorization => authorization
  | .adminDeleteRoute authorization _ => authorization
  | .adminCreateEnrollmentToken authorization _ _ => authorization
  | .adminRevokeAgent authorization _ => authorization
  | _ => none

/-- The bearer token is good for the access at this moment. -/
def Access.admits (env : ApiEnv) (t : Moment StorageError) (st : AppState) (token : Text) :
    Access → Bool
  | .anyone => true
  | .password => true
  | .enrollment => (st.store.matchingToken env.verifyToken token).isSome
  | .agent agentId => (st.store.verifyAgentToken env.verifyToken agentId token).isOk
  | .admin => (adminAuthorized env.admin st.sessions token t.first t.last).1
  | .cleanup => true

/-- The access is checked with a bearer token. -/
def Access.bearing : Access → Bool
  | .enrollment => true
  | .agent _ => true
  | .admin => true
  | _ => false

/-- The request comes with the credential it needs. -/
def ApiRequest.authorized (env : ApiEnv) (t : Moment StorageError) (st : AppState)
    (r : ApiRequest) : Bool :=
  match r with
  | .adminLogin username password _ => verifyPassword env.admin username password
  | r => !r.access.bearing ||
      (bearerToken r.authorization).any fun token => r.access.admits env t st token

/-! ## Writes -/

/-- Who may send a statement. -/
def sender : Statement → Access
  | .insertToken _ => .admin
  | .markToken _ => .enrollment
  | .insertAgent _ _ _ => .enrollment
  | .heartbeat agentId _ => .agent agentId
  | .transactRoutes _ agentId _ => .agent agentId
  | .deleteRoute _ => .admin
  | .markRevoked _ => .admin
  | .clearRoutes _ => .admin
  | .purgeExpiredAgents _ => .cleanup

/-- The lease time of a statement is the configured one. -/
def Configured (env : ApiEnv) : Statement → Prop
  | .transactRoutes ttl _ _ => ttl = env.ttl
  | .purgeExpiredAgents ttl => ttl = env.ttl
  | _ => True

/-- The writes a credential is good for, apart from those to the sessions. -/
inductive Change (env : ApiEnv) (t : Moment StorageError) (st : AppState) :
    Access → AppState → Prop
  | stored (s : Statement) (configured : Configured env s)
      (known : ∀ ttl agentId entries, s = .transactRoutes ttl agentId entries →
        agentId ∈ st.store.agents.keys) :
      Change env t st (sender s) (st.setStore (s.exec env.rfc st.store t.last))
  | reported (agentId payloadJson : Text) (db : Database)
      (ran : st.database.putDiscoverySnapshot t.last agentId payloadJson = .ok db) :
      Change env t st (.agent agentId) { st with database := db }
  | enabled (token : Text) (body : EnableServiceRequest) (intent : Intent)
      (checked : checkEnable env.enable body = .ok intent) (services : EnabledServices)
      (ran : st.database.enabledServices.upsertEnabledService
        (decide (body.agentId ∈ st.store.agents.keys)) t.last (enabledId token) body.agentId
        body.identityKey intent.containerName (env.json.toText intent.hostnames) intent.backend =
          .ok services) :
      Change env t st .admin (st.setEnabled services)
  | disabled (id : Text) (services : EnabledServices)
      (ran : st.database.enabledServices.setEnabledService t.last id false = .ok services) :
      Change env t st .admin (st.setEnabled services)
  | audited (events : List AuditRow) : Change env t st .admin { st with auditEvents := events }
  | refreshed (access : Access) (map : DnsRegistry) :
      Change env t st access { st with registry := map }

/-- Agents are never deleted. -/
theorem Change.keys {env : ApiEnv} {t : Moment StorageError} {st st' : AppState} {access : Access}
    (change : Change env t st access st') {agentId : Text}
    (known : agentId ∈ st.store.agents.keys) : agentId ∈ st'.store.agents.keys := by
  cases change with
  | stored s =>
      obtain ⟨row, found⟩ := Table.mem_keys_iff.mp known
      obtain ⟨row', found', -⟩ := s.find?_agents_exec env.rfc t.last found
      exact Table.mem_keys_iff.mpr ⟨row', found'⟩
  | reported _ _ db ran =>
      obtain ⟨-, rfl⟩ := Database.of_putDiscoverySnapshot ran
      exact known
  | enabled => exact known
  | disabled => exact known
  | audited => exact known
  | refreshed => exact known

/-! ## Handlers keep to their access -/

/-- The request is allowed to act only if `permits` says so for its access or its
credential is not good. -/
def Barred (env : ApiEnv) (permits : Access → Prop) (r : ApiRequest) (t : Moment StorageError)
    (st : AppState) : Prop :=
  ¬permits r.access → r.authorized env t st = false

instance (env : ApiEnv) (permits : Access → Prop) [DecidablePred permits] (r : ApiRequest)
    (t : Moment StorageError) (st : AppState) : Decidable (Barred env permits r t st) :=
  inferInstanceAs (Decidable (_ → _))

section Obedience

variable {env : ApiEnv} {c : Contract StorageError AppState} {permits : Access → Prop}
  {access : Access} {allowed : Moment StorageError → AppState → Prop}

/-- What a contract has to tolerate: writes to the sessions, and the changes of the
permitted accesses. Its rely keeps the agents. -/
structure Tolerates (env : ApiEnv) (c : Contract StorageError AppState)
    (permits : Access → Prop) : Prop where
  sessions : ∀ t st sessions, c.guarantee t st { st with sessions := sessions }
  changes : ∀ t st access st', permits access → Change env t st access st' →
    c.guarantee t st st'
  keys : ∀ st st', c.rely st st' → ∀ agentId ∈ st.store.agents.keys,
    agentId ∈ st'.store.agents.keys

/-- Any answer will do. -/
abbrev Keeps (c : Contract StorageError AppState)
    (allowed : Moment StorageError → AppState → Prop) (h : ApiHandler) (st : AppState) : Prop :=
  h.Obeys c allowed (fun _ => True) st

theorem keeps_done (a : Except ApiError Answer) (st : AppState) : Keeps c allowed (.done a) st :=
  trivial

theorem keeps_selectThen {next : Moment StorageError → AppState → ApiHandler} {st : AppState}
    (follows : ∀ t st', c.rely st st' → Keeps c allowed (next t st') st') :
    Keeps c allowed (selectThen next) st := by
  refine Handler.obeys_read ?_
  intro t st' changed _
  split
  · exact keeps_done _ _
  · exact follows t st' changed

theorem ok_of_attempted {write : Moment StorageError → AppState → Except StorageError AppState}
    {t : Moment StorageError} {st st' : AppState} (ran : attempted write t st = .ok st') :
    write t st = .ok st' := by
  unfold attempted at ran
  split at ran
  · cases ran
  · exact ran

theorem keeps_writeThen {write : Moment StorageError → AppState → Except StorageError AppState}
    {next : ApiHandler} {st : AppState}
    (writes : ∀ t st' st'', c.rely st st' → write t st' = .ok st'' → c.guarantee t st' st'')
    (follows : ∀ st', Keeps c allowed next st') : Keeps c allowed (writeThen write next) st := by
  refine Handler.obeys_step ?_
  intro t st' changed _
  cases ran : attempted write t st' with
  | error e => exact ⟨c.idle t st', keeps_done _ _⟩
  | ok st'' => exact ⟨writes t st' st'' changed (ok_of_attempted ran), follows st''⟩

theorem keeps_writeAnyway {write : Moment StorageError → AppState → AppState} {next : ApiHandler}
    {st : AppState} (writes : ∀ t st', c.guarantee t st' (write t st'))
    (follows : ∀ st', Keeps c allowed next st') : Keeps c allowed (writeAnyway write next) st := by
  refine Handler.obeys_step ?_
  intro t st' _ _
  split
  · exact ⟨c.idle t st', follows st'⟩
  · exact ⟨writes t st', follows _⟩

theorem keeps_refreshThen (tolerates : Tolerates env c permits) (permitted : permits access)
    (a : Answer) (st : AppState) : Keeps c allowed (refreshThen env a) st := by
  refine keeps_selectThen ?_
  intro t st' _
  refine Handler.obeys_step ?_
  intro t' st'' _ _
  exact ⟨tolerates.changes t' st'' access _ permitted (.refreshed access _), keeps_done _ _⟩

/-- `check_admin` lets no one through whose credential is not good. -/
theorem keeps_checkAdmin (tolerates : Tolerates env c permits) {r : ApiRequest}
    (isAdmin : r.access = .admin) {next : ApiHandler} (st : AppState)
    (follows : permits .admin → ∀ st', Keeps c (Barred env permits r) next st') :
    Keeps c (Barred env permits r) (checkAdmin env r.authorization next) st := by
  unfold checkAdmin
  cases bears : bearerToken r.authorization with
  | none => exact keeps_done _ _
  | some token =>
      refine Handler.obeys_step ?_
      intro t st' _ barred
      refine ⟨tolerates.sessions t st' _, ?_⟩
      by_cases permitted : permits .admin
      · split
        · exact follows permitted _
        · exact keeps_done _ _
      · have bad := barred (by rw [isAdmin]; exact permitted)
        have refused : (adminAuthorized env.admin st'.sessions token t.first t.last).1 = false := by
          unfold ApiRequest.authorized at bad
          split at bad
          · cases isAdmin
          · simpa [isAdmin, Access.bearing, bears, Access.admits] using bad
        rw [if_neg (by rw [refused]; exact Bool.false_ne_true)]
        exact keeps_done _ _

/-- An agent's request that passes its check is of a permitted access, and the agent is
enrolled. -/
theorem keeps_checkAgent {r : ApiRequest} {agentId : Text} (isAgent : r.access = .agent agentId)
    {next : ApiHandler} (st : AppState)
    (follows : permits (.agent agentId) → ∀ st', agentId ∈ st'.store.agents.keys →
      Keeps c (Barred env permits r) next st') :
    Keeps c (Barred env permits r) (checkAgent env agentId r.authorization next) st := by
  unfold checkAgent
  cases bears : bearerToken r.authorization with
  | none => exact keeps_done _ _
  | some token =>
      refine Handler.obeys_read ?_
      intro t st' _ barred
      split
      · rename_i verified
        apply follows
        · by_contra never
          have bad := barred (by rw [isAgent]; exact never)
          unfold ApiRequest.authorized at bad
          split at bad
          · cases isAgent
          · simp [isAgent, Access.bearing, bears, Access.admits, verified, Except.isOk,
              Except.toBool] at bad
        · unfold Store.verifyAgentToken at verified
          split at verified
          · cases verified
          · rename_i row found
            exact Table.mem_keys_iff.mpr ⟨row, found⟩
      · exact keeps_done _ _

/-! ## The routes of the router, one by one -/

theorem change_insertAgent {t : Moment StorageError} {st st' : AppState} {agentId hash : Text}
    {body : EnrollRequest}
    (ran : (match st.store.insertAgent t.last agentId hash body with
      | some store => .ok (st.setStore store)
      | none => .error .constraint : Except StorageError AppState) = .ok st') :
    Change env t st .enrollment st' := by
  split at ran
  · rename_i store inserted
    cases ran
    have executed : (Statement.insertAgent agentId hash body).exec env.rfc st.store t.last =
        store := by
      rw [Statement.exec, inserted, Option.getD_some]
    rw [← executed]
    exact .stored (.insertAgent agentId hash body) trivial (by simp)
  · cases ran

theorem change_insertToken {t : Moment StorageError} {st st' : AppState} {hash : Text}
    (ran : (match st.store.insertToken t.last hash with
      | some store => .ok (st.setStore store)
      | none => .error .constraint : Except StorageError AppState) = .ok st') :
    Change env t st .admin st' := by
  split at ran
  · rename_i store inserted
    cases ran
    have executed : (Statement.insertToken hash).exec env.rfc st.store t.last = store := by
      rw [Statement.exec, inserted, Option.getD_some]
    rw [← executed]
    exact .stored (.insertToken hash) trivial (by simp)
  · cases ran

theorem change_heartbeat {t : Moment StorageError} {st st' : AppState} {agentId address : Text}
    (ran : (st.store.heartbeat t.last agentId address).map st.setStore = .ok st') :
    Change env t st (.agent agentId) st' := by
  cases beat : st.store.heartbeat t.last agentId address with
  | error e =>
      rw [beat] at ran
      cases ran
  | ok store =>
      rw [beat] at ran
      cases ran
      have executed : (Statement.heartbeat agentId address).exec env.rfc st.store t.last =
          store := by
        rw [Statement.exec, beat]
        rfl
      rw [← executed]
      exact .stored (.heartbeat agentId address) trivial (by simp)

/-- A mapped result comes from a result. -/
theorem of_map_eq_ok {ε α β : Type} {f : α → β} {x : Except ε α} {b : β} (mapped : x.map f = .ok b) :
    ∃ a, x = .ok a ∧ f a = b := by
  cases x with
  | error e => cases mapped
  | ok a =>
      cases mapped
      exact ⟨a, rfl, rfl⟩

theorem keeps_enroll (tolerates : Tolerates env c permits) (authorization : Option Text)
    (agent : NewAgent) (st : AppState) :
    Keeps c (Barred env permits (.enroll authorization agent))
      (enrollHandler env authorization agent) st := by
  unfold enrollHandler
  cases bears : bearerToken authorization with
  | none => exact keeps_done _ _
  | some token =>
      refine Handler.obeys_read ?_
      intro t st' _ barred
      split
      · rename_i hash _ matched
        have permitted : permits .enrollment := by
          by_contra never
          have bad := barred never
          simp [ApiRequest.authorized, ApiRequest.access, Access.bearing, ApiRequest.authorization,
            bears, Access.admits, matched] at bad
        refine Handler.obeys_step ?_
        intro t' st'' _ _
        split
        · exact ⟨c.idle t' st'', keeps_done _ _⟩
        · refine ⟨tolerates.changes t' st'' _ _ permitted
            (.stored (.markToken hash) trivial (by simp)), ?_⟩
          refine keeps_writeThen ?_ fun _ => keeps_done _ _
          intro t'' before after _ ran
          exact tolerates.changes t'' before _ after permitted (change_insertAgent ran)
      · exact keeps_done _ _

theorem keeps_putRoutes (tolerates : Tolerates env c permits) (agentId : Text)
    (authorization : Option Text) (entries : List RouteEntry) (st : AppState) :
    Keeps c (Barred env permits (.putRoutes agentId authorization entries))
      (putRoutesApi env agentId authorization entries) st := by
  refine keeps_checkAgent (r := .putRoutes agentId authorization entries) rfl st ?_
  intro permitted st' known
  unfold allowedThen
  split
  · exact keeps_done _ _
  · refine keeps_selectThen ?_
    intro t st'' changed
    split
    · exact keeps_done _ _
    · refine Handler.obeys_step ?_
      intro t' before changed' _
      have still : agentId ∈ before.store.agents.keys :=
        tolerates.keys _ _ changed' agentId (tolerates.keys _ _ changed agentId known)
      cases t'.fault with
      | some e => exact ⟨c.idle t' before, keeps_done _ _⟩
      | none =>
          refine ⟨tolerates.changes t' before _ _ permitted
            (.stored (.transactRoutes env.ttl agentId entries) rfl ?_),
            keeps_refreshThen tolerates permitted _ _⟩
          intro _ _ _ same
          cases same
          exact still

theorem keeps_adminEnable (tolerates : Tolerates env c permits) (authorization : Option Text)
    (token : Text) (body : EnableServiceRequest) (st : AppState) :
    Keeps c (Barred env permits (.adminEnableService authorization token body))
      (adminEnableHandler env authorization token body) st := by
  refine keeps_checkAdmin tolerates (r := .adminEnableService authorization token body) rfl st ?_
  intro permitted st'
  split
  · exact keeps_done _ _
  · rename_i intent checked
    refine keeps_writeThen ?_ ?_
    · intro t before after _ ran
      obtain ⟨services, upserted, rfl⟩ := of_map_eq_ok ran
      exact tolerates.changes t before _ _ permitted
        (.enabled token body intent checked services upserted)
    · intro st''
      refine keeps_writeAnyway ?_ fun _ => keeps_selectThen fun _ _ _ => keeps_done _ _
      intro t before
      exact tolerates.changes t before _ _ permitted (.audited _)

theorem keeps_adminDisable (tolerates : Tolerates env c permits) (authorization : Option Text)
    (id : Text) (st : AppState) :
    Keeps c (Barred env permits (.adminDisableService authorization id))
      (adminDisableHandler env authorization id) st := by
  refine keeps_checkAdmin tolerates (r := .adminDisableService authorization id) rfl st ?_
  intro permitted st'
  refine keeps_writeThen ?_ ?_
  · intro t before after _ ran
    obtain ⟨services, cleared, rfl⟩ := of_map_eq_ok ran
    exact tolerates.changes t before _ _ permitted (.disabled _ services cleared)
  · intro st''
    refine keeps_writeAnyway ?_ fun _ => keeps_done _ _
    intro t before
    exact tolerates.changes t before _ _ permitted (.audited _)

/-- A statement of the admin that is never refused. -/
theorem keeps_adminStatement (tolerates : Tolerates env c permits) (permitted : permits .admin)
    {s : Statement} (isAdmin : sender s = .admin) (configured : Configured env s)
    {next : ApiHandler} (follows : ∀ st', Keeps c allowed next st') (st : AppState) :
    Keeps c allowed
      (writeThen (fun t st => .ok (st.setStore (s.exec env.rfc st.store t.last))) next) st := by
  refine keeps_writeThen ?_ follows
  intro t before after _ ran
  cases ran
  refine tolerates.changes t before .admin _ permitted ?_
  rw [← isAdmin]
  refine .stored s configured ?_
  rintro ttl agentId entries rfl
  cases isAdmin

/-- **Every handler keeps to its access**: it writes sessions, and what its access is good
for once its credential has been checked. -/
theorem handle_obeys (tolerates : Tolerates env c permits) (r : ApiRequest) (st : AppState) :
    Keeps c (Barred env permits r) (handle env r) st := by
  cases r with
  | health => exact keeps_done _ _
  | ready =>
      refine Handler.obeys_read ?_
      intro t st' _ _
      split
      · exact keeps_done _ _
      · split <;> exact keeps_done _ _
  | root accept => exact keeps_done _ _
  | adminUi => exact keeps_done _ _
  | adminLogin username password token =>
      simp only [handle, adminLoginHandler]
      split
      · exact keeps_done _ _
      · refine Handler.obeys_read ?_
        intro t st' _ _
        refine Handler.obeys_step ?_
        intro t' st'' _ _
        exact ⟨tolerates.sessions t' st'' _, keeps_done _ _⟩
  | adminLogout authorization =>
      simp only [handle, adminLogoutHandler]
      split
      · refine Handler.obeys_step ?_
        intro t st' _ _
        exact ⟨tolerates.sessions t st' _, keeps_done _ _⟩
      · exact keeps_done _ _
  | enroll authorization agent => exact keeps_enroll tolerates authorization agent st
  | heartbeat agentId authorization body =>
      refine keeps_checkAgent (r := .heartbeat agentId authorization body) rfl st ?_
      intro permitted st' _
      refine keeps_writeThen ?_ fun st'' => keeps_refreshThen tolerates permitted _ _
      intro t before after _ ran
      exact tolerates.changes t before _ after permitted (change_heartbeat ran)
  | putRoutes agentId authorization entries =>
      exact keeps_putRoutes tolerates agentId authorization entries st
  | putDiscovery agentId authorization services =>
      refine keeps_checkAgent (r := .putDiscovery agentId authorization services) rfl st ?_
      intro permitted st' _
      refine keeps_writeThen ?_ fun _ => keeps_done _ _
      intro t before after _ ran
      obtain ⟨db, put, rfl⟩ := of_map_eq_ok ran
      exact tolerates.changes t before _ _ permitted (.reported agentId _ db put)
  | desiredServices agentId authorization =>
      refine keeps_checkAgent (r := .desiredServices agentId authorization) rfl st ?_
      exact fun _ _ _ => keeps_selectThen fun _ _ _ => keeps_done _ _
  | adminDiscovery authorization =>
      refine keeps_checkAdmin tolerates (r := .adminDiscovery authorization) rfl st ?_
      exact fun _ _ => keeps_selectThen fun _ _ _ => keeps_selectThen fun _ _ _ =>
        keeps_selectThen fun _ _ _ => keeps_done _ _
  | adminEnableService authorization token body =>
      exact keeps_adminEnable tolerates authorization token body st
  | adminDisableService authorization id => exact keeps_adminDisable tolerates authorization id st
  | adminAgents authorization =>
      refine keeps_checkAdmin tolerates (r := .adminAgents authorization) rfl st ?_
      exact fun _ _ => keeps_selectThen fun _ _ _ => Handler.obeys_read fun _ _ _ _ =>
        keeps_done _ _
  | adminRoutes authorization =>
      refine keeps_checkAdmin tolerates (r := .adminRoutes authorization) rfl st ?_
      exact fun _ _ => keeps_selectThen fun _ _ _ => keeps_selectThen fun _ _ _ =>
        keeps_done _ _
  | adminDashboard authorization =>
      refine keeps_checkAdmin tolerates (r := .adminDashboard authorization) rfl st ?_
      exact fun _ _ => Handler.obeys_read fun _ _ _ _ => keeps_selectThen fun _ _ _ =>
        keeps_selectThen fun _ _ _ => keeps_done _ _
  | adminDeleteRoute authorization hostname =>
      refine keeps_checkAdmin tolerates (r := .adminDeleteRoute authorization hostname) rfl st ?_
      intro permitted st'
      exact keeps_adminStatement tolerates permitted (s := .deleteRoute hostname) rfl trivial
        (fun _ => keeps_refreshThen tolerates permitted _ _) st'
  | adminCreateEnrollmentToken authorization salt token =>
      refine keeps_checkAdmin tolerates
        (r := .adminCreateEnrollmentToken authorization salt token) rfl st ?_
      intro permitted st'
      refine keeps_writeThen ?_ fun _ => keeps_done _ _
      intro t before after _ ran
      exact tolerates.changes t before _ after permitted (change_insertToken ran)
  | adminRevokeAgent authorization agentId =>
      refine keeps_checkAdmin tolerates (r := .adminRevokeAgent authorization agentId) rfl st ?_
      intro permitted st'
      refine keeps_adminStatement tolerates permitted (s := .markRevoked agentId) rfl trivial
        (fun st'' => ?_) st'
      exact keeps_adminStatement tolerates permitted (s := .clearRoutes agentId) rfl trivial
        (fun _ => keeps_refreshThen tolerates permitted _ _) st''
  | cleanupTick =>
      refine Handler.obeys_step ?_
      intro t st' _ barred
      have permitted : permits .cleanup := by
        by_contra never
        cases barred never
      split
      · exact ⟨c.idle t st', keeps_refreshThen tolerates permitted _ _⟩
      · exact ⟨tolerates.changes t st' _ _ permitted
          (.stored (.purgeExpiredAgents env.ttl) rfl (by simp)),
          keeps_refreshThen tolerates permitted _ _⟩

end Obedience

/-! ## Runs of the interface -/

/-- The requests in flight or answered, with the state they share. -/
abbrev Serving := Pool StorageError ApiRequest AppState (Except ApiError Answer)

/-- Any interleaving of any requests from a state on; of the accesses that are not
permitted, only requests with a bad credential. -/
abbrev ApiRun (env : ApiEnv) (permits : Access → Prop) (start : Int) (st : AppState) :
    Serving → Prop :=
  Transition.Reach (Pool.step (handle env)) (Pool.Admits (Barred env permits))
    ⟨start, st, .empty⟩

section Runs

variable {env : ApiEnv} {permits : Access → Prop} {start : Int} {st₀ : AppState} {p : Serving}

/-- A property of clock and state that survives the passage of time, writes to the
sessions and the changes of the permitted accesses holds throughout. -/
theorem ApiRun.invariant {I : Int → AppState → Prop} (base : I start st₀)
    (later : ∀ clock clock' st, clock ≤ clock' → I clock st → I clock' st)
    (sessions : ∀ clock st sessions, I clock st → I clock { st with sessions := sessions })
    (changes : ∀ clock (t : Moment StorageError) st access st', clock ≤ t.first →
      permits access → I clock st → Change env t st access st' → I t.last st')
    (reached : ApiRun env permits start st₀ p) : I p.clock p.shared := by
  let c : Contract StorageError AppState :=
    { rely := fun st st' => ∀ agentId ∈ st.store.agents.keys, agentId ∈ st'.store.agents.keys
      guarantee := fun t st st' =>
        (∀ agentId ∈ st.store.agents.keys, agentId ∈ st'.store.agents.keys) ∧
          ∀ clock, clock ≤ t.first → I clock st → I t.last st'
      trans := fun first second agentId known => second agentId (first agentId known)
      idle := fun t st => ⟨fun _ known => known, fun clock before holds =>
        later clock t.last st (before.trans t.ordered) holds⟩
      relies := fun kept => kept.1 }
  have tolerates : Tolerates env c permits :=
    { sessions := fun t st s => ⟨fun _ known => known, fun clock before holds =>
        later clock t.last _ (before.trans t.ordered) (sessions clock st s holds)⟩
      changes := fun t st access st' permitted change =>
        ⟨fun _ known => change.keys known, fun clock before holds =>
          changes clock t st access st' before permitted holds change⟩
      keys := fun _ _ grows => grows }
  have idle : (⟨start, st₀, .empty⟩ : Serving).Sound c (Barred env permits) fun _ _ => True :=
    Pool.sound_empty c _ _ start st₀
  refine (Pool.invariant base idle ?_ ?_ reached).1
  · exact fun _ st r _ => handle_obeys tolerates r st
  · exact fun clock t st st' before holds kept => kept.2 clock before holds

end Runs

end Tailroute.Controller
