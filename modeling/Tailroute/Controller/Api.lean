/-
# Controller.Api — every route of the controller as a handler

`handle` is `router` of `api.rs`: each request with the handler that serves it, taken
apart into its atomic steps. A step is one SQL statement (or the transaction of
`put_routes`), one critical section of the session store, or the replacement of the
registry; between two steps any other handler may run, and any statement may fail. The
cleanup task of `main.rs` is a request whose answer nobody reads.

What a handler draws (tokens, salts, ids) comes with the request. A probe of the
dashboard is a parameter of the environment: it reads the network and writes nothing
here.
-/
import Tailroute.Controller.AdminViews
import Tailroute.Controller.EnrollFailure
import Tailroute.Controller.Sessions
import Tailroute.Controller.Tasks
import Tailroute.Theory.Handlers

namespace Tailroute.Controller

open Tailroute.Theory Tailroute.Common Tailroute.Storage Tailroute.Dns

set_option autoImplicit false

/-! ## State, requests, answers -/

structure AppState where
  database : Database
  auditEvents : List AuditRow
  registry : DnsRegistry
  sessions : SessionStore
  dnsUp : Bool

namespace AppState

abbrev store (st : AppState) : Store := st.database.store

/-- The controller after it started on an empty database. -/
def init : AppState := ⟨⟨.empty, .empty, .empty⟩, [], .empty, .empty, false⟩

def setStore (st : AppState) (store : Store) : AppState := { st with database.store := store }

def setEnabled (st : AppState) (t : EnabledServices) : AppState :=
  { st with database.enabledServices := t }

end AppState

structure ApiEnv where
  rfc : Rfc3339
  leases : LeasesConfig
  security : SecurityConfig
  hashToken : Text → Text → Text
  verifyToken : Text → Text → Bool
  idna : Idna
  parseUrl : UrlParser
  json : JsonTexts
  services : ServicesJson
  admin : AdminConfig
  probe : Text → Text → ProbeResult

namespace ApiEnv

def ttl (env : ApiEnv) : Int := env.leases.agentTtlSeconds * nanosPerSecond

/-- The part of the environment that the lease machinery uses. -/
def lease (env : ApiEnv) : Env :=
  ⟨env.rfc, env.ttl, env.security, env.hashToken, env.verifyToken⟩

/-- The part that click-to-enable uses. -/
def enable (env : ApiEnv) : EnableEnv := ⟨env.idna, env.parseUrl, env.json, env.security⟩

end ApiEnv

/-- A container known by its identity only. -/
def oneService (identityKey : Text) : DiscoveredContainerDto :=
  ⟨identityKey, [], [], [], none, none, [], [], none, none, false⟩

/-- An environment to run concrete requests in: no policy, tokens that are their own hash,
the password `pw` and probes that are skipped. -/
def plainApi : ApiEnv where
  rfc := layoutParser
  leases := ⟨20, 90⟩
  security := ⟨[], []⟩
  hashToken := fun _ token => token
  verifyToken := fun hash token => hash == token
  idna := asciiIdna
  parseUrl := httpUrl
  json := ⟨quoteTexts, unquoteTexts false []⟩
  services := quotedServices
  admin := ⟨"admin".toList, [112, 119], 3600⟩
  probe := fun _ _ => ⟨.skipped, none, none⟩

/-- Two enrolled agents; the first has registered `web`. -/
def twoAgents : AppState :=
  AppState.init.setStore
    { Store.empty with
      agents := (Table.empty.upsert "agt_a".toList (Store.enrolledRow 0 "a".toList
          ⟨"a".toList, "100.64.0.1".toList, "e".toList⟩)).upsert "agt_b".toList
        (Store.enrolledRow 0 "b".toList ⟨"b".toList, "100.64.0.2".toList, "f".toList⟩)
      routes := Table.empty.upsert "web".toList
        ⟨"agt_a".toList, "http://10.0.0.1:80".toList, none, none, toRfc3339 0⟩ }

inductive ApiRequest where
  | health
  | ready
  | root (accept : Option Text)
  | adminUi
  | adminLogin (username password token : Text)
  | adminLogout (authorization : Option Text)
  | enroll (authorization : Option Text) (agent : NewAgent)
  | heartbeat (agentId : Text) (authorization : Option Text) (body : HeartbeatRequest)
  | putRoutes (agentId : Text) (authorization : Option Text) (entries : List RouteEntry)
  | putDiscovery (agentId : Text) (authorization : Option Text)
      (services : List DiscoveredContainerDto)
  | desiredServices (agentId : Text) (authorization : Option Text)
  | adminDiscovery (authorization : Option Text)
  | adminEnableService (authorization : Option Text) (token : Text) (body : EnableServiceRequest)
  | adminDisableService (authorization : Option Text) (id : Text)
  | adminAgents (authorization : Option Text)
  | adminRoutes (authorization : Option Text)
  | adminDashboard (authorization : Option Text)
  | adminDeleteRoute (authorization : Option Text) (hostname : Text)
  | adminCreateEnrollmentToken (authorization : Option Text) (salt token : Text)
  | adminRevokeAgent (authorization : Option Text) (agentId : Text)
  | cleanupTick
deriving DecidableEq

inductive Answer where
  | text (body : Text)
  | redirect (location : Text)
  | adminHtml
  | unavailable
  | noContent
  | login (response : LoginResponse)
  | enrolled (response : EnrollResponse)
  | routes (response : PutRoutesResponse)
  | desired (services : List DesiredEnabledService)
  | discovery (items : List AdminDiscoveryItem)
  | enabled (response : EnableServiceResponse)
  | agents (views : List AdminAgentView)
  | adminRoutes (views : List AdminRouteView)
  | dashboard (dashboard : AdminDashboard)
  | enrollmentToken (token : Text)
deriving DecidableEq

abbrev ApiHandler := Handler StorageError AppState (Except ApiError Answer)

/-! ## Pieces of handlers -/

def answerWith (a : Answer) : ApiHandler := .done (.ok a)

def refuseWith (e : ApiError) : ApiHandler := .done (.error e)

/-- A query, then `map_err(ApiError::Storage)?`. -/
def selectThen (next : Moment StorageError → AppState → ApiHandler) : ApiHandler :=
  .read fun t st =>
    match t.fault with
    | some e => refuseWith (.storage e)
    | none => next t st

/-- The result of a statement that writes: it fails because the database does or because
the statement is refused. -/
def attempted (write : Moment StorageError → AppState → Except StorageError AppState)
    (t : Moment StorageError) (st : AppState) : Except StorageError AppState :=
  match t.fault with
  | some e => .error e
  | none => write t st

/-- A statement that writes, then `map_err(ApiError::Storage)?`. -/
def writeThen (write : Moment StorageError → AppState → Except StorageError AppState)
    (next : ApiHandler) : ApiHandler :=
  .step (fun t st => match attempted write t st with | .ok st' => st' | .error _ => st)
    fun t st =>
      match attempted write t st with
      | .ok _ => next
      | .error e => refuseWith (.storage e)

/-- A statement whose result is dropped. -/
def writeAnyway (write : Moment StorageError → AppState → AppState) (next : ApiHandler) :
    ApiHandler :=
  .step (fun t st => if t.fault.isSome then st else write t st) fun _ _ => next

section Handlers

variable (env : ApiEnv)

/-- `check_admin`: the sessions are purged, and the presented one is dropped if it has
expired. -/
def checkAdmin (authorization : Option Text) (next : ApiHandler) : ApiHandler :=
  match bearerToken authorization with
  | none => refuseWith .unauthorized
  | some token =>
      .step (fun t st =>
          { st with sessions := (adminAuthorized env.admin st.sessions token t.first t.last).2 })
        fun t st =>
          if (adminAuthorized env.admin st.sessions token t.first t.last).1 then next
          else refuseWith .unauthorized

/-- `verify_agent_token`; a failed query counts as a wrong token. -/
def verifyThen (agentId token : Text) (next : ApiHandler) : ApiHandler :=
  .read fun t st =>
    match t.fault, st.store.verifyAgentToken env.verifyToken agentId token with
    | none, .ok _ => next
    | _, _ => refuseWith .unauthorized

/-- What the agent's requests begin with. -/
def checkAgent (agentId : Text) (authorization : Option Text) (next : ApiHandler) : ApiHandler :=
  match bearerToken authorization with
  | none => refuseWith .unauthorized
  | some token => verifyThen env agentId token next

/-- `registry.replace`, then the answer. -/
def replaceThen (map : DnsRegistry) (a : Answer) : ApiHandler :=
  .step (fun _ st => { st with registry := map }) fun _ _ => answerWith a

/-- `refresh_dns`, then the answer. -/
def refreshThen (a : Answer) : ApiHandler :=
  selectThen fun t st =>
    replaceThen (registryMap (st.store.activeDnsRoutes env.rfc env.ttl t.last)) a

/-! ## Agents -/

/-- `enroll_agent`, then the answer. -/
def enrollAgentThen (agent : NewAgent) : ApiHandler :=
  let credentialHash := env.hashToken agent.salt agent.agentToken
  writeThen (fun t st =>
      match st.store.insertAgent t.last agent.agentId credentialHash agent.body with
      | some store => .ok (st.setStore store)
      | none => .error .constraint)
    (answerWith (.enrolled
      ⟨agent.agentId, agent.agentToken, env.leases.heartbeatIntervalSeconds,
        env.leases.agentTtlSeconds⟩))

/-- The update of `consume_enrollment_token`, then `enroll_agent`. -/
def markTokenThen (agent : NewAgent) (hash : Text) : ApiHandler :=
  .step (fun t st => if t.fault.isSome then st else st.setStore (st.store.markToken t.last hash))
    fun t _ => if t.fault.isSome then refuseWith .unauthorized else enrollAgentThen env agent

/-- `consume_enrollment_token` from its query on; whatever goes wrong in it is answered
401. -/
def selectTokenThen (token : Text) (agent : NewAgent) : ApiHandler :=
  .read fun t st =>
    match t.fault, st.store.matchingToken env.verifyToken token with
    | none, some hash => markTokenThen env agent hash
    | _, _ => refuseWith .unauthorized

def enrollHandler (authorization : Option Text) (agent : NewAgent) : ApiHandler :=
  match bearerToken authorization with
  | none => refuseWith .unauthorized
  | some token => selectTokenThen env token agent

/-- `Storage::heartbeat`, then the refresh. -/
def beatThen (agentId tailscaleIpv4 : Text) : ApiHandler :=
  writeThen (fun t st => (st.store.heartbeat t.last agentId tailscaleIpv4).map st.setStore)
    (refreshThen env .noContent)

def heartbeatHandler (agentId : Text) (authorization : Option Text) (body : HeartbeatRequest) :
    ApiHandler :=
  checkAgent env agentId authorization (beatThen env agentId body.tailscaleIpv4)

/-- The transaction of `put_routes`, then the refresh and the answer. -/
def transactThen (agentId : Text) (entries : List RouteEntry) : ApiHandler :=
  .step (fun t st =>
      if t.fault.isSome then st
      else st.setStore (st.store.transactRoutes env.rfc env.ttl t.last agentId entries).2)
    fun t st =>
      match t.fault with
      | some e => refuseWith (.storage e)
      | none =>
          let out := (st.store.transactRoutes env.rfc env.ttl t.last agentId entries).1
          refreshThen env (.routes ⟨out.accepted, out.conflicts⟩)

/-- `put_routes` of the storage: the agent check, then the transaction. -/
def getAgentThen (agentId : Text) (entries : List RouteEntry) : ApiHandler :=
  selectThen fun _ st =>
    match st.store.getAgent agentId with
    | .error e => refuseWith (.storage e)
    | .ok _ => transactThen env agentId entries

/-- The policy check, then `put_routes` of the storage. -/
def allowedThen (agentId : Text) (entries : List RouteEntry) : ApiHandler :=
  match hostnamesAllowed env.security (entries.map RouteEntry.hostname) with
  | .error message => refuseWith (.forbidden message)
  | .ok _ => getAgentThen env agentId entries

def putRoutesApi (agentId : Text) (authorization : Option Text) (entries : List RouteEntry) :
    ApiHandler :=
  checkAgent env agentId authorization (allowedThen env agentId entries)

def putDiscoveryHandler (agentId : Text) (authorization : Option Text)
    (services : List DiscoveredContainerDto) : ApiHandler :=
  checkAgent env agentId authorization <|
    writeThen (fun t st =>
        (st.database.putDiscoverySnapshot t.last agentId (env.services.toText services)).map
          fun db => { st with database := db })
      (answerWith .noContent)

def desiredServicesHandler (agentId : Text) (authorization : Option Text) : ApiHandler :=
  checkAgent env agentId authorization <|
    selectThen fun _ st =>
      answerWith (.desired (desiredServices env.json st.database.enabledServices agentId))

/-! ## Admin -/

def adminLoginHandler (username password token : Text) : ApiHandler :=
  if !verifyPassword env.admin username password then refuseWith .unauthorized
  else
    -- the expiry is computed before the lock is taken
    .read fun t _ =>
      let exp := t.last + env.admin.ttl
      .step (fun t st => { st with sessions := st.sessions.createLocked token exp t.last })
        fun _ _ => answerWith (.login (loginResponse env.admin token))

def adminLogoutHandler (authorization : Option Text) : ApiHandler :=
  match bearerToken authorization with
  | some token =>
      .step (fun _ st => { st with sessions := st.sessions.revoke token })
        fun _ _ => answerWith .noContent
  | none => answerWith .noContent

def adminDiscoveryHandler (authorization : Option Text) : ApiHandler :=
  checkAdmin env authorization <|
    selectThen fun t st =>
      let agents := st.store.listAgents env.rfc t.last
      selectThen fun _ st =>
        let enabled := st.database.enabledServices.listAllEnabled
        selectThen fun _ st =>
          answerWith (.discovery (adminDiscoveryItems env.json env.services agents enabled
            st.database.listDiscoverySnapshots))

/-- `format!("{} -> {}", body.identity_key, hosts.join(","))`. -/
def enableDetail (identityKey : Text) (hosts : List Text) : Text :=
  identityKey ++ " -> ".toList ++ [','].intercalate hosts

def adminEnableHandler (authorization : Option Text) (token : Text) (body : EnableServiceRequest) :
    ApiHandler :=
  checkAdmin env authorization <|
    match checkEnable env.enable body with
    | .error e => refuseWith e
    | .ok intent =>
        let id := enabledId token
        writeThen (fun t st =>
            (st.database.enabledServices.upsertEnabledService
              (decide (body.agentId ∈ st.store.agents.keys)) t.last id body.agentId
              body.identityKey intent.containerName (env.json.toText intent.hostnames)
              intent.backend).map st.setEnabled) <|
          writeAnyway (fun t st =>
              { st with
                auditEvents := audit st.auditEvents t.last "service_enable".toList
                  (enableDetail body.identityKey intent.hostnames) }) <|
            selectThen fun _ st =>
              let all := st.database.enabledServices.listEnabledForAgent body.agentId
              let final := all.find? fun record => record.identityKey == body.identityKey
              answerWith (.enabled ⟨(final.map EnabledServiceRecord.id).getD id⟩)

def adminDisableHandler (authorization : Option Text) (id : Text) : ApiHandler :=
  checkAdmin env authorization <|
    writeThen (fun t st =>
        (st.database.enabledServices.setEnabledService t.last id false).map st.setEnabled) <|
      writeAnyway (fun t st =>
          { st with auditEvents := audit st.auditEvents t.last "service_disable".toList id })
        (answerWith .noContent)

def adminAgentsHandler (authorization : Option Text) : ApiHandler :=
  checkAdmin env authorization <|
    selectThen fun t st =>
      let agents := st.store.listAgents env.rfc t.last
      .read fun t _ => answerWith (.agents (agents.map (adminAgentView env.ttl t.last)))

def adminRoutesHandler (authorization : Option Text) : ApiHandler :=
  checkAdmin env authorization <|
    selectThen fun t st =>
      let rows := st.store.listRoutesAdmin env.rfc env.ttl t.last
      selectThen fun t st =>
        answerWith (.adminRoutes (adminRouteViews rows (st.store.listAgents env.rfc t.last)))

def adminDashboardHandler (authorization : Option Text) : ApiHandler :=
  checkAdmin env authorization <|
    .read fun now _ =>
      selectThen fun t st =>
        let agents := st.store.listAgents env.rfc t.last
        selectThen fun t st =>
          let rows := st.store.listRoutesAdmin env.rfc env.ttl t.last
          answerWith (.dashboard (adminDashboard env.probe env.ttl now.last agents rows))

/-- `delete_route`, then the refresh. -/
def deleteRouteThen (hostname : Text) : ApiHandler :=
  writeThen (fun _ st => .ok (st.setStore (st.store.deleteRoute hostname)))
    (refreshThen env .noContent)

def adminDeleteRouteHandler (authorization : Option Text) (hostname : Text) : ApiHandler :=
  checkAdmin env authorization (deleteRouteThen env hostname)

/-- `create_enrollment_token`, then the answer. -/
def createTokenThen (salt token : Text) : ApiHandler :=
  writeThen (fun t st =>
      match st.store.insertToken t.last (env.hashToken salt token) with
      | some store => .ok (st.setStore store)
      | none => .error .constraint)
    (answerWith (.enrollmentToken token))

def adminCreateEnrollmentTokenHandler (authorization : Option Text) (salt token : Text) :
    ApiHandler :=
  checkAdmin env authorization (createTokenThen env salt token)

/-- The second statement of `revoke_agent`, then the refresh. -/
def clearRoutesThen (agentId : Text) : ApiHandler :=
  writeThen (fun _ st => .ok (st.setStore (st.store.clearRoutes agentId)))
    (refreshThen env .noContent)

/-- `revoke_agent`. -/
def markRevokedThen (agentId : Text) : ApiHandler :=
  writeThen (fun t st => .ok (st.setStore (st.store.markRevoked t.last agentId)))
    (clearRoutesThen env agentId)

def adminRevokeAgentHandler (authorization : Option Text) (agentId : Text) : ApiHandler :=
  checkAdmin env authorization (markRevokedThen env agentId)

/-! ## The rest, and the router -/

def readyHandler : ApiHandler :=
  .read fun t st =>
    if t.fault.isSome then answerWith .unavailable
    else if st.dnsUp then answerWith (.text "ready".toList)
    else answerWith .unavailable

def rootAnswer (accept : Option Text) : Answer :=
  if "text/html".toList <:+: accept.getD [] then .redirect "/admin/".toList
  else .text "tailsvc-controller\n".toList

/-- One turn of the cleanup loop; it goes on after errors. -/
def cleanupHandler : ApiHandler :=
  writeAnyway (fun t st => st.setStore (st.store.purgeExpiredAgents env.ttl t.last))
    (refreshThen env .noContent)

/-- `router`. -/
def handle : ApiRequest → ApiHandler
  | .health => answerWith (.text "ok".toList)
  | .ready => readyHandler
  | .root accept => answerWith (rootAnswer accept)
  | .adminUi => answerWith .adminHtml
  | .adminLogin username password token => adminLoginHandler env username password token
  | .adminLogout authorization => adminLogoutHandler authorization
  | .enroll authorization agent => enrollHandler env authorization agent
  | .heartbeat agentId authorization body => heartbeatHandler env agentId authorization body
  | .putRoutes agentId authorization entries => putRoutesApi env agentId authorization entries
  | .putDiscovery agentId authorization services =>
      putDiscoveryHandler env agentId authorization services
  | .desiredServices agentId authorization => desiredServicesHandler env agentId authorization
  | .adminDiscovery authorization => adminDiscoveryHandler env authorization
  | .adminEnableService authorization token body => adminEnableHandler env authorization token body
  | .adminDisableService authorization id => adminDisableHandler env authorization id
  | .adminAgents authorization => adminAgentsHandler env authorization
  | .adminRoutes authorization => adminRoutesHandler env authorization
  | .adminDashboard authorization => adminDashboardHandler env authorization
  | .adminDeleteRoute authorization hostname => adminDeleteRouteHandler env authorization hostname
  | .adminCreateEnrollmentToken authorization salt token =>
      adminCreateEnrollmentTokenHandler env authorization salt token
  | .adminRevokeAgent authorization agentId => adminRevokeAgentHandler env authorization agentId
  | .cleanupTick => cleanupHandler env

end Handlers

/-- The status line of an answer. -/
def Answer.status : Answer → Nat
  | .redirect _ => 307
  | .unavailable => 503
  | .noContent => 204
  | _ => 200

/-- `impl IntoResponse for ApiError`. -/
def ApiError.status : ApiError → Nat
  | .unauthorized => 401
  | .forbidden _ => 403
  | .storage _ => 500

/-- The status line the client sees. -/
def statusOf : Except ApiError Answer → Nat
  | .ok a => a.status
  | .error e => e.status

end Tailroute.Controller
