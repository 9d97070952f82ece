/-
# Controller.PutHandler — `put_routes` from request to response

`putRoutesHandler` is the handler served without interruption: the token, the
policy over the whole list, the transaction, the refresh. `run_putRoutes` and
`run_putRoutes_forbidden` say that it is what the steps of `Controller.Tasks` do
when nothing comes in between.

Two things follow. The policy is a gate in front of the transaction: one refused
hostname turns the whole request away with that hostname's message and nothing
changes (`put_gated`), so neither the other routes of the list nor the withdrawals
it asks for happen. And what the response lists as accepted resolves right
afterwards, if its name is one DNS asks for as it is stored
(`accepted_resolvable`); a name sent with a trailing dot is stored beside the same
name without one (`dotted_twin_registered`).
-/
import Tailroute.Controller.Policy
import Tailroute.Dns.Server

namespace Tailroute.Controller

open Tailroute.Theory Tailroute.Common Tailroute.Storage Tailroute.Dns

set_option autoImplicit false

/-! ## The handler -/

/-- What a handler answers and leaves behind. -/
structure Served (α : Type) where
  answer : Except ApiError α
  store : Store
  registry : DnsRegistry

/-- `refresh_dns`: the registry it installs. -/
def refreshDns (env : Env) (store : Store) (readAt : Int) : DnsRegistry :=
  registryMap (store.activeDnsRoutes env.rfc env.ttl readAt)

/-- `put_routes`. The clock is read in the transaction and by the refresh. -/
def putRoutesHandler (env : Env) (store : Store) (registry : DnsRegistry) (now readAt : Int)
    (agentId : Text) (authorization : Option Text) (entries : List RouteEntry) :
    Served PutRoutesResponse :=
  match bearerToken authorization with
  | none => ⟨.error .unauthorized, store, registry⟩
  | some token =>
      match store.verifyAgentToken env.verifyToken agentId token with
      | .error _ => ⟨.error .unauthorized, store, registry⟩
      | .ok _ =>
          match hostnamesAllowed env.security (entries.map RouteEntry.hostname) with
          | .error message => ⟨.error (.forbidden message), store, registry⟩
          | .ok _ =>
              match store.putRoutes env.rfc env.ttl now agentId entries with
              | .error e => ⟨.error (.storage e), store, registry⟩
              | .ok (out, store) =>
                  ⟨.ok ⟨out.accepted, out.conflicts⟩, store, refreshDns env store readAt⟩

/-- The agent's credential is valid: the request bears a token that verifies. -/
def Credential (env : Env) (store : Store) (agentId : Text) (authorization : Option Text) : Prop :=
  ∃ token, bearerToken authorization = some token ∧
    store.verifyAgentToken env.verifyToken agentId token = .ok ()

theorem getAgent_of_verified {store : Store} {verifyToken : Text → Text → Bool}
    {agentId token : Text} (verified : store.verifyAgentToken verifyToken agentId token = .ok ()) :
    ∃ row, store.getAgent agentId = .ok row := by
  rw [Store.verifyAgentToken] at verified
  cases found : store.agents.find? agentId with
  | none =>
      rw [found] at verified
      cases verified
  | some row =>
      rw [found] at verified
      refine ⟨row, Store.getAgent_eq_ok.mpr ⟨found, ?_⟩⟩
      by_contra revoked
      simp only [Option.isSome_iff_ne_none.mpr revoked, if_true] at verified
      cases verified

section Handler

variable {env : Env} {store : Store} {registry : DnsRegistry} {now readAt : Int} {agentId : Text}
  {authorization : Option Text} {entries : List RouteEntry}

/-- With a valid credential the policy decides: refused with its message, or
transacted and refreshed. -/
theorem putRoutesHandler_of_credential (valid : Credential env store agentId authorization) :
    putRoutesHandler env store registry now readAt agentId authorization entries =
      match hostnamesAllowed env.security (entries.map RouteEntry.hostname) with
      | .error message => ⟨.error (.forbidden message), store, registry⟩
      | .ok _ =>
          let done := store.transactRoutes env.rfc env.ttl now agentId entries
          ⟨.ok ⟨done.1.accepted, done.1.conflicts⟩, done.2, refreshDns env done.2 readAt⟩ := by
  obtain ⟨token, bears, verified⟩ := valid
  obtain ⟨row, live⟩ := getAgent_of_verified verified
  simp only [putRoutesHandler, bears, verified, Store.putRoutes, live]

/-- A response means that the request had a valid credential and passed the policy. -/
theorem credential_of_answered {response : PutRoutesResponse}
    (answered : (putRoutesHandler env store registry now readAt agentId authorization
      entries).answer = .ok response) :
    Credential env store agentId authorization ∧
      hostnamesAllowed env.security (entries.map RouteEntry.hostname) = .ok () := by
  rw [putRoutesHandler] at answered
  cases bears : bearerToken authorization with
  | none =>
      rw [bears] at answered
      cases answered
  | some token =>
      rw [bears] at answered
      cases verified : store.verifyAgentToken env.verifyToken agentId token with
      | error e =>
          simp only [verified] at answered
          cases answered
      | ok _ =>
          cases allowed : hostnamesAllowed env.security (entries.map RouteEntry.hostname) with
          | error message =>
              simp only [verified, allowed] at answered
              cases answered
          | ok _ => exact ⟨⟨token, bears, verified⟩, rfl⟩

end Handler

/-! ## The handler is the run of its steps -/

section Steps

variable {env : Env} {s : State} {id : Nat} {now : Int} {task : Task}

theorem step_spawn {request : Request} (free : s.tasks.find? id = none)
    (started : request.start = some task) :
    step env s (.spawn id request) = some { s with tasks := s.tasks.upsert id task } := by
  simp only [step, started, Option.bind_some, Table.insert?,
    if_neg (Table.find?_eq_none_iff.mp free), Option.map_some]

theorem step_advance (later : s.clock ≤ now) (running : s.tasks.find? id = some task) :
    step env s (.advance id now) = some (s.perform env id now (task.move env s now)) := by
  simp only [step, if_pos later, running, Option.map_some]

theorem find?_spawned (tasks : Table Nat Task) : (tasks.upsert id task).find? id = some task := by
  rw [Table.find?_upsert, if_pos rfl]

/-- The handler stays in its slot until it ends. -/
theorem find?_perform (m : Move) : (s.perform env id now m).tasks.find? id = m.next := by
  simp only [State.perform, Table.find?_put, if_true]

variable {agentId token : Text} {authorization : Option Text} {entries : List RouteEntry}
  {checkedAt readAt endedAt : Int}

/-- The steps of `put_routes`: the checks, the transaction, the two of the refresh. -/
def putRoutesSteps (id : Nat) (agentId : Text) (authorization : Option Text)
    (entries : List RouteEntry) (checkedAt now readAt endedAt : Int) : List Action :=
  [.spawn id (.putRoutes agentId authorization entries), .advance id checkedAt,
    .advance id checkedAt, .advance id now, .advance id readAt, .advance id endedAt]

theorem start_putRoutes (bears : bearerToken authorization = some token) :
    (Request.putRoutes agentId authorization entries).start =
      some (.putVerify agentId token entries) := by
  simp only [Request.start, bears, Option.map_some]

/-- A request is forbidden only by the policy, after its token has been accepted. -/
theorem refused_of_forbidden {message : Text}
    (refused : (putRoutesHandler env s.store s.registry now readAt agentId authorization
      entries).answer = .error (.forbidden message)) :
    ∃ token, bearerToken authorization = some token ∧
      s.store.verifyAgentToken env.verifyToken agentId token = .ok () ∧
        hostnamesAllowed env.security (entries.map RouteEntry.hostname) = .error message := by
  rw [putRoutesHandler] at refused
  cases bears : bearerToken authorization with
  | none =>
      rw [bears] at refused
      cases refused
  | some token =>
      rw [bears] at refused
      cases verified : s.store.verifyAgentToken env.verifyToken agentId token with
      | error e =>
          simp only [verified] at refused
          cases refused
      | ok _ =>
          cases allowed : hostnamesAllowed env.security (entries.map RouteEntry.hostname) with
          | ok _ =>
              obtain ⟨row, live⟩ := getAgent_of_verified verified
              simp only [verified, allowed, Store.putRoutes, live] at refused
              cases refused
          | error message' =>
              simp only [verified, allowed] at refused
              cases refused
              exact ⟨token, rfl, verified, rfl⟩

/-- **A served `put_routes` is its steps.** Run without interruption from a state in
which the slot is free, they leave the handler's store and registry, the slot free
again and the outcome in the log. -/
theorem run_putRoutes {response : PutRoutesResponse} (free : s.tasks.find? id = none)
    (ordered : s.clock ≤ checkedAt ∧ checkedAt ≤ now ∧ now ≤ readAt ∧ readAt ≤ endedAt)
    (answered : (putRoutesHandler env s.store s.registry now readAt agentId authorization
      entries).answer = .ok response) :
    ∃ s', Transition.run (step env) s
        (putRoutesSteps id agentId authorization entries checkedAt now readAt endedAt) = some s' ∧
      s'.store = (putRoutesHandler env s.store s.registry now readAt agentId authorization
        entries).store ∧
      s'.registry = (putRoutesHandler env s.store s.registry now readAt agentId authorization
        entries).registry ∧
      s'.tasks.find? id = none ∧
      s'.log = (now, .putRoutes agentId entries ⟨response.accepted, response.conflicts⟩) ::
        s.log := by
  obtain ⟨credential, allowed⟩ := credential_of_answered answered
  rw [putRoutesHandler_of_credential credential] at answered ⊢
  simp only [allowed] at answered ⊢
  cases answered
  obtain ⟨token, bears, verified⟩ := credential
  obtain ⟨row, live⟩ := getAgent_of_verified verified
  obtain ⟨later₁, later₂, later₃, later₄⟩ := ordered
  -- each state of the run, with what the handler does next there
  let s₀ : State := { s with tasks := s.tasks.upsert id (.putVerify agentId token entries) }
  let s₁ := s₀.perform env id checkedAt { next := some (.putCheck agentId entries) }
  let s₂ := s₁.perform env id checkedAt { next := some (.putTransact agentId entries) }
  let s₃ := s₂.perform env id now ((Task.putTransact agentId entries).move env s₂ now)
  let s₄ := s₃.perform env id readAt (Task.refreshRead.move env s₃ readAt)
  have verify : (Task.putVerify agentId token entries).move env s₀ checkedAt =
      { next := some (.putCheck agentId entries) } := by
    have same : s₀.store = s.store := rfl
    simp only [Task.move, same, verified, allowed]
  have check : (Task.putCheck agentId entries).move env s₁ checkedAt =
      { next := some (.putTransact agentId entries) } := by
    have same : s₁.store = s.store := rfl
    simp only [Task.move, same, live]
  have taken₁ : step env s₀ (.advance id checkedAt) = some s₁ := by
    rw [step_advance (s := s₀) later₁ (find?_spawned s.tasks), verify]
  have taken₂ : step env s₁ (.advance id checkedAt) = some s₂ := by
    rw [step_advance (s := s₁) (le_refl checkedAt) (find?_perform _), check]
  have taken₃ : step env s₂ (.advance id now) = some s₃ :=
    step_advance later₂ (find?_perform _)
  have taken₄ : step env s₃ (.advance id readAt) = some s₄ :=
    step_advance later₃ (find?_perform _)
  let snapshot : Snapshot := ⟨refreshDns env s₃.store readAt, s₃.commits, readAt⟩
  have carried : s₄.tasks.find? id = some (.refreshReplace snapshot) := find?_perform _
  have taken₅ : step env s₄ (.advance id endedAt) =
      some (s₄.perform env id endedAt { snapshot := some snapshot }) :=
    step_advance later₄ carried
  refine ⟨s₄.perform env id endedAt { snapshot := some snapshot }, ?_, rfl, rfl,
    find?_perform _, rfl⟩
  · rw [putRoutesSteps, Transition.run_cons (step_spawn free (start_putRoutes bears)),
      Transition.run_cons taken₁, Transition.run_cons taken₂, Transition.run_cons taken₃,
      Transition.run_cons taken₄, Transition.run_cons taken₅, Transition.run]

/-- **A refused `put_routes` is its one step**: the handler ends and nothing but the
clock has moved. -/
theorem run_putRoutes_forbidden {message : Text} (free : s.tasks.find? id = none)
    (later : s.clock ≤ checkedAt)
    (refused : (putRoutesHandler env s.store s.registry now readAt agentId authorization
      entries).answer = .error (.forbidden message)) :
    ∃ s', Transition.run (step env) s [.spawn id (.putRoutes agentId authorization entries),
        .advance id checkedAt] = some s' ∧
      s'.store = s.store ∧ s'.registry = s.registry ∧ s'.tasks.find? id = none ∧
      s'.log = s.log := by
  obtain ⟨token, bears, verified, turned⟩ := refused_of_forbidden refused
  let s₀ : State := { s with tasks := s.tasks.upsert id (.putVerify agentId token entries) }
  have verify : (Task.putVerify agentId token entries).move env s₀ checkedAt = {} := by
    have same : s₀.store = s.store := rfl
    simp only [Task.move, same, verified, turned]
  have taken : step env s₀ (.advance id checkedAt) = some (s₀.perform env id checkedAt {}) := by
    rw [step_advance (s := s₀) later (find?_spawned s.tasks), verify]
  refine ⟨s₀.perform env id checkedAt {}, ?_, rfl, rfl, find?_perform _, rfl⟩
  rw [Transition.run_cons (step_spawn free (start_putRoutes bears)), Transition.run_cons taken,
    Transition.run]

end Steps

/-! ## The policy is a gate -/

/-- The entries of a request that the policy accepts. -/
def allowedEntries (security : SecurityConfig) (entries : List RouteEntry) : List RouteEntry :=
  entries.filter fun entry => (hostnameAllowed security entry.hostname).isOk

theorem isOk_iff {security : SecurityConfig} {host : Text} :
    (hostnameAllowed security host).isOk = true ↔ hostnameAllowed security host = .ok () := by
  cases hostnameAllowed security host with
  | ok _ => exact ⟨fun _ => rfl, fun _ => rfl⟩
  | error message => constructor <;> intro impossible <;> cases impossible

/-- The first refusal is the answer. -/
theorem hostnamesAllowed_of_refused {security : SecurityConfig} {host message : Text}
    (refused : hostnameAllowed security host = .error message) (before after : List Text)
    (accepted : ∀ other ∈ before, hostnameAllowed security other = .ok ()) :
    hostnamesAllowed security (before ++ host :: after) = .error message := by
  induction before with
  | nil => simp [hostnamesAllowed, refused]
  | cons first before ih =>
      rw [List.forall_mem_cons] at accepted
      simp only [List.cons_append, hostnamesAllowed, accepted.1]
      exact ih accepted.2

section Gate

variable {env : Env} {store : Store} {agentId : Text} {authorization : Option Text}

/-- **One refused hostname turns the whole request away.** For an agent with a valid
credential, sending a list is the same as sending its allowed entries exactly if all
are allowed. Otherwise the answer is the refusal of the first one that is not, and
routes and registry are left as they were. -/
theorem put_gated (valid : Credential env store agentId authorization) (registry : DnsRegistry)
    (now readAt : Int) (entries : List RouteEntry) :
    (putRoutesHandler env store registry now readAt agentId authorization entries =
        putRoutesHandler env store registry now readAt agentId authorization
          (allowedEntries env.security entries) ↔
      ∀ entry ∈ entries, hostnameAllowed env.security entry.hostname = .ok ()) ∧
    ∀ before entry after message, entries = before ++ entry :: after →
      (∀ other ∈ before, hostnameAllowed env.security other.hostname = .ok ()) →
      hostnameAllowed env.security entry.hostname = .error message →
        putRoutesHandler env store registry now readAt agentId authorization entries =
          ⟨.error (.forbidden message), store, registry⟩ := by
  constructor
  · constructor
    · intro same entry member
      -- the allowed entries are always transacted, so the whole list was
      have kept : hostnamesAllowed env.security
          ((allowedEntries env.security entries).map RouteEntry.hostname) = .ok () := by
        rw [hostnamesAllowed_eq_ok]
        intro host named
        obtain ⟨other, listed, rfl⟩ := List.mem_map.mp named
        exact isOk_iff.mp (List.mem_filter.mp listed).2
      have answered := congrArg Served.answer same
      rw [putRoutesHandler_of_credential valid, putRoutesHandler_of_credential valid, kept]
        at answered
      cases passed : hostnamesAllowed env.security (entries.map RouteEntry.hostname) with
      | error message =>
          rw [passed] at answered
          cases answered
      | ok _ => exact hostnamesAllowed_eq_ok.mp passed _ (List.mem_map_of_mem member)
    · intro all
      rw [allowedEntries, List.filter_eq_self.mpr fun entry member => isOk_iff.mpr (all entry member)]
  · rintro before entry after message rfl accepted refused
    have turned : hostnamesAllowed env.security
        ((before ++ entry :: after).map RouteEntry.hostname) = .error message := by
      rw [List.map_append, List.map_cons]
      refine hostnamesAllowed_of_refused refused _ _ ?_
      intro host named
      obtain ⟨other, listed, rfl⟩ := List.mem_map.mp named
      exact accepted other listed
    rw [putRoutesHandler_of_credential valid, turned]

end Gate

def routeTo (hostname : Text) : RouteEntry :=
  ⟨hostname, "http://10.0.0.1:80".toList, none, none⟩

/-- The agent of `registerName`, with its token. -/
def bearerA : Option Text := some "Bearer a".toList

/-- An agent that owns `old.lan` sends `new.lan` and a blocked name. -/
theorem put_gated_blocked :
    ∃ s, Run guardedEnv OneAtATime 0 s ∧ Credential guardedEnv s.store "agt_a".toList bearerA ∧
      putRoutesHandler guardedEnv s.store s.registry 1 1 "agt_a".toList bearerA
          [routeTo "new.lan".toList, routeTo "router.lan".toList] =
        ⟨.error (.forbidden "hostname blocked by policy: router.lan".toList), s.store,
          s.registry⟩ := by
  have reached : Run guardedEnv OneAtATime 0 _ :=
    Transition.reach_of_run (registerName "old.lan".toList ++ [Action.advance 2 0]) rfl
  refine ⟨_, reached, ⟨"a".toList, rfl, rfl⟩, ?_⟩
  exact (put_gated ⟨"a".toList, rfl, rfl⟩ _ 1 1 _).2 [routeTo "new.lan".toList]
    (routeTo "router.lan".toList) [] _ rfl (by decide) (by decide)

/-- **A forbidden name blocks the other routes.** Without it, the request would
register `new.lan` and withdraw `old.lan`; with it, neither happens. -/
theorem refused_name_blocks_others :
    ∃ s, Run guardedEnv OneAtATime 0 s ∧ Credential guardedEnv s.store "agt_a".toList bearerA ∧
      let entries := [routeTo "new.lan".toList, routeTo "router.lan".toList]
      let whole := putRoutesHandler guardedEnv s.store s.registry 1 1 "agt_a".toList bearerA entries
      let trimmed := putRoutesHandler guardedEnv s.store s.registry 1 1 "agt_a".toList bearerA
        (allowedEntries guardedEnv.security entries)
      whole.answer = .error (.forbidden "hostname blocked by policy: router.lan".toList) ∧
      whole.store.owner "new.lan".toList = none ∧
      whole.store.owner "old.lan".toList = some "agt_a".toList ∧
      whole.registry.lookupA "old.lan".toList = some ⟨[100, 64, 0, 1], rfl⟩ ∧
      trimmed.answer = .ok ⟨["new.lan".toList], []⟩ ∧
      trimmed.store.owner "new.lan".toList = some "agt_a".toList ∧
      trimmed.store.owner "old.lan".toList = none ∧
      trimmed.registry.lookupA "old.lan".toList = none := by
  have reached : Run guardedEnv OneAtATime 0 _ :=
    Transition.reach_of_run (registerName "old.lan".toList ++ [Action.advance 2 0]) rfl
  exact ⟨_, reached, ⟨"a".toList, rfl, rfl⟩, by decide, by decide, by decide, by decide, by decide,
    by decide, by decide, by decide⟩

/-! ## Accepted names resolve -/

/-- `asText` gives the text that `query.name().to_ascii()` shows for a query of a
name. A hostname is asked for as it is stored if it has no trailing dot and that
text is the stored one up to letter case and trailing dots. -/
def AskedAsStored (asText : Text → Text) (hostname : Text) : Prop :=
  Undotted hostname ∧ lookupKey (asText (toAsciiLowercase hostname)) = toAsciiLowercase hostname

instance (asText : Text → Text) (hostname : Text) : Decidable (AskedAsStored asText hostname) :=
  inferInstanceAs (Decidable (_ ∧ _))

/-- `put_routes` requests name hosts that are asked for as they are stored. -/
def PlainPuts (asText : Text → Text) (_ : State) : Action → Prop
  | .spawn _ (.putRoutes _ _ entries) => ∀ entry ∈ entries, AskedAsStored asText entry.hostname
  | _ => True

instance (asText : Text → Text) (s : State) (a : Action) : Decidable (PlainPuts asText s a) :=
  match a with
  | .spawn _ (.putRoutes _ _ _) => inferInstanceAs (Decidable (∀ _ ∈ _, _))
  | .spawn _ (.createEnrollmentToken _ _) => isTrue trivial
  | .spawn _ (.enroll _ _) => isTrue trivial
  | .spawn _ (.heartbeat _ _ _) => isTrue trivial
  | .spawn _ (.deleteRoute _) => isTrue trivial
  | .spawn _ (.revokeAgent _) => isTrue trivial
  | .spawn _ .cleanupTick => isTrue trivial
  | .advance _ _ => isTrue trivial

/-- Sequential runs of such requests. -/
abbrev PlainRun (env : Env) (asText : Text → Text) (start : Int) : State → Prop :=
  Run env (fun s a => OneAtATime s a ∧ PlainPuts asText s a) start

section Resolves

variable {env : Env} {asText : Text → Text} {start : Int} {s : State}

theorem plain_putVerify (reached : PlainRun env asText start s) {id : Nat} {agentId token : Text}
    {entries : List RouteEntry}
    (running : s.tasks.find? id = some (.putVerify agentId token entries)) :
    ∀ entry ∈ entries, AskedAsStored asText entry.hostname := by
  refine Transition.Reach.invariant (I := fun s => ∀ id agentId token entries,
    s.tasks.find? id = some (.putVerify agentId token entries) →
      ∀ entry ∈ entries, AskedAsStored asText entry.hostname) ?_ ?_ reached
    id agentId token entries running
  · intro id agentId token entries running
    cases running
  · intro s a s' _ plain allowed taken id' agentId token entries found
    rcases step_cases taken with
      ⟨id, request, task, rfl, started, -, rfl⟩ | ⟨id, now, task, -, -, -, rfl⟩
    · rcases task_of_spawn started found with first | old
      · cases first with
        | putRoutes => exact allowed.2
      · exact plain id' agentId token entries old
    · rcases task_of_perform found with ⟨-, next⟩ | ⟨-, old⟩
      · -- no step leads to the check of a token
        have moved := moves env s now task
        generalize task.move env s now = m at next moved
        cases moved <;> cases next
      · exact plain id' agentId token entries old

/-- A stored name is what DNS looks up for it. -/
theorem lookupKey_of_owned (reached : PlainRun env asText start s) {host agent : Text}
    (own : s.store.owner host = some agent) : lookupKey host = host := by
  have names : Admitted Undotted s := by
    refine admitted reached ?_
    intro s past id agentId token entries running _ entry member
    exact (plain_putVerify past running entry member).1
  obtain ⟨hostname, undotted, rfl⟩ := names.owned host agent own
  rw [lookupKey_of_undotted (undotted_toAsciiLowercase undotted), toAsciiLowercase_idem]

/-- The registry a served request leaves answers for what it accepted. -/
theorem find?_of_accepted {store : Store} {registry : DnsRegistry} {now readAt : Int}
    {agentId : Text} {authorization : Option Text} {entries : List RouteEntry}
    {response : PutRoutesResponse} {row : AgentRow} {ip : Ipv4Addr} {host : Text}
    (answered : (putRoutesHandler env store registry now readAt agentId authorization
      entries).answer = .ok response)
    (found : store.agents.find? agentId = some row)
    (alive : Store.leaseAlive env.rfc env.ttl readAt row.lastSeenAt = true)
    (parsed : parseIpv4 row.tailscaleIpv4 = some ip) (accepted : host ∈ response.accepted) :
    host ∈ entries.map RouteEntry.host ∧
      (putRoutesHandler env store registry now readAt agentId authorization
        entries).registry.find? host = some ip := by
  obtain ⟨credential, allowed⟩ := credential_of_answered answered
  rw [putRoutesHandler_of_credential credential] at answered ⊢
  simp only [allowed] at answered ⊢
  cases answered
  obtain ⟨token, -, verified⟩ := credential
  obtain ⟨row', live⟩ := getAgent_of_verified verified
  obtain ⟨found', unrevoked⟩ := Store.getAgent_eq_ok.mp live
  rw [found] at found'
  cases found'
  obtain ⟨requested, free⟩ := mem_accepted.mp accepted
  have own := store.owner_transactRoutes env.rfc env.ttl now agentId entries host
  rw [if_pos requested, if_pos free] at own
  obtain ⟨route, stored, same⟩ := Store.owner_eq_some.mp own
  refine ⟨requested, ?_⟩
  rw [refreshDns, registryMap_find?]
  exact Store.dnsAnswer_eq_some.mpr ⟨route, row, stored, same ▸ found, unrevoked, alive, parsed⟩

/-- **Accepted means resolvable, and names are unique as DNS names**, in every
sequential run whose `put_routes` requests name hosts that are asked for as they are
stored. The lease has to last until the refresh reads the routes. -/
theorem accepted_resolvable (reached : PlainRun env asText start s) :
    (∀ now readAt agentId authorization entries response row ip,
      (∀ entry ∈ entries, AskedAsStored asText entry.hostname) →
      (putRoutesHandler env s.store s.registry now readAt agentId authorization
        entries).answer = .ok response →
      s.store.agents.find? agentId = some row →
      Store.leaseAlive env.rfc env.ttl readAt row.lastSeenAt = true →
      parseIpv4 row.tailscaleIpv4 = some ip →
      ∀ host ∈ response.accepted, ∀ (cfg : DnsServerConfig) (cache : ResponseCache) (sight : Sight),
        sight.listed = (putRoutesHandler env s.store s.registry now readAt agentId authorization
          entries).registry → sight.looked = sight.listed →
        answerQuery cfg cache ⟨asText host, .a⟩ sight =
          (.answered [⟨asText host, cfg.serviceTtl, .a ip⟩] .noError, cache)) ∧
    ∀ host host' agent agent', s.store.owner host = some agent →
      s.store.owner host' = some agent' → lookupKey host = lookupKey host' → agent = agent' := by
  constructor
  · intro now readAt agentId authorization entries response row ip plain answered found alive parsed
      host accepted cfg cache sight listed looked
    obtain ⟨requested, answers⟩ := find?_of_accepted answered found alive parsed accepted
    obtain ⟨entry, member, rfl⟩ := List.mem_map.mp requested
    have resolved : sight.listed.lookupA (asText entry.host) = some ip := by
      rw [DnsRegistry.lookupA, RouteEntry.host, (plain entry member).2, listed]
      exact answers
    simp only [answerQuery, DnsRegistry.contains, looked, resolved, Option.isSome_some, if_true]
  · intro host host' agent agent' own own' same
    rw [lookupKey_of_owned reached own, lookupKey_of_owned reached own'] at same
    subst same
    exact Option.some.inj (own.symm.trans own')

end Resolves

/-- A query of the wire shows its name with the root dot. -/
def rooted (name : Text) : Text := name ++ ".".toList

/-- `Web` is accepted as `web` and answered under it. -/
theorem accepted_resolvable_web :
    ∃ s, PlainRun plainEnv rooted 0 s ∧
      (putRoutesHandler plainEnv s.store s.registry 1 1 "agt_a".toList bearerA
        [routeTo "Web".toList]).answer = .ok ⟨["web".toList], []⟩ ∧
      ∀ (cfg : DnsServerConfig) (sight : Sight),
        sight.listed = (putRoutesHandler plainEnv s.store s.registry 1 1 "agt_a".toList bearerA
          [routeTo "Web".toList]).registry → sight.looked = sight.listed →
        answerQuery cfg Table.empty ⟨"web.".toList, .a⟩ sight =
          (.answered [⟨"web.".toList, cfg.serviceTtl, .a ⟨[100, 64, 0, 1], rfl⟩⟩] .noError,
            Table.empty) := by
  have reached : PlainRun plainEnv rooted 0 _ :=
    Transition.reach_of_run (registerName "old".toList ++ [Action.advance 2 0]) rfl
  refine ⟨_, reached, by decide, ?_⟩
  intro cfg sight listed looked
  exact (accepted_resolvable reached).1 1 1 "agt_a".toList bearerA [routeTo "Web".toList] _ _ _
    (by decide) rfl rfl (by decide) (by decide) "web".toList (by decide) cfg Table.empty sight
    listed looked

/-- A second agent enrolls and registers a hostname. -/
def registerSecond (hostname : Text) : List Action :=
  [.spawn 3 (.createEnrollmentToken [] "u".toList), .advance 3 0,
    .spawn 4 (.enroll (some "Bearer u".toList)
      ⟨"agt_b".toList, [], "b".toList, ⟨"b".toList, "100.64.0.2".toList, "f".toList⟩⟩),
    .advance 4 0, .advance 4 0, .advance 4 0] ++
    putRoutesSteps 5 "agt_b".toList (some "Bearer b".toList) [routeTo hostname] 0 0 0 0

/-- **A name with a trailing dot is accepted beside the same name without one.** Two
agents with live leases own `web` and `web.`; the second was told that `web.` is
accepted, and a query for it is answered with the address of the first. -/
theorem dotted_twin_registered :
    ∃ s, Run plainEnv OneAtATime 0 s ∧
      s.log.head? = some (0, .putRoutes "agt_b".toList [routeTo "web.".toList]
        ⟨["web.".toList], []⟩) ∧
      lastBeat s.log "agt_b".toList = some (0, "100.64.0.2".toList) ∧
      s.registry.lookupA "web.".toList = some ⟨[100, 64, 0, 1], rfl⟩ ∧
      s.store.owner "web".toList = some "agt_a".toList ∧
      s.store.owner "web.".toList = some "agt_b".toList ∧
      lookupKey "web".toList = lookupKey "web.".toList ∧
      ∀ agent ∈ ["agt_a".toList, "agt_b".toList], (s.store.agents.find? agent).any fun row =>
        Store.leaseAlive plainEnv.rfc plainEnv.ttl s.clock row.lastSeenAt :=
  Transition.exists_reach_of_run _
    (registerName "web".toList ++ [Action.advance 2 0] ++ registerSecond "web.".toList)
    (by decide +kernel)

end Tailroute.Controller
