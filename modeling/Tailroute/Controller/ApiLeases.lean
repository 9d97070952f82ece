/-
# Controller.ApiLeases — the interface refines the lease machine

`Controller.Tasks` has the requests that touch leases and nothing else: no sessions, no
discovery, no intents, no failing statements. Here every run of the whole interface is
followed by a run of that machine, step by step (`Abstracts.accept`, `Abstracts.advance`);
`Controller.Restarts` draws the conclusion.

`StandsFor` relates a handler to the task that stands for it. A request of an admin has no
task before its check, nor has the cleanup tick before its purge, which may fail without
keeping the tick from the refresh; a handler that failed leaves its task behind, which then
never moves again; handlers that touch neither store nor registry have none.
-/
import Mathlib.Algebra.Order.BigOperators.Group.List
import Mathlib.Algebra.Order.Ring.Nat
import Tailroute.Controller.Access
import Tailroute.Controller.History

namespace Tailroute.Controller

open Tailroute.Theory Tailroute.Common Tailroute.Storage Tailroute.Dns

set_option autoImplicit false

variable {env : ApiEnv}

/-! ## Handlers without a task -/

/-- A step leaves the store and the registry alone. -/
def silentContract : Contract StorageError AppState where
  rely := fun _ _ => True
  guarantee := fun _ st st' => st'.store = st.store ∧ st'.registry = st.registry
  trans := fun _ _ => trivial
  idle := fun _ _ => ⟨rfl, rfl⟩
  relies := fun _ => trivial

def Silent (h : ApiHandler) : Prop := ∀ st, Keeps silentContract (fun _ _ => True) h st

theorem silent_done (a : Except ApiError Answer) : Silent (.done a) := fun _ => trivial

theorem silent_read {rest : Moment StorageError → AppState → ApiHandler}
    (follows : ∀ t st, Silent (rest t st)) : Silent (.read rest) :=
  fun _ => Handler.obeys_read fun t st _ _ => follows t st st

theorem silent_step {write : Moment StorageError → AppState → AppState}
    {rest : Moment StorageError → AppState → ApiHandler}
    (leaves : ∀ t st, (write t st).store = st.store ∧ (write t st).registry = st.registry)
    (follows : ∀ t st, Silent (rest t st)) : Silent (.step write rest) :=
  fun _ => Handler.obeys_step fun t st _ _ => ⟨leaves t st, follows t st _⟩

theorem silent_selectThen {next : Moment StorageError → AppState → ApiHandler}
    (follows : ∀ t st, Silent (next t st)) : Silent (selectThen next) :=
  fun _ => keeps_selectThen fun t st _ => follows t st st

theorem silent_writeThen {write : Moment StorageError → AppState → Except StorageError AppState}
    {next : ApiHandler}
    (leaves : ∀ t st st', write t st = .ok st' → st'.store = st.store ∧ st'.registry = st.registry)
    (follows : Silent next) : Silent (writeThen write next) :=
  fun _ => keeps_writeThen (fun t st st' _ ran => leaves t st st' ran) follows

theorem silent_checkAdmin {authorization : Option Text} {next : ApiHandler} (follows : Silent next) :
    Silent (checkAdmin env authorization next) := by
  unfold checkAdmin
  split
  · exact silent_done _
  · refine silent_step (fun _ _ => ⟨rfl, rfl⟩) fun t st => ?_
    split
    · exact follows
    · exact silent_done _

theorem silent_checkAgent {agentId : Text} {authorization : Option Text} {next : ApiHandler}
    (follows : Silent next) : Silent (checkAgent env agentId authorization next) := by
  unfold checkAgent
  split
  · exact silent_done _
  · refine silent_read fun t st => ?_
    split
    · exact follows
    · exact silent_done _

theorem Silent.advance {h h' : ApiHandler} {t : Moment StorageError} {st st' : AppState}
    (silent : Silent h) (taken : h.advance? t st = some (st', h')) :
    (st'.store = st.store ∧ st'.registry = st.registry) ∧ Silent h' := by
  cases h with
  | done a => cases taken
  | step write rest =>
      cases taken
      obtain ⟨leaves, follows⟩ := silent st t st trivial trivial
      exact ⟨leaves, fun st'' => follows.stable trivial⟩

/-! ## A deletion without effect -/

/-- A hostname nobody has. -/
theorem exists_absent_host (store : Store) :
    ∃ host, toAsciiLowercase host ∉ store.routes.keys := by
  refine ⟨List.replicate ((store.routes.keys.map List.length).sum + 1) 'a', fun known => ?_⟩
  have short := List.le_sum_of_mem (List.mem_map_of_mem (f := List.length) known)
  simp only [toAsciiLowercase, List.length_map, List.length_replicate] at short
  omega

theorem deleteRoute_of_absent {store : Store} {host : Text}
    (absent : toAsciiLowercase host ∉ store.routes.keys) : store.deleteRoute host = store := by
  have same : (store.routes.deleteWhere fun h _ => decide (h = toAsciiLowercase host)) =
      store.routes := by
    rw [Table.deleteWhere]
    congr
    rw [List.filter_eq_self]
    intro row listed
    simp only [Bool.not_eq_true', decide_eq_false_iff_not]
    intro equal
    exact absent (equal ▸ List.mem_map_of_mem listed)
  rw [Store.deleteRoute, same]

/-! ## Handlers and their tasks -/

inductive StandsFor (env : ApiEnv) : ApiHandler → Option Task → Prop
  | answered (a : Except ApiError Answer) (task : Option Task) : StandsFor env (.done a) task
  | silent (h : ApiHandler) (silent : Silent h) : StandsFor env h none
  | unchecked (authorization : Option Text) (request : Request) (task : Task) (next : ApiHandler)
      (starts : request.start = some task) (follows : StandsFor env next (some task)) :
      StandsFor env (checkAdmin env authorization next) none
  | createToken (salt token : Text) :
      StandsFor env (createTokenThen env salt token) (some (.createToken salt token))
  | enrollSelect (token : Text) (agent : NewAgent) :
      StandsFor env (selectTokenThen env token agent) (some (.enrollSelect token agent))
  | enrollMark (token hash : Text) (agent : NewAgent) :
      StandsFor env (markTokenThen env agent hash) (some (.enrollMark token hash agent))
  | enrollInsert (token : Text) (agent : NewAgent) :
      StandsFor env (enrollAgentThen env agent) (some (.enrollInsert token agent))
  | heartbeatVerify (agentId token tailscaleIpv4 : Text) :
      StandsFor env (verifyThen env agentId token (beatThen env agentId tailscaleIpv4))
        (some (.heartbeatVerify agentId token tailscaleIpv4))
  | heartbeatUpdate (agentId tailscaleIpv4 : Text) :
      StandsFor env (beatThen env agentId tailscaleIpv4)
        (some (.heartbeatUpdate agentId tailscaleIpv4))
  | putVerify (agentId token : Text) (entries : List RouteEntry) :
      StandsFor env (verifyThen env agentId token (allowedThen env agentId entries))
        (some (.putVerify agentId token entries))
  | putCheck (agentId : Text) (entries : List RouteEntry) :
      StandsFor env (getAgentThen env agentId entries) (some (.putCheck agentId entries))
  | putTransact (agentId : Text) (entries : List RouteEntry) :
      StandsFor env (transactThen env agentId entries) (some (.putTransact agentId entries))
  | deleteRoute (hostname : Text) :
      StandsFor env (deleteRouteThen env hostname) (some (.deleteRoute hostname))
  | revokeUpdate (agentId : Text) :
      StandsFor env (markRevokedThen env agentId) (some (.revokeUpdate agentId))
  | revokeDelete (agentId : Text) :
      StandsFor env (clearRoutesThen env agentId) (some (.revokeDelete agentId))
  | purge : StandsFor env (cleanupHandler env) none
  | refreshRead (a : Answer) : StandsFor env (refreshThen env a) (some .refreshRead)
  | refreshReplace (map : DnsRegistry) (snapshot : Snapshot) (a : Answer)
      (same : snapshot.map = map) :
      StandsFor env (replaceThen map a) (some (.refreshReplace snapshot))

/-! ## One step -/

/-- Steps at instants that `good` accepts. -/
def OnClock (good : Int → Prop) (_ : State) : Action → Prop
  | .spawn _ _ => True
  | .advance _ now => good now

/-- The machine after a step of handler `id` has the store of the interface and a registry
that `rel` relates to its; the task of that handler is `task`, and the others are where
they were. -/
structure Arrives (rel : DnsRegistry → DnsRegistry → Prop) (s' s : State) (id : Nat) (now : Int)
    (st : AppState) (task : Option Task) : Prop where
  store : s'.store = st.store
  registry : rel st.registry s'.registry
  clock : s'.clock ≤ now
  own : s'.tasks.find? id = task
  others : ∀ id', id' ≠ id → s'.tasks.find? id' = s.tasks.find? id'

section Step

variable {rel : DnsRegistry → DnsRegistry → Prop} {good : Int → Prop} {start : Int} {s : State}
  {id : Nat} {t : Moment StorageError} {st st' : AppState} {task : Task} {h h' : ApiHandler}

/-- The machine gets a request. -/
theorem run_spawn (reached : Run env.lease (OnClock good) start s) {id : Nat} {request : Request}
    {task : Task} (starts : request.start = some task) (fresh : s.tasks.find? id = none) :
    Run env.lease (OnClock good) start { s with tasks := s.tasks.upsert id task } := by
  refine reached.next (a := .spawn id request) trivial ?_
  have absent : id ∉ s.tasks.keys := Table.find?_eq_none_iff.mp fresh
  simp only [step, starts, Option.bind_some, Table.insert?, if_neg absent, Option.map_some]

/-- The machine stands still. -/
theorem arrives_waiting {task : Option Task} (store : s.store = st.store)
    (registry : rel st.registry s.registry) (clock : s.clock ≤ t.last)
    (own : s.tasks.find? id = task) : Arrives rel s s id t.last st task :=
  ⟨store, registry, clock, own, fun _ _ => rfl⟩

/-- The machine lets the task move. -/
theorem arrives_moving (st' : AppState) (reached : Run env.lease (OnClock good) start s)
    (fits : good t.last) (clock : s.clock ≤ t.last) (running : s.tasks.find? id = some task)
    {m : Move} (moved : task.move env.lease s t.last = m)
    (store : (m.statement.elim s.store fun x => x.exec env.rfc s.store t.last) = st'.store)
    (registry : rel st'.registry (m.snapshot.elim s.registry Snapshot.map)) :
    ∃ s', Run env.lease (OnClock good) start s' ∧ Arrives rel s' s id t.last st' m.next := by
  subst moved
  refine ⟨s.perform env.lease id t.last (task.move env.lease s t.last), ?_, store, registry,
    le_refl _, ?_, ?_⟩
  · refine reached.next (a := .advance id t.last) fits ?_
    simp only [step, if_pos clock, running, Option.map_some]
  · simp only [State.perform, Table.find?_put, if_true]
  · intro id' other
    simp only [State.perform, Table.find?_put, if_neg other]

/-- Before a step at `t` the machine has the store of the interface and a registry that
`rel` relates to its. -/
structure Abreast (env : ApiEnv) (rel : DnsRegistry → DnsRegistry → Prop) (good : Int → Prop)
    (start : Int) (s : State) (t : Moment StorageError) (st : AppState) : Prop where
  reached : Run env.lease (OnClock good) start s
  fits : good t.last
  store : s.store = st.store
  registry : rel st.registry s.registry
  clock : s.clock ≤ t.last

/-- The machine comes along to this state and this rest of handler `id`. -/
def CanFollow (env : ApiEnv) (rel : DnsRegistry → DnsRegistry → Prop) (good : Int → Prop)
    (start : Int) (s : State) (id : Nat) (now : Int) (st : AppState) (h : ApiHandler) : Prop :=
  ∃ s' task, Run env.lease (OnClock good) start s' ∧ Arrives rel s' s id now st task ∧
    StandsFor env h task

namespace Abreast

variable (abreast : Abreast env rel good start s t st)
include abreast

/-- A handler that ended leaves its task where it is. -/
theorem ends (a : Except ApiError Answer) :
    CanFollow env rel good start s id t.last st (.done a) :=
  ⟨s, _, abreast.reached,
    arrives_waiting abreast.store abreast.registry abreast.clock rfl, .answered a _⟩

/-- The machine lets the task move along. -/
theorem moves (running : s.tasks.find? id = some task) {m : Move}
    (moved : task.move env.lease s t.last = m)
    (store : (m.statement.elim s.store fun x => x.exec env.rfc s.store t.last) = st'.store)
    (registry : rel st'.registry (m.snapshot.elim s.registry Snapshot.map))
    (stands : StandsFor env h' m.next) : CanFollow env rel good start s id t.last st' h' := by
  obtain ⟨s', reached, arrives⟩ := arrives_moving st' abreast.reached abreast.fits abreast.clock
    running moved store registry
  exact ⟨s', m.next, reached, arrives, stands⟩

/-- The move executes what the handler has executed. -/
theorem executes (running : s.tasks.find? id = some task) {m : Move}
    (moved : task.move env.lease s t.last = m) {x : Statement} (runs : m.statement = some x)
    (does : x.exec env.rfc st.store t.last = st'.store)
    (registry : rel st'.registry (m.snapshot.elim s.registry Snapshot.map))
    (stands : StandsFor env h' m.next) : CanFollow env rel good start s id t.last st' h' := by
  refine abreast.moves running moved ?_ registry stands
  rw [runs, Option.elim_some, abreast.store]
  exact does

theorem write {write : Moment StorageError → AppState → Except StorageError AppState}
    {next : ApiHandler} (taken : (writeThen write next).advance? t st = some (st', h'))
    (follows : write t st = .ok st' → CanFollow env rel good start s id t.last st' next) :
    CanFollow env rel good start s id t.last st' h' := by
  simp only [writeThen, Handler.advance?, Option.some.injEq, Prod.mk.injEq] at taken
  obtain ⟨rfl, rfl⟩ := taken
  cases ran : attempted write t st with
  | error e => exact abreast.ends _
  | ok after =>
      simp only [ran] at follows
      exact follows (ok_of_attempted ran)

theorem select {next : Moment StorageError → AppState → ApiHandler}
    (taken : (selectThen next).advance? t st = some (st', h'))
    (follows : CanFollow env rel good start s id t.last st (next t st)) :
    CanFollow env rel good start s id t.last st' h' := by
  simp only [selectThen, Handler.read, Handler.advance?, Option.some.injEq, Prod.mk.injEq] at taken
  obtain ⟨rfl, rfl⟩ := taken
  split
  · exact abreast.ends _
  · exact follows

theorem verify {agentId token : Text} {next : ApiHandler}
    (taken : (verifyThen env agentId token next).advance? t st = some (st', h'))
    (follows : st.store.verifyAgentToken env.verifyToken agentId token = .ok () →
      CanFollow env rel good start s id t.last st next) :
    CanFollow env rel good start s id t.last st' h' := by
  simp only [verifyThen, Handler.read, Handler.advance?, Option.some.injEq, Prod.mk.injEq] at taken
  obtain ⟨rfl, rfl⟩ := taken
  split
  · rename_i verified
    exact follows verified
  · exact abreast.ends _

end Abreast

section Cases

variable (abreast : Abreast env rel good start s t st)
include abreast

/-- The check has passed and the machine gets the request, or it has not. -/
theorem follows_checkAdmin {authorization : Option Text} {request : Request} {next : ApiHandler}
    (starts : request.start = some task) (stands : StandsFor env next (some task))
    (idle : s.tasks.find? id = none)
    (taken : (checkAdmin env authorization next).advance? t st = some (st', h')) :
    CanFollow env rel good start s id t.last st' h' := by
  unfold checkAdmin at taken
  split at taken
  · cases taken
  · simp only [Handler.advance?, Option.some.injEq, Prod.mk.injEq] at taken
    obtain ⟨rfl, rfl⟩ := taken
    split
    · refine ⟨_, some task, run_spawn abreast.reached starts idle,
        ⟨abreast.store, abreast.registry, abreast.clock, ?_, ?_⟩, stands⟩
      · exact (Table.find?_upsert _ _ _ _).trans (if_pos rfl)
      · exact fun id' other => (Table.find?_upsert _ _ _ _).trans (if_neg other)
    · exact ⟨s, none, abreast.reached,
        arrives_waiting abreast.store abreast.registry abreast.clock idle, .answered _ none⟩

theorem follows_createToken {salt token : Text}
    (running : s.tasks.find? id = some (.createToken salt token))
    (taken : (createTokenThen env salt token).advance? t st = some (st', h')) :
    CanFollow env rel good start s id t.last st' h' := by
  refine abreast.write taken fun ran => ?_
  split at ran
  · rename_i written inserted
    cases ran
    have moved : (Task.createToken salt token).move env.lease s t.last =
        { statement := some (.insertToken (env.hashToken salt token))
          event := some (.tokenIssued token) } := by
      simp only [Task.move, ApiEnv.lease, abreast.store, inserted]
    refine abreast.executes running moved rfl ?_ abreast.registry (.answered _ none)
    simp only [Statement.exec, inserted, Option.getD_some]
    rfl
  · cases ran

theorem follows_enrollSelect {token : Text} {agent : NewAgent}
    (running : s.tasks.find? id = some (.enrollSelect token agent))
    (taken : (selectTokenThen env token agent).advance? t st = some (st', h')) :
    CanFollow env rel good start s id t.last st' h' := by
  simp only [selectTokenThen, Handler.read, Handler.advance?, Option.some.injEq,
    Prod.mk.injEq] at taken
  obtain ⟨rfl, rfl⟩ := taken
  split
  · rename_i hash _ matched
    have moved : (Task.enrollSelect token agent).move env.lease s t.last =
        { next := some (.enrollMark token hash agent) } := by
      simp only [Task.move, ApiEnv.lease, abreast.store, matched]
    exact abreast.moves running moved abreast.store abreast.registry (.enrollMark token hash agent)
  · exact abreast.ends _

theorem follows_enrollMark {token hash : Text} {agent : NewAgent}
    (running : s.tasks.find? id = some (.enrollMark token hash agent))
    (taken : (markTokenThen env agent hash).advance? t st = some (st', h')) :
    CanFollow env rel good start s id t.last st' h' := by
  simp only [markTokenThen, Handler.advance?, Option.some.injEq, Prod.mk.injEq] at taken
  obtain ⟨rfl, rfl⟩ := taken
  split
  · exact abreast.ends _
  · exact abreast.executes running rfl rfl rfl abreast.registry (.enrollInsert token agent)

theorem follows_enrollInsert {token : Text} {agent : NewAgent}
    (running : s.tasks.find? id = some (.enrollInsert token agent))
    (taken : (enrollAgentThen env agent).advance? t st = some (st', h')) :
    CanFollow env rel good start s id t.last st' h' := by
  refine abreast.write taken fun ran => ?_
  split at ran
  · rename_i written inserted
    cases ran
    have moved : (Task.enrollInsert token agent).move env.lease s t.last =
        { statement := some (.insertAgent agent.agentId
            (env.hashToken agent.salt agent.agentToken) agent.body)
          event := some (.enrolled token agent.agentId agent.body.tailscaleIpv4) } := by
      simp only [Task.move, ApiEnv.lease, abreast.store, inserted]
    refine abreast.executes running moved rfl ?_ abreast.registry (.answered _ none)
    simp only [Statement.exec, inserted, Option.getD_some]
    rfl
  · cases ran

theorem follows_heartbeatVerify {agentId token tailscaleIpv4 : Text}
    (running : s.tasks.find? id = some (.heartbeatVerify agentId token tailscaleIpv4))
    (taken : (verifyThen env agentId token (beatThen env agentId tailscaleIpv4)).advance? t st =
      some (st', h')) : CanFollow env rel good start s id t.last st' h' := by
  refine abreast.verify taken fun verified => ?_
  have moved : (Task.heartbeatVerify agentId token tailscaleIpv4).move env.lease s t.last =
      { next := some (.heartbeatUpdate agentId tailscaleIpv4) } := by
    simp only [Task.move, ApiEnv.lease, abreast.store, verified]
  exact abreast.moves running moved abreast.store abreast.registry
    (.heartbeatUpdate agentId tailscaleIpv4)

theorem follows_heartbeatUpdate {agentId tailscaleIpv4 : Text}
    (running : s.tasks.find? id = some (.heartbeatUpdate agentId tailscaleIpv4))
    (taken : (beatThen env agentId tailscaleIpv4).advance? t st = some (st', h')) :
    CanFollow env rel good start s id t.last st' h' := by
  refine abreast.write taken fun ran => ?_
  obtain ⟨beaten, beat, rfl⟩ := of_map_eq_ok ran
  have moved : (Task.heartbeatUpdate agentId tailscaleIpv4).move env.lease s t.last =
      { statement := some (.heartbeat agentId tailscaleIpv4)
        event := some (.heartbeat agentId tailscaleIpv4)
        next := some .refreshRead } := by
    simp only [Task.move, abreast.store, beat]
  refine abreast.executes running moved rfl ?_ abreast.registry (.refreshRead _)
  simp only [Statement.exec, beat]
  rfl

theorem follows_putVerify {agentId token : Text} {entries : List RouteEntry}
    (running : s.tasks.find? id = some (.putVerify agentId token entries))
    (taken : (verifyThen env agentId token (allowedThen env agentId entries)).advance? t st =
      some (st', h')) : CanFollow env rel good start s id t.last st' h' := by
  refine abreast.verify taken fun verified => ?_
  unfold allowedThen
  split
  · exact abreast.ends _
  · rename_i allowed
    have moved : (Task.putVerify agentId token entries).move env.lease s t.last =
        { next := some (.putCheck agentId entries) } := by
      simp only [Task.move, ApiEnv.lease, abreast.store, verified, allowed]
    exact abreast.moves running moved abreast.store abreast.registry (.putCheck agentId entries)

theorem follows_putCheck {agentId : Text} {entries : List RouteEntry}
    (running : s.tasks.find? id = some (.putCheck agentId entries))
    (taken : (getAgentThen env agentId entries).advance? t st = some (st', h')) :
    CanFollow env rel good start s id t.last st' h' := by
  refine abreast.select taken ?_
  split
  · exact abreast.ends _
  · rename_i known
    have moved : (Task.putCheck agentId entries).move env.lease s t.last =
        { next := some (.putTransact agentId entries) } := by
      simp only [Task.move, abreast.store, known]
    exact abreast.moves running moved abreast.store abreast.registry (.putTransact agentId entries)

theorem follows_putTransact {agentId : Text} {entries : List RouteEntry}
    (running : s.tasks.find? id = some (.putTransact agentId entries))
    (taken : (transactThen env agentId entries).advance? t st = some (st', h')) :
    CanFollow env rel good start s id t.last st' h' := by
  simp only [transactThen, Handler.advance?, Option.some.injEq, Prod.mk.injEq] at taken
  obtain ⟨rfl, rfl⟩ := taken
  cases t.fault with
  | some e => exact abreast.ends _
  | none =>
      exact abreast.executes running rfl rfl rfl abreast.registry (.refreshRead _)

theorem follows_deleteRoute {hostname : Text}
    (running : s.tasks.find? id = some (.deleteRoute hostname))
    (taken : (deleteRouteThen env hostname).advance? t st = some (st', h')) :
    CanFollow env rel good start s id t.last st' h' := by
  refine abreast.write taken fun ran => ?_
  cases ran
  exact abreast.executes running rfl rfl rfl abreast.registry (.refreshRead _)

theorem follows_revokeUpdate {agentId : Text}
    (running : s.tasks.find? id = some (.revokeUpdate agentId))
    (taken : (markRevokedThen env agentId).advance? t st = some (st', h')) :
    CanFollow env rel good start s id t.last st' h' := by
  refine abreast.write taken fun ran => ?_
  cases ran
  exact abreast.executes running rfl rfl rfl abreast.registry (.revokeDelete agentId)

theorem follows_revokeDelete {agentId : Text}
    (running : s.tasks.find? id = some (.revokeDelete agentId))
    (taken : (clearRoutesThen env agentId).advance? t st = some (st', h')) :
    CanFollow env rel good start s id t.last st' h' := by
  refine abreast.write taken fun ran => ?_
  cases ran
  exact abreast.executes running rfl rfl rfl abreast.registry (.refreshRead _)

/-- The machine gets a request whose one statement leaves this store, and is before the
refresh then. -/
theorem follows_statement {a : Answer} {request : Request} {x : Statement} {event : Event}
    (idle : s.tasks.find? id = none) (starts : request.start = some task)
    (moved : ∀ s' : State, s'.store = s.store → task.move env.lease s' t.last =
      { statement := some x, event := some event, next := some .refreshRead })
    (does : x.exec env.rfc st.store t.last = st'.store) (same : st'.registry = st.registry) :
    CanFollow env rel good start s id t.last st' (refreshThen env a) := by
  obtain ⟨s', reached, arrives⟩ := arrives_moving st' (run_spawn abreast.reached starts idle)
    abreast.fits abreast.clock ((Table.find?_upsert _ _ _ _).trans (if_pos rfl)) (moved _ rfl)
    (by rw [Option.elim_some]; exact (congrArg (x.exec env.rfc · t.last) abreast.store).trans does)
    (same ▸ abreast.registry)
  refine ⟨s', _, reached, ⟨arrives.store, arrives.registry, arrives.clock, arrives.own, ?_⟩,
    .refreshRead a⟩
  intro id' other
  rw [arrives.others id' other]
  exact (Table.find?_upsert _ _ _ _).trans (if_neg other)

/-- The tick refreshes whether or not it could purge. Without the purge it comes to the same as
the deletion of a route that nobody has. -/
theorem follows_purge (idle : s.tasks.find? id = none)
    (taken : (cleanupHandler env).advance? t st = some (st', h')) :
    CanFollow env rel good start s id t.last st' h' := by
  simp only [cleanupHandler, writeAnyway, Handler.advance?, Option.some.injEq,
    Prod.mk.injEq] at taken
  obtain ⟨rfl, rfl⟩ := taken
  cases t.fault with
  | none =>
      exact follows_statement abreast idle (rfl : Request.cleanupTick.start = _)
        (fun _ _ => rfl) rfl rfl
  | some e =>
      obtain ⟨host, absent⟩ := exists_absent_host st.store
      exact follows_statement abreast idle (rfl : (Request.deleteRoute host).start = _)
        (fun _ _ => rfl) (deleteRoute_of_absent absent) rfl

theorem follows_refreshRead {a : Answer} (running : s.tasks.find? id = some .refreshRead)
    (taken : (refreshThen env a).advance? t st = some (st', h')) :
    CanFollow env rel good start s id t.last st' h' := by
  refine abreast.select taken ?_
  refine abreast.moves running rfl abreast.store abreast.registry (.refreshReplace _ _ _ ?_)
  simp only [abreast.store]
  rfl

theorem follows_refreshReplace (refl : ∀ map, rel map map) {map : DnsRegistry} {snapshot : Snapshot}
    {a : Answer} (same : snapshot.map = map)
    (running : s.tasks.find? id = some (.refreshReplace snapshot))
    (taken : (replaceThen map a).advance? t st = some (st', h')) :
    CanFollow env rel good start s id t.last st' h' := by
  simp only [replaceThen, Handler.advance?, Option.some.injEq, Prod.mk.injEq] at taken
  obtain ⟨rfl, rfl⟩ := taken
  refine abreast.moves running rfl abreast.store ?_ (.answered _ none)
  rw [← same]
  exact refl snapshot.map

end Cases

/-- **One step of a handler is followed** by one step of the machine or by none. -/
theorem StandsFor.advance (refl : ∀ map, rel map map) {task : Option Task}
    (stands : StandsFor env h task) (taken : h.advance? t st = some (st', h'))
    (abreast : Abreast env rel good start s t st) (own : s.tasks.find? id = task) :
    CanFollow env rel good start s id t.last st' h' := by
  cases stands with
  | answered a => cases taken
  | silent _ silent =>
      obtain ⟨⟨store, registry⟩, silent⟩ := silent.advance taken
      exact ⟨s, none, abreast.reached, arrives_waiting (abreast.store.trans store.symm)
        (registry ▸ abreast.registry) abreast.clock own, .silent h' silent⟩
  | unchecked _ _ _ _ starts stands => exact follows_checkAdmin abreast starts stands own taken
  | createToken => exact follows_createToken abreast own taken
  | enrollSelect => exact follows_enrollSelect abreast own taken
  | enrollMark => exact follows_enrollMark abreast own taken
  | enrollInsert => exact follows_enrollInsert abreast own taken
  | heartbeatVerify => exact follows_heartbeatVerify abreast own taken
  | heartbeatUpdate => exact follows_heartbeatUpdate abreast own taken
  | putVerify => exact follows_putVerify abreast own taken
  | putCheck => exact follows_putCheck abreast own taken
  | putTransact => exact follows_putTransact abreast own taken
  | deleteRoute => exact follows_deleteRoute abreast own taken
  | revokeUpdate => exact follows_revokeUpdate abreast own taken
  | revokeDelete => exact follows_revokeDelete abreast own taken
  | purge => exact follows_purge abreast own taken
  | refreshRead => exact follows_refreshRead abreast own taken
  | refreshReplace _ _ _ same => exact follows_refreshReplace abreast refl same own taken

end Step

/-! ## Runs -/

/-- A request of the lease machine, or a request it need not see. -/
theorem standsFor_handle (env : ApiEnv) (r : ApiRequest) :
    (∃ request task, Request.start request = some task ∧ StandsFor env (handle env r) (some task)) ∨
      StandsFor env (handle env r) none := by
  cases r with
  | health => exact Or.inr (.answered _ none)
  | ready =>
      refine Or.inr (.silent _ (silent_read fun t st => ?_))
      split
      · exact silent_done _
      · split <;> exact silent_done _
  | root accept => exact Or.inr (.answered _ none)
  | adminUi => exact Or.inr (.answered _ none)
  | adminLogin username password token =>
      refine Or.inr (.silent _ ?_)
      show Silent (adminLoginHandler env username password token)
      unfold adminLoginHandler
      split
      · exact silent_done _
      · exact silent_read fun _ _ => silent_step (fun _ _ => ⟨rfl, rfl⟩) fun _ _ => silent_done _
  | adminLogout authorization =>
      refine Or.inr (.silent _ ?_)
      show Silent (adminLogoutHandler authorization)
      unfold adminLogoutHandler
      split
      · exact silent_step (fun _ _ => ⟨rfl, rfl⟩) fun _ _ => silent_done _
      · exact silent_done _
  | enroll authorization agent =>
      simp only [handle, enrollHandler]
      cases bears : bearerToken authorization with
      | none => exact Or.inr (.answered _ none)
      | some token =>
          refine Or.inl ⟨.enroll authorization agent, _, ?_, .enrollSelect token agent⟩
          simp only [Request.start, bears, Option.map_some]
  | heartbeat agentId authorization body =>
      simp only [handle, heartbeatHandler, checkAgent]
      cases bears : bearerToken authorization with
      | none => exact Or.inr (.answered _ none)
      | some token =>
          refine Or.inl ⟨.heartbeat agentId authorization body, _, ?_,
            .heartbeatVerify agentId token body.tailscaleIpv4⟩
          simp only [Request.start, bears, Option.map_some]
  | putRoutes agentId authorization entries =>
      simp only [handle, putRoutesApi, checkAgent]
      cases bears : bearerToken authorization with
      | none => exact Or.inr (.answered _ none)
      | some token =>
          refine Or.inl ⟨.putRoutes agentId authorization entries, _, ?_,
            .putVerify agentId token entries⟩
          simp only [Request.start, bears, Option.map_some]
  | putDiscovery agentId authorization services =>
      refine Or.inr (.silent _ (silent_checkAgent (silent_writeThen ?_ (silent_done _))))
      intro t st st' ran
      obtain ⟨db, put, rfl⟩ := of_map_eq_ok ran
      obtain ⟨-, rfl⟩ := Database.of_putDiscoverySnapshot put
      exact ⟨rfl, rfl⟩
  | desiredServices agentId authorization =>
      exact Or.inr (.silent _ (silent_checkAgent (silent_selectThen fun _ _ => silent_done _)))
  | adminDiscovery authorization =>
      exact Or.inr (.silent _ (silent_checkAdmin (silent_selectThen fun _ _ =>
        silent_selectThen fun _ _ => silent_selectThen fun _ _ => silent_done _)))
  | adminEnableService authorization token body =>
      refine Or.inr (.silent _ (silent_checkAdmin ?_))
      split
      · exact silent_done _
      · refine silent_writeThen ?_ (silent_step ?_ fun _ _ => silent_selectThen fun _ _ =>
          silent_done _)
        · intro t st st' ran
          obtain ⟨services, -, rfl⟩ := of_map_eq_ok ran
          exact ⟨rfl, rfl⟩
        · intro t st
          split <;> exact ⟨rfl, rfl⟩
  | adminDisableService authorization id =>
      refine Or.inr (.silent _ (silent_checkAdmin (silent_writeThen ?_ (silent_step ?_ fun _ _ =>
        silent_done _))))
      · intro t st st' ran
        obtain ⟨services, -, rfl⟩ := of_map_eq_ok ran
        exact ⟨rfl, rfl⟩
      · intro t st
        split <;> exact ⟨rfl, rfl⟩
  | adminAgents authorization =>
      exact Or.inr (.silent _ (silent_checkAdmin (silent_selectThen fun _ _ => silent_read fun _ _ =>
        silent_done _)))
  | adminRoutes authorization =>
      exact Or.inr (.silent _ (silent_checkAdmin (silent_selectThen fun _ _ =>
        silent_selectThen fun _ _ => silent_done _)))
  | adminDashboard authorization =>
      exact Or.inr (.silent _ (silent_checkAdmin (silent_read fun _ _ => silent_selectThen fun _ _ =>
        silent_selectThen fun _ _ => silent_done _)))
  | adminDeleteRoute authorization hostname =>
      exact Or.inr (.unchecked authorization (.deleteRoute hostname) _ _ rfl (.deleteRoute hostname))
  | adminCreateEnrollmentToken authorization salt token =>
      exact Or.inr (.unchecked authorization (.createEnrollmentToken salt token) _ _ rfl
        (.createToken salt token))
  | adminRevokeAgent authorization agentId =>
      exact Or.inr (.unchecked authorization (.revokeAgent agentId) _ _ rfl (.revokeUpdate agentId))
  | cleanupTick => exact Or.inr .purge

/-- The interface and the machine that follows it: the task of handler `id` has the number
`slot + id` there. -/
structure Abstracts (env : ApiEnv) (rel : DnsRegistry → DnsRegistry → Prop) (slot : Nat)
    (p : Serving) (s : State) : Prop where
  store : s.store = p.shared.store
  registry : rel p.shared.registry s.registry
  clock : s.clock ≤ p.clock
  running : ∀ id r h, p.tasks.find? id = some (r, h) →
    StandsFor env h (s.tasks.find? (slot + id))
  free : ∀ id, p.tasks.find? id = none → s.tasks.find? (slot + id) = none

/-- Steps at instants that `good` accepts, whatever they do. -/
def Followed (good : Int → Prop) (_ : ApiRequest) (t : Moment StorageError) (_ : AppState) : Prop :=
  good t.last

section Runs

variable {rel : DnsRegistry → DnsRegistry → Prop} {good : Int → Prop} {start : Int} {slot : Nat}
  {p p' : Serving} {s : State}

theorem Abstracts.accept (abstracts : Abstracts env rel slot p s)
    (reached : Run env.lease (OnClock good) start s) {id : Nat} {r : ApiRequest}
    (fresh : p.tasks.find? id = none) :
    ∃ s', Run env.lease (OnClock good) start s' ∧
      Abstracts env rel slot { p with tasks := p.tasks.upsert id (r, handle env r) } s' := by
  have idle := abstracts.free id fresh
  -- once the new handler is followed, so are all
  have followed : ∀ s' : State, Run env.lease (OnClock good) start s' → s'.store = s.store →
      s'.registry = s.registry → s'.clock = s.clock →
      StandsFor env (handle env r) (s'.tasks.find? (slot + id)) →
      (∀ id', id' ≠ id → s'.tasks.find? (slot + id') = s.tasks.find? (slot + id')) →
      ∃ s', Run env.lease (OnClock good) start s' ∧
        Abstracts env rel slot { p with tasks := p.tasks.upsert id (r, handle env r) } s' := by
    intro s' reached' store registry clock follows others
    refine ⟨s', reached', store.trans abstracts.store, registry ▸ abstracts.registry,
      clock ▸ abstracts.clock, ?_, ?_⟩
    · intro id' r' h found
      simp only [Table.find?_upsert] at found
      split at found
      · rename_i same
        cases found
        exact same ▸ follows
      · rename_i other
        rw [others id' other]
        exact abstracts.running id' r' h found
    · intro id' found
      simp only [Table.find?_upsert] at found
      split at found
      · cases found
      · rename_i other
        rw [others id' other]
        exact abstracts.free id' found
  rcases standsFor_handle env r with ⟨request, task, starts, follows⟩ | follows
  · refine followed _ (run_spawn reached starts idle) rfl rfl rfl ?_ ?_
    · rw [Table.find?_upsert, if_pos rfl]
      exact follows
    · intro id' other
      rw [Table.find?_upsert, if_neg (by omega)]
  · exact followed s reached rfl rfl rfl (idle ▸ follows) fun _ _ => rfl

theorem Abstracts.advance (refl : ∀ map, rel map map) (abstracts : Abstracts env rel slot p s)
    (reached : Run env.lease (OnClock good) start s) {id : Nat} {t : Moment StorageError}
    {r : ApiRequest} {write : Moment StorageError → AppState → AppState}
    {rest : Moment StorageError → AppState → ApiHandler} (later : p.clock ≤ t.first)
    (found : p.tasks.find? id = some (r, .step write rest)) (followed : Followed good r t p.shared) :
    ∃ s', Run env.lease (OnClock good) start s' ∧
      Abstracts env rel slot ⟨t.last, write t p.shared, p.tasks.upsert id (r, rest t p.shared)⟩
        s' := by
  have taken : (Handler.step write rest).advance? t p.shared =
      some (write t p.shared, rest t p.shared) := rfl
  have abreast : Abreast env rel good start s t p.shared :=
    ⟨reached, followed, abstracts.store, abstracts.registry,
      abstracts.clock.trans (later.trans t.ordered)⟩
  obtain ⟨s', task, reached', arrives, follows⟩ :=
    (abstracts.running id r _ found).advance refl taken abreast rfl
  refine ⟨s', reached', arrives.store, arrives.registry, arrives.clock, ?_, ?_⟩
  · intro id' r' h found'
    simp only [Table.find?_upsert] at found'
    split at found'
    · rename_i same
      cases found'
      rw [same, arrives.own]
      exact follows
    · rename_i other
      rw [arrives.others (slot + id') (by omega)]
      exact abstracts.running id' r' h found'
  · intro id' found'
    simp only [Table.find?_upsert] at found'
    split at found'
    · cases found'
    · rename_i other
      rw [arrives.others (slot + id') (by omega)]
      exact abstracts.free id' found'

end Runs

end Tailroute.Controller
