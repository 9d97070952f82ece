/-
# Controller.Refresh — the registry against the store when nothing is in flight

A handler that changed what DNS answers from reads `active_dns_routes` and then
replaces the registry, with no lock around the two. `dnsAnswer` is what a
refresh that reads the store now would install for a hostname. A refresh that
read early and replaces late puts an old snapshot over a newer one
(`stale_refresh_survives`).

If no replacement goes back behind the installed snapshot, then while the registry
is behind the store some task in flight is going to refresh it (`pending`), and
once nothing is in flight the registry is a snapshot of the store as it is
(`quiescent_consistent`).
-/
import Tailroute.Controller.History
import Tailroute.Storage.LiveRoutes

namespace Tailroute.Storage.Store

open Tailroute.Theory Tailroute.Common

set_option autoImplicit false

/-- The address of the live, unrevoked owner of a hostname, if it parses. -/
def dnsAnswer (s : Store) (rfc : Rfc3339) (ttl now : Int) (host : Text) : Option Ipv4Addr :=
  (s.routes.find? host).bind fun route =>
    match s.getAgent route.agentId with
    | .ok agent =>
        if leaseAlive rfc ttl now agent.lastSeenAt then parseIpv4 agent.tailscaleIpv4 else none
    | .error _ => none

theorem dnsAnswer_eq_some {s : Store} {rfc : Rfc3339} {ttl now : Int} {host : Text}
    {ip : Ipv4Addr} :
    s.dnsAnswer rfc ttl now host = some ip ↔
      ∃ route agent, s.routes.find? host = some route ∧
        s.agents.find? route.agentId = some agent ∧ agent.revokedAt = none ∧
          leaseAlive rfc ttl now agent.lastSeenAt = true ∧
            parseIpv4 agent.tailscaleIpv4 = some ip := by
  rw [dnsAnswer, Option.bind_eq_some_iff]
  constructor
  · rintro ⟨route, stored, answer⟩
    split at answer
    · rename_i agent live
      obtain ⟨found, unrevoked⟩ := getAgent_eq_ok.mp live
      split at answer
      · rename_i alive
        exact ⟨route, agent, stored, found, unrevoked, alive, answer⟩
      · cases answer
    · cases answer
  · rintro ⟨route, agent, stored, found, unrevoked, alive, parsed⟩
    refine ⟨route, stored, ?_⟩
    simp only [getAgent_eq_ok.mpr ⟨found, unrevoked⟩, alive, if_true]
    exact parsed

/-- An answer stays the answer at every earlier instant. -/
theorem dnsAnswer_earlier {s : Store} {rfc : Rfc3339} {ttl now earlier : Int} {host : Text}
    {ip : Ipv4Addr} (before : earlier ≤ now) (answer : s.dnsAnswer rfc ttl now host = some ip) :
    s.dnsAnswer rfc ttl earlier host = some ip := by
  obtain ⟨route, agent, stored, found, unrevoked, alive, parsed⟩ := dnsAnswer_eq_some.mp answer
  refine dnsAnswer_eq_some.mpr ⟨route, agent, stored, found, unrevoked, ?_, parsed⟩
  rw [leaseAlive] at alive ⊢
  cases seen : agent.lastSeenAt.bind rfc.parse with
  | none => simp [seen] at alive
  | some t =>
      simp only [seen, decide_eq_true_eq] at alive ⊢
      omega

end Tailroute.Storage.Store

namespace Tailroute.Controller

open Tailroute.Theory Tailroute.Common Tailroute.Storage Tailroute.Dns

set_option autoImplicit false

variable {env : Env} {ok : State → Action → Prop} {start : Int} {s s' : State}

/-! ## What a refresh installs -/

theorem registryMap_from (routes : List DnsRoute) (nodup : (routes.map DnsRoute.hostname).Nodup)
    (map : DnsRegistry) (fresh : ∀ route ∈ routes, map.find? route.hostname = none) (host : Text)
    (ip : Ipv4Addr) :
    (routes.foldl addRoute map).find? host = some ip ↔
      map.find? host = some ip ∨
        ∃ route ∈ routes, route.hostname = host ∧ parseIpv4 route.tailscaleIpv4 = some ip := by
  induction routes generalizing map with
  | nil => simp
  | cons route routes ih =>
      rw [List.map_cons, List.nodup_cons] at nodup
      obtain ⟨first, rest⟩ := nodup
      have others : ∀ later ∈ routes, later.hostname ≠ route.hostname :=
        fun later member same => first (same ▸ List.mem_map_of_mem member)
      have unset := fresh route List.mem_cons_self
      have fresh' : ∀ later ∈ routes, map.find? later.hostname = none :=
        fun later member => fresh later (List.mem_cons_of_mem _ member)
      rw [List.foldl_cons, addRoute]
      cases parsed : parseIpv4 route.tailscaleIpv4 with
      | none =>
          simp only
          rw [ih rest map fresh']
          simp [parsed]
      | some address =>
          rw [ih rest (map.upsert route.hostname address) (by
            intro later member
            rw [Table.find?_upsert, if_neg (others later member)]
            exact fresh' later member)]
          rw [Table.find?_upsert]
          by_cases same : host = route.hostname
          · subst same
            simp [parsed, unset]
          · simp [same, Ne.symm same]

/-- The map a refresh builds is `dnsAnswer`. -/
theorem registryMap_find? (st : Store) (rfc : Rfc3339) (ttl now : Int) (host : Text) :
    (registryMap (st.activeDnsRoutes rfc ttl now)).find? host = st.dnsAnswer rfc ttl now host := by
  apply Option.ext
  intro ip
  have nodup : ((st.activeDnsRoutes rfc ttl now).map DnsRoute.hostname).Nodup := by
    rw [activeDnsRoutes_hostnames]
    exact liveRows_hostnames_nodup st rfc ttl now
  rw [registryMap, registryMap_from _ nodup _ (fun _ _ => rfl), Store.dnsAnswer_eq_some]
  constructor
  · rintro (empty | ⟨route, member, rfl, parsed⟩)
    · cases empty
    · obtain ⟨⟨host, stored, agent⟩, live, rfl⟩ := List.mem_map.mp member
      obtain ⟨there, found, unrevoked, alive⟩ := Store.mem_liveRows.mp live
      exact ⟨stored, agent, there, found, unrevoked, alive, parsed⟩
  · rintro ⟨stored, agent, there, found, unrevoked, alive, parsed⟩
    right
    have live := Store.mem_liveRows.mpr ⟨there, found, unrevoked, alive⟩
    exact ⟨_, List.mem_map_of_mem live, rfl, parsed⟩

/-! ## The steps that concern the registry -/

/-- The handler is going to read the routes. -/
def Task.refreshing : Task → Bool
  | refreshRead => true
  | revokeDelete _ => true
  | _ => false

/-- The task carries a snapshot. -/
def Task.installs : Task → Option Snapshot
  | refreshReplace snapshot => some snapshot
  | _ => none

section Moved

variable {task : Task} {m : Move} {now : Int} {id : Nat}

/-- A handler that has committed goes on to refresh. -/
theorem refreshing_of_commit (moved : Moves env s now task m)
    (commits : m.statement.any refreshes = true) :
    m.snapshot = none ∧ ∃ next, m.next = some next ∧ next.refreshing = true := by
  cases moved with
  | beat => exact ⟨rfl, _, rfl, rfl⟩
  | transacted => exact ⟨rfl, _, rfl, rfl⟩
  | deleted => exact ⟨rfl, _, rfl, rfl⟩
  | revokeMarked => exact ⟨rfl, _, rfl, rfl⟩
  | revokeCleared => exact ⟨rfl, _, rfl, rfl⟩
  | revokeMissed => exact ⟨rfl, _, rfl, rfl⟩
  | purged => exact ⟨rfl, _, rfl, rfl⟩
  | _ => cases commits

theorem read_of_next (moved : Moves env s now task m) {snapshot : Snapshot}
    (next : m.next = some (.refreshReplace snapshot)) :
    snapshot = ⟨registryMap (s.store.activeDnsRoutes env.rfc env.ttl now), s.commits, now⟩ ∧
      m.statement = none := by
  cases moved with
  | read =>
      cases next
      exact ⟨rfl, rfl⟩
  | _ => cases next

theorem replaced_of_snapshot (moved : Moves env s now task m) {snapshot : Snapshot}
    (installs : m.snapshot = some snapshot) : task = .refreshReplace snapshot := by
  cases moved with
  | replaced =>
      cases installs
      rfl
  | _ => cases installs

/-- Steps after which no refresh follows do not change what DNS should answer. -/
theorem dnsAnswer_perform (rows : Known s) (moved : Moves env s now task m)
    (silent : m.statement.any refreshes = false) (t : Int) (host : Text) :
    (s.perform env id now m).store.dnsAnswer env.rfc env.ttl t host =
      s.store.dnsAnswer env.rfc env.ttl t host := by
  cases moved with
  | issued salt token fresh =>
      simp only [State.perform, Option.elim_some, Statement.insertToken_exec, if_neg fresh]
      rfl
  | marked => rfl
  | enrolled token agent fresh =>
      simp only [State.perform, Option.elim_some, Statement.insertAgent_exec, if_neg fresh]
      apply Option.ext
      intro ip
      -- no route belongs to an agent the table did not know
      have other : ∀ route, s.store.routes.find? host = some route →
          route.agentId ≠ agent.agentId := by
        intro route stored same
        obtain ⟨row, found⟩ := rows.owners host route.agentId
          (Store.owner_eq_some.mpr ⟨route, stored, rfl⟩)
        exact fresh (Table.mem_keys_iff.mpr ⟨row, same ▸ found⟩)
      simp only [Store.dnsAnswer_eq_some, Table.find?_upsert]
      constructor
      · rintro ⟨route, row, stored, found, live⟩
        rw [if_neg (other route stored)] at found
        exact ⟨route, row, stored, found, live⟩
      · rintro ⟨route, row, stored, found, live⟩
        exact ⟨route, row, stored, by rw [if_neg (other route stored)]; exact found, live⟩
  | ended => rfl
  | selected => rfl
  | heartbeatVerified => rfl
  | putVerified => rfl
  | putChecked => rfl
  | read => rfl
  | replaced => rfl
  | beat => cases silent
  | transacted => cases silent
  | deleted => cases silent
  | revokeMarked => cases silent
  | revokeCleared => cases silent
  | revokeMissed => cases silent
  | purged => cases silent

end Moved

/-! ## Snapshots that no commit has overtaken -/

/-- The map is what a refresh at some past instant would read from the store as it
is now. -/
def Reflects (env : Env) (s : State) (map : DnsRegistry) : Prop :=
  ∃ readAt ≤ s.clock, ∀ host, map.find? host = s.store.dnsAnswer env.rfc env.ttl readAt host

/-- Counting commits tells which snapshots are of the store as it is. -/
structure Current (env : Env) (s : State) : Prop where
  installedLe : s.installed ≤ s.commits
  versionLe : ∀ id snapshot, s.tasks.find? id = some (.refreshReplace snapshot) →
    snapshot.version ≤ s.commits
  snapshot : ∀ id snapshot, s.tasks.find? id = some (.refreshReplace snapshot) →
    snapshot.version = s.commits → Reflects env s snapshot.map
  registry : s.installed = s.commits → Reflects env s s.registry

section Step

variable {task : Task} {m : Move} {now : Int} {id : Nat}

theorem Reflects.perform {map : DnsRegistry} (reflects : Reflects env s map) (rows : Known s)
    (moved : Moves env s now task m) (silent : m.statement.any refreshes = false)
    (later : s.clock ≤ now) : Reflects env (s.perform env id now m) map := by
  obtain ⟨readAt, past, same⟩ := reflects
  refine ⟨readAt, past.trans later, ?_⟩
  intro host
  rw [same, dnsAnswer_perform rows moved silent]

/-- A commit overtakes every snapshot. -/
theorem current_perform_commit (current : Current env s) (moved : Moves env s now task m)
    (commits : m.statement.any refreshes = true) : Current env (s.perform env id now m) := by
  obtain ⟨unchanged, next, follows, refreshing⟩ := refreshing_of_commit moved commits
  have counted : (s.perform env id now m).commits = s.commits + 1 := if_pos commits
  have kept : (s.perform env id now m).installed = s.installed := by
    simp only [State.perform, unchanged, Option.elim_none]
  have bound := current.installedLe
  have overtaken : ∀ id' snapshot,
      (s.perform env id now m).tasks.find? id' = some (.refreshReplace snapshot) →
        snapshot.version ≤ s.commits := by
    intro id' snapshot found
    rcases task_of_perform found with ⟨-, same⟩ | ⟨-, old⟩
    · rw [follows] at same
      cases same
      cases refreshing
    · exact current.versionLe id' snapshot old
  refine ⟨by omega, ?_, ?_, by omega⟩
  · intro id' snapshot found
    have := overtaken id' snapshot found
    omega
  · intro id' snapshot found same
    have := overtaken id' snapshot found
    omega

theorem current_perform (current : Current env s) (rows : Known s) (later : s.clock ≤ now)
    (running : s.tasks.find? id = some task) (moved : Moves env s now task m) :
    Current env (s.perform env id now m) := by
  by_cases commits : m.statement.any refreshes = true
  · exact current_perform_commit current moved commits
  · have silent : m.statement.any refreshes = false := Bool.not_eq_true _ ▸ commits
    have counted : (s.perform env id now m).commits = s.commits := if_neg commits
    -- a snapshot in flight was there before or has just been read
    have inFlight : ∀ id' snapshot,
        (s.perform env id now m).tasks.find? id' = some (.refreshReplace snapshot) →
          snapshot.version ≤ s.commits ∧
            (snapshot.version = s.commits → Reflects env (s.perform env id now m) snapshot.map) := by
      intro id' snapshot found
      rcases task_of_perform found with ⟨-, next⟩ | ⟨-, old⟩
      · obtain ⟨rfl, unwritten⟩ := read_of_next moved next
        refine ⟨le_rfl, fun _ => ⟨now, le_rfl, ?_⟩⟩
        intro host
        rw [registryMap_find?, dnsAnswer_perform rows moved silent]
      · exact ⟨current.versionLe id' snapshot old,
          fun same => (current.snapshot id' snapshot old same).perform rows moved silent later⟩
    -- the registry was there before or is the snapshot the task carried
    have installed : (s.perform env id now m).installed ≤ s.commits ∧
        ((s.perform env id now m).installed = s.commits →
          Reflects env (s.perform env id now m) (s.perform env id now m).registry) := by
      cases replaced : m.snapshot with
      | none =>
          have registry : (s.perform env id now m).registry = s.registry := by
            simp only [State.perform, replaced, Option.elim_none]
          have kept : (s.perform env id now m).installed = s.installed := by
            simp only [State.perform, replaced, Option.elim_none]
          rw [kept, registry]
          exact ⟨current.installedLe,
            fun same => (current.registry same).perform rows moved silent later⟩
      | some snapshot =>
          have carried := replaced_of_snapshot moved replaced
          rw [carried] at running
          have registry : (s.perform env id now m).registry = snapshot.map := by
            simp only [State.perform, replaced, Option.elim_some]
          have version : (s.perform env id now m).installed = snapshot.version := by
            simp only [State.perform, replaced, Option.elim_some]
          rw [version, registry]
          exact ⟨current.versionLe id snapshot running,
            fun same => (current.snapshot id snapshot running same).perform rows moved silent later⟩
    rw [← counted] at installed inFlight
    exact ⟨installed.1, fun id' snapshot found => (inFlight id' snapshot found).1,
      fun id' snapshot found => (inFlight id' snapshot found).2, installed.2⟩

end Step

theorem current (reached : Run env ok start s) : Current env s := by
  refine reached.invariant (I := Current env) ?_ ?_
  · refine ⟨le_rfl, ?_, ?_, ?_⟩
    · intro id snapshot found
      cases found
    · intro id snapshot found
      cases found
    · intro _
      exact ⟨start, le_rfl, fun host => rfl⟩
  · intro s a s' past current _ taken
    rcases step_cases taken with
      ⟨id, request, task, -, started, -, rfl⟩ | ⟨id, now, task, -, later, running, rfl⟩
    · refine ⟨current.installedLe, ?_, ?_, current.registry⟩
      · intro id' snapshot found
        rcases task_of_spawn started found with first | old
        · cases first
        · exact current.versionLe id' snapshot old
      · intro id' snapshot found
        rcases task_of_spawn started found with first | old
        · cases first
        · exact current.snapshot id' snapshot old
    · exact current_perform current (known past) later running (moves env s now task)

/-! ## A registry that is behind is going to be refreshed -/

/-- The task will install a snapshot of the store as it is, or reads it first. -/
def Task.pending (commits : Nat) : Task → Bool
  | refreshReplace snapshot => snapshot.version == commits
  | task => task.refreshing

def Pending (s : State) : Prop :=
  ∃ id task, s.tasks.find? id = some task ∧ task.pending s.commits = true

/-- No replacement installs a snapshot older than the installed one: read before a
commit that the installed one has seen. -/
def ReplacesInOrder (s : State) : Action → Prop
  | .spawn _ _ => True
  | .advance id _ => ∀ snapshot ∈ (s.tasks.find? id).bind Task.installs,
      s.installed ≤ snapshot.version

instance (s : State) (a : Action) : Decidable (ReplacesInOrder s a) :=
  match a with
  | .spawn _ _ => isTrue trivial
  | .advance _ _ => inferInstanceAs (Decidable (∀ _ ∈ _, _))

section Step

variable {task : Task} {m : Move} {now : Int} {id : Nat}

/-- A pending task stays pending while another task moves without a commit. -/
theorem Pending.perform (pending : Pending s) (running : s.tasks.find? id = some task)
    (done : task.pending s.commits = false) (silent : m.statement.any refreshes = false) :
    Pending (s.perform env id now m) := by
  obtain ⟨id', other, found, waits⟩ := pending
  have different : id' ≠ id := by
    rintro rfl
    rw [running] at found
    cases found
    rw [done] at waits
    cases waits
  refine ⟨id', other, ?_, ?_⟩
  · simp only [State.perform, Table.find?_put, if_neg different]
    exact found
  · have counted : (s.perform env id now m).commits = s.commits := by simp [State.perform, silent]
    rw [counted]
    exact waits

/-- What the moving task itself leaves pending. -/
theorem pending_of_next {next : Task} (follows : m.next = some next)
    (waits : next.pending (s.perform env id now m).commits = true) :
    Pending (s.perform env id now m) := by
  refine ⟨id, next, ?_, waits⟩
  simp only [State.perform, Table.find?_put, if_true]
  exact follows

theorem behind_perform (behind : s.installed = s.commits ∨ Pending s) (current : Current env s)
    (running : s.tasks.find? id = some task) (moved : Moves env s now task m)
    (inOrder : ∀ snapshot, task = .refreshReplace snapshot → s.installed ≤ snapshot.version) :
    (s.perform env id now m).installed = (s.perform env id now m).commits ∨
      Pending (s.perform env id now m) := by
  by_cases commits : m.statement.any refreshes = true
  · obtain ⟨-, next, follows, refreshing⟩ := refreshing_of_commit moved commits
    refine Or.inr (pending_of_next follows ?_)
    cases next with
    | refreshReplace => cases refreshing
    | _ => exact refreshing
  · -- a task that neither reads nor replaces leaves the others pending
    have others : task.pending s.commits = false → m.snapshot = none →
        m.statement.any refreshes = false →
          (s.perform env id now m).installed = (s.perform env id now m).commits ∨
            Pending (s.perform env id now m) := by
      intro done kept silent
      rcases behind with upToDate | pending
      · left
        simp only [State.perform, kept, silent, Option.elim_none, Bool.false_eq_true, if_false]
        exact upToDate
      · exact Or.inr (pending.perform running done silent)
    cases moved with
    | read => exact Or.inr (pending_of_next rfl (by simp [Task.pending, State.perform]))
    | replaced snapshot =>
        have bound := current.versionLe id snapshot running
        by_cases newest : snapshot.version = s.commits
        · exact Or.inl newest
        · -- the snapshot is old, so the installed one was too and somebody else is pending
          have order := inOrder snapshot rfl
          rcases behind with upToDate | pending
          · omega
          · exact Or.inr (pending.perform running (by simpa [Task.pending] using newest) rfl)
    | ended _ refusable =>
        refine others ?_ rfl rfl
        cases task <;> first | rfl | cases refusable
    | issued => exact others rfl rfl rfl
    | selected => exact others rfl rfl rfl
    | marked => exact others rfl rfl rfl
    | enrolled => exact others rfl rfl rfl
    | heartbeatVerified => exact others rfl rfl rfl
    | putVerified => exact others rfl rfl rfl
    | putChecked => exact others rfl rfl rfl
    | _ => exact absurd rfl commits

end Step

/-- **While the registry is behind the store, a refresh is pending.** -/
theorem behind_pending (reached : Run env ReplacesInOrder start s) :
    s.installed = s.commits ∨ Pending s := by
  refine reached.invariant (I := fun s => s.installed = s.commits ∨ Pending s) (Or.inl rfl) ?_
  intro s a s' past behind allowed taken
  rcases step_cases taken with
    ⟨id, request, task, -, -, fresh, rfl⟩ | ⟨id, now, task, rfl, -, running, rfl⟩
  · rcases behind with upToDate | ⟨id', other, found, waits⟩
    · exact Or.inl upToDate
    · right
      have different : id' ≠ id := by
        rintro rfl
        rw [fresh] at found
        cases found
      refine ⟨id', other, ?_, waits⟩
      rw [Table.find?_upsert, if_neg different]
      exact found
  · refine behind_perform behind (current past) running (moves env s now task) ?_
    rintro snapshot rfl
    exact allowed snapshot (by rw [running]; rfl)

/-! ## Quiescent states -/

/-- No handler is in flight. -/
def Quiescent (s : State) : Prop := s.tasks.rows = []

/-- What DNS promises when nothing is in flight: a registered hostname has a route
with an unrevoked owner, an active route with a parseable address is registered, and
the registry is a snapshot of the store as it is. -/
structure Consistent (env : Env) (s : State) : Prop where
  stored : ∀ host ip, s.registry.find? host = some ip →
    ∃ agent row, s.store.owner host = some agent ∧ s.store.getAgent agent = .ok row
  served : ∀ now, s.clock ≤ now → ∀ route ∈ s.store.activeDnsRoutes env.rfc env.ttl now,
    ∀ ip, parseIpv4 route.tailscaleIpv4 = some ip → s.registry.find? route.hostname = some ip
  newest : Reflects env s s.registry

/-- **Quiescent consistency of DNS with storage**, in every run whose replacements
never go back to an older snapshot. -/
theorem quiescent_consistent (reached : Run env ReplacesInOrder start s)
    (quiescent : Quiescent s) : Consistent env s := by
  have idle : ∀ id, s.tasks.find? id = none := by
    intro id
    rw [Table.find?, quiescent]
    rfl
  have upToDate : s.installed = s.commits := by
    rcases behind_pending reached with upToDate | ⟨id, task, found, -⟩
    · exact upToDate
    · rw [idle id] at found
      cases found
  have newest := (current reached).registry upToDate
  obtain ⟨readAt, past, same⟩ := newest
  refine ⟨?_, ?_, readAt, past, same⟩
  · intro host ip registered
    rw [same] at registered
    obtain ⟨route, row, stored, found, unrevoked, -⟩ := Store.dnsAnswer_eq_some.mp registered
    exact ⟨route.agentId, row, Store.owner_eq_some.mpr ⟨route, stored, rfl⟩,
      Store.getAgent_eq_ok.mpr ⟨found, unrevoked⟩⟩
  · intro now later route member ip parsed
    obtain ⟨⟨host, stored, agent⟩, live, rfl⟩ := List.mem_map.mp member
    obtain ⟨there, found, unrevoked, alive⟩ := Store.mem_liveRows.mp live
    have answer := Store.dnsAnswer_eq_some.mpr
      ⟨stored, agent, there, found, unrevoked, alive, parsed⟩
    rw [same]
    exact Store.dnsAnswer_earlier (past.trans later) answer

/-- An agent registers `web`; the refresh that follows has read its snapshot and an
admin asks to delete the route. -/
def registerThenDelete : List Action :=
  [.spawn 0 (.createEnrollmentToken [] "t".toList), .advance 0 0,
    .spawn 1 (.enroll (some "Bearer t".toList)
      ⟨"agt_a".toList, [], "a".toList, ⟨"a".toList, "100.64.0.1".toList, "e".toList⟩⟩),
    .advance 1 0, .advance 1 0, .advance 1 0,
    .spawn 2 (.putRoutes "agt_a".toList (some "Bearer a".toList)
      [⟨"web".toList, "http://10.0.0.1:80".toList, none, none⟩]),
    .advance 2 0, .advance 2 0, .advance 2 0, .advance 2 0, .spawn 3 (.deleteRoute "web".toList)]

/-- The first refresh replaces the registry before the second one does. -/
theorem quiescent_consistent_in_order :
    ∃ s, Run plainEnv ReplacesInOrder 0 s ∧ Quiescent s ∧ Consistent plainEnv s := by
  have reached : Run plainEnv ReplacesInOrder 0 _ :=
    Transition.reach_of_run
      (registerThenDelete ++ [.advance 2 1, .advance 3 1, .advance 3 1, .advance 3 1]) rfl
  exact ⟨_, reached, rfl, quiescent_consistent reached rfl⟩

/-- **A deleted hostname stays registered.** The deletion commits, reads and replaces
while the first refresh still holds its snapshot; then the first refresh replaces. -/
theorem stale_refresh_survives :
    ∃ s, Run plainEnv (fun _ _ => True) 0 s ∧ Quiescent s ∧
      s.registry.find? "web".toList = some ⟨[100, 64, 0, 1], rfl⟩ ∧
      s.store.owner "web".toList = none ∧ ¬Consistent plainEnv s := by
  have reached : Run plainEnv (fun _ _ => True) 0 _ :=
    Transition.reach_of_run
      (registerThenDelete ++ [.advance 3 1, .advance 3 1, .advance 3 1, .advance 2 1]) rfl
  refine ⟨_, reached, rfl, by decide, by decide, ?_⟩
  intro consistent
  obtain ⟨agent, row, owned, -⟩ := consistent.stored "web".toList ⟨[100, 64, 0, 1], rfl⟩ (by decide)
  cases owned

end Tailroute.Controller
