/-
# Controller.LeaseTable — the registry refines the lease table of the history

`Leased` says from the history alone who is to be found under a name: the holder
is the agent whose `put_routes` last got the name, unless it left the name out
again, the name was deleted, or a purge came after the holder's lease had run out;
and a holder counts while it was never revoked and its last beat is recent. Names
are compared as DNS compares them, by `lookupKey`.

Handlers run one at a time here. The tables then follow the history
(`Follows`), and right after a refresh `lookup_a` answers exactly `Leased`
(`registry_refines_leases`), provided names are sent without a trailing dot and
timestamps stay in four-digit years. A name sent with a trailing dot is stored
with it and never found (`dotted_name_unresolvable`).
-/
import Tailroute.Controller.Ownership
import Tailroute.Controller.Refresh
import Tailroute.Controller.Revocation

namespace Tailroute.Controller

open Tailroute.Theory Tailroute.Common Tailroute.Storage Tailroute.Dns

set_option autoImplicit false

variable {env : Env} {ok : State → Action → Prop} {start : Int} {s s' : State}

/-! ## The lease table of a history -/

/-- The agent's last beat lies before the cutoff. -/
def seenBefore (log : Log) (cutoff : Int) (agent : Text) : Bool :=
  match lastBeat log agent with
  | some (seen, _) => decide (seen < cutoff)
  | none => false

/-- The agent that the last ownership event for a name gave it to. -/
def holder (ttl : Int) : Log → Text → Option Text
  | [], _ => none
  | (now, event) :: past, name =>
      match event with
      | .putRoutes agent entries outcome =>
          if name ∈ outcome.accepted.map lookupKey then some agent
          else if name ∈ entries.map fun entry => lookupKey entry.hostname then
            holder ttl past name
          else (holder ttl past name).filter fun held => decide (held ≠ agent)
      | .deletedRoute hostname =>
          if name = lookupKey hostname then none else holder ttl past name
      | .purged => (holder ttl past name).filter fun held => !seenBefore past (now - ttl) held
      | _ => holder ttl past name

/-- A name is leased at an address: its holder was never revoked and sent that
address less than `ttl` ago. -/
def Leased (ttl : Int) (log : Log) (now : Int) (hostname : Text) (ip : Ipv4Addr) : Prop :=
  ∃ agent seen address, holder ttl log (lookupKey hostname) = some agent ∧ ¬Revoked log agent ∧
    lastBeat log agent = some (seen, address) ∧ now - seen < ttl ∧ parseIpv4 address = some ip

/-- The registry answers the lease table of an instant. -/
def RefinesLeases (env : Env) (s : State) (now : Int) : Prop :=
  ∀ hostname ip, DnsRegistry.lookupA s.registry hostname = some ip ↔
    Leased env.ttl s.log now hostname ip

/-! ## Runs -/

/-- A request comes in only when no handler is in flight. -/
def OneAtATime (s : State) : Action → Prop
  | .spawn _ _ => s.tasks.rows = []
  | .advance _ _ => True

instance (s : State) (a : Action) : Decidable (OneAtATime s a) :=
  match a with
  | .spawn _ _ => decidable_of_iff (s.tasks.rows.isEmpty = true) List.isEmpty_iff
  | .advance _ _ => isTrue trivial

/-- The hostnames a request names. -/
def Request.hostnames : Request → List Text
  | putRoutes _ _ entries => entries.map RouteEntry.hostname
  | deleteRoute hostname => [hostname]
  | _ => []

def Task.isPurge : Task → Bool
  | purge => true
  | _ => false

/-- Requests name hosts without a trailing dot; enrollments and heartbeats happen in
years 0000–9999 and purges have a cutoff before year 10000. -/
def PlainRequests (env : Env) (s : State) : Action → Prop
  | .spawn _ request => ∀ hostname ∈ request.hostnames, Undotted hostname
  | .advance id now =>
      ((s.tasks.find? id).any Task.stamps = true → Instant.FourDigitYear now) ∧
        ((s.tasks.find? id).any Task.isPurge = true → Instant.year (now - env.ttl) ≤ 9999)

instance (env : Env) (s : State) (a : Action) : Decidable (PlainRequests env s a) :=
  match a with
  | .spawn _ _ => inferInstanceAs (Decidable (∀ _ ∈ _, _))
  | .advance _ _ => inferInstanceAs (Decidable ((_ → _) ∧ (_ → _)))

/-- Sequential runs of plain requests. -/
abbrev LeaseRun (env : Env) (start : Int) : State → Prop :=
  Run env (fun s a => OneAtATime s a ∧ PlainRequests env s a) start

theorem LeaseRun.fourDigitBeats (reached : LeaseRun env start s) : FourDigitBeats s := by
  have stamped : Run env BeatsInFourDigits start s := by
    refine reached.mono ?_
    intro s a allowed
    cases a with
    | spawn => trivial
    | advance => exact allowed.2.1
  exact Controller.fourDigitBeats stamped

/-- In every run a revoked agent's row is marked. -/
theorem marked_of_revoked (reached : Run env ok start s) :
    ∀ agent, Revoked s.log agent →
      ∃ row, s.store.agents.find? agent = some row ∧ row.revokedAt ≠ none := by
  refine reached.invariant (I := fun s => ∀ agent, Revoked s.log agent →
    ∃ row, s.store.agents.find? agent = some row ∧ row.revokedAt ≠ none) ?_ ?_
  · rintro agent ⟨t, member⟩
    cases member
  · intro s a s' _ marked _ taken agent revoked
    rcases step_cases taken with
      ⟨id, request, task, -, -, -, rfl⟩ | ⟨id, now, task, -, -, -, rfl⟩
    · exact marked agent revoked
    · rcases revoked_perform (moves env s now task) revoked with old | ⟨-, found⟩
      · exact marked_perform (marked agent old) id now _
      · exact marked_perform found id now _

/-! ## The tables follow the history -/

/-- What is known about the one handler in flight. -/
def InFlight (env : Env) (s : State) : Task → Prop
  | .putVerify _ _ entries => ∀ entry ∈ entries, Undotted entry.hostname
  | .putCheck _ entries => ∀ entry ∈ entries, Undotted entry.hostname
  | .putTransact agent entries =>
      (∀ entry ∈ entries, Undotted entry.hostname) ∧ ∃ row, s.store.getAgent agent = .ok row
  | .deleteRoute hostname => Undotted hostname
  | .revokeDelete agent =>
      ∀ row, s.store.agents.find? agent = some row → row.revokedAt ≠ none
  | .refreshReplace snapshot =>
      ∀ host, snapshot.map.find? host =
        s.store.dnsAnswer env.rfc env.ttl snapshot.readAt host
  | _ => True

/-- The owner of a name is its holder, or the holder was revoked and owns nothing. -/
def Agrees (env : Env) (s : State) (name : Text) : Prop :=
  s.store.owner name = holder env.ttl s.log name ∨
    s.store.owner name = none ∧
      ∃ agent, holder env.ttl s.log name = some agent ∧ Revoked s.log agent

structure Follows (env : Env) (s : State) : Prop where
  single : ∀ id id' task task', s.tasks.find? id = some task → s.tasks.find? id' = some task' →
    id = id'
  inFlight : ∀ id task, s.tasks.find? id = some task → InFlight env s task
  owners : ∀ name, Agrees env s name
  marked : ∀ agent row, s.store.agents.find? agent = some row → row.revokedAt ≠ none →
    Revoked s.log agent ∨ ∃ id, s.tasks.find? id = some (.revokeDelete agent)

section Step

variable {task : Task} {m : Move} {now : Int} {id : Nat}

theorem inFlight_next (known : InFlight env s task) (moved : Moves env s now task m) {next : Task}
    (follows : m.next = some next) : InFlight env (s.perform env id now m) next := by
  cases moved with
  | putVerified => cases follows; exact known
  | putChecked _ _ row live => cases follows; exact ⟨known, row, live⟩
  | revokeMarked agent =>
      cases follows
      intro row found
      simp only [State.perform, Option.elim_some, Statement.exec, Store.markRevoked,
        Table.find?_modifyAt, if_true] at found
      obtain ⟨old, -, rfl⟩ := Option.map_eq_some_iff.mp found
      simp
  | read =>
      cases follows
      intro host
      exact registryMap_find? s.store env.rfc env.ttl now host
  | ended => cases follows
  | issued => cases follows
  | enrolled => cases follows
  | replaced => cases follows
  | selected => cases follows; trivial
  | marked => cases follows; trivial
  | heartbeatVerified => cases follows; trivial
  | beat => cases follows; trivial
  | transacted => cases follows; trivial
  | deleted => cases follows; trivial
  | revokeCleared => cases follows; trivial
  | revokeMissed => cases follows; trivial
  | purged => cases follows; trivial

theorem revoked_mono {agent : Text} (revoked : Revoked s.log agent) :
    Revoked (s.perform env id now m).log agent := by
  obtain ⟨t, member⟩ := revoked
  refine ⟨t, ?_⟩
  simp only [State.perform]
  cases m.event with
  | none => exact member
  | some event => exact List.mem_cons_of_mem _ member

theorem Agrees.perform_of_same {name : Text} (agrees : Agrees env s name)
    (owner : (s.perform env id now m).store.owner name = s.store.owner name)
    (held : holder env.ttl (s.perform env id now m).log name = holder env.ttl s.log name) :
    Agrees env (s.perform env id now m) name := by
  rw [Agrees, owner, held]
  rcases agrees with same | ⟨unowned, agent, holds, revoked⟩
  · exact Or.inl same
  · exact Or.inr ⟨unowned, agent, holds, revoked_mono revoked⟩

/-- Owner and holder lose the name to the same test. -/
theorem Agrees.perform_of_filter {name : Text} (agrees : Agrees env s name) (keep : Text → Bool)
    (owner : (s.perform env id now m).store.owner name = (s.store.owner name).filter keep)
    (held : holder env.ttl (s.perform env id now m).log name =
      (holder env.ttl s.log name).filter keep) :
    Agrees env (s.perform env id now m) name := by
  rw [Agrees, owner, held]
  rcases agrees with same | ⟨unowned, agent, holds, revoked⟩
  · exact Or.inl (by rw [same])
  · rw [unowned, holds, Option.filter_none]
    by_cases kept : keep agent = true
    · rw [Option.filter_some_pos kept]
      exact Or.inr ⟨rfl, agent, rfl, revoked_mono revoked⟩
    · rw [Option.filter_some_neg (by simpa using kept)]
      exact Or.inl rfl

/-- Plain entries are stored under the names DNS looks up. -/
theorem lookupKey_host {entry : RouteEntry} (undotted : Undotted entry.hostname) :
    lookupKey entry.host = entry.host ∧ lookupKey entry.hostname = entry.host := by
  refine ⟨?_, lookupKey_of_undotted undotted⟩
  rw [RouteEntry.host, lookupKey_of_undotted (undotted_toAsciiLowercase undotted),
    toAsciiLowercase_idem]

/-- A `put_routes` gives, keeps and takes names as the history says. -/
theorem agrees_transacted {name agent : Text} {entries : List RouteEntry}
    (agrees : Agrees env s name) (undotted : ∀ entry ∈ entries, Undotted entry.hostname) :
    Agrees env (s.perform env id now ((Task.putTransact agent entries).move env s now)) name := by
  have requested : name ∈ entries.map (fun entry => lookupKey entry.hostname) ↔
      name ∈ entries.map RouteEntry.host := by
    rw [List.map_congr_left fun entry member => (lookupKey_host (undotted entry member)).2]
  have accepted : name ∈ (s.store.transactRoutes env.rfc env.ttl now agent entries).1.accepted.map
      lookupKey ↔ name ∈ entries.map RouteEntry.host ∧
        conflictWith env.rfc env.ttl now s.store.agents agent s.store.routes name = none := by
    have canonical : (s.store.transactRoutes env.rfc env.ttl now agent entries).1.accepted.map
        lookupKey = (s.store.transactRoutes env.rfc env.ttl now agent entries).1.accepted := by
      refine (List.map_congr_left ?_).trans (List.map_id _)
      intro host member
      obtain ⟨entry, requested, rfl⟩ := List.mem_map.mp (mem_accepted.mp member).1
      exact (lookupKey_host (undotted entry requested)).1
    rw [canonical, mem_accepted]
  have owner := s.store.owner_transactRoutes env.rfc env.ttl now agent entries name
  have held : holder env.ttl
      (s.perform env id now ((Task.putTransact agent entries).move env s now)).log name =
      if name ∈ entries.map RouteEntry.host ∧
          conflictWith env.rfc env.ttl now s.store.agents agent s.store.routes name = none then
        some agent
      else if name ∈ entries.map RouteEntry.host then holder env.ttl s.log name
      else (holder env.ttl s.log name).filter fun held => decide (held ≠ agent) := by
    simp only [State.perform, Task.move, Option.elim_some, holder, accepted, requested]
  by_cases named : name ∈ entries.map RouteEntry.host
  · rw [if_pos named] at owner
    by_cases free : conflictWith env.rfc env.ttl now s.store.agents agent s.store.routes name = none
    · rw [if_pos ⟨named, free⟩] at held
      rw [if_pos free] at owner
      exact Or.inl (owner.trans held.symm)
    · rw [if_neg fun both => free both.2, if_pos named] at held
      rw [if_neg free] at owner
      exact agrees.perform_of_same owner held
  · rw [if_neg fun both => named both.1, if_neg named] at held
    rw [if_neg named] at owner
    exact agrees.perform_of_filter _ owner held

theorem agrees_deleted {name hostname : Text} (agrees : Agrees env s name)
    (undotted : Undotted hostname) :
    Agrees env (s.perform env id now ((Task.deleteRoute hostname).move env s now)) name := by
  have owner := s.store.owner_deleteRoute hostname name
  have held : holder env.ttl
      (s.perform env id now ((Task.deleteRoute hostname).move env s now)).log name =
      if name = toAsciiLowercase hostname then none else holder env.ttl s.log name := by
    simp only [State.perform, Task.move, Option.elim_some, holder, lookupKey_of_undotted undotted]
  by_cases same : name = toAsciiLowercase hostname
  · rw [if_pos same] at owner held
    exact Or.inl (owner.trans held.symm)
  · rw [if_neg same] at owner held
    exact agrees.perform_of_same owner held

/-- The deletion of a revoked agent's routes takes names only from that agent. -/
theorem agrees_cleared {name agent : Text} (agrees : Agrees env s name)
    (owner : (s.perform env id now m).store.owner name =
      (s.store.owner name).filter fun a => decide (a ≠ agent))
    (held : holder env.ttl (s.perform env id now m).log name = holder env.ttl s.log name)
    (revoked : s.store.owner name = some agent → Revoked (s.perform env id now m).log agent) :
    Agrees env (s.perform env id now m) name := by
  by_cases own : s.store.owner name = some agent
  · rcases agrees with same | ⟨unowned, -⟩
    · refine Or.inr ⟨?_, agent, ?_, revoked own⟩
      · rw [owner, own, Option.filter_some_neg (by simp)]
      · rw [held, ← same, own]
    · rw [own] at unowned
      cases unowned
  · refine agrees.perform_of_same ?_ held
    rw [owner]
    cases other : s.store.owner name with
    | none => rfl
    | some a =>
        have different : a ≠ agent := fun same => own (same ▸ other)
        exact Option.filter_some_pos (by simpa using different)

/-- The holder of a name has a row. -/
theorem hasRow_of_holder {name agent : Text} (agrees : Agrees env s name) (rows : Known s)
    (revoked : ∀ agent, Revoked s.log agent →
      ∃ row, s.store.agents.find? agent = some row ∧ row.revokedAt ≠ none)
    (holds : holder env.ttl s.log name = some agent) : HasRow s agent := by
  rcases agrees with same | ⟨-, agent', holds', gone⟩
  · exact rows.owners name agent (same.trans holds)
  · rw [holds] at holds'
    cases holds'
    obtain ⟨row, found, -⟩ := revoked agent gone
    exact ⟨row, found⟩

/-- The purge's text comparison is the history's comparison. -/
theorem expiredAgent_eq_seenBefore (holds : Beats s) (four : FourDigitBeats s) {agent : Text}
    (has : HasRow s agent) {cutoff : Int} (inRange : Instant.year cutoff ≤ 9999) :
    s.store.expiredAgent (toRfc3339 cutoff) agent = seenBefore s.log cutoff agent := by
  obtain ⟨row, seen, address, found, last, -, written⟩ := lastSeenAt_of_known holds has
  simp [Store.expiredAgent, seenBefore, found, last, written, Store.expiredText,
    toRfc3339_lt_iff (four _ _ _ last), inRange]

theorem agrees_purged {name : Text} (agrees : Agrees env s name) (rows : Known s)
    (revoked : ∀ agent, Revoked s.log agent →
      ∃ row, s.store.agents.find? agent = some row ∧ row.revokedAt ≠ none)
    (holds : Beats s) (four : FourDigitBeats s) (inRange : Instant.year (now - env.ttl) ≤ 9999) :
    Agrees env (s.perform env id now (Task.purge.move env s now)) name := by
  refine agrees.perform_of_filter _ (s.store.owner_purgeExpiredAgents env.ttl now name) ?_
  simp only [State.perform, Task.move, Option.elim_some, holder]
  cases held : holder env.ttl s.log name with
  | none => rfl
  | some agent =>
      have has := hasRow_of_holder agrees rows revoked held
      simp only [Option.filter, expiredAgent_eq_seenBefore holds four has inRange]

theorem agrees_perform (follows : Follows env s) (rows : Known s) (holds : Beats s)
    (four : FourDigitBeats s)
    (revoked : ∀ agent, Revoked s.log agent →
      ∃ row, s.store.agents.find? agent = some row ∧ row.revokedAt ≠ none)
    (running : s.tasks.find? id = some task) (moved : Moves env s now task m)
    (inRange : task = .purge → Instant.year (now - env.ttl) ≤ 9999) (name : Text) :
    Agrees env (s.perform env id now m) name := by
  have agrees := follows.owners name
  have inFlight := follows.inFlight id task running
  have untouched : task.writesRoutes = false →
      holder env.ttl (s.perform env id now m).log name = holder env.ttl s.log name →
        Agrees env (s.perform env id now m) name :=
    fun silent held => agrees.perform_of_same ((ownerMove moved id name).kept_of silent) held
  cases moved with
  | transacted agent entries => exact agrees_transacted agrees inFlight.1
  | deleted hostname => exact agrees_deleted agrees inFlight
  | purged => exact agrees_purged agrees rows revoked holds four (inRange rfl)
  | revokeCleared agent row found gone =>
      exact agrees_cleared agrees (s.store.owner_clearRoutes agent name) rfl
        (fun _ => ⟨now, List.mem_cons_self⟩)
  | revokeMissed agent unmarked =>
      refine agrees_cleared agrees (s.store.owner_clearRoutes agent name) rfl ?_
      intro own
      obtain ⟨row, found⟩ := rows.owners name agent own
      exact absurd (unmarked row found) (inFlight row found)
  | ended _ refusable =>
      refine untouched ?_ rfl
      cases task <;> first | rfl | cases refusable
  | issued => exact untouched rfl rfl
  | selected => exact untouched rfl rfl
  | marked => exact untouched rfl rfl
  | enrolled => exact untouched rfl rfl
  | heartbeatVerified => exact untouched rfl rfl
  | beat => exact untouched rfl rfl
  | putVerified => exact untouched rfl rfl
  | putChecked => exact untouched rfl rfl
  | revokeMarked => exact untouched rfl rfl
  | read => exact untouched rfl rfl
  | replaced => exact untouched rfl rfl

/-- An agent is marked by its own revocation, which then runs to its end. -/
theorem marked_after (follows : Follows env s) (running : s.tasks.find? id = some task)
    (moved : Moves env s now task m) {agent : Text} {row : AgentRow}
    (found : (s.perform env id now m).store.agents.find? agent = some row)
    (marked : row.revokedAt ≠ none) :
    Revoked (s.perform env id now m).log agent ∨
      ∃ id', (s.perform env id now m).tasks.find? id' = some (.revokeDelete agent) := by
  -- a row that was marked before: its revocation has ended, or is the task that moves
  have before : ∀ old, s.store.agents.find? agent = some old → old.revokedAt ≠ none →
      Revoked (s.perform env id now m).log agent := by
    intro old stored gone
    rcases follows.marked agent old stored gone with done | ⟨id', revoking⟩
    · exact revoked_mono done
    · cases follows.single id id' task _ running revoking
      rw [running] at revoking
      cases revoking
      cases moved with
      | revokeCleared => exact ⟨now, List.mem_cons_self⟩
      | revokeMissed _ unmarked => exact absurd (unmarked old stored) gone
      | ended _ refusable => cases refusable
  have untouched : (s.perform env id now m).store.agents = s.store.agents →
      Revoked (s.perform env id now m).log agent := by
    intro same
    rw [same] at found
    exact before row found marked
  cases ran : m.statement with
  | none => exact Or.inl (untouched (by simp only [State.perform, ran, Option.elim_none]))
  | some st =>
      have change := st.agentChange_exec env.rfc s.store now agent
      simp only [State.perform, ran, Option.elim_some] at found
      rw [found] at change
      generalize stored : s.store.agents.find? agent = old at change
      cases change with
      | kept => exact Or.inl (before row stored marked)
      | enrolled => exact absurd rfl marked
      | seen _ old live => exact absurd live marked
      | revoked old =>
          right
          cases moved with
          | revokeMarked =>
              cases ran
              exact ⟨id, by simp only [State.perform, Table.find?_put, if_true]⟩
          | _ => cases ran

theorem follows_perform (follows : Follows env s) (rows : Known s) (holds : Beats s)
    (four : FourDigitBeats s)
    (revoked : ∀ agent, Revoked s.log agent →
      ∃ row, s.store.agents.find? agent = some row ∧ row.revokedAt ≠ none)
    (running : s.tasks.find? id = some task) (moved : Moves env s now task m)
    (inRange : task = .purge → Instant.year (now - env.ttl) ≤ 9999) :
    Follows env (s.perform env id now m) := by
  have only : ∀ id' task', (s.perform env id now m).tasks.find? id' = some task' →
      id' = id ∧ m.next = some task' := by
    intro id' task' found
    rcases task_of_perform found with next | ⟨other, old⟩
    · exact next
    · exact absurd (follows.single id' id task' task old running) other
  refine ⟨?_, ?_, agrees_perform follows rows holds four revoked running moved inRange, ?_⟩
  · intro id₁ id₂ task₁ task₂ first second
    rw [(only id₁ task₁ first).1, (only id₂ task₂ second).1]
  · intro id' task' found
    exact inFlight_next (follows.inFlight id task running) moved (only id' task' found).2
  · intro agent row found marked
    exact marked_after follows running moved found marked

end Step

/-- A request that comes in when nothing is in flight is before its first step. -/
theorem follows_spawn (follows : Follows env s) {id : Nat} {request : Request} {task : Task}
    (idle : s.tasks.rows = []) (plain : ∀ hostname ∈ request.hostnames, Undotted hostname)
    (started : request.start = some task) :
    Follows env { s with tasks := s.tasks.upsert id task } := by
  have none : ∀ id', s.tasks.find? id' = none := by
    intro id'
    rw [Table.find?, idle]
    rfl
  have only : ∀ id' task', (s.tasks.upsert id task).find? id' = some task' →
      id' = id ∧ Starts request task' := by
    intro id' task' found
    rw [Table.find?_upsert] at found
    split at found
    · rename_i same
      cases found
      exact ⟨same, starts started⟩
    · rw [none] at found
      cases found
  refine ⟨?_, ?_, follows.owners, ?_⟩
  · intro id₁ id₂ task₁ task₂ first second
    rw [(only id₁ task₁ first).1, (only id₂ task₂ second).1]
  · intro id' task' found
    cases (only id' task' found).2 with
    | putRoutes agentId authorization token entries bears =>
        intro entry member
        exact plain entry.hostname (List.mem_map_of_mem member)
    | deleteRoute hostname => exact plain hostname List.mem_cons_self
    | createToken => trivial
    | enroll => trivial
    | heartbeat => trivial
    | revokeAgent => trivial
    | cleanupTick => trivial
  · intro agent row found marked
    rcases follows.marked agent row found marked with done | ⟨id', revoking⟩
    · exact Or.inl done
    · rw [none] at revoking
      cases revoking

theorem follows (reached : LeaseRun env start s) : Follows env s := by
  refine reached.invariant (I := Follows env) ?_ ?_
  · refine ⟨?_, ?_, fun name => Or.inl rfl, ?_⟩
    · intro id id' task task' found
      cases found
    · intro id task found
      cases found
    · intro agent row found
      cases found
  · intro s a s' past follows allowed taken
    rcases step_cases taken with
      ⟨id, request, task, rfl, started, -, rfl⟩ | ⟨id, now, task, rfl, -, running, rfl⟩
    · exact follows_spawn follows allowed.1 allowed.2 started
    · refine follows_perform follows (known past) (beats past) (LeaseRun.fourDigitBeats past)
        (marked_of_revoked past) running (moves env s now task) ?_
      rintro rfl
      exact allowed.2.2 (by rw [running]; rfl)

/-! ## The refinement -/

/-- The answer of the store is the lease table's, in a state whose only handler
carries a snapshot. -/
theorem dnsAnswer_iff_leased (reached : LeaseRun env start s) {id : Nat} {snapshot : Snapshot}
    (running : s.tasks.find? id = some (.refreshReplace snapshot)) (now : Int) (hostname : Text)
    (ip : Ipv4Addr) :
    s.store.dnsAnswer env.rfc env.ttl now (lookupKey hostname) = some ip ↔
      Leased env.ttl s.log now hostname ip := by
  have follows := follows reached
  have holds := beats reached
  have four := LeaseRun.fourDigitBeats reached
  rw [Store.dnsAnswer_eq_some]
  constructor
  · rintro ⟨route, row, stored, found, unrevoked, alive, parsed⟩
    obtain ⟨row', seen, address, found', last, rfl, written⟩ :=
      lastSeenAt_of_known holds ⟨row, found⟩
    rw [found] at found'
    cases found'
    have own : s.store.owner (lookupKey hostname) = some route.agentId :=
      Store.owner_eq_some.mpr ⟨route, stored, rfl⟩
    refine ⟨route.agentId, seen, row.tailscaleIpv4, ?_, ?_, last, ?_, parsed⟩
    · rcases follows.owners (lookupKey hostname) with same | ⟨unowned, -⟩
      · exact same.symm.trans own
      · rw [own] at unowned
        cases unowned
    · intro gone
      obtain ⟨marked, there, revoked⟩ := marked_of_revoked reached _ gone
      rw [found] at there
      cases there
      exact revoked unrevoked
    · exact (leaseAlive_iff env.rfc written (four _ _ _ last) env.ttl now).mp alive
  · rintro ⟨agent, seen, address, held, unrevoked, last, recent, parsed⟩
    have own : s.store.owner (lookupKey hostname) = some agent := by
      rcases follows.owners (lookupKey hostname) with same | ⟨-, agent', held', gone⟩
      · exact same.trans held
      · rw [held] at held'
        cases held'
        exact absurd gone unrevoked
    obtain ⟨row, seen', address', found, last', rfl, written⟩ :=
      lastSeenAt_of_known holds ((known reached).owners _ agent own)
    rw [last] at last'
    cases last'
    obtain ⟨route, stored, rfl⟩ := Store.owner_eq_some.mp own
    have live : row.revokedAt = none := by
      by_contra marked
      rcases follows.marked _ row found marked with done | ⟨id', revoking⟩
      · exact unrevoked done
      · cases follows.single id id' _ _ running revoking
        rw [running] at revoking
        cases revoking
    exact ⟨route, row, stored, found, live,
      (leaseAlive_iff env.rfc written (four _ _ _ last) env.ttl now).mpr recent, parsed⟩

/-- **The DNS registry refines the lease table.** In every sequential run of plain
requests, right after each refresh `lookup_a` answers for every hostname what the
history leases at the instant the refresh read. -/
theorem registry_refines_leases (reached : LeaseRun env start s) (id : Nat) (now : Int)
    {snapshot : Snapshot} (running : s.tasks.find? id = some (.refreshReplace snapshot))
    (taken : step env s (.advance id now) = some s') :
    RefinesLeases env s' snapshot.readAt := by
  rcases step_cases taken with
    ⟨_, request, task, spawned, -⟩ | ⟨_, _, task, ⟨rfl, rfl⟩, -, found, rfl⟩
  · cases spawned
  · rw [running] at found
    cases found
    intro hostname ip
    show snapshot.map.find? (lookupKey hostname) = some ip ↔ _
    rw [(follows reached).inFlight id _ running (lookupKey hostname)]
    exact dnsAnswer_iff_leased reached running snapshot.readAt hostname ip

/-- An agent enrolls and registers a hostname, up to the last step of the refresh. -/
def registerName (hostname : Text) : List Action :=
  [.spawn 0 (.createEnrollmentToken [] "t".toList), .advance 0 0,
    .spawn 1 (.enroll (some "Bearer t".toList)
      ⟨"agt_a".toList, [], "a".toList, ⟨"a".toList, "100.64.0.1".toList, "e".toList⟩⟩),
    .advance 1 0, .advance 1 0, .advance 1 0,
    .spawn 2 (.putRoutes "agt_a".toList (some "Bearer a".toList)
      [⟨hostname, "http://10.0.0.1:80".toList, none, none⟩]),
    .advance 2 0, .advance 2 0, .advance 2 0, .advance 2 0]

theorem not_revoked {log : Log} {agent : Text} (absent : ∀ entry ∈ log, entry.2 ≠ .revoked agent) :
    ¬Revoked log agent := by
  rintro ⟨t, member⟩
  exact absent _ member rfl

theorem registry_refines_leases_undotted :
    ∃ s snapshot s', LeaseRun plainEnv 0 s ∧
      s.tasks.find? 2 = some (.refreshReplace snapshot) ∧
      step plainEnv s (.advance 2 1) = some s' ∧
      DnsRegistry.lookupA s'.registry "Web".toList = some ⟨[100, 64, 0, 1], rfl⟩ ∧
      RefinesLeases plainEnv s' snapshot.readAt := by
  have reached : LeaseRun plainEnv 0 _ :=
    Transition.reach_of_run (registerName "web".toList) rfl
  exact ⟨_, _, _, reached, rfl, rfl, by decide, registry_refines_leases reached 2 1 rfl rfl⟩

/-- **A name sent with a trailing dot never resolves.** It is accepted and stored as
`web.`; `lookup_a` trims the dot and asks for `web`. -/
theorem dotted_name_unresolvable :
    ∃ s snapshot s', Run plainEnv OneAtATime 0 s ∧
      s.tasks.find? 2 = some (.refreshReplace snapshot) ∧
      step plainEnv s (.advance 2 1) = some s' ∧
      s'.store.owner "web.".toList = some "agt_a".toList ∧
      DnsRegistry.lookupA s'.registry "web.".toList = none ∧
      ¬RefinesLeases plainEnv s' snapshot.readAt := by
  have reached : Run plainEnv OneAtATime 0 _ :=
    Transition.reach_of_run (registerName "web.".toList) rfl
  refine ⟨_, _, _, reached, rfl, rfl, by decide, by decide, ?_⟩
  intro refines
  have resolved := (refines "web.".toList ⟨[100, 64, 0, 1], rfl⟩).mpr
    ⟨"agt_a".toList, 0, "100.64.0.1".toList, by decide, not_revoked (by decide), by decide,
      by decide, by decide⟩
  revert resolved
  decide

end Tailroute.Controller
