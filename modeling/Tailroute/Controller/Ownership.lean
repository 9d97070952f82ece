/-
# Controller.Ownership — nobody loses a hostname while its lease is alive

Three liveness tests guard a route: `put_routes` parses `last_seen_at`,
`purge_expired_agents` compares it as text, revocation and deletion ask nobody.
While enrollments and heartbeats happen in years 0000–9999 both tests agree with
the history, and every change of owner in every interleaving is one of the
changes of `Justified`.

From year 10000 on `last_seen_at` starts with a sign and sorts below any cutoff
of year 9999; `purge_deletes_live_route` is the run in which the cleanup deletes
a route whose owner has just enrolled.
-/
import Tailroute.Controller.History

namespace Tailroute.Controller

open Tailroute.Theory Tailroute.Common Tailroute.Storage

set_option autoImplicit false

variable {env : Env} {start : Int} {s s' : State}

/-! ## Beats in four-digit years -/

/-- Tasks about to write `last_seen_at`. -/
def Task.stamps : Task → Bool
  | enrollInsert _ _ => true
  | heartbeatUpdate _ _ => true
  | _ => false

/-- Enrollments and heartbeats read a clock in years 0000–9999. -/
def BeatsInFourDigits (s : State) : Action → Prop
  | .spawn _ _ => True
  | .advance id now => (s.tasks.find? id).any Task.stamps = true → Instant.FourDigitYear now

instance (s : State) (a : Action) : Decidable (BeatsInFourDigits s a) :=
  match a with
  | .spawn _ _ => isTrue trivial
  | .advance _ _ => inferInstanceAs (Decidable (_ → _))

/-- Only an enrollment or a heartbeat adds a beat to the log. -/
theorem lastBeat_perform {task : Task} {m : Move} {now t : Int} {agent address : Text}
    (moved : Moves env s now task m) (id : Nat)
    (last : lastBeat (s.perform env id now m).log agent = some (t, address)) :
    lastBeat s.log agent = some (t, address) ∨ t = now ∧ task.stamps = true := by
  cases moved with
  | enrolled token new fresh =>
      simp only [State.perform, Option.elim_some] at last
      rw [lastBeat_cons_of_beat rfl] at last
      split at last
      · cases last
        exact Or.inr ⟨rfl, rfl⟩
      · exact Or.inl last
  | beat agentId tailscaleIpv4 row live =>
      simp only [State.perform, Option.elim_some] at last
      rw [lastBeat_cons_of_beat rfl] at last
      split at last
      · cases last
        exact Or.inr ⟨rfl, rfl⟩
      · exact Or.inl last
  | _ => exact Or.inl last

def FourDigitBeats (s : State) : Prop :=
  ∀ agent t address, lastBeat s.log agent = some (t, address) → Instant.FourDigitYear t

theorem fourDigitBeats_perform {task : Task} {m : Move} {now : Int} (holds : FourDigitBeats s)
    (moved : Moves env s now task m) (id : Nat)
    (inRange : task.stamps = true → Instant.FourDigitYear now) :
    FourDigitBeats (s.perform env id now m) := by
  intro agent t address last
  rcases lastBeat_perform moved id last with old | ⟨rfl, stamped⟩
  · exact holds agent t address old
  · exact inRange stamped

theorem fourDigitBeats (reached : Run env BeatsInFourDigits start s) : FourDigitBeats s := by
  refine reached.invariant (I := FourDigitBeats) ?_ ?_
  · intro agent t address last
    cases last
  · intro s a s' _ holds allowed taken
    rcases step_cases taken with
      ⟨id, request, task, -, -, -, rfl⟩ | ⟨id, now, task, rfl, -, running, rfl⟩
    · exact holds
    · refine fourDigitBeats_perform holds (moves env s now task) id ?_
      intro stamped
      exact allowed (by rw [running]; exact stamped)

/-! ## The two liveness tests against the history -/

/-- A known agent's row, read back: what `last_seen_at` says is its last beat. -/
theorem lastSeenAt_of_known (holds : Beats s) {agent : Text} (has : HasRow s agent) :
    ∃ row seen address, s.store.agents.find? agent = some row ∧
      lastBeat s.log agent = some (seen, address) ∧ row.tailscaleIpv4 = address ∧
        row.lastSeenAt = some (toRfc3339 seen) := by
  obtain ⟨row, found⟩ := has
  have beat := holds agent
  rw [found] at beat
  obtain ⟨seen, last, written⟩ := beat
  exact ⟨row, seen, row.tailscaleIpv4, found, last, rfl, written⟩

/-- The lease test of a row is the lease test of the history. -/
theorem leaseAlive_iff (rfc : Rfc3339) {row : AgentRow} {seen : Int}
    (written : row.lastSeenAt = some (toRfc3339 seen)) (four : Instant.FourDigitYear seen)
    (ttl now : Int) : Store.leaseAlive rfc ttl now row.lastSeenAt = true ↔ now - seen < ttl := by
  simp [Store.leaseAlive, written, rfc.parse_toRfc3339 seen four]

/-- The agent's last beat lies `ttl` or more before `now`. -/
def Expired (env : Env) (s : State) (now : Int) (agent : Text) : Prop :=
  ∃ seen address, lastBeat s.log agent = some (seen, address) ∧ env.ttl ≤ now - seen

/-- An owner that does not block another agent's request has expired. -/
theorem expired_of_free (holds : Beats s) (four : FourDigitBeats s) {now : Int}
    {host old new : Text} (own : s.store.owner host = some old) (has : HasRow s old)
    (other : old ≠ new)
    (free : conflictWith env.rfc env.ttl now s.store.agents new s.store.routes host = none) :
    Expired env s now old := by
  obtain ⟨row, seen, address, found, last, -, written⟩ := lastSeenAt_of_known holds has
  refine ⟨seen, address, last, ?_⟩
  by_contra alive
  obtain ⟨route, stored, rfl⟩ := Store.owner_eq_some.mp own
  have lease := (leaseAlive_iff env.rfc written (four _ _ _ last) env.ttl now).mpr (by omega)
  have blocked := conflictWith_eq_some.mpr ⟨route, row, stored, rfl, found, other, lease, rfl⟩
  rw [free] at blocked
  cases blocked

/-- An owner that the purge selects has expired. -/
theorem expired_of_purged (holds : Beats s) (four : FourDigitBeats s) {now : Int} {agent : Text}
    (has : HasRow s agent)
    (expired : s.store.expiredAgent (toRfc3339 (now - env.ttl)) agent = true) :
    Expired env s now agent := by
  obtain ⟨row, seen, address, found, last, -, written⟩ := lastSeenAt_of_known holds has
  refine ⟨seen, address, last, ?_⟩
  simp only [Store.expiredAgent, found, written, Store.expiredText, decide_eq_true_eq] at expired
  have before := ((toRfc3339_lt_iff (four _ _ _ last) _).mp expired).1
  omega

/-! ## Every change of owner -/

/-- The steps that may change the owner of `host`, from the old owner to the new. -/
inductive Justified (env : Env) (s : State) (host : Text) :
    Action → Option Text → Option Text → Prop
  | claimed (id : Nat) (now : Int) (agent : Text) (entries : List RouteEntry)
      (running : s.tasks.find? id = some (.putTransact agent entries))
      (named : host ∈ entries.map RouteEntry.host) :
      Justified env s host (.advance id now) none (some agent)
  | withdrawn (id : Nat) (now : Int) (agent : Text) (entries : List RouteEntry)
      (running : s.tasks.find? id = some (.putTransact agent entries))
      (omitted : host ∉ entries.map RouteEntry.host) :
      Justified env s host (.advance id now) (some agent) none
  | takenOver (id : Nat) (now : Int) (old new : Text) (entries : List RouteEntry)
      (running : s.tasks.find? id = some (.putTransact new entries))
      (named : host ∈ entries.map RouteEntry.host) (expired : Expired env s now old) :
      Justified env s host (.advance id now) (some old) (some new)
  | deleted (id : Nat) (now : Int) (old hostname : Text)
      (running : s.tasks.find? id = some (.deleteRoute hostname))
      (same : host = toAsciiLowercase hostname) :
      Justified env s host (.advance id now) (some old) none
  | revoked (id : Nat) (now : Int) (old : Text)
      (running : s.tasks.find? id = some (.revokeDelete old)) :
      Justified env s host (.advance id now) (some old) none
  | purged (id : Nat) (now : Int) (old : Text)
      (running : s.tasks.find? id = some .purge) (expired : Expired env s now old) :
      Justified env s host (.advance id now) (some old) none

/-- What ownership promises in a state: lowercase hostnames, one owner each, and
only justified changes in whatever step comes next. -/
structure OwnershipSafe (env : Env) (s : State) : Prop where
  lower : ∀ host agent, s.store.owner host = some agent → toAsciiLowercase host = host
  unique : ∀ host row row', (host, row) ∈ s.store.routes.rows →
    (host, row') ∈ s.store.routes.rows → row = row'
  changes : ∀ a s', step env s a = some s' → ∀ host,
    s'.store.owner host ≠ s.store.owner host →
      Justified env s host a (s.store.owner host) (s'.store.owner host)

/-- Where ownership is safe, a purge only takes hostnames from expired owners. -/
theorem OwnershipSafe.expired_of_purge (safe : OwnershipSafe env s) (id : Nat) (now : Int)
    (host old : Text) (running : s.tasks.find? id = some .purge)
    (taken : step env s (.advance id now) = some s') (own : s.store.owner host = some old)
    (lost : s'.store.owner host ≠ some old) : Expired env s now old := by
  have change := safe.changes _ s' taken host (by rw [own]; exact lost)
  rw [own] at change
  generalize s'.store.owner host = after at change
  cases change with
  | purged _ _ _ _ expired => exact expired
  | withdrawn _ _ _ _ other _ => rw [running] at other; cases other
  | takenOver _ _ _ _ _ other _ _ => rw [running] at other; cases other
  | deleted _ _ _ _ other _ => rw [running] at other; cases other
  | revoked _ _ _ other => rw [running] at other; cases other

theorem justified_of_ownerMove (holds : Beats s) (four : FourDigitBeats s) (rows : Known s)
    {id : Nat} {now : Int} {task : Task} {host : Text} {after : Option Text}
    (running : s.tasks.find? id = some task) (change : OwnerMove env s now host task after)
    (changed : after ≠ s.store.owner host) :
    Justified env s host (.advance id now) (s.store.owner host) after := by
  cases change with
  | kept => exact absurd rfl changed
  | claimed agent entries named free =>
      cases own : s.store.owner host with
      | none => exact .claimed id now agent entries running named
      | some old =>
          have other : old ≠ agent := by
            intro same
            exact changed (by rw [own, same])
          have expired := expired_of_free holds four own (rows.owners host old own) other free
          exact .takenOver id now old agent entries running named expired
  | withdrawn agent entries omitted own =>
      rw [own]
      exact .withdrawn id now agent entries running omitted
  | deleted hostname same =>
      cases own : s.store.owner host with
      | none => exact absurd own.symm changed
      | some old => exact .deleted id now old hostname running same
  | cleared agent own =>
      rw [own]
      exact .revoked id now agent running
  | purged agent own expired =>
      rw [own]
      exact .purged id now agent running
        (expired_of_purged holds four (rows.owners host agent own) expired)

/-- **No hijack of a live lease.** In every run whose enrollments and heartbeats
happen in years 0000–9999, ownership is safe in every state. -/
theorem no_live_hijack (reached : Run env BeatsInFourDigits start s) : OwnershipSafe env s := by
  refine ⟨lowercase reached, fun _ _ _ => s.store.routes.row_unique, ?_⟩
  intro a s' taken host changed
  rcases step_cases taken with
    ⟨id, request, task, -, -, -, rfl⟩ | ⟨id, now, task, rfl, -, running, rfl⟩
  · exact absurd rfl changed
  · exact justified_of_ownerMove (beats reached) (fourDigitBeats reached) (known reached) running
      (ownerMove (moves env s now task) id host) changed

/-- An agent enrolls at `t` and registers `web`; then a cleanup tick starts. -/
def registerThenTick (t : Int) : List Action :=
  [.spawn 0 (.createEnrollmentToken [] "t".toList), .advance 0 t,
    .spawn 1 (.enroll (some "Bearer t".toList)
      ⟨"agt_a".toList, [], "a".toList, ⟨"a".toList, "100.64.0.1".toList, "e".toList⟩⟩),
    .advance 1 t, .advance 1 t, .advance 1 t,
    .spawn 2 (.putRoutes "agt_a".toList (some "Bearer a".toList)
      [⟨"web".toList, "http://10.0.0.1:80".toList, none, none⟩]),
    .advance 2 t, .advance 2 t, .advance 2 t, .spawn 3 .cleanupTick]

theorem no_live_hijack_registered :
    ∃ s, Run plainEnv BeatsInFourDigits 0 s ∧
      s.store.owner "web".toList = some "agt_a".toList ∧ OwnershipSafe plainEnv s := by
  have reached : Run plainEnv BeatsInFourDigits 0 _ :=
    Transition.reach_of_run (registerThenTick 0) rfl
  exact ⟨_, reached, by decide, no_live_hijack reached⟩

/-- **The cleanup deletes a live route.** The agent enrolled at the very instant of
the tick; its `last_seen_at`, `+10000-01-01T00:00:00+00:00`, sorts below the cutoff
`9999-12-31T23:58:30+00:00`. -/
theorem purge_deletes_live_route :
    ∃ s s', Run plainEnv (fun _ _ => True) 0 s ∧
      s.store.owner "web".toList = some "agt_a".toList ∧
      lastBeat s.log "agt_a".toList = some (year10000, "100.64.0.1".toList) ∧
      step plainEnv s (.advance 3 year10000) = some s' ∧
      s'.store.owner "web".toList = none ∧ ¬OwnershipSafe plainEnv s := by
  have reached : Run plainEnv (fun _ _ => True) 0 _ :=
    Transition.reach_of_run (registerThenTick year10000) rfl
  refine ⟨_, _, reached, by decide, by decide, rfl, by decide, ?_⟩
  intro safe
  obtain ⟨seen, address, last, expired⟩ := safe.expired_of_purge 3 year10000 "web".toList
    "agt_a".toList rfl rfl (by decide) (by decide)
  cases last
  exact absurd expired (by decide)

end Tailroute.Controller
