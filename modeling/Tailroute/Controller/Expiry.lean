/-
# Controller.Expiry — how long an expired agent stays in DNS

A lease is checked when a refresh reads the routes, not when a query is answered:
`lookup_a` looks into the last registry that was installed. So an agent whose lease
runs out stays in DNS until the next refresh (`expired_agent_answered`), and the
cleanup task refreshes every ten seconds.

`Watched` adds to the controller what says how old the registry is: when it was
read, and when the last one installed by a cleanup tick was. `answered_owner` finds
behind every answer an agent that had beaten less than a lease before the read;
`answers_age_bounded` bounds the age at the query.
-/
import Tailroute.Controller.LeaseTable

namespace Tailroute.Common

set_option autoImplicit false

/-- What parses back from a written timestamp is the instant it was written for. -/
def Rfc3339.ReadsBack (rfc : Rfc3339) : Prop :=
  ∀ t t', rfc.parse (toRfc3339 t) = some t' → t' = t

end Tailroute.Common

namespace Tailroute.Controller

open Tailroute.Theory Tailroute.Common Tailroute.Storage Tailroute.Dns

set_option autoImplicit false

variable {env : Env} {ok : State → Action → Prop} {start : Int} {s s' : State}

/-! ## The history grows at its head, in order -/

theorem lastBeat_mem {log : Log} {agent address : Text} {t : Int}
    (last : lastBeat log agent = some (t, address)) :
    ∃ event, (t, event) ∈ log ∧ event.beat = some (agent, address) := by
  induction log with
  | nil => cases last
  | cons entry past ih =>
      obtain ⟨t', event⟩ := entry
      have earlier (older : lastBeat past agent = some (t, address)) :
          ∃ event', (t, event') ∈ (t', event) :: past ∧ event'.beat = some (agent, address) := by
        obtain ⟨event', member, beats⟩ := ih older
        exact ⟨event', List.mem_cons_of_mem _ member, beats⟩
      cases beats : event.beat with
      | none => exact earlier ((lastBeat_cons_of_silent beats past agent).symm.trans last)
      | some beat =>
          obtain ⟨a, address'⟩ := beat
          rw [lastBeat_cons_of_beat beats] at last
          split at last
          · rename_i same
            cases last
            exact ⟨event, List.mem_cons_self, same ▸ beats⟩
          · exact earlier last

/-- Newest first, and nothing from the future. -/
structure InOrder (s : State) : Prop where
  sorted : s.log.Pairwise fun newer older => older.1 ≤ newer.1
  past : ∀ entry ∈ s.log, entry.1 ≤ s.clock

theorem log_perform (env : Env) (s : State) (id : Nat) (now : Int) (m : Move) :
    (s.perform env id now m).log = s.log ∨
      ∃ event, (s.perform env id now m).log = (now, event) :: s.log := by
  simp only [State.perform]
  cases m.event with
  | none => exact Or.inl rfl
  | some event => exact Or.inr ⟨event, rfl⟩

theorem inOrder (reached : Run env ok start s) : InOrder s := by
  refine reached.invariant (I := InOrder) ?_ ?_
  · exact ⟨List.Pairwise.nil, fun entry member => nomatch member⟩
  · intro s a s' _ ordered _ taken
    rcases step_cases taken with
      ⟨id, request, task, -, -, -, rfl⟩ | ⟨id, now, task, -, later, -, rfl⟩
    · exact ⟨ordered.sorted, ordered.past⟩
    · have older : ∀ entry ∈ s.log, entry.1 ≤ now :=
        fun entry member => (ordered.past entry member).trans later
      rcases log_perform env s id now (task.move env s now) with same | ⟨event, grown⟩
      · refine ⟨same ▸ ordered.sorted, ?_⟩
        rw [same]
        exact older
      · refine ⟨?_, ?_⟩
        · rw [grown]
          exact List.pairwise_cons.mpr ⟨older, ordered.sorted⟩
        · rw [grown]
          exact List.forall_mem_cons.mpr ⟨le_rfl, older⟩

/-- A later history has beats at least as recent. -/
theorem lastBeat_of_suffix {log past : Log} {agent address : Text} {seen : Int}
    (sorted : log.Pairwise fun newer older => older.1 ≤ newer.1) (suffix : past <:+ log)
    (last : lastBeat past agent = some (seen, address)) :
    ∃ t address', lastBeat log agent = some (t, address') ∧ seen ≤ t := by
  obtain ⟨added, rfl⟩ := suffix
  induction added with
  | nil => exact ⟨seen, address, last, le_rfl⟩
  | cons entry added ih =>
      obtain ⟨t', event⟩ := entry
      rw [List.cons_append, List.pairwise_cons] at sorted
      obtain ⟨t, address', known, recent⟩ := ih sorted.2
      rw [List.cons_append]
      cases beats : event.beat with
      | none => exact ⟨t, address', (lastBeat_cons_of_silent beats _ agent).trans known, recent⟩
      | some beat =>
          obtain ⟨a, newest⟩ := beat
          rw [lastBeat_cons_of_beat beats]
          by_cases same : a = agent
          · obtain ⟨older, member, -⟩ := lastBeat_mem last
            exact ⟨t', newest, if_pos same, sorted.1 _ (List.mem_append_right _ member)⟩
          · exact ⟨t, address', (if_neg same).trans known, recent⟩

/-! ## Watching the refreshes -/

/-- The controller, with the instant the installed registry was read, the slots that
run a cleanup tick and the instant the last registry installed by a tick was read. -/
structure Watched where
  core : State
  readAt : Int
  ticks : List Nat
  tickRead : Int

/-- The registry of the start is empty, as a read of the empty database gives it. -/
def Watched.init (start : Int) : Watched := ⟨.init start, start, [], start⟩

/-- The snapshot an action installs. -/
def installing (s : State) : Action → Option Snapshot
  | .spawn _ _ => none
  | .advance id _ => (s.tasks.find? id).bind Task.installs

namespace Watched

def watch (w : Watched) (core : State) : Action → Watched
  | .spawn id request =>
      { w with
        core := core
        ticks := if request = .cleanupTick then id :: w.ticks else w.ticks.filter fun n => n != id }
  | .advance id now =>
      match installing w.core (.advance id now) with
      | some snapshot =>
          { w with
            core := core
            readAt := snapshot.readAt
            tickRead := if id ∈ w.ticks then snapshot.readAt else w.tickRead }
      | none => { w with core := core }

def step (env : Env) (w : Watched) (a : Action) : Option Watched :=
  (Controller.step env w.core a).map fun core => w.watch core a

/-- No replacement installs a registry that was read before the installed one. -/
def InstallsInOrder (w : Watched) (a : Action) : Prop :=
  (installing w.core a).all fun snapshot => decide (w.readAt ≤ snapshot.readAt)

instance (w : Watched) (a : Action) : Decidable (w.InstallsInOrder a) :=
  inferInstanceAs (Decidable (_ = true))

end Watched

abbrev WatchedRun (env : Env) (ok : Watched → Action → Prop) (start : Int) : Watched → Prop :=
  Transition.Reach (Watched.step env) ok (Watched.init start)

section Watching

variable {watched : Watched → Action → Prop} {w : Watched}

/-- Watching changes nothing. -/
theorem WatchedRun.core (reached : WatchedRun env watched start w) :
    Run env (fun _ _ => True) start w.core := by
  refine Transition.Reach.invariant (I := fun w => Run env (fun _ _ => True) start w.core)
    .start ?_ reached
  intro w a w' _ past _ taken
  obtain ⟨core, moved, rfl⟩ := Option.map_eq_some_iff.mp taken
  have same : (w.watch core a).core = core := by
    cases a with
    | spawn => rfl
    | advance id now =>
        simp only [Watched.watch]
        split <;> rfl
  rw [same]
  exact past.next trivial moved

/-- The map was read at instant `r` in an earlier state of the run. -/
def ReadIn (env : Env) (start : Int) (s : State) (r : Int) (map : DnsRegistry) : Prop :=
  ∃ before, Run env (fun _ _ => True) start before ∧ before.log <:+ s.log ∧
    ∀ host, map.find? host = before.store.dnsAnswer env.rfc env.ttl r host

theorem ReadIn.mono {r : Int} {map : DnsRegistry} (read : ReadIn env start s r map)
    (grown : s.log <:+ s'.log) : ReadIn env start s' r map := by
  obtain ⟨before, reached, suffix, same⟩ := read
  exact ⟨before, reached, suffix.trans grown, same⟩

structure Dated (env : Env) (start : Int) (w : Watched) : Prop where
  registry : ReadIn env start w.core w.readAt w.core.registry
  carried : ∀ id snapshot, w.core.tasks.find? id = some (.refreshReplace snapshot) →
    ReadIn env start w.core snapshot.readAt snapshot.map

theorem installs_eq_some {task : Task} {snapshot : Snapshot} :
    task.installs = some snapshot ↔ task = .refreshReplace snapshot := by
  cases task <;> simp [Task.installs]

theorem suffix_perform (env : Env) (s : State) (id : Nat) (now : Int) (m : Move) :
    s.log <:+ (s.perform env id now m).log := by
  rcases log_perform env s id now m with same | ⟨event, grown⟩
  · rw [same]
  · rw [grown]
    exact List.suffix_cons _ _

theorem dated (reached : WatchedRun env watched start w) : Dated env start w := by
  refine Transition.Reach.invariant (I := Dated env start) ?_ ?_ reached
  · refine ⟨⟨.init start, .start, List.suffix_rfl, fun host => rfl⟩, ?_⟩
    intro id snapshot found
    cases found
  · intro w a w' past dates _ taken
    obtain ⟨core, moved, rfl⟩ := Option.map_eq_some_iff.mp taken
    rcases step_cases moved with
      ⟨id, request, task, rfl, started, -, rfl⟩ | ⟨id, now, task, rfl, -, running, rfl⟩
    · refine ⟨dates.registry.mono List.suffix_rfl, ?_⟩
      intro id' snapshot found
      rcases task_of_spawn started found with first | old
      · cases first
      · exact (dates.carried id' snapshot old).mono List.suffix_rfl
    · have move := moves env w.core now task
      have grown := suffix_perform env w.core id now (task.move env w.core now)
      have carried : ∀ id' snapshot,
          (w.core.perform env id now (task.move env w.core now)).tasks.find? id' =
            some (.refreshReplace snapshot) →
          ReadIn env start (w.core.perform env id now (task.move env w.core now)) snapshot.readAt
            snapshot.map := by
        intro id' snapshot found
        rcases task_of_perform found with ⟨-, next⟩ | ⟨-, old⟩
        · obtain ⟨rfl, -⟩ := read_of_next move next
          exact ⟨w.core, WatchedRun.core past, grown, registryMap_find? w.core.store env.rfc env.ttl now⟩
        · exact (dates.carried id' snapshot old).mono grown
      cases installed : task.installs with
      | some snapshot =>
          obtain rfl := installs_eq_some.mp installed
          simp only [Watched.watch, installing, running, Option.bind_some, installed]
          exact ⟨(dates.carried id snapshot running).mono grown, carried⟩
      | none =>
          simp only [Watched.watch, installing, running, Option.bind_some, installed]
          refine ⟨?_, carried⟩
          have unchanged : (task.move env w.core now).snapshot = none := by
            by_contra replaces
            obtain ⟨snapshot, found⟩ := Option.ne_none_iff_exists'.mp replaces
            rw [replaced_of_snapshot move found] at installed
            cases installed
          have kept : (w.core.perform env id now (task.move env w.core now)).registry =
              w.core.registry := by
            simp only [State.perform, unchanged, Option.elim_none]
          rw [kept]
          exact dates.registry.mono grown

/-- With replacements in order the registry is as recent as the last tick's. -/
theorem tickRead_le (reached : WatchedRun env Watched.InstallsInOrder start w) :
    w.tickRead ≤ w.readAt := by
  refine Transition.Reach.invariant (I := fun w => w.tickRead ≤ w.readAt) le_rfl ?_ reached
  intro w a w' _ recent ordered taken
  obtain ⟨core, -, rfl⟩ := Option.map_eq_some_iff.mp taken
  cases a with
  | spawn id request => exact recent
  | advance id now =>
      simp only [Watched.watch]
      cases installed : installing w.core (.advance id now) with
      | none => exact recent
      | some snapshot =>
          simp only [Watched.InstallsInOrder, installed, Option.all_some, decide_eq_true_eq]
            at ordered
          simp only
          split
          · exact le_rfl
          · exact recent.trans ordered

end Watching

/-! ## The age of an answer -/

section Age

variable {watched : Watched → Action → Prop} {w : Watched}

/-- Behind an answer stands the agent that owned the name when the registry was
read: it had sent the address in a beat less than a lease before the read, and it
has not been heard of less recently since. -/
theorem answered_owner (readsBack : env.rfc.ReadsBack) (reached : WatchedRun env watched start w)
    {q : Text} {ip : Ipv4Addr} (answer : w.core.registry.lookupA q = some ip) :
    ∃ before agent seen address last address', Run env (fun _ _ => True) start before ∧
      before.log <:+ w.core.log ∧ before.store.owner (lookupKey q) = some agent ∧
      lastBeat before.log agent = some (seen, address) ∧ parseIpv4 address = some ip ∧
      w.readAt - seen < env.ttl ∧ lastBeat w.core.log agent = some (last, address') ∧
      seen ≤ last := by
  obtain ⟨before, run, suffix, same⟩ := (dated reached).registry
  have resolved := (same (lookupKey q)).symm.trans answer
  obtain ⟨route, row, stored, found, -, alive, parsed⟩ := Store.dnsAnswer_eq_some.mp resolved
  obtain ⟨row', seen, address, found', last, rfl, written⟩ :=
    lastSeenAt_of_known (beats run) ⟨row, found⟩
  rw [found] at found'
  cases found'
  have recent : w.readAt - seen < env.ttl := by
    simp only [Store.leaseAlive, written, Option.bind_some] at alive
    cases reads : env.rfc.parse (toRfc3339 seen) with
    | none =>
        rw [reads] at alive
        cases alive
    | some t =>
        rw [reads, readsBack seen t reads] at alive
        simpa using alive
  obtain ⟨t, address', known, later⟩ :=
    lastBeat_of_suffix (inOrder (WatchedRun.core reached)).sorted suffix last
  exact ⟨before, route.agentId, seen, row.tailscaleIpv4, t, address', run, suffix,
    Store.owner_eq_some.mpr ⟨route, stored, rfl⟩, last, parsed, recent, known, later⟩

/-- **An expired agent leaves DNS with the next refresh.** Whenever a query at `t` is
answered from the registry, its agent's last beat lies less than the lease before
the registry was read. If replacements keep the order of their reads and the last
registry of a cleanup tick was read at most ten seconds before `t`, it lies less than
the lease and ten seconds before `t`. -/
theorem answers_age_bounded (readsBack : env.rfc.ReadsBack)
    (reached : WatchedRun env watched start w) (q : Text) (ip : Ipv4Addr)
    (answer : w.core.registry.lookupA q = some ip) :
    ∃ before agent seen address last address', Run env (fun _ _ => True) start before ∧
      before.log <:+ w.core.log ∧ before.store.owner (lookupKey q) = some agent ∧
      lastBeat before.log agent = some (seen, address) ∧ parseIpv4 address = some ip ∧
      lastBeat w.core.log agent = some (last, address') ∧ w.readAt - last < env.ttl ∧
      (WatchedRun env Watched.InstallsInOrder start w →
        ∀ t, w.core.clock ≤ t → t - w.tickRead ≤ 10 * nanosPerSecond →
          t - last < env.ttl + 10 * nanosPerSecond) := by
  obtain ⟨before, agent, seen, address, last, address', run, suffix, own, sent, parsed, recent,
    known, later⟩ := answered_owner readsBack reached answer
  refine ⟨before, agent, seen, address, last, address', run, suffix, own, sent, parsed, known,
    by omega, ?_⟩
  intro ordered t _ ticked
  have installed := tickRead_le ordered
  omega

end Age

/-! ## A query between two ticks -/

/-- The written layout, four-digit years only. -/
def strictParser : Rfc3339 where
  parse s := (layoutParser.parse s).filter fun t => decide (Instant.FourDigitYear t)
  parse_toRfc3339 t four := by
    rw [layoutParser.parse_toRfc3339 t four]
    simp [Option.filter, four]

theorem strictParser_readsBack : strictParser.ReadsBack := by
  intro t t' parsed
  obtain ⟨parsed, four'⟩ := Option.filter_eq_some_iff.mp parsed
  have four' : Instant.FourDigitYear t' := by simpa using four'
  by_cases four : Instant.FourDigitYear t
  · rw [layoutParser.parse_toRfc3339 t four] at parsed
    exact (Option.some.inj parsed).symm
  · -- a text that opens with a sign is not one that opens with a digit
    exfalso
    simp only [layoutParser] at parsed
    split at parsed
    · rename_i same
      rw [Option.some.inj parsed] at same
      have before := signed_lt_fourDigit four' four
      rw [same] at before
      exact lt_irrefl _ before
    · cases parsed

/-- A lease of fifteen seconds. -/
def shortLease : Env := { plainEnv with rfc := strictParser, ttl := 15 * nanosPerSecond }

/-- A name is registered at the start; ticks run at once and after ten seconds. -/
def tickTwice : List Action :=
  let tick (id : Nat) (now : Int) : List Action :=
    [.spawn id .cleanupTick, .advance id now, .advance id now, .advance id now]
  registerName "web".toList ++ [.advance 2 0] ++ tick 3 0 ++ tick 4 (10 * nanosPerSecond)

/-- The lease ran out at fifteen seconds, the last tick was at ten, and a query at
sixteen gets the agent's address. -/
theorem between_ticks :
    ∃ w, WatchedRun shortLease Watched.InstallsInOrder 0 w ∧
      w.core.clock ≤ 16 * nanosPerSecond ∧
      16 * nanosPerSecond - w.tickRead ≤ 10 * nanosPerSecond ∧
      w.core.registry.lookupA "web".toList = some ⟨[100, 64, 0, 1], rfl⟩ ∧
      w.core.store.owner "web".toList = some "agt_a".toList ∧
      lastBeat w.core.log "agt_a".toList = some (0, "100.64.0.1".toList) :=
  Transition.exists_reach_of_run _ tickTwice (by decide +kernel)

theorem answers_age_bounded_between_ticks :
    ∃ w, WatchedRun shortLease Watched.InstallsInOrder 0 w ∧
      w.core.registry.lookupA "web".toList = some ⟨[100, 64, 0, 1], rfl⟩ ∧
      ∃ agent last address, lastBeat w.core.log agent = some (last, address) ∧
        16 * nanosPerSecond - last < shortLease.ttl + 10 * nanosPerSecond := by
  obtain ⟨w, reached, waited, ticked, answer, -⟩ := between_ticks
  obtain ⟨_, agent, _, _, last, address, -, -, -, -, -, known, -, bound⟩ :=
    answers_age_bounded strictParser_readsBack reached "web".toList ⟨[100, 64, 0, 1], rfl⟩ answer
  exact ⟨w, reached, answer, agent, last, address, known, bound reached _ waited ticked⟩

/-- **An expired agent is still answered**: its last beat lies sixteen seconds back, a
lease is fifteen. -/
theorem expired_agent_answered :
    ∃ w, WatchedRun shortLease Watched.InstallsInOrder 0 w ∧
      w.core.clock ≤ 16 * nanosPerSecond ∧
      16 * nanosPerSecond - w.tickRead ≤ 10 * nanosPerSecond ∧
      w.core.registry.lookupA "web".toList = some ⟨[100, 64, 0, 1], rfl⟩ ∧
      w.core.store.owner "web".toList = some "agt_a".toList ∧
      lastBeat w.core.log "agt_a".toList = some (0, "100.64.0.1".toList) ∧
      ¬16 * nanosPerSecond - 0 < shortLease.ttl := by
  obtain ⟨w, reached, waited, ticked, answer, own, last⟩ := between_ticks
  exact ⟨w, reached, waited, ticked, answer, own, last, by decide⟩

end Tailroute.Controller
