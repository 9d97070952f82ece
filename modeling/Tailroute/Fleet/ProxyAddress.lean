/-
# Fleet.ProxyAddress — where a DNS answer leads

What the controller knows of an agent's address is the text of its last enrollment or
heartbeat. A refresh parses it and installs the map later, when the agent may have sent
another address and the name may have another owner.

So an answer need not be the address its owner has sent last; but it is one that an agent
has sent, and the controller has accepted the name from that agent (`led`). If agents send what they have
resolved at their start, the text parses to just that address, and a client that follows
the answer gets to where the proxy of such an agent listens (`dns_leads_to_proxy`).
-/
import Tailroute.Agent.Address
import Tailroute.Controller.Refresh

namespace Tailroute.Fleet

open Tailroute.Theory Tailroute.Common Tailroute.Storage Tailroute.Controller Tailroute.Dns
  Tailroute.Agent Tailroute.Proxy

set_option autoImplicit false

variable {env : Env} {ok : State → Controller.Action → Prop} {start : Int} {s : State}

/-! ## Answers and the history -/

/-- An enrollment or a heartbeat of the agent carried this text. -/
def Announced (log : Log) (agentId text : Text) : Prop :=
  ∃ t event, (t, event) ∈ log ∧ event.beat = some (agentId, text)

/-- A route set of the agent was stored, and the name was accepted. -/
def Registered (log : Log) (agentId host : Text) : Prop :=
  ∃ t entries outcome, (t, Event.putRoutes agentId entries outcome) ∈ log ∧
    host ∈ outcome.accepted

/-- An address that an agent announced, for a name that was accepted from it. -/
def Leads (log : Log) (host : Text) (ip : Ipv4Addr) : Prop :=
  ∃ agentId text, Announced log agentId text ∧ parseIpv4 text = some ip ∧
    Registered log agentId host

theorem announced_of_lastBeat {log : Log} {agentId text : Text} {t : Int}
    (last : lastBeat log agentId = some (t, text)) : Announced log agentId text := by
  induction log with
  | nil => cases last
  | cons entry past ih =>
      obtain ⟨t', event⟩ := entry
      have earlier : lastBeat past agentId = some (t, text) →
          Announced ((t', event) :: past) agentId text := by
        intro last
        obtain ⟨t'', event', member, beat⟩ := ih last
        exact ⟨t'', event', List.mem_cons_of_mem _ member, beat⟩
      rw [lastBeat] at last
      split at last
      · rename_i a address beat
        split at last
        · rename_i same
          cases last
          exact ⟨t, event, List.mem_cons_self, same ▸ beat⟩
        · exact earlier last
      · exact earlier last

theorem Registered.mono {log log' : Log} (longer : log ⊆ log') {agentId host : Text}
    (registered : Registered log agentId host) : Registered log' agentId host := by
  obtain ⟨t, entries, outcome, put, accepted⟩ := registered
  exact ⟨t, entries, outcome, longer put, accepted⟩

theorem Leads.mono {log log' : Log} (longer : log ⊆ log') {host : Text} {ip : Ipv4Addr}
    (leads : Leads log host ip) : Leads log' host ip := by
  obtain ⟨agentId, text, ⟨t, event, beaten, beat⟩, parsed, registered⟩ := leads
  exact ⟨agentId, text, ⟨t, event, longer beaten, beat⟩, parsed, registered.mono longer⟩

theorem log_subset_perform (id : Nat) (now : Int) (m : Move) :
    s.log ⊆ (s.perform env id now m).log := by
  simp only [State.perform]
  cases m.event with
  | none => exact List.Subset.refl _
  | some event => exact List.subset_cons_self _ _

/-- Whoever owns a name has had it accepted. -/
def OwnersRegistered (s : State) : Prop :=
  ∀ host agentId, s.store.owner host = some agentId → Registered s.log agentId host

theorem OwnersRegistered.perform (holds : OwnersRegistered s) {id : Nat} {now : Int} {task : Task}
    {m : Move} (moved : Moves env s now task m) : OwnersRegistered (s.perform env id now m) := by
  intro host agentId own
  have change := ownerMove moved id host
  rw [own] at change
  generalize held : some agentId = after at change
  cases change with
  | kept => exact (holds host agentId held.symm).mono (log_subset_perform id now m)
  | claimed claimant entries named free =>
      cases held
      -- the step that claims the name also logs its outcome
      cases moved with
      | transacted =>
          exact ⟨now, entries, _, List.mem_cons_self, mem_accepted.mpr ⟨named, free⟩⟩
      | ended _ refusable => cases refusable
  | withdrawn => cases held
  | deleted => cases held
  | cleared => cases held
  | purged => cases held

theorem ownersRegistered (reached : Run env ok start s) : OwnersRegistered s := by
  refine reached.invariant (I := OwnersRegistered) (by rintro _ _ ⟨⟩) ?_
  intro s a s' _ holds _ taken
  rcases step_cases taken with ⟨id, request, task, -, -, -, rfl⟩ | ⟨id, now, task, -, -, -, rfl⟩
  · exact holds
  · exact holds.perform (moves env s now task)

/-- What a refresh reads is led to by the history so far. -/
theorem leads_of_dnsAnswer (beats : Beats s) (owners : OwnersRegistered s) {rfc : Rfc3339}
    {ttl now : Int} {host : Text} {ip : Ipv4Addr}
    (answer : s.store.dnsAnswer rfc ttl now host = some ip) : Leads s.log host ip := by
  obtain ⟨route, agent, stored, found, -, -, parsed⟩ := Store.dnsAnswer_eq_some.mp answer
  have row := beats route.agentId
  rw [found] at row
  obtain ⟨seen, beat, -⟩ := row
  exact ⟨route.agentId, agent.tailscaleIpv4, announced_of_lastBeat beat, parsed,
    owners host route.agentId (Store.owner_eq_some.mpr ⟨route, stored, rfl⟩)⟩

/-! ## Runs -/

/-- The registry and every snapshot that is about to replace it. -/
structure Led (s : State) : Prop where
  registry : ∀ host ip, s.registry.find? host = some ip → Leads s.log host ip
  snapshots : ∀ id snapshot, s.tasks.find? id = some (.refreshReplace snapshot) →
    ∀ host ip, snapshot.map.find? host = some ip → Leads s.log host ip

theorem Led.perform (holds : Led s) (beats : Beats s) (owners : OwnersRegistered s) {id : Nat}
    {now : Int} {task : Task} {m : Move} (found : s.tasks.find? id = some task)
    (moved : Moves env s now task m) : Led (s.perform env id now m) := by
  have longer : s.log ⊆ (s.perform env id now m).log := log_subset_perform id now m
  constructor
  · intro host ip answer
    refine Leads.mono longer ?_
    cases moved with
    | replaced snapshot => exact holds.snapshots id snapshot found host ip answer
    | _ => exact holds.registry host ip answer
  · intro id' snapshot there host ip answer
    refine Leads.mono longer ?_
    rcases task_of_perform there with ⟨-, next⟩ | ⟨-, there⟩
    · -- the only step that leads to a replacement is the read before it
      cases moved <;> cases next
      rw [registryMap_find?] at answer
      exact leads_of_dnsAnswer beats owners answer
    · exact holds.snapshots id' snapshot there host ip answer

/-- **Every DNS answer is an address that an agent announced, for a name that was accepted
from it**, in every state of every run. -/
theorem led (reached : Run env ok start s) : Led s := by
  refine reached.invariant (I := Led) ⟨by rintro _ _ ⟨⟩, by rintro _ _ ⟨⟩⟩ ?_
  intro s a s' past holds _ taken
  rcases step_cases taken with
    ⟨id, request, task, -, started, -, rfl⟩ | ⟨id, now, task, -, -, found, rfl⟩
  · refine ⟨holds.registry, fun id' snapshot there => ?_⟩
    rcases task_of_spawn started there with first | there
    · cases first
    · exact holds.snapshots id' snapshot there
  · exact holds.perform (beats past) (ownersRegistered past) found (moves env s now task)

/-! ## The proxy -/

/-- Whoever enrolls an agent or holds its credential sends what one of the agent's processes
has resolved at its start. -/
def Truthful (parseV6 : Text → Option SocketAddr) (starts : Text → List AgentStart) (log : Log) :
    Prop :=
  ∀ agentId text, Announced log agentId text → ∃ p ∈ starts agentId, ∃ ip listen,
    p.addresses parseV6 = .ok (ip, listen) ∧ text = ipv4Text ip

/-- **A DNS answer leads to the proxy of an agent that registered the name.** Whatever is
interleaved, and however old the installed snapshot is: if agents send the address they
resolved, then every answer is the resolved address of a process of an agent that the name
was accepted from, its first octet is 100, and without `proxy_listen` the proxy of that
process listens on it. -/
theorem dns_leads_to_proxy {parseV6 : Text → Option SocketAddr} {starts : Text → List AgentStart}
    (reached : Run env ok start s) (truthful : Truthful parseV6 starts s.log) {name : Text}
    {ip : Ipv4Addr} (answer : s.registry.lookupA name = some ip) :
    ∃ agentId, Registered s.log agentId (lookupKey name) ∧
      ∃ p ∈ starts agentId, ∃ listen, p.addresses parseV6 = .ok (ip, listen) ∧
        ip.octets.head? = some 100 ∧
        (p.cfg.proxyListen = none → listen = ⟨.v4 ip, p.cfg.proxyPort⟩) := by
  obtain ⟨agentId, text, announced, parsed, registered⟩ :=
    (led reached).registry (lookupKey name) ip answer
  obtain ⟨p, among, ip', listen, started, rfl⟩ := truthful agentId text announced
  -- the text was written from an address, and it is that address again
  rw [parseIpv4_ipv4Text] at parsed
  cases parsed
  exact ⟨agentId, registered, p, among, listen, started, addresses_eq_ok started⟩

def configuredAddress : Ipv4Addr := ⟨[100, 64, 0, 41], rfl⟩

/-- The address is configured, and the proxy has its default port. -/
def configuredStart : AgentStart :=
  ⟨⟨some " 100.64.0.41 ".toList, none, 80⟩, ⟨[.asked .missing], .missing, .failed⟩⟩

/-- An agent at that address enrolls and registers `web`. -/
def registerWeb : List Controller.Action :=
  [.spawn 0 (.createEnrollmentToken [] "t".toList), .advance 0 0,
    .spawn 1 (.enroll (some "Bearer t".toList)
      ⟨"agt_a".toList, [], "a".toList, ⟨"a".toList, "100.64.0.41".toList, "e".toList⟩⟩),
    .advance 1 0, .advance 1 0, .advance 1 0,
    .spawn 2 (.putRoutes "agt_a".toList (some "Bearer a".toList)
      [⟨"web".toList, "http://10.0.0.1:80".toList, none, none⟩]),
    .advance 2 0, .advance 2 0, .advance 2 0, .advance 2 0, .advance 2 0]

/-- DNS answers `WEB.` with that address, and no other was ever sent. -/
def answersWeb (s : State) : Bool :=
  decide (s.registry.lookupA "WEB.".toList = some configuredAddress) &&
    s.log.all fun entry => entry.2.beat.all fun beat => decide (beat.2 = "100.64.0.41".toList)

/-- The agent has registered `web`, and a client asks for `WEB.`. -/
theorem dns_leads_to_proxy_web :
    ∃ s, Run plainEnv (fun _ _ => True) 0 s ∧
      s.registry.lookupA "WEB.".toList = some configuredAddress ∧
      ∃ agentId, Registered s.log agentId "web".toList ∧
        configuredStart.addresses (fun _ => none) =
          .ok (configuredAddress, ⟨.v4 configuredAddress, 80⟩) := by
  have ran : ∃ s, Run plainEnv (fun _ _ => True) 0 s ∧ answersWeb s = true :=
    Transition.exists_reach_of_run (fun s => answersWeb s = true) registerWeb (by decide +kernel)
  obtain ⟨s, reached, test⟩ := ran
  obtain ⟨answer, one⟩ := Bool.and_eq_true_iff.mp test
  have resolved : configuredStart.addresses (fun _ => none) =
      .ok (configuredAddress, ⟨.v4 configuredAddress, 80⟩) := by
    decide +kernel
  have truthful : Truthful (fun _ => none) (fun _ => [configuredStart]) s.log := by
    rintro agentId text ⟨t, event, member, beat⟩
    have carried := List.all_eq_true.mp one _ member
    rw [beat, Option.all_some, decide_eq_true_eq] at carried
    exact ⟨configuredStart, List.mem_singleton_self _, _, _, resolved,
      carried.trans (by decide +kernel)⟩
  obtain ⟨agentId, registered, p, among, listen, started, -, listens⟩ :=
    dns_leads_to_proxy reached truthful (of_decide_eq_true answer)
  obtain rfl := List.mem_singleton.mp among
  rw [listens rfl] at started
  exact ⟨s, reached, of_decide_eq_true answer, agentId, registered, started⟩

end Tailroute.Fleet
