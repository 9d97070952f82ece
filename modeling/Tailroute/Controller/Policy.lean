/-
# Controller.Policy — what the registration policy keeps out of DNS

`put_routes` asks `hostname_allowed` about the text of the request, stores the text
in lowercase, and `lookup_a` trims and lowercases the query again. `Admitted P`
follows a property of requested hostnames through this: if whatever leaves the
check of `put_routes` has it, then so does every row, every snapshot in flight and
every name the registry answers, in any interleaving.

The policy itself looks at the lowercase name only (`hostnameAllowed_congr`), so no
spelling of a query gets around it (`answered_only_if_allowed`). It does look at the
configured names as they are written: one with a trailing dot is the lowercase of no
registered name (`dotted_block_answered`). Enable requests run beside: they write
another table.
-/
import Tailroute.Controller.AllowedSuffixes
import Tailroute.Controller.ClickToEnable
import Tailroute.Controller.LeaseTable

namespace Tailroute.Controller

open Tailroute.Theory Tailroute.Common Tailroute.Storage Tailroute.Dns

set_option autoImplicit false

variable {env : Env} {ok : State → Action → Prop} {start : Int} {s s' : State} {P : Text → Prop}

/-! ## Where a registered name comes from -/

/-- The entries of a `put_routes` that has passed the policy. -/
def Task.checkedEntries : Task → List RouteEntry
  | putCheck _ entries => entries
  | putTransact _ entries => entries
  | _ => []

/-- The name is the lowercase of a hostname with the property. -/
def Requested (P : Text → Prop) (name : Text) : Prop :=
  ∃ hostname, P hostname ∧ name = toAsciiLowercase hostname

/-- The property has been followed from the check to the registry. -/
structure Admitted (P : Text → Prop) (s : State) : Prop where
  checked : ∀ id task, s.tasks.find? id = some task →
    ∀ entry ∈ task.checkedEntries, P entry.hostname
  owned : ∀ host agent, s.store.owner host = some agent → Requested P host
  carried : ∀ id snapshot, s.tasks.find? id = some (.refreshReplace snapshot) →
    ∀ host ip, snapshot.map.find? host = some ip → Requested P host
  answered : ∀ host ip, s.registry.find? host = some ip → Requested P host

section Step

variable {task : Task} {m : Move} {now : Int} {id : Nat}

/-- What leaves the check was in the request it let through. -/
theorem checkedEntries_next (moved : Moves env s now task m) {next : Task}
    (follows : m.next = some next) :
    (∃ agentId token, task = .putVerify agentId token next.checkedEntries ∧
      hostnamesAllowed env.security (next.checkedEntries.map RouteEntry.hostname) = .ok ()) ∨
      next.checkedEntries = task.checkedEntries ∨ next.checkedEntries = [] := by
  cases moved with
  | putVerified agentId token entries verified allowed =>
      cases follows
      exact Or.inl ⟨agentId, token, rfl, allowed⟩
  | putChecked => cases follows; exact Or.inr (Or.inl rfl)
  | ended => cases follows
  | issued => cases follows
  | enrolled => cases follows
  | replaced => cases follows
  | selected => cases follows; exact Or.inr (Or.inr rfl)
  | marked => cases follows; exact Or.inr (Or.inr rfl)
  | heartbeatVerified => cases follows; exact Or.inr (Or.inr rfl)
  | beat => cases follows; exact Or.inr (Or.inr rfl)
  | transacted => cases follows; exact Or.inr (Or.inr rfl)
  | deleted => cases follows; exact Or.inr (Or.inr rfl)
  | revokeMarked => cases follows; exact Or.inr (Or.inr rfl)
  | revokeCleared => cases follows; exact Or.inr (Or.inr rfl)
  | revokeMissed => cases follows; exact Or.inr (Or.inr rfl)
  | purged => cases follows; exact Or.inr (Or.inr rfl)
  | read => cases follows; exact Or.inr (Or.inr rfl)

theorem owned_perform (admitted : Admitted P s) (running : s.tasks.find? id = some task)
    (moved : Moves env s now task m) {host agent : Text}
    (own : (s.perform env id now m).store.owner host = some agent) : Requested P host := by
  have change := ownerMove moved id host
  rw [own] at change
  generalize held : some agent = after at change
  cases change with
  | kept => exact admitted.owned host agent held.symm
  | claimed claimant entries named free =>
      obtain ⟨entry, member, rfl⟩ := List.mem_map.mp named
      exact ⟨entry.hostname, admitted.checked id _ running entry member, rfl⟩
  | withdrawn => cases held
  | deleted => cases held
  | cleared => cases held
  | purged => cases held

/-- A snapshot holds names of rows. -/
theorem requested_of_read (admitted : Admitted P s) {host : Text} {ip : Ipv4Addr}
    (answer : (registryMap (s.store.activeDnsRoutes env.rfc env.ttl now)).find? host = some ip) :
    Requested P host := by
  rw [registryMap_find?] at answer
  obtain ⟨route, agent, stored, -⟩ := Store.dnsAnswer_eq_some.mp answer
  exact admitted.owned host route.agentId (Store.owner_eq_some.mpr ⟨route, stored, rfl⟩)

theorem admitted_perform (admitted : Admitted P s) (running : s.tasks.find? id = some task)
    (moved : Moves env s now task m)
    (admits : ∀ agentId token entries, task = .putVerify agentId token entries →
      hostnamesAllowed env.security (entries.map RouteEntry.hostname) = .ok () →
        ∀ entry ∈ entries, P entry.hostname) :
    Admitted P (s.perform env id now m) := by
  refine ⟨?_, ?_, ?_, ?_⟩
  · intro id' task' found entry member
    rcases task_of_perform found with ⟨-, next⟩ | ⟨-, old⟩
    · rcases checkedEntries_next moved next with ⟨agentId, token, same, allowed⟩ | same | none
      · exact admits agentId token _ same allowed entry member
      · exact admitted.checked id task running entry (same ▸ member)
      · rw [none] at member
        cases member
    · exact admitted.checked id' task' old entry member
  · intro host agent own
    exact owned_perform admitted running moved own
  · intro id' snapshot found host ip answer
    rcases task_of_perform found with ⟨-, next⟩ | ⟨-, old⟩
    · obtain ⟨rfl, -⟩ := read_of_next moved next
      exact requested_of_read admitted answer
    · exact admitted.carried id' snapshot old host ip answer
  · intro host ip answer
    cases replaced : m.snapshot with
    | none =>
        simp only [State.perform, replaced, Option.elim_none] at answer
        exact admitted.answered host ip answer
    | some snapshot =>
        rw [replaced_of_snapshot moved replaced] at running
        simp only [State.perform, replaced, Option.elim_some] at answer
        exact admitted.carried id snapshot running host ip answer

end Step

/-- **Names keep what the check let through.** If every hostname of a request that
passes the policy has the property, so has every name stored or answered. -/
theorem admitted (reached : Run env ok start s)
    (admits : ∀ s, Run env ok start s → ∀ id agentId token entries,
      s.tasks.find? id = some (.putVerify agentId token entries) →
      hostnamesAllowed env.security (entries.map RouteEntry.hostname) = .ok () →
        ∀ entry ∈ entries, P entry.hostname) :
    Admitted P s := by
  refine reached.invariant (I := Admitted P) ?_ ?_
  · refine ⟨?_, ?_, ?_, ?_⟩
    · intro id task found
      cases found
    · intro host agent own
      cases own
    · intro id snapshot found
      cases found
    · intro host ip answer
      cases answer
  · intro s a s' past admitted _ taken
    rcases step_cases taken with
      ⟨id, request, task, -, started, -, rfl⟩ | ⟨id, now, task, -, -, running, rfl⟩
    · refine ⟨?_, admitted.owned, ?_, admitted.answered⟩
      · intro id' task' found entry member
        rcases task_of_spawn started found with first | old
        · cases first <;> cases member
        · exact admitted.checked id' task' old entry member
      · intro id' snapshot found
        rcases task_of_spawn started found with first | old
        · cases first
        · exact admitted.carried id' snapshot old
    · refine admitted_perform admitted running (moves env s now task) ?_
      rintro agentId token entries rfl
      exact admits s past id agentId token entries running

/-! ## The policy -/

theorem hostnamesAllowed_eq_ok {security : SecurityConfig} {hosts : List Text} :
    hostnamesAllowed security hosts = .ok () ↔
      ∀ host ∈ hosts, hostnameAllowed security host = .ok () := by
  induction hosts with
  | nil => simp [hostnamesAllowed]
  | cons host rest ih =>
      rw [hostnamesAllowed, List.forall_mem_cons]
      cases hostnameAllowed security host with
      | ok _ => simpa using ih
      | error message => simp

/-- The policy sees the lowercase name only. -/
theorem hostnameAllowed_congr {security : SecurityConfig} {host host' : Text}
    (same : toAsciiLowercase host = toAsciiLowercase host')
    (allowed : hostnameAllowed security host = .ok ()) :
    hostnameAllowed security host' = .ok () := by
  simp only [hostnameAllowed, same] at allowed ⊢
  split at allowed
  · cases allowed
  · rename_i unblocked
    rw [if_neg unblocked]
    split at allowed
    · rename_i unrestricted
      rw [if_pos unrestricted]
    · rename_i restricted
      rw [if_neg restricted]
      split at allowed
      · rename_i under
        rw [if_pos under]
      · cases allowed

theorem allowed_of_answered (reached : Run env ok start s) {q : Text} {ip : Ipv4Addr}
    (answer : s.registry.lookupA q = some ip) :
    hostnameAllowed env.security (trimEndMatches '.' q) = .ok () := by
  have names : Admitted (fun hostname => hostnameAllowed env.security hostname = .ok ()) s := by
    refine admitted reached ?_
    intro s _ id agentId token entries _ allowed entry member
    exact hostnamesAllowed_eq_ok.mp allowed _ (List.mem_map_of_mem member)
  obtain ⟨hostname, allowed, same⟩ := names.answered (lookupKey q) ip answer
  exact hostnameAllowed_congr same.symm allowed

/-! ## Beside the enable requests -/

/-- The routes machinery and the click-to-enable table, under one configuration. -/
structure ControllerState where
  routes : State
  enables : EnableState

inductive ControllerAction where
  | routes (action : Action)
  | enables (action : EnableAction)
deriving DecidableEq

/-- A step of a handler, or an enable or disable request. -/
def ControllerState.step (env : Env) (idna : Idna) (parseUrl : UrlParser) (json : JsonTexts)
    (c : ControllerState) : ControllerAction → Option ControllerState
  | .routes action => (Controller.step env c.routes action).map fun s => { c with routes := s }
  | .enables action =>
      (c.enables.step ⟨idna, parseUrl, json, env.security⟩ action).map fun s =>
        { c with enables := s }

abbrev ControllerRun (env : Env) (idna : Idna) (parseUrl : UrlParser) (json : JsonTexts)
    (start : Int) : ControllerState → Prop :=
  Transition.Reach (ControllerState.step env idna parseUrl json) (fun _ _ => True)
    ⟨.init start, .init⟩

variable {idna : Idna} {parseUrl : UrlParser} {json : JsonTexts} {c : ControllerState}

/-- Enable requests do not show in the routes machinery. -/
theorem ControllerRun.routes (reached : ControllerRun env idna parseUrl json start c) :
    Run env (fun _ _ => True) start c.routes := by
  refine Transition.Reach.invariant (I := fun c => Run env (fun _ _ => True) start c.routes)
    .start ?_ reached
  intro c a c' _ past _ taken
  cases a with
  | routes action =>
      obtain ⟨s, moved, rfl⟩ := Option.map_eq_some_iff.mp taken
      exact past.next trivial moved
  | enables action =>
      obtain ⟨s, -, rfl⟩ := Option.map_eq_some_iff.mp taken
      exact past

/-- The query is the name in some letter case, with or without trailing dots. -/
def Spells (q name : Text) : Prop := lookupKey q = lookupKey name

instance (q name : Text) : Decidable (Spells q name) := inferInstanceAs (Decidable (_ = _))

theorem not_onBlocklist_of_allowed {security : SecurityConfig} {host : Text}
    (allowed : hostnameAllowed security host = .ok ()) : ¬OnBlocklist security host := by
  rintro ⟨name, listed, same⟩
  have hit : (security.blockedNames.any fun b =>
      toAsciiLowercase host == toAsciiLowercase b) = true :=
    List.any_eq_true.mpr ⟨name, listed, by simpa using same⟩
  simp only [hostnameAllowed, hit, if_true] at allowed
  cases allowed

/-- **The registration policy bounds what DNS can shadow.** Whatever hostnames
agents and admins send, a query the registry answers is for a name the policy
accepts, once its trailing dots are off. So no spelling of a name that is blocked
without a trailing dot is answered, and no name outside the allowed suffixes, names
that an undotted suffix cuts in the middle of a label apart. -/
theorem answered_only_if_allowed (reached : ControllerRun env idna parseUrl json start c) :
    (∀ q ip, c.routes.registry.lookupA q = some ip →
      hostnameAllowed env.security (trimEndMatches '.' q) = .ok ()) ∧
    (∀ q, ∀ blocked ∈ env.security.blockedNames, Undotted blocked → Spells q blocked →
      c.routes.registry.lookupA q = none) ∧
    ∀ q, env.security.allowedSuffixes ≠ [] →
      (∀ suffix ∈ env.security.allowedSuffixes,
        ¬Under (trimEndMatches '.' q) suffix ∧ ¬CutsLabel suffix (trimEndMatches '.' q)) →
        c.routes.registry.lookupA q = none := by
  have allowed : ∀ q ip, c.routes.registry.lookupA q = some ip →
      hostnameAllowed env.security (trimEndMatches '.' q) = .ok () :=
    fun q ip answer => allowed_of_answered reached.routes answer
  refine ⟨allowed, ?_, ?_⟩
  · intro q blocked listed undotted spells
    rw [Option.eq_none_iff_forall_ne_some]
    intro ip answer
    apply not_onBlocklist_of_allowed (allowed q ip answer)
    refine ⟨blocked, listed, ?_⟩
    rw [← lookupKey_of_undotted undotted]
    exact spells
  · intro q restricted outside
    rw [Option.eq_none_iff_forall_ne_some]
    intro ip answer
    obtain ⟨-, suffix, listed, admits⟩ :=
      (hostnameAllowed_eq_ok_iff restricted).mp (allowed q ip answer)
    rcases under_or_cutsLabel admits with under | cuts
    · exact (outside suffix listed).1 under
    · exact (outside suffix listed).2 cuts

/-- One blocked name and one allowed suffix. -/
def guardedEnv : Env :=
  { plainEnv with security := ⟨[".lan".toList], ["router.lan".toList]⟩ }

/-- A suffix with a leading dot cuts no label. -/
theorem not_cutsLabel_of_dotted {suffix host : Text}
    (dotted : (toAsciiLowercase suffix).head? = some '.') : ¬CutsLabel suffix host :=
  fun cuts => cuts.1 dotted

/-- A name under the suffix is answered in any spelling; the blocked name is not,
and an enable request for it is refused. -/
theorem answered_only_if_allowed_lan :
    ∃ c, ControllerRun guardedEnv asciiIdna httpUrl plainEnable.json 0 c ∧
      c.routes.registry.lookupA "WEB.lan.".toList = some ⟨[100, 64, 0, 1], rfl⟩ ∧
      hostnameAllowed guardedEnv.security (trimEndMatches '.' "WEB.lan.".toList) = .ok () ∧
      c.routes.registry.lookupA "Router.LAN.".toList = none ∧
      c.routes.registry.lookupA "web.net".toList = none ∧ c.enables.log = [] := by
  have reached : ControllerRun guardedEnv asciiIdna httpUrl plainEnable.json 0 _ :=
    Transition.reach_of_run
      ((registerName "Web.lan".toList ++ [Action.advance 2 0]).map ControllerAction.routes ++
        [.enables (.enroll "agt_a".toList),
          .enables (.enable true 0 "1".toList (enableWeb "router.lan".toList))]) rfl
  obtain ⟨allowed, blocked, outside⟩ := answered_only_if_allowed reached
  have elsewhere : ∀ suffix ∈ guardedEnv.security.allowedSuffixes,
      ¬Under (trimEndMatches '.' "web.net".toList) suffix ∧
        ¬CutsLabel suffix (trimEndMatches '.' "web.net".toList) := by
    intro suffix listed
    cases List.mem_singleton.mp listed
    exact ⟨by decide, not_cutsLabel_of_dotted rfl⟩
  refine ⟨_, reached, by decide, allowed "WEB.lan.".toList ⟨[100, 64, 0, 1], rfl⟩ (by decide),
    blocked _ "router.lan".toList (by decide) (by decide) (by decide),
    outside _ (by decide) elsewhere, ?_⟩
  decide +kernel

/-- The blocked name is configured as it appears in DNS, with the root dot. -/
def dottedBlockEnv : Env :=
  { plainEnv with security := ⟨[], ["github.com.".toList]⟩ }

/-- **A blocked name with a trailing dot blocks nothing.** `github.com` is registered,
and DNS answers every spelling of the name on the list. -/
theorem dotted_block_answered :
    ∃ c, ControllerRun dottedBlockEnv asciiIdna httpUrl plainEnable.json 0 c ∧
      "github.com.".toList ∈ dottedBlockEnv.security.blockedNames ∧
      c.routes.registry.lookupA "github.com.".toList = some ⟨[100, 64, 0, 1], rfl⟩ ∧
      Spells "GitHub.com".toList "github.com.".toList ∧
      c.routes.registry.lookupA "GitHub.com".toList = some ⟨[100, 64, 0, 1], rfl⟩ := by
  have reached : ControllerRun dottedBlockEnv asciiIdna httpUrl plainEnable.json 0 _ :=
    Transition.reach_of_run
      ((registerName "github.com".toList ++ [Action.advance 2 0]).map ControllerAction.routes) rfl
  exact ⟨_, reached, by decide, by decide, by decide, by decide⟩

end Tailroute.Controller
