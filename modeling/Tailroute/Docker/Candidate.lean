/-
# Docker.Candidate — the backend an admin is offered for a container

Containers without labels are reported to the controller as candidates, each with the
backend the agent would suggest for it. `suggest_backend` reads the same container as
`resolve_backend` and decides by other tests: it counts all bindings, not those of the
chosen port; it drops repeated exposed ports; and with several bindings it passes them
over in favour of the container's own address.

`suggestion_agrees_iff` says for which containers the suggestion is the backend that
label discovery would use, were the container labelled with its hostnames only.
-/
import Tailroute.Docker.Inspect
import Tailroute.Docker.Resolution

namespace Tailroute.Docker

open Tailroute.Theory Tailroute.Common

set_option autoImplicit false

/-! ## Candidates -/

/-- An inspection with the field that only candidates need. -/
structure CandidateInspect extends ContainerInspect where
  image : Option Text

structure ContainerCandidate where
  identityKey : Text
  containerId : Text
  containerName : Text
  image : Text
  networkMode : Option Text
  publishedPorts : List PublishedPort
  exposedPorts : List UInt16
  networks : Table Text Text
  composeProject : Option Text
  composeService : Option Text
  hasTailsvcLabels : Bool
  suggestedBackend : Option Backend

/-- `sort_unstable`, then `dedup`. -/
def sortedPorts (ports : List UInt16) : List UInt16 :=
  (ports.insertionSort (· ≤ ·)).destutter (· ≠ ·)

/-- A single published host port is preferred; otherwise a single exposed port, on
loopback in the host network and in the only network else. -/
def suggestBackend (networkMode : Option Text) (published : List PublishedPort)
    (exposed : List UInt16) (networks : Table Text Text) : Option Backend :=
  match published with
  | [p] => some p.backend
  | _ =>
      if networkMode = some "host".toList then
        match exposed with
        | [port] => some ⟨"127.0.0.1".toList, port⟩
        | _ => none
      else
        match networks.rows, exposed with
        | [network], [port] => some ⟨network.2, port⟩
        | _, _ => none

/-- The compose service a container belongs to, else its name. -/
def identityKey (project service : Option Text) (name : Text) : Text :=
  match project, service with
  | some p, some s => "compose:".toList ++ p ++ "/".toList ++ s
  | _, _ => "name:".toList ++ name

def inspectCandidate (idna : Idna) (parseUrl : UrlParser) (id : Text) (c : CandidateInspect) :
    Option ContainerCandidate :=
  if c.running.getD false then
    let name := (c.name.getD id).dropWhile fun ch => ch == '/'
    let composeProject := c.labels.find? "com.docker.compose.project".toList
    let composeService := c.labels.find? "com.docker.compose.service".toList
    let published := publishedPorts c.ports
    let networks := usableNetworks c.networks
    let exposed := sortedPorts (exposedPorts c.exposedPorts)
    some
      { identityKey := identityKey composeProject composeService name
        containerId := id
        containerName := name
        image := c.image.getD []
        networkMode := c.networkMode
        publishedPorts := published
        exposedPorts := exposed
        networks
        composeProject
        composeService
        hasTailsvcLabels := (labelsFromMap idna parseUrl c.labels).isSome
        suggestedBackend := suggestBackend c.networkMode published exposed networks }
  else none

/-! ## The suggestion as a target -/

/-- What the ports of a service make the suggestion. -/
def suggestTarget (svc : DiscoveredService) : Target :=
  match svc.publishedPorts with
  | [p] => .binding p.backend
  | _ =>
      match sortedPorts svc.exposedPorts with
      | [port] => .own port
      | _ => .nowhere

variable {svc : DiscoveredService}

/-- Without a network label the suggestion uses the address the resolution uses. -/
theorem suggestBackend_eq (unlabelled : svc.labels.network = none) :
    suggestBackend svc.networkMode svc.publishedPorts (sortedPorts svc.exposedPorts) svc.networks =
      (suggestTarget svc).backend (ownAddress svc) := by
  unfold suggestBackend suggestTarget ownAddress selectContainerIp
  split
  · rfl
  · rw [unlabelled]
    by_cases host : svc.networkMode = some "host".toList
    · rw [if_pos host, if_pos host]
      split <;> rfl
    · rw [if_neg host, if_neg host]
      generalize sortedPorts svc.exposedPorts = exposed
      generalize svc.networks.rows = rows
      -- both sides ask whether there is one network and one exposed port
      rcases rows with _ | ⟨network, _ | ⟨second, rest⟩⟩ <;>
        rcases exposed with _ | ⟨port, _ | ⟨second', rest'⟩⟩ <;> rfl

theorem suggestTarget_of_single {binding : PublishedPort} (only : svc.publishedPorts = [binding]) :
    suggestTarget svc = .binding binding.backend := by
  rw [suggestTarget, only]

/-- All exposed entries are one port, perhaps over several protocols. -/
def ExposesOnly (svc : DiscoveredService) (port : UInt16) : Prop :=
  svc.exposedPorts ≠ [] ∧ ∀ p ∈ svc.exposedPorts, p = port

theorem suggestTarget_eq_own (several : svc.publishedPorts.length ≠ 1) {port : UInt16} :
    suggestTarget svc = .own port ↔ ExposesOnly svc port := by
  have sorted : sortedPorts svc.exposedPorts = [port] ↔ ExposesOnly svc port :=
    destutter_insertionSort_eq_singleton _
  rw [← sorted]
  unfold suggestTarget
  split
  · rename_i binding only
    exact absurd (by rw [only]; rfl) several
  · split
    · rename_i exposed only
      simp [only]
    · rename_i other
      exact iff_of_false (by simp) (other port)

theorem suggestTarget_ne_binding (several : svc.publishedPorts.length ≠ 1) (backend : Backend) :
    suggestTarget svc ≠ .binding backend := by
  unfold suggestTarget
  split
  · rename_i binding only
    exact absurd (by rw [only]; rfl) several
  · split <;> simp

/-! ## When the suggestion is the resolution -/

/-- Only a hosts label: no port, backend or network. -/
structure HostsOnly (svc : DiscoveredService) : Prop where
  port : svc.labels.port = none
  backend : svc.labels.backend = none
  network : svc.labels.network = none

/-- No binding is suggested that does not publish the exposed port, and no own address
is suggested where a binding would be used, unless the record has the binding at the own
address. -/
structure Agreeable (svc : DiscoveredService) : Prop where
  single : ∀ binding port ip, svc.publishedPorts = [binding] → svc.exposedPorts = [port] →
    port ≠ binding.containerPort → OwnAddress svc ip → binding.LiesAt ip port
  several : ∀ exposed port binding ip, svc.publishedPorts.length ≠ 1 → ExposesOnly svc exposed →
    ChosenPort svc port → Selected (svc.bindings port) binding → OwnAddress svc ip →
      binding.LiesAt ip exposed

/-- A chosen port that nothing publishes is the only exposed entry. -/
theorem exposed_of_unpublished (hostsOnly : HostsOnly svc) {port : UInt16}
    (chosen : ChosenPort svc port) (unpublished : svc.bindings port = []) :
    svc.exposedPorts = [port] := by
  rcases chosen with labelled | ⟨-, exposed | ⟨-, nonempty, published⟩⟩
  · rw [hostsOnly.port] at labelled
    cases labelled
  · exact exposed
  · exfalso
    apply nonempty
    rw [DiscoveredService.bindings, List.filter_eq_self.mpr fun binding listed => by
      simp [published binding listed]] at unpublished
    exact unpublished

/-- The single binding of a service is the one selected for any port it publishes. -/
theorem selected_of_single {binding selected : PublishedPort} {port : UInt16}
    (only : svc.publishedPorts = [binding]) (picked : Selected (svc.bindings port) selected) :
    selected = binding := by
  have listed := List.mem_of_mem_filter picked.mem
  rw [only] at listed
  exact List.mem_singleton.mp listed

theorem agrees_iff_of_service (hostsOnly : HostsOnly svc) :
    (∀ suggested resolved,
      (suggestTarget svc).backend (ownAddress svc) = some suggested →
        resolveBackend svc = .ok resolved → suggested = resolved) ↔ Agreeable svc := by
  simp only [resolveBackend_eq_ok_iff hostsOnly.backend]
  constructor
  · intro agrees
    constructor
    · intro binding port ip only exposed other address
      have unpublished : svc.bindings port = [] := by
        simp [DiscoveredService.bindings, only, Ne.symm other]
      refine PublishedPort.backend_eq_iff.mp ?_
      exact agrees _ _ (by rw [suggestTarget_of_single only]; rfl)
        ⟨port, Or.inr ⟨hostsOnly.port, Or.inl exposed⟩, Or.inr ⟨unpublished, ip, address, rfl⟩⟩
    · intro exposed port binding ip several exposes chosen selected address
      refine PublishedPort.backend_eq_iff.mp
        (agrees ⟨ip, exposed⟩ _ ?_ ⟨port, chosen, Or.inl ⟨binding, selected, rfl⟩⟩).symm
      rw [(suggestTarget_eq_own several).mpr exposes, ownAddress_eq_some.mpr address]
      rfl
  · rintro agreeable suggested resolved suggests ⟨port, chosen, reached⟩
    by_cases single : svc.publishedPorts.length = 1
    · obtain ⟨binding, only⟩ := List.length_eq_one_iff.mp single
      rw [suggestTarget_of_single only] at suggests
      cases suggests
      rcases reached with ⟨selected, picked, rfl⟩ | ⟨unpublished, ip, address, rfl⟩
      · rw [selected_of_single only picked]
      · have exposed := exposed_of_unpublished hostsOnly chosen unpublished
        refine PublishedPort.backend_eq_iff.mpr
          (agreeable.single binding port ip only exposed ?_ address)
        rintro rfl
        simp [DiscoveredService.bindings, only] at unpublished
    · cases aim : suggestTarget svc with
      | nowhere =>
          rw [aim] at suggests
          cases suggests
      | binding backend => exact absurd aim (suggestTarget_ne_binding single backend)
      | own exposed =>
          have exposes := (suggestTarget_eq_own single).mp aim
          rw [aim] at suggests
          obtain ⟨ip, address, rfl⟩ := Option.map_eq_some_iff.mp suggests
          rcases reached with ⟨selected, picked, rfl⟩ | ⟨unpublished, ip', address', rfl⟩
          · exact (PublishedPort.backend_eq_iff.mpr (agreeable.several exposed port selected ip
              single exposes chosen picked (ownAddress_eq_some.mp address))).symm
          · have only := exposed_of_unpublished hostsOnly chosen unpublished
            have same : port = exposed := exposes.2 port (by rw [only]; exact List.mem_singleton_self _)
            rw [ownAddress_eq_some.mpr address'] at address
            cases address
            rw [same]

/-- **When the suggestion is the backend label discovery would use.** -/
theorem suggestion_agrees_iff (idna : Idna) (parseUrl : UrlParser) (id : Text)
    (c : CandidateInspect) (hosts : List NormalizedHostname) {candidate : ContainerCandidate}
    {svc : DiscoveredService} (offered : inspectCandidate idna parseUrl id c = some candidate)
    (labelled : inspectLabelled (some ⟨hosts, none, none, none⟩) id c.toContainerInspect = some svc) :
    (∀ suggested resolved, candidate.suggestedBackend = some suggested →
      resolveBackend svc = .ok resolved → suggested = resolved) ↔ Agreeable svc := by
  unfold inspectCandidate at offered
  unfold inspectLabelled at labelled
  split at offered
  · rename_i running
    simp only [running, if_true] at labelled
    split at labelled
    · cases labelled
    · cases labelled
      cases offered
      rw [← agrees_iff_of_service ⟨rfl, rfl, rfl⟩, ← suggestBackend_eq rfl]
  · cases offered

/-! ## One binding, and one per protocol family -/

/-- A container that listens on port 80, published as given. -/
def publishedWeb (bindings : List PortBinding) : CandidateInspect where
  running := some true
  name := some "/web".toList
  networkMode := some "bridge".toList
  labels := Table.empty
  ports := Table.empty.upsert "80/tcp".toList (some bindings)
  exposedPorts := Table.empty.upsert "80/tcp".toList ()
  networks := Table.empty.upsert "bridge".toList (some "172.17.0.2".toList)
  image := some "nginx".toList

def shopHost : NormalizedHostname := ⟨"shop".toList, by decide, by decide +kernel⟩

/-- The service such a container would be with a hosts label. -/
def labelledWeb (bindings : List PortBinding) : Option DiscoveredService :=
  inspectLabelled (some ⟨[shopHost], none, none, none⟩) "c1".toList
    (publishedWeb bindings).toContainerInspect

def overIpv4 : PortBinding := ⟨some "0.0.0.0".toList, some "8080".toList⟩

def overIpv6 : PortBinding := ⟨some "::".toList, some "8080".toList⟩

/-- Published over IPv4 only, the container is suggested by that binding. -/
theorem suggestion_agrees_published :
    ∃ candidate svc,
      inspectCandidate asciiIdna httpUrl "c1".toList (publishedWeb [overIpv4]) = some candidate ∧
      labelledWeb [overIpv4] = some svc ∧
      ∀ suggested resolved, candidate.suggestedBackend = some suggested →
        resolveBackend svc = .ok resolved → suggested = resolved := by
  refine ⟨_, _, rfl, rfl, ?_⟩
  refine (suggestion_agrees_iff asciiIdna httpUrl "c1".toList (publishedWeb [overIpv4]) [shopHost]
    rfl rfl).mpr ⟨?_, ?_⟩
  · intro binding port ip only exposed other
    have published : publishedPorts (publishedWeb [overIpv4]).ports =
        [⟨80, "0.0.0.0".toList, 8080⟩] := by decide +kernel
    have listens : exposedPorts (publishedWeb [overIpv4]).exposedPorts = [80] := by decide +kernel
    cases published.symm.trans only
    cases listens.symm.trans exposed
    exact absurd rfl other
  · intro exposed port binding ip several
    exact absurd (by decide +kernel) several

/-- **Published over IPv4 and IPv6, the container is suggested by its own address**, and
label discovery would use the IPv4 binding. -/
theorem dual_stack_suggested_by_container_ip :
    ∃ candidate svc,
      inspectCandidate asciiIdna httpUrl "c1".toList (publishedWeb [overIpv4, overIpv6]) =
        some candidate ∧
      labelledWeb [overIpv4, overIpv6] = some svc ∧
      candidate.suggestedBackend = some ⟨"172.17.0.2".toList, 80⟩ ∧
      resolveBackend svc = .ok ⟨"127.0.0.1".toList, 8080⟩ :=
  ⟨_, _, rfl, rfl, by decide +kernel, by rfl⟩

end Tailroute.Docker
