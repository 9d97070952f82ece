/-
# Docker.Resolution — the rules behind `resolve_backend`

`resolve_backend` decides three things one after the other: the port of the service,
the binding that publishes it, and, if none does, the container's own address. Each
is stated here as a rule about the service (`ChosenPort`, `Selected`, `OwnAddress`)
and shown to be what the code computes; `resolveBackend_rules` puts them together.

`target` is the part of the decision that looks at ports only: a published binding,
a port on the container's own address, or nothing. The address is filled in
afterwards (`toOption_resolveBackend`), so two services that differ in their ports are
compared by their targets.
-/
import Tailroute.Docker.BackendResolve

namespace Tailroute.Docker

open Tailroute.Theory Tailroute.Common

set_option autoImplicit false

variable {svc : DiscoveredService} {port : UInt16}

/-! ## The port -/

/-- The label's port, else the only exposed entry, else the one container port that is
published. -/
def ChosenPort (svc : DiscoveredService) (port : UInt16) : Prop :=
  svc.labels.port = some port ∨
    svc.labels.port = none ∧
      (svc.exposedPorts = [port] ∨
        svc.exposedPorts.length ≠ 1 ∧ svc.publishedPorts ≠ [] ∧
          ∀ binding ∈ svc.publishedPorts, binding.containerPort = port)

theorem singleExposedPort_eq_some :
    singleExposedPort svc = some port ↔ svc.exposedPorts = [port] := by
  unfold singleExposedPort
  split
  · rename_i only listed
    simp [listed]
  · rename_i several
    simp only [reduceCtorEq, false_iff]
    exact several port

theorem singleExposedPort_eq_none :
    singleExposedPort svc = none ↔ svc.exposedPorts.length ≠ 1 := by
  rw [Option.eq_none_iff_forall_ne_some, Ne, List.length_eq_one_iff, not_exists]
  simp only [ne_eq, singleExposedPort_eq_some]

theorem singlePublishedContainerPort_eq_some :
    singlePublishedContainerPort svc = some port ↔
      svc.publishedPorts ≠ [] ∧ ∀ binding ∈ svc.publishedPorts, binding.containerPort = port := by
  have rule : ((svc.publishedPorts.map PublishedPort.containerPort).insertionSort
        (· ≤ ·)).destutter (· ≠ ·) = [port] ↔
      svc.publishedPorts ≠ [] ∧ ∀ binding ∈ svc.publishedPorts, binding.containerPort = port := by
    rw [destutter_insertionSort_eq_singleton]
    simp
  rw [← rule]
  simp only [singlePublishedContainerPort]
  split
  · rename_i only listed
    simp [listed]
  · rename_i several
    simp only [reduceCtorEq, false_iff]
    exact several port

/-- **The port the code chooses.** -/
theorem servicePort_eq_some_iff : servicePort svc = some port ↔ ChosenPort svc port := by
  unfold servicePort ChosenPort
  cases svc.labels.port with
  | some labelled => simp
  | none =>
      simp only [Option.orElse_eq_orElse, Option.orElse_none, reduceCtorEq, true_and, false_or]
      cases exposed : singleExposedPort svc with
      | some only =>
          have listed := singleExposedPort_eq_some.mp exposed
          simp [listed]
      | none =>
          have several := singleExposedPort_eq_none.mp exposed
          have other : svc.exposedPorts ≠ [port] := by
            intro only
            exact several (by rw [only]; rfl)
          simp [several, other, singlePublishedContainerPort_eq_some]

/-! ## The binding -/

/-- The bindings that publish a port of the container. -/
def DiscoveredService.bindings (svc : DiscoveredService) (port : UInt16) : List PublishedPort :=
  svc.publishedPorts.filter fun p => p.containerPort == port

/-- The binding is the only one, or the only one on a local address. -/
def Selected (bindings : List PublishedPort) (binding : PublishedPort) : Prop :=
  bindings = [binding] ∨ bindings.filter PublishedPort.isLocal = [binding]

/-- The record publishes the binding there; a wildcard or an empty address stands for
loopback. -/
def PublishedPort.LiesAt (binding : PublishedPort) (ip : Text) (port : UInt16) : Prop :=
  binding.hostPort = port ∧
    if binding.hostIp = "0.0.0.0".toList ∨ binding.hostIp = [] then ip = "127.0.0.1".toList
    else ip = binding.hostIp

theorem PublishedPort.backend_eq_iff {binding : PublishedPort} {ip : Text} {port : UInt16} :
    binding.backend = ⟨ip, port⟩ ↔ binding.LiesAt ip port := by
  rw [PublishedPort.backend, LiesAt, Backend.mk.injEq, and_comm]
  split <;> rw [eq_comm (a := ip)]

theorem Selected.mem {bindings : List PublishedPort} {binding : PublishedPort}
    (selected : Selected bindings binding) : binding ∈ bindings := by
  rcases selected with alone | narrowed
  · rw [alone]
    exact List.mem_singleton_self binding
  · exact List.mem_of_mem_filter (narrowed ▸ List.mem_singleton_self binding)

/-- At most one binding is selected. -/
theorem Selected.unique {bindings : List PublishedPort} {binding binding' : PublishedPort}
    (selected : Selected bindings binding) (selected' : Selected bindings binding') :
    binding = binding' := by
  have member := selected.mem
  have member' := selected'.mem
  rcases selected with alone | narrowed
  · rw [alone] at member'
    exact (List.mem_singleton.mp member').symm
  · rcases selected' with alone' | narrowed'
    · rw [alone'] at member
      exact List.mem_singleton.mp member
    · rw [narrowed] at narrowed'
      cases narrowed'
      rfl

theorem selectPublishedPort_eq_none :
    selectPublishedPort svc port = .ok none ↔ svc.bindings port = [] := by
  unfold selectPublishedPort DiscoveredService.bindings
  split
  · simp [*]
  · simp [*]
  · rename_i some _
    refine iff_of_false ?_ some
    split <;> simp

/-- **The binding the code chooses.** -/
theorem selectPublishedPort_eq_some {binding : PublishedPort} :
    selectPublishedPort svc port = .ok (some binding) ↔ Selected (svc.bindings port) binding := by
  unfold selectPublishedPort Selected DiscoveredService.bindings
  split
  · simp [*]
  · rename_i only listed
    simp only [listed, Except.ok.injEq, Option.some.injEq, List.cons.injEq, and_true]
    refine ⟨Or.inl, ?_⟩
    rintro (same | narrowed)
    · exact same
    · exact List.mem_singleton.mp (List.mem_of_mem_filter (narrowed ▸ List.mem_singleton_self _)) |>.symm
  · rename_i _ several
    have other : ¬svc.publishedPorts.filter (fun p => p.containerPort == port) = [binding] :=
      several binding
    split
    · rename_i only narrowed
      simp [narrowed, other]
    · rename_i ambiguous
      refine iff_of_false (by simp) ?_
      rintro (only | narrowed)
      · exact other only
      · exact ambiguous binding narrowed

/-! ## The address -/

/-- The address at which a port is reached that no binding publishes: loopback on the
host network, else the address in the labelled or the only network. -/
def OwnAddress (svc : DiscoveredService) (ip : Text) : Prop :=
  if svc.networkMode = some "host".toList then ip = "127.0.0.1".toList
  else
    match svc.labels.network with
    | some net => svc.networks.find? net = some ip
    | none => ∃ name, svc.networks.rows = [(name, ip)]

def ownAddress (svc : DiscoveredService) : Option Text :=
  if svc.networkMode = some "host".toList then some "127.0.0.1".toList
  else (selectContainerIp svc).toOption

theorem ownAddress_eq_some {ip : Text} : ownAddress svc = some ip ↔ OwnAddress svc ip := by
  unfold ownAddress OwnAddress
  by_cases host : svc.networkMode = some "host".toList
  · rw [if_pos host, if_pos host, Option.some.injEq, eq_comm]
  · rw [if_neg host, if_neg host, selectContainerIp]
    cases svc.labels.network with
    | some net =>
        simp only
        cases svc.networks.find? net <;> simp [Except.toOption]
    | none =>
        simp only
        split
        · rename_i none
          simp [none, Except.toOption]
        · rename_i network only
          simp [only, Except.toOption, Prod.ext_iff]
        · rename_i several
          refine iff_of_false (by simp [Except.toOption]) ?_
          rintro ⟨name, only⟩
          exact several _ only

/-! ## The target -/

/-- What the ports of a service decide. -/
inductive Target where
  | nowhere
  | binding (backend : Backend)
  | own (port : UInt16)
deriving DecidableEq

/-- The backend of a target, given the container's own address. -/
def Target.backend (address : Option Text) : Target → Option Backend
  | nowhere => none
  | binding backend => some backend
  | own port => address.map fun ip => ⟨ip, port⟩

def target (svc : DiscoveredService) : Target :=
  match servicePort svc with
  | none => .nowhere
  | some port =>
      match selectPublishedPort svc port with
      | .error _ => .nowhere
      | .ok (some binding) => .binding binding.backend
      | .ok none => .own port

theorem toOption_resolveBackend (unlabelled : svc.labels.backend = none) :
    (resolveBackend svc).toOption = (target svc).backend (ownAddress svc) := by
  unfold resolveBackend target ownAddress
  rw [unlabelled]
  cases servicePort svc with
  | none => rfl
  | some port =>
      simp only
      cases selectPublishedPort svc port with
      | error e => rfl
      | ok selected =>
          cases selected with
          | some binding => rfl
          | none =>
              simp only [Target.backend]
              by_cases host : svc.networkMode = some "host".toList
              · rw [if_pos host, if_pos host]
                rfl
              · rw [if_neg host, if_neg host]
                cases selectContainerIp svc <;> rfl

theorem target_eq_binding {backend : Backend} :
    target svc = .binding backend ↔
      ∃ port binding, ChosenPort svc port ∧ Selected (svc.bindings port) binding ∧
        binding.backend = backend := by
  simp only [← servicePort_eq_some_iff, ← selectPublishedPort_eq_some]
  unfold target
  cases servicePort svc with
  | none => simp
  | some port =>
      simp only
      split <;> simp [*]

theorem target_eq_own :
    target svc = .own port ↔ ChosenPort svc port ∧ svc.bindings port = [] := by
  rw [← servicePort_eq_some_iff, ← selectPublishedPort_eq_none]
  unfold target
  cases servicePort svc with
  | none => simp
  | some chosen =>
      simp only [Option.some.injEq]
      split
      · rename_i failed
        refine iff_of_false (by simp) ?_
        rintro ⟨rfl, none⟩
        rw [failed] at none
        cases none
      · rename_i found
        refine iff_of_false (by simp) ?_
        rintro ⟨rfl, none⟩
        rw [found] at none
        cases none
      · rename_i none
        rw [Target.own.injEq]
        exact ⟨fun same => ⟨same, same ▸ none⟩, fun both => both.1⟩

/-! ## The resolution -/

/-- Where a port of the service is reached. -/
def ReachedAt (svc : DiscoveredService) (port : UInt16) (backend : Backend) : Prop :=
  (∃ binding, Selected (svc.bindings port) binding ∧ binding.backend = backend) ∨
    svc.bindings port = [] ∧ ∃ ip, OwnAddress svc ip ∧ backend = ⟨ip, port⟩

theorem resolveBackend_eq_ok_iff (unlabelled : svc.labels.backend = none) {backend : Backend} :
    resolveBackend svc = .ok backend ↔
      ∃ port, ChosenPort svc port ∧ ReachedAt svc port backend := by
  have resolved : resolveBackend svc = .ok backend ↔
      (resolveBackend svc).toOption = some backend := by
    cases resolveBackend svc <;> simp [Except.toOption]
  rw [resolved, toOption_resolveBackend unlabelled]
  constructor
  · intro reached
    cases aim : target svc with
    | nowhere =>
        rw [aim] at reached
        cases reached
    | binding backend' =>
        rw [aim] at reached
        cases reached
        obtain ⟨port, binding, chosen, selected, rfl⟩ := target_eq_binding.mp aim
        exact ⟨port, chosen, Or.inl ⟨binding, selected, rfl⟩⟩
    | own port =>
        rw [aim] at reached
        obtain ⟨chosen, unpublished⟩ := target_eq_own.mp aim
        obtain ⟨ip, address, rfl⟩ := Option.map_eq_some_iff.mp reached
        exact ⟨port, chosen, Or.inr ⟨unpublished, ip, ownAddress_eq_some.mp address, rfl⟩⟩
  · rintro ⟨port, chosen, ⟨binding, selected, rfl⟩ | ⟨unpublished, ip, address, rfl⟩⟩
    · rw [target_eq_binding.mpr ⟨port, binding, chosen, selected, rfl⟩]
      rfl
    · rw [target_eq_own.mpr ⟨chosen, unpublished⟩, ownAddress_eq_some.mpr address]
      rfl

/-- **The rules of the resolution.** A labelled backend is taken as it is. Otherwise no
order matters, and a backend is returned exactly when a port can be chosen and is
reached there; in every other case the result is an error. -/
theorem resolveBackend_rules (svc : DiscoveredService) :
    (∀ backend, svc.labels.backend = some backend → resolveBackend svc = .ok backend) ∧
    (svc.labels.backend = none →
      (∀ svc', SameService svc svc' → resolveBackend svc' = resolveBackend svc) ∧
      ∀ backend, resolveBackend svc = .ok backend ↔
        ∃ port, ChosenPort svc port ∧ ReachedAt svc port backend) := by
  refine ⟨?_, ?_⟩
  · intro backend labelled
    rw [resolveBackend, labelled]
  · intro unlabelled
    refine ⟨fun svc' same => (resolveBackend_congr same).symm, ?_⟩
    intro backend
    exact resolveBackend_eq_ok_iff unlabelled

/-- A service without labels that publishes port 80 on every address of the host, over
IPv4 and over IPv6. -/
def dualStack : DiscoveredService where
  containerId := "c1".toList
  containerName := "web".toList
  labels := ⟨[], none, none, none⟩
  networkMode := none
  publishedPorts := [⟨80, "0.0.0.0".toList, 8080⟩, ⟨80, "::".toList, 8080⟩]
  networks := Table.empty.upsert "bridge".toList "172.17.0.2".toList
  exposedPorts := [80]

/-- The IPv4 binding is the only local one. -/
theorem resolveBackend_rules_dualStack :
    resolveBackend dualStack = .ok ⟨"127.0.0.1".toList, 8080⟩ := by
  refine (((resolveBackend_rules dualStack).2 rfl).2 _).mpr ⟨80, ?_, ?_⟩
  · exact Or.inr ⟨rfl, Or.inl rfl⟩
  · exact Or.inl ⟨⟨80, "0.0.0.0".toList, 8080⟩, Or.inr (by decide), by decide⟩

end Tailroute.Docker
