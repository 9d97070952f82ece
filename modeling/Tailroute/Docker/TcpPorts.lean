/-
# Docker.TcpPorts — entries of other protocols in the port maps

Docker keys its port maps by `80/tcp`, `53/udp` and so on. `inspect_service` keeps the
number before the slash and drops the protocol, so from there on a UDP entry counts
like a TCP one: among the exposed ports, among the published ports, and among the
bindings of the chosen port.

`tcpOnly` takes the entries of other protocols out of a record, and `Disturbed` lists
what they can do to the resolution while they are in it. `onlyTcpDecides_iff` shows
that the list is complete.
-/
import Tailroute.Docker.Candidate

namespace Tailroute.Docker

open Tailroute.Theory Tailroute.Common

set_option autoImplicit false

/-- A key without a protocol is a TCP one. -/
def isTcp (key : Text) : Bool :=
  match key.dropWhile fun c => c != '/' with
  | [] => true
  | _ :: protocol => protocol == "tcp".toList

/-- The record without the entries of other protocols. -/
def tcpOnly (c : ContainerInspect) : ContainerInspect :=
  { c with
    ports := c.ports.deleteWhere fun key _ => !isTcp key
    exposedPorts := c.exposedPorts.deleteWhere fun key _ => !isTcp key }

/-- The service with the ports of a record. -/
def withPorts (svc : DiscoveredService) (c : ContainerInspect) : DiscoveredService :=
  { svc with
    publishedPorts := publishedPorts c.ports
    exposedPorts := exposedPorts c.exposedPorts }

theorem inspectService_tcpOnly (idna : Idna) (parseUrl : UrlParser) (id : Text)
    (c : ContainerInspect) :
    inspectService idna parseUrl id (tcpOnly c) =
      (inspectService idna parseUrl id c).map fun svc => withPorts svc (tcpOnly c) := by
  show inspectLabelled (labelsFromMap idna parseUrl c.labels) id (tcpOnly c) =
    (inspectLabelled (labelsFromMap idna parseUrl c.labels) id c).map _
  generalize labelsFromMap idna parseUrl c.labels = read
  unfold inspectLabelled
  show (if c.running.getD false then _ else _) = _
  split
  · cases read with
    | none => rfl
    | some labels =>
        simp only
        split <;> rfl
  · rfl

/-! ## Fewer bindings of one port -/

/-- Among all bindings, those of TCP do not select what they select alone: the single
one has company, or one of the two lists has a single local binding and the other not. -/
def Crowded (all tcp : List PublishedPort) : Prop :=
  (∃ binding, tcp = [binding] ∧ binding.isLocal = false ∧ all ≠ [binding]) ∨
    ¬((all.filter PublishedPort.isLocal).length = 1 ↔ (tcp.filter PublishedPort.isLocal).length = 1)

/-- A backend that the bindings of a port select. -/
def SelectsBackend (bindings : List PublishedPort) (backend : Backend) : Prop :=
  ∃ binding, Selected bindings binding ∧ binding.backend = backend

theorem host_of_isLocal {binding : PublishedPort} (isLocal : binding.isLocal = true) :
    binding.backend.host = "127.0.0.1".toList := by
  simp only [PublishedPort.isLocal, Bool.or_eq_true, beq_iff_eq, List.isEmpty_iff] at isLocal
  simp only [PublishedPort.backend]
  split
  · rfl
  · rename_i other
    rcases isLocal with (loopback | wildcard) | empty
    · exact loopback
    · exact absurd (Or.inl wildcard) other
    · exact absurd (Or.inr empty) other

theorem host_of_not_isLocal {binding : PublishedPort} (remote : binding.isLocal = false) :
    binding.backend.host ≠ "127.0.0.1".toList := by
  simp only [PublishedPort.isLocal, Bool.or_eq_false_iff, beq_eq_false_iff_ne] at remote
  obtain ⟨⟨notLoopback, notWildcard⟩, notEmpty⟩ := remote
  have bound : ¬(binding.hostIp = "0.0.0.0".toList ∨ binding.hostIp = []) := by
    rintro (wildcard | empty)
    · exact notWildcard wildcard
    · rw [empty] at notEmpty
      cases notEmpty
  simp only [PublishedPort.backend, if_neg bound]
  exact notLoopback

/-- Bindings that are all remote select one of them only if it is alone. -/
theorem selected_of_remote {bindings : List PublishedPort} {binding : PublishedPort}
    (remote : bindings.filter PublishedPort.isLocal = []) (selected : Selected bindings binding) :
    bindings = [binding] := by
  rcases selected with alone | narrowed
  · exact alone
  · rw [remote] at narrowed
    cases narrowed

/-- A single local binding is the one selected, alone or not. -/
theorem selected_iff_of_local {bindings : List PublishedPort} {binding selected : PublishedPort}
    (narrowed : bindings.filter PublishedPort.isLocal = [binding]) :
    Selected bindings selected ↔ selected = binding := by
  constructor
  · exact fun picked => picked.unique (Or.inr narrowed)
  · rintro rfl
    exact Or.inr narrowed

theorem selected_length {bindings : List PublishedPort} {binding : PublishedPort}
    (selected : Selected bindings binding) :
    bindings = [binding] ∧ binding.isLocal = false ∨
      (bindings.filter PublishedPort.isLocal).length = 1 := by
  rcases selected with alone | narrowed
  · cases isLocal : binding.isLocal with
    | false => exact Or.inl ⟨alone, rfl⟩
    | true => exact Or.inr (by simp [alone, isLocal])
  · exact Or.inr (by rw [narrowed]; rfl)

section Bindings

variable {all tcp : List PublishedPort}

/-- A remote binding that is alone is not taken for a local one. -/
theorem not_selects_local {bindings : List PublishedPort} {binding : PublishedPort}
    (remote : bindings.filter PublishedPort.isLocal = []) (isLocal : binding.isLocal = true) :
    ¬SelectsBackend bindings binding.backend := by
  rintro ⟨selected, picked, reached⟩
  have alone := selected_of_remote remote picked
  have away : selected.isLocal = false := by
    simpa [alone] using remote
  apply host_of_not_isLocal away
  rw [reached, host_of_isLocal isLocal]

/-- With a single local binding among all, the others may go but not that one. -/
theorem selectsBackend_iff_of_local (fewer : tcp.Sublist all) {binding : PublishedPort}
    (narrowed : all.filter PublishedPort.isLocal = [binding]) :
    (∀ backend, SelectsBackend all backend ↔ SelectsBackend tcp backend) ↔
      tcp.filter PublishedPort.isLocal = [binding] := by
  have narrower : (tcp.filter PublishedPort.isLocal).Sublist [binding] :=
    narrowed ▸ fewer.filter _
  rcases List.sublist_singleton.mp narrower with remote | kept
  · refine iff_of_false ?_ (by simp [remote])
    intro agree
    have near : binding.isLocal = true :=
      List.of_mem_filter (narrowed ▸ List.mem_singleton_self binding)
    exact not_selects_local remote near ((agree _).mp ⟨binding, Or.inr narrowed, rfl⟩)
  · refine iff_of_true ?_ kept
    intro backend
    simp only [SelectsBackend, selected_iff_of_local narrowed, selected_iff_of_local kept]

/-- Several bindings without a single local one select nothing. -/
theorem not_selectsBackend_of_ambiguous (several : ∀ binding, all ≠ [binding])
    (ambiguous : (all.filter PublishedPort.isLocal).length ≠ 1) (backend : Backend) :
    ¬SelectsBackend all backend := by
  rintro ⟨binding, alone | narrowed, -⟩
  · exact several binding alone
  · exact ambiguous (by rw [narrowed]; rfl)

theorem exists_selectsBackend {bindings : List PublishedPort} :
    (∃ backend, SelectsBackend bindings backend) ↔
      (∃ binding, bindings = [binding] ∧ binding.isLocal = false) ∨
        (bindings.filter PublishedPort.isLocal).length = 1 := by
  constructor
  · rintro ⟨backend, binding, selected, -⟩
    exact (selected_length selected).imp_left fun alone => ⟨binding, alone⟩
  · rintro (⟨binding, alone, -⟩ | single)
    · exact ⟨_, binding, Or.inl alone, rfl⟩
    · obtain ⟨binding, narrowed⟩ := List.length_eq_one_iff.mp single
      exact ⟨_, binding, Or.inr narrowed, rfl⟩

/-- **When bindings of other protocols do not change which backend is selected.** -/
theorem selectsBackend_iff_not_crowded (fewer : tcp.Sublist all) (published : tcp ≠ []) :
    (∀ backend, SelectsBackend all backend ↔ SelectsBackend tcp backend) ↔ ¬Crowded all tcp := by
  by_cases same : all = tcp
  · subst same
    refine iff_of_true (fun _ => Iff.rfl) ?_
    rintro (⟨binding, alone, -, other⟩ | uneven)
    · exact other alone
    · exact uneven Iff.rfl
  -- With another binding beside those of TCP, only a single local one is selected.
  have several : ∀ binding, all ≠ [binding] := by
    rintro binding rfl
    rcases List.sublist_singleton.mp fewer with none | whole
    · exact published none
    · exact same whole.symm
  by_cases one : (all.filter PublishedPort.isLocal).length = 1
  · obtain ⟨binding, narrowed⟩ := List.length_eq_one_iff.mp one
    have narrower : (tcp.filter PublishedPort.isLocal).Sublist [binding] :=
      narrowed ▸ fewer.filter _
    rw [selectsBackend_iff_of_local fewer narrowed]
    rcases List.sublist_singleton.mp narrower with remote | kept
    · refine iff_of_false (by simp [remote]) ?_
      rw [not_not]
      exact Or.inr (by simp [one, remote])
    · refine iff_of_true kept ?_
      rintro (⟨single, alone, away, -⟩ | uneven)
      · simp [alone, away] at kept
      · exact uneven (by rw [narrowed, kept])
  · have nothing := not_selectsBackend_of_ambiguous several one
    have agree : (∀ backend, SelectsBackend all backend ↔ SelectsBackend tcp backend) ↔
        ¬∃ backend, SelectsBackend tcp backend := by
      simp only [nothing, false_iff, not_exists]
    rw [agree, exists_selectsBackend, Crowded, not_iff_not]
    refine or_congr ?_ ?_
    · simp only [ne_eq, several, not_false_eq_true, and_true]
    · simp only [one, false_iff, not_not]

end Bindings

/-! ## Fewer ports of one service -/

/-- The second service is the first with some of its ports taken away. -/
structure FewerPorts (svc tcp : DiscoveredService) : Prop where
  labels : tcp.labels = svc.labels
  networkMode : tcp.networkMode = svc.networkMode
  networks : tcp.networks = svc.networks
  publishedPorts : tcp.publishedPorts.Sublist svc.publishedPorts

theorem fewerPorts_tcpOnly {idna : Idna} {parseUrl : UrlParser} {id : Text} {c : ContainerInspect}
    {svc : DiscoveredService} (found : inspectService idna parseUrl id c = some svc) :
    FewerPorts svc (withPorts svc (tcpOnly c)) := by
  refine ⟨rfl, rfl, rfl, ?_⟩
  rw [(of_inspectService found).2.1]
  exact List.Sublist.flatMap List.filter_sublist _

/-- What the ports that were taken away did to the resolution. -/
inductive Disturbed (svc tcp : DiscoveredService) : Prop
  /-- They were the port, and nothing is left to choose. -/
  | supplied {port : UInt16} (chosen : ChosenPort svc port) (none : ∀ p, ¬ChosenPort tcp p)
      {backend : Backend} (reached : ReachedAt svc port backend)
  /-- They made the choice of the port ambiguous. -/
  | hidden {port : UInt16} (none : ∀ p, ¬ChosenPort svc p) (chosen : ChosenPort tcp port)
      {backend : Backend} (reached : ReachedAt tcp port backend)
  /-- They were the port in place of another, which is reached elsewhere. -/
  | replaced {port port' : UInt16} (chosen : ChosenPort svc port) (chosen' : ChosenPort tcp port')
      (other : port ≠ port') {backend : Backend}
      (apart : ¬(ReachedAt svc port backend ↔ ReachedAt tcp port' backend))
  /-- They published the port, and not at the container's own address. -/
  | published {port : UInt16} (chosen : ChosenPort svc port) (chosen' : ChosenPort tcp port)
      (unpublished : tcp.bindings port = []) {binding : PublishedPort}
      (selected : Selected (svc.bindings port) binding)
      (elsewhere : ∀ ip, OwnAddress svc ip → ¬binding.LiesAt ip port)
  /-- They published the port more than once, so that no binding is selected, and the
  container has an address of its own. -/
  | ambiguous {port : UInt16} (chosen : ChosenPort svc port) (chosen' : ChosenPort tcp port)
      (unpublished : tcp.bindings port = []) (bound : svc.bindings port ≠ [])
      (none : ∀ binding, ¬Selected (svc.bindings port) binding) {ip : Text}
      (address : OwnAddress svc ip)
  /-- They published the port beside others. -/
  | crowded {port : UInt16} (chosen : ChosenPort svc port) (chosen' : ChosenPort tcp port)
      (bound : tcp.bindings port ≠ []) (crowd : Crowded (svc.bindings port) (tcp.bindings port))

section Fewer

variable {svc tcp : DiscoveredService} {port : UInt16}

theorem ChosenPort.unique {port' : UInt16} (chosen : ChosenPort svc port)
    (chosen' : ChosenPort svc port') : port = port' := by
  have first := servicePort_eq_some_iff.mpr chosen
  rw [servicePort_eq_some_iff.mpr chosen'] at first
  cases first
  rfl

theorem reachedAt_iff_of_bindings (bound : svc.bindings port ≠ []) (backend : Backend) :
    ReachedAt svc port backend ↔ SelectsBackend (svc.bindings port) backend := by
  simp [ReachedAt, SelectsBackend, bound]

theorem FewerPorts.bindings (fewer : FewerPorts svc tcp) (port : UInt16) :
    (tcp.bindings port).Sublist (svc.bindings port) :=
  fewer.publishedPorts.filter _

theorem FewerPorts.ownAddress_iff (fewer : FewerPorts svc tcp) (ip : Text) :
    OwnAddress tcp ip ↔ OwnAddress svc ip := by
  simp only [OwnAddress, fewer.labels, fewer.networkMode, fewer.networks]

/-- A port that nothing publishes is reached at the container's own address. -/
theorem reachedAt_iff_of_unpublished (unpublished : svc.bindings port = []) (backend : Backend) :
    ReachedAt svc port backend ↔ ∃ ip, OwnAddress svc ip ∧ backend = ⟨ip, port⟩ := by
  simp [ReachedAt, Selected, unpublished]

/-- Only the bindings of a port and the container's own address decide where it is
reached. -/
theorem FewerPorts.reachedAt_congr (fewer : FewerPorts svc tcp)
    (same : tcp.bindings port = svc.bindings port) (backend : Backend) :
    ReachedAt svc port backend ↔ ReachedAt tcp port backend := by
  simp only [ReachedAt, same, fewer.ownAddress_iff]

/-- The service resolves to the backend. -/
def ResolvesTo (svc : DiscoveredService) (backend : Backend) : Prop :=
  ∃ port, ChosenPort svc port ∧ ReachedAt svc port backend

/-- A service resolves to what its port is reached at. -/
theorem ChosenPort.resolvesTo_iff (chosen : ChosenPort svc port) (backend : Backend) :
    ResolvesTo svc backend ↔ ReachedAt svc port backend := by
  constructor
  · rintro ⟨p, chosen', reached⟩
    rw [chosen.unique chosen']
    exact reached
  · intro reached
    exact ⟨port, chosen, reached⟩

/-- Two lists of bindings of one port, none of them empty, select different backends when
the first is a crowd for the second. -/
theorem FewerPorts.reachedAt_iff_not_crowded (fewer : FewerPorts svc tcp)
    (bound : tcp.bindings port ≠ []) :
    (∀ backend, ReachedAt svc port backend ↔ ReachedAt tcp port backend) ↔
      ¬Crowded (svc.bindings port) (tcp.bindings port) := by
  have bound' : svc.bindings port ≠ [] := by
    intro none
    exact bound (List.sublist_nil.mp (none ▸ fewer.bindings port))
  simp only [reachedAt_iff_of_bindings bound, reachedAt_iff_of_bindings bound']
  exact selectsBackend_iff_not_crowded (fewer.bindings port) bound

/-- Each disturbance is seen in some backend. -/
theorem Disturbed.apart (fewer : FewerPorts svc tcp) (disturbed : Disturbed svc tcp) :
    ∃ backend, ¬(ResolvesTo svc backend ↔ ResolvesTo tcp backend) := by
  cases disturbed with
  | @supplied port chosen none backend reached =>
      refine ⟨backend, ?_⟩
      intro agree
      obtain ⟨p, chosen', -⟩ := agree.mp ⟨_, chosen, reached⟩
      exact none p chosen'
  | @hidden port none chosen' backend reached =>
      refine ⟨backend, ?_⟩
      intro agree
      obtain ⟨p, chosen, -⟩ := agree.mpr ⟨_, chosen', reached⟩
      exact none p chosen
  | @replaced port port' chosen chosen' _ backend apart =>
      refine ⟨backend, ?_⟩
      rw [chosen.resolvesTo_iff, chosen'.resolvesTo_iff]
      exact apart
  | @published port chosen chosen' unpublished binding selected elsewhere =>
      refine ⟨binding.backend, ?_⟩
      rw [chosen.resolvesTo_iff, chosen'.resolvesTo_iff, reachedAt_iff_of_unpublished unpublished]
      intro agree
      obtain ⟨ip, address, reached⟩ := agree.mp (Or.inl ⟨binding, selected, rfl⟩)
      exact elsewhere ip ((fewer.ownAddress_iff ip).mp address)
        (PublishedPort.backend_eq_iff.mp reached)
  | @ambiguous port chosen chosen' unpublished bound none ip address =>
      refine ⟨⟨ip, port⟩, ?_⟩
      rw [chosen.resolvesTo_iff, chosen'.resolvesTo_iff, reachedAt_iff_of_bindings bound,
        reachedAt_iff_of_unpublished unpublished]
      intro agree
      obtain ⟨binding, selected, -⟩ := agree.mpr ⟨ip, (fewer.ownAddress_iff ip).mpr address, rfl⟩
      exact none binding selected
  | crowded chosen chosen' bound crowd =>
      simp only [chosen.resolvesTo_iff, chosen'.resolvesTo_iff]
      rw [← not_forall, fewer.reachedAt_iff_not_crowded bound, not_not]
      exact crowd

/-- Where a selected binding lies at the container's own address, it may as well go. -/
theorem FewerPorts.reachedAt_of_liesAt (fewer : FewerPorts svc tcp)
    (unpublished : tcp.bindings port = []) {binding : PublishedPort}
    (selected : Selected (svc.bindings port) binding) {ip : Text} (address : OwnAddress svc ip)
    (lies : binding.LiesAt ip port) (backend : Backend) :
    ReachedAt svc port backend ↔ ReachedAt tcp port backend := by
  have bound : svc.bindings port ≠ [] := List.ne_nil_of_mem selected.mem
  have there := PublishedPort.backend_eq_iff.mpr lies
  rw [reachedAt_iff_of_bindings bound, reachedAt_iff_of_unpublished unpublished]
  constructor
  · rintro ⟨binding', selected', rfl⟩
    rw [← selected.unique selected']
    exact ⟨ip, (fewer.ownAddress_iff ip).mpr address, there⟩
  · rintro ⟨ip', address', rfl⟩
    have own := ownAddress_eq_some.mpr ((fewer.ownAddress_iff ip').mp address')
    rw [ownAddress_eq_some.mpr address] at own
    cases own
    exact ⟨binding, selected, there⟩

/-- With one port chosen in both, it is the bindings that disturb. -/
theorem FewerPorts.disturbed_of_bindings (fewer : FewerPorts svc tcp) (chosen : ChosenPort svc port)
    (chosen' : ChosenPort tcp port) {backend : Backend}
    (apart : ¬(ReachedAt svc port backend ↔ ReachedAt tcp port backend)) : Disturbed svc tcp := by
  by_cases bound' : tcp.bindings port = []
  · by_cases some : ∃ binding, Selected (svc.bindings port) binding
    · obtain ⟨binding, selected⟩ := some
      refine .published chosen chosen' bound' selected ?_
      exact fun ip address lies =>
        apart (fewer.reachedAt_of_liesAt bound' selected address lies backend)
    · have none : ∀ binding, ¬Selected (svc.bindings port) binding := not_exists.mp some
      have bound : svc.bindings port ≠ [] :=
        fun empty => apart (fewer.reachedAt_congr (bound'.trans empty.symm) backend)
      rw [reachedAt_iff_of_bindings bound, reachedAt_iff_of_unpublished bound'] at apart
      have nowhere : ¬SelectsBackend (svc.bindings port) backend :=
        fun ⟨binding, selected, _⟩ => none binding selected
      obtain ⟨ip, address, -⟩ : ∃ ip, OwnAddress tcp ip ∧ backend = ⟨ip, port⟩ := by
        by_contra unreached
        exact apart (iff_of_false nowhere unreached)
      exact .ambiguous chosen chosen' bound' bound none ((fewer.ownAddress_iff ip).mp address)
  · refine .crowded chosen chosen' bound' ?_
    by_contra calm
    exact apart ((fewer.reachedAt_iff_not_crowded bound').mpr calm backend)

/-- **The list of disturbances is complete.** -/
theorem FewerPorts.disturbed_of_apart (fewer : FewerPorts svc tcp) {backend : Backend}
    (apart : ¬(ResolvesTo svc backend ↔ ResolvesTo tcp backend)) : Disturbed svc tcp := by
  by_cases some : ∃ p, ChosenPort svc p
  · obtain ⟨port, chosen⟩ := some
    rw [chosen.resolvesTo_iff] at apart
    by_cases some' : ∃ p, ChosenPort tcp p
    · obtain ⟨port', chosen'⟩ := some'
      rw [chosen'.resolvesTo_iff] at apart
      by_cases same : port = port'
      · subst same
        exact fewer.disturbed_of_bindings chosen chosen' apart
      · exact .replaced chosen chosen' same apart
    · have none : ∀ p, ¬ChosenPort tcp p := not_exists.mp some'
      have nowhere : ¬ResolvesTo tcp backend := fun ⟨p, chosen', _⟩ => none p chosen'
      refine .supplied chosen none (?_ : ReachedAt svc port backend)
      by_contra unreached
      exact apart (iff_of_false unreached nowhere)
  · have none : ∀ p, ¬ChosenPort svc p := not_exists.mp some
    have nowhere : ¬ResolvesTo svc backend := fun ⟨p, chosen, _⟩ => none p chosen
    by_contra calm
    refine apart (iff_of_false nowhere ?_)
    rintro ⟨p, chosen', reached⟩
    exact calm (.hidden none chosen' reached)

theorem FewerPorts.resolvesTo_iff (fewer : FewerPorts svc tcp) :
    (∀ backend, ResolvesTo svc backend ↔ ResolvesTo tcp backend) ↔ ¬Disturbed svc tcp := by
  constructor
  · intro agree disturbed
    obtain ⟨backend, apart⟩ := disturbed.apart fewer
    exact apart (agree backend)
  · intro calm backend
    by_contra apart
    exact calm (fewer.disturbed_of_apart apart)

end Fewer

/-! ## Records -/

section Records

variable (idna : Idna) (parseUrl : UrlParser) (id : Text) (c : ContainerInspect)

/-- No service, a service without a backend, or its backend. -/
def outcome : Option (Option Backend) :=
  (inspectService idna parseUrl id c).map fun svc => (resolveBackend svc).toOption

/-- Neither a port nor a backend label is given. -/
def Unlabelled : Prop := findLabel c.labels .port = none ∧ findLabel c.labels .backend = none

structure OnlyTcpDecides : Prop where
  unchanged : outcome idna parseUrl id (tcpOnly c) = outcome idna parseUrl id c
  inferred : ∀ svc port, inspectService idna parseUrl id c = some svc → Unlabelled c →
    svc.publishedPorts = [] → ExposesOnly (withPorts svc (tcpOnly c)) port →
      servicePort svc = some port

/-- The entries of other protocols do not disturb the resolution, and a single TCP port
that is exposed and not published is the only exposed entry. -/
structure TcpAlone (svc : DiscoveredService) : Prop where
  undisturbed : svc.labels.backend = none → ¬Disturbed svc (withPorts svc (tcpOnly c))
  unaccompanied : ∀ port, Unlabelled c → svc.publishedPorts = [] →
    ExposesOnly (withPorts svc (tcpOnly c)) port → svc.exposedPorts = [port]

variable {idna parseUrl id c}

theorem FewerPorts.resolveBackend_iff {svc tcp : DiscoveredService} (fewer : FewerPorts svc tcp) :
    (resolveBackend tcp).toOption = (resolveBackend svc).toOption ↔
      (svc.labels.backend = none → ¬Disturbed svc tcp) := by
  cases labelled : svc.labels.backend with
  | some backend =>
      have labelled' : tcp.labels.backend = some backend := by rw [fewer.labels, labelled]
      simp [resolveBackend, labelled, labelled']
  | none =>
      have labelled' : tcp.labels.backend = none := by rw [fewer.labels, labelled]
      have resolved : ∀ (s : DiscoveredService) backend,
          (resolveBackend s).toOption = some backend ↔ resolveBackend s = .ok backend := by
        intro s backend
        cases resolveBackend s <;> simp [Except.toOption]
      rw [← fewer.resolvesTo_iff, Option.ext_iff]
      simp only [resolved, resolveBackend_eq_ok_iff labelled, resolveBackend_eq_ok_iff labelled',
        true_imp_iff]
      exact forall_congr' fun backend => Iff.comm

/-- Without labels nothing but the exposed entries can name the port of a service that
publishes none. -/
theorem servicePort_of_unpublished {svc : DiscoveredService} {port : UInt16}
    (found : inspectService idna parseUrl id c = some svc) (unlabelled : Unlabelled c)
    (unpublished : svc.publishedPorts = []) :
    servicePort svc = some port ↔ svc.exposedPorts = [port] := by
  have noPort : svc.labels.port = none := by
    rw [port_of_labelsFromMap (of_inspectService found).1, unlabelled.1]
    rfl
  simp [servicePort_eq_some_iff, ChosenPort, noPort, unpublished]

end Records

/-- **When only TCP ports decide the backend of a container.** -/
theorem onlyTcpDecides_iff (idna : Idna) (parseUrl : UrlParser) (id : Text)
    (c : ContainerInspect) :
    OnlyTcpDecides idna parseUrl id c ↔
      ∀ svc, inspectService idna parseUrl id c = some svc → TcpAlone c svc := by
  constructor
  · intro decides svc found
    refine ⟨?_, ?_⟩
    · apply (fewerPorts_tcpOnly found).resolveBackend_iff.mp
      have unchanged := decides.unchanged
      simp only [outcome, inspectService_tcpOnly, found, Option.map_some, Option.some.injEq]
        at unchanged
      exact unchanged
    · intro port unlabelled unpublished exposes
      exact (servicePort_of_unpublished found unlabelled unpublished).mp
        (decides.inferred svc port found unlabelled unpublished exposes)
  · intro alone
    refine ⟨?_, ?_⟩
    · cases found : inspectService idna parseUrl id c with
      | none => simp only [outcome, inspectService_tcpOnly, found, Option.map_none]
      | some svc =>
          simp only [outcome, inspectService_tcpOnly, found, Option.map_some, Option.some.injEq]
          exact (fewerPorts_tcpOnly found).resolveBackend_iff.mpr (alone svc found).undisturbed
    · intro svc port found unlabelled unpublished exposes
      exact (servicePort_of_unpublished found unlabelled unpublished).mpr
        ((alone svc found).unaccompanied port unlabelled unpublished exposes)

/-! ## A UDP port beside a TCP port -/

/-- A labelled container with the given port maps. -/
def labelledContainer (ports : Table Text (Option (List PortBinding))) (exposed : Table Text Unit) :
    ContainerInspect where
  running := some true
  name := some "/web".toList
  networkMode := some "bridge".toList
  labels := (Table.empty.upsert "tailsvc.enable".toList "true".toList).upsert
    "tailsvc.hosts".toList "web".toList
  ports := ports
  exposedPorts := exposed
  networks := Table.empty.upsert "bridge".toList (some "172.17.0.2".toList)

/-- Port 80 is exposed and published over TCP, port 443 is published over UDP. -/
def webOverQuic : ContainerInspect :=
  labelledContainer
    ((Table.empty.upsert "80/tcp".toList (some [overIpv4])).upsert "443/udp".toList
      (some [⟨some "0.0.0.0".toList, some "443".toList⟩]))
    (Table.empty.upsert "80/tcp".toList ())

/-- The UDP binding is one of another port, so it does not disturb. -/
theorem onlyTcpDecides_webOverQuic : OnlyTcpDecides asciiIdna httpUrl "c1".toList webOverQuic := by
  refine (onlyTcpDecides_iff asciiIdna httpUrl "c1".toList webOverQuic).mpr ?_
  intro svc found
  obtain ⟨read, published, exposed⟩ := of_inspectService found
  have published' : svc.publishedPorts =
      [⟨80, "0.0.0.0".toList, 8080⟩, ⟨443, "0.0.0.0".toList, 443⟩] :=
    published.trans (by decide +kernel)
  have exposed' : svc.exposedPorts = [80] := exposed.trans (by decide +kernel)
  have publishedTcp : (withPorts svc (tcpOnly webOverQuic)).publishedPorts =
      [⟨80, "0.0.0.0".toList, 8080⟩] :=
    (by decide +kernel : publishedPorts (tcpOnly webOverQuic).ports = _)
  have exposedTcp : (withPorts svc (tcpOnly webOverQuic)).exposedPorts = [80] :=
    (by decide +kernel : exposedPorts (tcpOnly webOverQuic).exposedPorts = _)
  have noPort : svc.labels.port = none := (port_of_labelsFromMap read).trans (by decide)
  refine ⟨?_, ?_⟩
  · intro _
    have fewer := fewerPorts_tcpOnly found
    have chosen : ChosenPort svc 80 := Or.inr ⟨noPort, Or.inl exposed'⟩
    have chosenTcp : ChosenPort (withPorts svc (tcpOnly webOverQuic)) 80 :=
      Or.inr ⟨noPort, Or.inl exposedTcp⟩
    apply fewer.resolvesTo_iff.mp
    intro backend
    rw [chosen.resolvesTo_iff, chosenTcp.resolvesTo_iff]
    apply fewer.reachedAt_congr
    simp [DiscoveredService.bindings, published', publishedTcp]
  · intro port _ unpublished
    rw [published'] at unpublished
    cases unpublished

/-- Ports 80 over TCP and 53 over UDP are exposed, and none is published. -/
def webWithDns : ContainerInspect :=
  labelledContainer Table.empty
    ((Table.empty.upsert "80/tcp".toList ()).upsert "53/udp".toList ())

/-- Port 53 is exposed over UDP and nothing else is there. -/
def dnsAlone : ContainerInspect :=
  labelledContainer Table.empty (Table.empty.upsert "53/udp".toList ())

/-- **A UDP port hides the only TCP port, and without one it is taken for the HTTP port.** -/
theorem udp_port_decides :
    outcome asciiIdna httpUrl "c1".toList webWithDns = some none ∧
    outcome asciiIdna httpUrl "c1".toList (tcpOnly webWithDns) =
      some (some ⟨"172.17.0.2".toList, 80⟩) ∧
    outcome asciiIdna httpUrl "c1".toList dnsAlone = some (some ⟨"172.17.0.2".toList, 53⟩) ∧
    outcome asciiIdna httpUrl "c1".toList (tcpOnly dnsAlone) = some none ∧
    ¬OnlyTcpDecides asciiIdna httpUrl "c1".toList webWithDns := by
  have hidden : outcome asciiIdna httpUrl "c1".toList webWithDns = some none := by decide +kernel
  have alone : outcome asciiIdna httpUrl "c1".toList (tcpOnly webWithDns) =
      some (some ⟨"172.17.0.2".toList, 80⟩) := by decide +kernel
  refine ⟨hidden, alone, by decide +kernel, by decide +kernel, ?_⟩
  intro decides
  have unchanged := decides.unchanged
  rw [hidden, alone] at unchanged
  cases unchanged

end Tailroute.Docker
