/-
# Docker.Inspect — from what Docker reports to discovered services

`list_services` inspects every listed container and keeps the running ones whose
`tailsvc.` labels can be read. Labels, ports, exposed ports and networks arrive as
hash maps, so the lists built from them have no order of their own. Label keys are
compared without letter case and the first match is taken: a container may carry
several spellings of one key.

`readLabels` works on the values found under the five label names, wherever they
were found; `labelsFromMap` is `readLabels` at the first matches.
-/
import Tailroute.Docker.BackendResolve

namespace Tailroute.Docker

open Tailroute.Theory Tailroute.Common

set_option autoImplicit false

/-! ## Labels -/

/-- The labels that are read, without their prefix. -/
inductive LabelName where
  | enable
  | hosts
  | port
  | backend
  | network
deriving DecidableEq

def LabelName.key : LabelName → Text
  | enable => "tailsvc.enable".toList
  | hosts => "tailsvc.hosts".toList
  | port => "tailsvc.port".toList
  | backend => "tailsvc.backend".toList
  | network => "tailsvc.network".toList

/-- The value of the first label with the name's key, in any letter case. -/
def findLabel (labels : Table Text Text) (name : LabelName) : Option Text :=
  (labels.rows.find? fun row => eqIgnoreAsciiCase row.1 name.key).map Prod.snd

def parsePort (s : Text) : Except Error UInt16 :=
  match parseUnsigned 4294967295 (trim s) with
  | none => .error (.labelParse "invalid port".toList)
  | some n =>
      if 1 ≤ n ∧ n ≤ 65535 then .ok (UInt16.ofNat n)
      else .error (.labelParse "port out of range".toList)

def validateServiceLabels (labels : ServiceLabels) : Except Error Unit :=
  if labels.hosts = [] then .error (.labelParse "no hosts".toList) else .ok ()

section Reading

variable (idna : Idna) (parseUrl : UrlParser)

/-- The labels, given the value found for each name. -/
def readLabels (find : LabelName → Option Text) : Option ServiceLabels := do
  let enable ← find .enable
  if eqIgnoreAsciiCase enable "true".toList then
    let hostsRaw ← find .hosts
    let hosts ← (parseHostList idna hostsRaw).toOption
    some
      { hosts
        port := (find .port).bind fun v => (parsePort v).toOption
        backend := (find .backend).bind fun v => (parseBackendUrl parseUrl v).toOption
        network := ((find .network).map trim).filter fun s => !s.isEmpty }
  else none

def labelsFromMap (labels : Table Text Text) : Option ServiceLabels :=
  readLabels idna parseUrl (findLabel labels)

/-! ## Containers -/

structure PortBinding where
  hostIp : Option Text
  hostPort : Option Text
deriving DecidableEq

/-- What is read of an inspection. A map that Docker leaves out is empty; `networks`
holds the address of the container in each network, `exposedPorts` has only keys. -/
structure ContainerInspect where
  running : Option Bool
  name : Option Text
  networkMode : Option Text
  labels : Table Text Text
  ports : Table Text (Option (List PortBinding))
  exposedPorts : Table Text Unit
  networks : Table Text (Option Text)

/-- The port of a key such as `80/tcp`. -/
def portOfKey (key : Text) : Option UInt16 := parseU16 (key.takeWhile fun c => c != '/')

/-- A binding without a host address is one on every address. -/
def publishedPort (containerPort : UInt16) (b : PortBinding) : Option PublishedPort :=
  match b.hostPort, b.hostIp with
  | some hp, some hi => (parseU16 hp).map fun hport => ⟨containerPort, hi, hport⟩
  | some hp, none => (parseU16 hp).map fun hport => ⟨containerPort, "0.0.0.0".toList, hport⟩
  | none, _ => none

def publishedPorts (ports : Table Text (Option (List PortBinding))) : List PublishedPort :=
  ports.rows.flatMap fun row =>
    (row.2.getD []).filterMap (publishedPort ((portOfKey row.1).getD 0))

/-- A network in which the container has an address. -/
def usableNetwork (row : Text × Option Text) : Option (Text × Text) :=
  (row.2.filter fun ip => !ip.isEmpty).map fun ip => (row.1, ip)

theorem usableNetwork_key (row : Text × Option Text) (out : Text × Text)
    (usable : usableNetwork row = some out) : out.1 = row.1 := by
  obtain ⟨ip, -, rfl⟩ := Option.map_eq_some_iff.mp usable
  rfl

def usableNetworks (networks : Table Text (Option Text)) : Table Text Text where
  rows := networks.rows.filterMap usableNetwork
  keysNodup :=
    networks.keysNodup.sublist (Table.filterMap_keys_sublist usableNetwork_key networks.rows)

def exposedPorts (exposed : Table Text Unit) : List UInt16 :=
  exposed.keys.filterMap portOfKey

/-! ## Inspection -/

/-- The service of a container whose labels have been read. -/
def inspectLabelled (labels : Option ServiceLabels) (id : Text) (c : ContainerInspect) :
    Option DiscoveredService :=
  if c.running.getD false then
    match labels with
    | none => none
    | some labels =>
        match validateServiceLabels labels with
        | .error _ => none
        | .ok () => some
            { containerId := id
              containerName := (c.name.getD id).dropWhile fun ch => ch == '/'
              labels
              networkMode := c.networkMode
              publishedPorts := publishedPorts c.ports
              networks := usableNetworks c.networks
              exposedPorts := exposedPorts c.exposedPorts }
  else none

def inspectService (id : Text) (c : ContainerInspect) : Option DiscoveredService :=
  inspectLabelled (labelsFromMap idna parseUrl c.labels) id c

variable {idna parseUrl}

/-- A port that is read was found under its label. -/
theorem port_of_labelsFromMap {labels : Table Text Text} {read : ServiceLabels}
    (parsed : labelsFromMap idna parseUrl labels = some read) :
    read.port = (findLabel labels .port).bind fun v => (parsePort v).toOption := by
  obtain ⟨enable, -, rest⟩ := Option.bind_eq_some_iff.mp parsed
  split at rest
  · obtain ⟨hostsRaw, -, rest⟩ := Option.bind_eq_some_iff.mp rest
    obtain ⟨hosts, -, rest⟩ := Option.bind_eq_some_iff.mp rest
    cases rest
    rfl
  · cases rest

/-- What a discovered service takes from the inspection. -/
theorem of_inspectService {id : Text} {c : ContainerInspect} {svc : DiscoveredService}
    (found : inspectService idna parseUrl id c = some svc) :
    labelsFromMap idna parseUrl c.labels = some svc.labels ∧
      svc.publishedPorts = publishedPorts c.ports ∧
        svc.exposedPorts = exposedPorts c.exposedPorts := by
  unfold inspectService inspectLabelled at found
  split at found
  · split at found
    · cases found
    · rename_i labels read
      split at found
      · cases found
      · cases found
        exact ⟨read, rfl, rfl⟩
  · cases found

variable (idna parseUrl)

/-- A container of the list, with the answer to its inspection. -/
structure ListedContainer where
  id : Option Text
  inspect : Except Text ContainerInspect

/-- The loop body of `list_services`; a container without an id or whose inspection
fails is skipped. -/
def listService (l : ListedContainer) : Option DiscoveredService :=
  match l.id, l.inspect with
  | some id, .ok c => inspectService idna parseUrl id c
  | _, _ => none

def listServices (containers : List ListedContainer) : List DiscoveredService :=
  containers.filterMap (listService idna parseUrl)

end Reading

/-! ## Orders of the maps -/

/-- Two inspections that differ in the iteration order of their maps. -/
structure SameInspect (c c' : ContainerInspect) : Prop where
  running : c.running = c'.running
  name : c.name = c'.name
  networkMode : c.networkMode = c'.networkMode
  labels : c.labels.rows.Perm c'.labels.rows
  ports : c.ports.rows.Perm c'.ports.rows
  exposedPorts : c.exposedPorts.rows.Perm c'.exposedPorts.rows
  networks : c.networks.rows.Perm c'.networks.rows

theorem SameInspect.refl (c : ContainerInspect) : SameInspect c c :=
  ⟨rfl, rfl, rfl, .refl _, .refl _, .refl _, .refl _⟩

/-- With the same labels read, the services are the same up to order. -/
theorem inspectLabelled_congr {c c' : ContainerInspect} (same : SameInspect c c')
    (labels : Option ServiceLabels) (id : Text) :
    Option.Rel SameService (inspectLabelled labels id c) (inspectLabelled labels id c') := by
  unfold inspectLabelled
  rw [same.running]
  split
  · cases labels with
    | none => exact .none
    | some labels =>
        simp only
        split
        · exact .none
        · refine .some
            { containerId := rfl
              containerName := by simp only [same.name]
              labels := rfl
              networkMode := same.networkMode
              publishedPorts := same.ports.flatMap_right _
              networks := same.networks.filterMap _
              exposedPorts := (same.exposedPorts.map Prod.fst).filterMap _ }
  · exact .none

/-- Two entries of the list that differ in the order of the container's maps. -/
inductive SameListed : ListedContainer → ListedContainer → Prop
  | failed (id : Option Text) (e : Text) : SameListed ⟨id, .error e⟩ ⟨id, .error e⟩
  | inspected (id : Option Text) {c c' : ContainerInspect} (same : SameInspect c c') :
      SameListed ⟨id, .ok c⟩ ⟨id, .ok c'⟩

theorem SameListed.refl (l : ListedContainer) : SameListed l l := by
  obtain ⟨id, inspect⟩ := l
  cases inspect with
  | error e => exact .failed id e
  | ok c => exact .inspected id (.refl c)

/-- The same containers, listed and iterated in other orders. -/
def Rearranged (containers containers' : List ListedContainer) : Prop :=
  ∃ listed, containers.Perm listed ∧ List.Forall₂ SameListed listed containers'

theorem Rearranged.refl (containers : List ListedContainer) : Rearranged containers containers :=
  ⟨containers, .refl _, List.forall₂_same.mpr fun l _ => SameListed.refl l⟩

/-! ## Which labels can be found first -/

/-- The label name a key spells. -/
def LabelName.ofKey (key : Text) : Option LabelName :=
  [.enable, .hosts, .port, .backend, .network].find? fun name => eqIgnoreAsciiCase key name.key

theorem LabelName.key_unique {n m : LabelName}
    (same : toAsciiLowercase n.key = toAsciiLowercase m.key) : n = m := by
  revert same
  cases n <;> cases m <;> decide

theorem LabelName.ofKey_eq_some {key : Text} {name : LabelName} :
    ofKey key = some name ↔ eqIgnoreAsciiCase key name.key = true := by
  constructor
  · intro found
    have spelled := List.find?_some found
    exact spelled
  · intro spelled
    have listed : name ∈ [enable, hosts, port, backend, network] := by cases name <;> decide
    cases search : ofKey key with
    | none =>
        have missed := List.find?_eq_none.mp search name listed
        exact absurd spelled missed
    | some other =>
        have spelled' := List.find?_some search
        simp only [eqIgnoreAsciiCase, beq_iff_eq] at spelled spelled'
        rw [key_unique (spelled'.symm.trans spelled)]

/-- A value for each name, taken from any label that spells it; a name without a value
is spelled by no label. -/
def Chooses (labels : Table Text Text) (choice : LabelName → Option Text) : Prop :=
  ∀ name,
    (∀ v, choice name = some v →
      ∃ row ∈ labels.rows, eqIgnoreAsciiCase row.1 name.key = true ∧ row.2 = v) ∧
    (choice name = none → ∀ row ∈ labels.rows, eqIgnoreAsciiCase row.1 name.key = false)

variable {labels labels' : Table Text Text} {choice : LabelName → Option Text}

theorem chooses_findLabel (order : labels.rows.Perm labels'.rows) :
    Chooses labels (findLabel labels') := by
  intro name
  constructor
  · intro v found
    obtain ⟨row, first, rfl⟩ := Option.map_eq_some_iff.mp found
    have spelled := List.find?_some first
    exact ⟨row, order.mem_iff.mpr (List.mem_of_find?_eq_some first), spelled, rfl⟩
  · intro missing row listed
    have none := List.find?_eq_none.mp (Option.map_eq_none_iff.mp missing) row
      (order.mem_iff.mp listed)
    simpa using none

/-- The label that gives a name its chosen value. -/
def chosenRow (labels : Table Text Text) (choice : LabelName → Option Text) (name : LabelName) :
    Option (Text × Text) :=
  labels.rows.find? fun row =>
    eqIgnoreAsciiCase row.1 name.key && decide (choice name = some row.2)

theorem of_chosenRow {name : LabelName} {row : Text × Text}
    (found : chosenRow labels choice name = some row) :
    row ∈ labels.rows ∧ eqIgnoreAsciiCase row.1 name.key = true ∧ choice name = some row.2 := by
  have chosen := List.find?_some found
  simp only [Bool.and_eq_true, decide_eq_true_eq] at chosen
  exact ⟨List.mem_of_find?_eq_some found, chosen⟩

theorem map_chosenRow (chooses : Chooses labels choice) (name : LabelName) :
    (chosenRow labels choice name).map Prod.snd = choice name := by
  cases found : chosenRow labels choice name with
  | some row => rw [(of_chosenRow found).2.2, Option.map_some]
  | none =>
      rw [Option.map_none, eq_comm, Option.eq_none_iff_forall_ne_some]
      intro v value
      obtain ⟨row, listed, spelled, rfl⟩ := (chooses name).1 v value
      have missed := List.find?_eq_none.mp found row listed
      simp [spelled, value] at missed

/-- **Every choice is found first in some order of the labels.** -/
theorem exists_findLabel (chooses : Chooses labels choice) :
    ∃ labels' : Table Text Text, labels.rows.Perm labels'.rows ∧ findLabel labels' = choice := by
  obtain ⟨rows, order, found⟩ := exists_perm_find? (fun row => LabelName.ofKey row.1) labels.rows
    (chosenRow labels choice)
    (by
      intro name row first
      obtain ⟨listed, spelled, -⟩ := of_chosenRow first
      exact ⟨listed, LabelName.ofKey_eq_some.mpr spelled⟩)
    (by
      intro name missing row listed spelled
      have silent : choice name = none := by
        rw [← map_chosenRow chooses, missing, Option.map_none]
      have unspelled := (chooses name).2 silent row listed
      rw [LabelName.ofKey_eq_some.mp spelled] at unspelled
      cases unspelled)
  refine ⟨⟨rows, (order.map Prod.fst).nodup_iff.mp labels.keysNodup⟩, order, ?_⟩
  funext name
  have first : (rows.find? fun row => eqIgnoreAsciiCase row.1 name.key) =
      chosenRow labels choice name := by
    rw [← found name]
    congr 1
    funext row
    rw [Bool.eq_iff_iff, decide_eq_true_iff, LabelName.ofKey_eq_some]
  show (rows.find? fun row => eqIgnoreAsciiCase row.1 name.key).map Prod.snd = choice name
  rw [first, map_chosenRow chooses]

/-! ## Labels that do not parse -/

section Malformed

variable {α : Type} (parse : Text → Except Error α) (labels : Table Text Text) (name : LabelName)

/-- Every label that spells the name parses to the result. -/
def Honoured (result : Option α) : Prop :=
  ∀ row ∈ labels.rows, eqIgnoreAsciiCase row.1 name.key = true →
    ∃ a, parse row.2 = .ok a ∧ result = some a

/-- The labels that spell the name, if any, all parse to one value. -/
def WellFormedLabel : Prop :=
  ∀ row ∈ labels.rows, eqIgnoreAsciiCase row.1 name.key = true →
    ∀ row' ∈ labels.rows, eqIgnoreAsciiCase row'.1 name.key = true →
      ∃ a, parse row.2 = .ok a ∧ parse row'.2 = .ok a

/-- An optional label is read as absent when it does not parse, so it is honoured only
if it does. -/
theorem honoured_iff :
    Honoured parse labels name ((findLabel labels name).bind fun v => (parse v).toOption) ↔
      WellFormedLabel parse labels name := by
  constructor
  · intro honoured row listed spelled row' listed' spelled'
    obtain ⟨a, parsed, result⟩ := honoured row listed spelled
    obtain ⟨a', parsed', result'⟩ := honoured row' listed' spelled'
    rw [result] at result'
    cases result'
    exact ⟨a, parsed, parsed'⟩
  · intro wellFormed row listed spelled
    obtain ⟨chosen, unspelled⟩ := chooses_findLabel (.refl labels.rows) name
    cases found : findLabel labels name with
    | none =>
        rw [unspelled found row listed] at spelled
        cases spelled
    | some v =>
        obtain ⟨first, listed', spelled', rfl⟩ := chosen v found
        obtain ⟨a, parsed, parsed'⟩ := wellFormed row listed spelled first listed' spelled'
        refine ⟨a, parsed, ?_⟩
        rw [Option.bind_some, parsed']
        rfl

end Malformed

/-- The hosts label is there and can be read; without it nothing is registered. -/
def HostsRead (idna : Idna) (labels : Table Text Text) : Prop :=
  ∃ raw hosts, findLabel labels .hosts = some raw ∧ parseHostList idna raw = .ok hosts

/-- The label `tailsvc.enable` is `true`. -/
def Enabled (labels : Table Text Text) : Prop :=
  ∃ v, findLabel labels .enable = some v ∧ eqIgnoreAsciiCase v "true".toList = true

theorem labelsFromMap_eq_some {idna : Idna} {parseUrl : UrlParser} (enabled : Enabled labels)
    {read : ServiceLabels} :
    labelsFromMap idna parseUrl labels = some read ↔
      ∃ raw hosts, findLabel labels .hosts = some raw ∧ parseHostList idna raw = .ok hosts ∧
        read =
          { hosts
            port := (findLabel labels .port).bind fun v => (parsePort v).toOption
            backend := (findLabel labels .backend).bind fun v => (parseBackendUrl parseUrl v).toOption
            network := ((findLabel labels .network).map trim).filter fun s => !s.isEmpty } := by
  obtain ⟨v, found, yes⟩ := enabled
  simp only [labelsFromMap, readLabels, found, Option.bind_eq_bind, Option.bind_some, yes, if_true]
  cases findLabel labels .hosts with
  | none => simp
  | some raw =>
      cases parsed : parseHostList idna raw with
      | error e => simp [Except.toOption, parsed]
      | ok hosts => simp [Except.toOption, parsed, eq_comm]

/-- **When a port or backend label that is present is what the service gets.** A label
that does not parse is treated as absent, and the backend is discovered instead. -/
theorem labels_honoured_iff (idna : Idna) (parseUrl : UrlParser) (labels : Table Text Text)
    (enabled : Enabled labels) :
    (∀ read, labelsFromMap idna parseUrl labels = some read →
      Honoured parsePort labels .port read.port ∧
        Honoured (parseBackendUrl parseUrl) labels .backend read.backend) ↔
      (HostsRead idna labels → WellFormedLabel parsePort labels .port ∧
        WellFormedLabel (parseBackendUrl parseUrl) labels .backend) := by
  simp only [labelsFromMap_eq_some enabled]
  constructor
  · rintro honoured ⟨raw, hosts, found, parsed⟩
    obtain ⟨port, backend⟩ := honoured _ ⟨raw, hosts, found, parsed, rfl⟩
    exact ⟨(honoured_iff _ _ _).mp port, (honoured_iff _ _ _).mp backend⟩
  · rintro wellFormed read ⟨raw, hosts, found, parsed, rfl⟩
    obtain ⟨port, backend⟩ := wellFormed ⟨raw, hosts, found, parsed⟩
    exact ⟨(honoured_iff _ _ _).mpr port, (honoured_iff _ _ _).mpr backend⟩

/-- A container that listens on port 80 and is to be proxied elsewhere. -/
def proxiedElsewhere (backend : Text) : ContainerInspect where
  running := some true
  name := some "/web".toList
  networkMode := some "bridge".toList
  labels := ((Table.empty.upsert "tailsvc.enable".toList "true".toList).upsert
    "tailsvc.hosts".toList "web".toList).upsert "tailsvc.backend".toList backend
  ports := Table.empty
  exposedPorts := Table.empty.upsert "80/tcp".toList ()
  networks := Table.empty.upsert "bridge".toList (some "172.17.0.2".toList)

theorem enabled_proxiedElsewhere (backend : Text) : Enabled (proxiedElsewhere backend).labels :=
  ⟨"true".toList, rfl, by decide⟩

/-- The labels of that container that spell a name other than `enable` and `hosts`. -/
theorem backendLabel_of_spelled {backend : Text} {row : Text × Text}
    (listed : row ∈ (proxiedElsewhere backend).labels.rows)
    (spelled : eqIgnoreAsciiCase row.1 LabelName.backend.key = true) : row.2 = backend := by
  have rows : (proxiedElsewhere backend).labels.rows =
      [("tailsvc.enable".toList, "true".toList), ("tailsvc.hosts".toList, "web".toList),
        ("tailsvc.backend".toList, backend)] := rfl
  rw [rows] at listed
  simp only [List.mem_cons, List.not_mem_nil, or_false] at listed
  rcases listed with rfl | rfl | rfl
  · exact absurd spelled (by decide)
  · exact absurd spelled (by decide)
  · rfl

/-- `httpUrl`, which reads `https` URLs as well. -/
def webUrl : UrlParser := fun raw =>
  if "https://".toList <+: raw then
    (httpUrl ("http://".toList ++ raw.drop 8)).map fun url => { url with scheme := "https".toList }
  else httpUrl raw

/-- A plain `http` backend is honoured. -/
theorem labels_honoured_http :
    ∃ read, labelsFromMap asciiIdna webUrl
        (proxiedElsewhere "http://10.0.0.1:8443".toList).labels = some read ∧
      Honoured parsePort (proxiedElsewhere "http://10.0.0.1:8443".toList).labels .port read.port ∧
        Honoured (parseBackendUrl webUrl) (proxiedElsewhere "http://10.0.0.1:8443".toList).labels
          .backend read.backend := by
  have accepted : (labelsFromMap asciiIdna webUrl
      (proxiedElsewhere "http://10.0.0.1:8443".toList).labels).isSome = true := by decide +kernel
  obtain ⟨read, found⟩ := Option.isSome_iff_exists.mp accepted
  refine ⟨read, found,
    (labels_honoured_iff asciiIdna webUrl _ (enabled_proxiedElsewhere _)).mpr ?_ read found⟩
  intro _
  refine ⟨?_, ?_⟩
  · intro row listed spelled
    exact absurd spelled (by revert row; decide)
  · intro row listed spelled row' listed' spelled'
    rw [backendLabel_of_spelled listed spelled, backendLabel_of_spelled listed' spelled']
    exact ⟨⟨"10.0.0.1".toList, 8443⟩, by decide +kernel, by decide +kernel⟩

/-- **An `https` backend is taken for no backend at all**, and the container itself is
registered in its place. -/
theorem https_backend_exposes_container :
    Enabled (proxiedElsewhere "https://10.0.0.1:8443".toList).labels ∧
    findLabel (proxiedElsewhere "https://10.0.0.1:8443".toList).labels .backend =
      some "https://10.0.0.1:8443".toList ∧
    parseBackendUrl webUrl "https://10.0.0.1:8443".toList =
      .error (.invalidBackend "only http scheme supported".toList) ∧
    ∃ svc, inspectService asciiIdna webUrl "c1".toList
        (proxiedElsewhere "https://10.0.0.1:8443".toList) = some svc ∧
      svc.labels.backend = none ∧ resolveBackend svc = .ok ⟨"172.17.0.2".toList, 80⟩ := by
  have resolved : ((inspectService asciiIdna webUrl "c1".toList
      (proxiedElsewhere "https://10.0.0.1:8443".toList)).any fun svc =>
        decide (svc.labels.backend = none ∧
          resolveBackend svc = .ok ⟨"172.17.0.2".toList, 80⟩)) = true := by decide +kernel
  obtain ⟨svc, found, outcome⟩ := (Option.any_eq_true _ _).mp resolved
  exact ⟨enabled_proxiedElsewhere _, by decide, by decide +kernel, svc, found,
    of_decide_eq_true outcome⟩

end Tailroute.Docker
