/-
# Docker.BackendUrl — backends survive being written as a URL

A backend leaves the program as the text `http://host:port`, with or without a final
slash, and comes back through `parse_backend_url`: from a label, from what the controller
stores and from what an agent registers. Hosts come in two forms. A URL parser returns
them serialized, an IPv6 address in brackets; Docker gives addresses bare. `authority`
adds the brackets where they are missing, so both are written alike.

`Serializes` is what is assumed of the URL parser. Under it a parsed backend is read back
as itself, and a resolved one with the same authority, unless its port is 0: Docker's
port texts are read without the range check that labels and URLs have
(`backendUrl_survives_iff`).
-/
import Tailroute.Docker.Inspect
import Tailroute.Docker.Resolution

namespace Tailroute.Docker

open Tailroute.Theory Tailroute.Theory.TextOrder Tailroute.Common

set_option autoImplicit false

/-! ## What is assumed of the URL parser -/

/-- The parser has returned this host for some `http` URL. -/
def Serialized (parseUrl : UrlParser) (host : Text) : Prop :=
  ∃ text url, parseUrl text = .ok url ∧ url.scheme = "http".toList ∧ url.hostStr = some host

def httpStart : Text := "http://".toList

/-- `http://host:port` and what may follow. -/
def hostUrl (host : Text) (port : UInt16) (tail : Text) : Text :=
  httpStart ++ (host ++ ':' :: (Nat.toDigits 10 port.toNat ++ tail))

/-- The URL of a host and a port; the default port is left out. -/
def plainUrl (host : Text) (port : UInt16) : Url where
  scheme := "http".toList
  username := []
  password := none
  path := "/".toList
  query := none
  hostStr := some host
  port := if port = 80 then none else some port

/-- A serialized host is read back. A colon in it is that of an IPv6 address in brackets,
and it holds no control character. -/
structure Serializes (parseUrl : UrlParser) : Prop where
  reparse : ∀ host, Serialized parseUrl host → ∀ port, ∀ tail ∈ [[], ['/']],
    parseUrl (hostUrl host port tail) = .ok (plainUrl host port)
  bracketed : ∀ host, Serialized parseUrl host → ':' ∈ host → host.head? = some '['
  printable : ∀ host, Serialized parseUrl host → ∀ c ∈ host, 32 ≤ c.toNat
  loopback : Serialized parseUrl "127.0.0.1".toList

/-- An address as Docker gives it, in the text form of the URL parser: IPv6 without the
brackets. -/
def Canonical (parseUrl : UrlParser) (ip : Text) : Prop :=
  if ':' ∈ ip then ip.head? ≠ some '[' ∧ Serialized parseUrl ("[".toList ++ ip ++ "]".toList)
  else Serialized parseUrl ip

/-! ## Writing and reading -/

section Reading

variable {parseUrl : UrlParser} {host : Text} {port : UInt16}

/-- What follows the host: digits, and perhaps a slash. -/
theorem of_mem_after {tail : Text} (plain : tail ∈ [[], ['/']]) {c : Char}
    (member : c ∈ Nat.toDigits 10 port.toNat ++ tail) : 47 ≤ c.toNat ∧ c.toNat ≤ 57 := by
  rcases List.mem_append.mp member with digit | final
  · have digit := Nat.isDigit_of_mem_toDigits (by decide) (by decide) digit
    have range := toNat_of_isDigit digit
    omega
  · simp only [List.mem_cons, List.not_mem_nil, or_false] at plain
    rcases plain with rfl | rfl
    · cases final
    · rw [List.mem_singleton.mp final]
      decide

theorem trim_hostUrl {tail : Text} (plain : tail ∈ [[], ['/']]) :
    trim (hostUrl host port tail) = hostUrl host port tail := by
  refine strip_eq_self ?_ ?_
  · intro c first
    have starts : (hostUrl host port tail).head? = some 'h' := by
      rw [hostUrl, List.head?_append, show httpStart.head? = some 'h' from by decide]
      rfl
    rw [starts] at first
    cases first
    decide
  · intro c last
    have ending : c ∈ Nat.toDigits 10 port.toNat ++ tail := by
      have nonempty : Nat.toDigits 10 port.toNat ++ tail ≠ [] := by simp
      have split : hostUrl host port tail =
          (httpStart ++ host ++ [':']) ++ (Nat.toDigits 10 port.toNat ++ tail) := by
        simp [hostUrl]
      rw [split, List.getLast?_append_of_ne_nil _ nonempty] at last
      exact List.mem_of_getLast? last
    have range := of_mem_after plain ending
    simp only [isWhitespace, Bool.or_eq_false_iff, Bool.and_eq_false_iff, decide_eq_false_iff_not,
      beq_eq_false_iff_ne]
    omega

theorem getD_port : (plainUrl host port).port.getD 80 = port := by
  simp only [plainUrl]
  split
  · rename_i default
    exact default.symm
  · rfl

theorem parseBackendUrl_plainUrl {raw : Text} (nonempty : trim raw ≠ [])
    (printable : ((trim raw).any fun c => decide (c.toNat < 32)) = false)
    (parsed : parseUrl (trim raw) = .ok (plainUrl host port)) :
    parseBackendUrl parseUrl raw =
      if port = 0 then .error (.invalidBackend "invalid port".toList) else .ok ⟨host, port⟩ := by
  have scheme : ¬(plainUrl host port).scheme ≠ "http".toList := fun other => other rfl
  have credentials : ¬((plainUrl host port).username ≠ [] ∨ (plainUrl host port).password.isSome) := by
    simp [plainUrl]
  have path : ¬((plainUrl host port).path ≠ "/".toList ∧ (plainUrl host port).path ≠ []) :=
    fun other => other.1 rfl
  have query : ¬(plainUrl host port).query.isSome = true := by
    simp [plainUrl]
  rw [parseBackendUrl]
  simp only [printable, parsed]
  rw [if_neg nonempty, if_neg Bool.false_ne_true, if_neg scheme, if_neg credentials, if_neg path,
    if_neg query]
  show (if (plainUrl host port).port.getD 80 = 0 then _ else _) = _
  rw [getD_port]

/-- **A host and a port are read back, unless the port is 0.** -/
theorem parseBackendUrl_hostUrl (serializes : Serializes parseUrl)
    (serialized : Serialized parseUrl host) (port : UInt16) {tail : Text}
    (plain : tail ∈ [[], ['/']]) :
    parseBackendUrl parseUrl (hostUrl host port tail) =
      if port = 0 then .error (.invalidBackend "invalid port".toList) else .ok ⟨host, port⟩ := by
  have nonempty : hostUrl host port tail ≠ [] := by
    simp [hostUrl]
  have printable : ((hostUrl host port tail).any fun c => decide (c.toNat < 32)) = false := by
    rw [List.any_eq_false]
    intro c member
    rw [decide_eq_true_eq, Nat.not_lt]
    rcases List.mem_append.mp member with start | member
    · have all : (httpStart.all fun c => decide (32 ≤ c.toNat)) = true := by decide
      exact of_decide_eq_true (List.all_eq_true.mp all c start)
    · rcases List.mem_append.mp member with inHost | after
      · exact serializes.printable host serialized c inHost
      · rcases List.mem_cons.mp after with rfl | after
        · decide
        · exact le_trans (by decide) (of_mem_after plain after).1
  have trimmed := @trim_hostUrl host port tail plain
  have reparsed := serializes.reparse host serialized port tail plain
  exact parseBackendUrl_plainUrl (by rw [trimmed]; exact nonempty) (by rw [trimmed]; exact printable)
    (by rw [trimmed]; exact reparsed)

/-- What is accepted has a serialized host and a port. -/
theorem serialized_of_accepted {raw : Text} {b : Backend}
    (accepted : parseBackendUrl parseUrl raw = .ok b) :
    Serialized parseUrl b.host ∧ b.port ≠ 0 := by
  unfold parseBackendUrl at accepted
  dsimp only at accepted
  split at accepted
  · cases accepted
  split at accepted
  · cases accepted
  split at accepted
  · cases accepted
  rename_i url parsed
  split at accepted
  · cases accepted
  rename_i scheme
  iterate 3
    split at accepted
    · cases accepted
  split at accepted
  · cases accepted
  rename_i host named
  split at accepted
  · cases accepted
  rename_i nonzero
  cases accepted
  exact ⟨⟨_, url, parsed, not_not.mp scheme, named⟩, nonzero⟩

/-! ## Authorities -/

/-- The host as `authority` writes it. -/
def written (host : Text) : Text :=
  if ':' ∈ host ∧ host.head? ≠ some '[' then "[".toList ++ host ++ "]".toList else host

theorem authority_eq (b : Backend) :
    b.authority = written b.host ++ ':' :: Nat.toDigits 10 b.port.toNat := by
  unfold Backend.authority written
  split
  · simp
  · simp

theorem written_of_serialized (serializes : Serializes parseUrl)
    (serialized : Serialized parseUrl host) : written host = host :=
  if_neg fun bare => bare.2 (serializes.bracketed host serialized bare.1)

theorem serialized_written {ip : Text} (canonical : Canonical parseUrl ip) :
    Serialized parseUrl (written ip) := by
  unfold Canonical at canonical
  unfold written
  split at canonical
  · rename_i colon
    rw [if_pos ⟨colon, canonical.1⟩]
    exact canonical.2
  · rename_i plain
    rw [if_neg fun bare => plain bare.1]
    exact canonical

theorem baseUrl_eq (b : Backend) : b.baseUrl = hostUrl (written b.host) b.port ['/'] := by
  have slash : "/".toList = ['/'] := by decide
  unfold Backend.baseUrl hostUrl httpStart
  rw [slash, authority_eq]
  simp only [List.append_assoc, List.cons_append]

theorem http_authority_eq (b : Backend) :
    "http://".toList ++ b.authority = hostUrl (written b.host) b.port [] := by
  unfold hostUrl httpStart
  rw [authority_eq, List.append_nil]

/-- A backend whose host is written as a serialized one comes back with its authority,
unless its port is 0. -/
theorem survives_iff (serializes : Serializes parseUrl) {b : Backend}
    (serialized : Serialized parseUrl (written b.host)) :
    (∃ b', parseBackendUrl parseUrl b.baseUrl = .ok b' ∧ b'.authority = b.authority) ↔
      b.port ≠ 0 := by
  rw [baseUrl_eq, parseBackendUrl_hostUrl serializes serialized b.port (by simp)]
  by_cases zero : b.port = 0
  · rw [if_pos zero]
    refine iff_of_false ?_ fun nonzero => nonzero zero
    rintro ⟨b', refused, -⟩
    cases refused
  · rw [if_neg zero]
    refine iff_of_true ⟨_, rfl, ?_⟩ zero
    rw [authority_eq, authority_eq, written_of_serialized serializes serialized]

end Reading

/-! ## Resolved backends -/

/-- Docker's addresses are in canonical text form; a binding without one is a binding on
every address. -/
structure CanonicalAddresses (parseUrl : UrlParser) (svc : DiscoveredService) : Prop where
  bindings : ∀ binding ∈ svc.publishedPorts,
    binding.hostIp = [] ∨ Canonical parseUrl binding.hostIp
  networks : ∀ row ∈ svc.networks.rows, Canonical parseUrl row.2

/-- No label names a backend, and the port that the rules of the resolution reach is 0. -/
inductive ZeroPort (svc : DiscoveredService) : Prop
  | published {port : UInt16} {binding : PublishedPort} (unlabelled : svc.labels.backend = none)
      (chosen : ChosenPort svc port) (selected : Selected (svc.bindings port) binding)
      (zero : binding.hostPort = 0)
  | own {ip : Text} (unlabelled : svc.labels.backend = none) (chosen : ChosenPort svc 0)
      (unpublished : svc.bindings 0 = []) (address : OwnAddress svc ip)

section Resolved

variable {idna : Idna} {parseUrl : UrlParser} {id : Text} {c : ContainerInspect}
  {svc : DiscoveredService}

/-- A labelled backend was parsed. -/
theorem parsed_of_labelled (found : inspectService idna parseUrl id c = some svc) {b : Backend}
    (labelled : svc.labels.backend = some b) : ∃ raw, parseBackendUrl parseUrl raw = .ok b := by
  obtain ⟨read, -, -⟩ := of_inspectService found
  obtain ⟨enable, -, rest⟩ := Option.bind_eq_some_iff.mp read
  split at rest
  · obtain ⟨hostsRaw, -, rest⟩ := Option.bind_eq_some_iff.mp rest
    obtain ⟨hosts, -, rest⟩ := Option.bind_eq_some_iff.mp rest
    rw [← Option.some.inj rest] at labelled
    obtain ⟨raw, -, parsed⟩ := Option.bind_eq_some_iff.mp labelled
    refine ⟨raw, ?_⟩
    cases outcome : parseBackendUrl parseUrl raw with
    | error e =>
        rw [outcome] at parsed
        cases parsed
    | ok b' =>
        rw [outcome] at parsed
        cases parsed
        rfl
  · cases rest

theorem serialized_binding (serializes : Serializes parseUrl)
    (canonical : CanonicalAddresses parseUrl svc) {binding : PublishedPort}
    (listed : binding ∈ svc.publishedPorts) : Serialized parseUrl (written binding.backend.host) := by
  rw [PublishedPort.backend]
  split
  · rw [written_of_serialized serializes serializes.loopback]
    exact serializes.loopback
  · rename_i addressed
    rcases canonical.bindings binding listed with everywhere | canonical
    · exact absurd (Or.inr everywhere) addressed
    · exact serialized_written canonical

theorem serialized_ownAddress (serializes : Serializes parseUrl)
    (canonical : CanonicalAddresses parseUrl svc) {ip : Text} (address : OwnAddress svc ip) :
    Serialized parseUrl (written ip) := by
  unfold OwnAddress at address
  split at address
  · rw [address, written_of_serialized serializes serializes.loopback]
    exact serializes.loopback
  · split at address
    · exact serialized_written (canonical.networks _ (Table.find?_eq_some_iff.mp address))
    · obtain ⟨name, only⟩ := address
      exact serialized_written (canonical.networks (name, ip) (only ▸ List.mem_singleton_self _))

/-- Every resolved backend has a host that is written as a serialized one, and it has
port 0 only where `ZeroPort` says. -/
theorem resolved_cases (serializes : Serializes parseUrl)
    (found : inspectService idna parseUrl id c = some svc)
    (canonical : CanonicalAddresses parseUrl svc) {b : Backend} (resolved : resolveBackend svc = .ok b) :
    Serialized parseUrl (written b.host) ∧ (b.port = 0 → ZeroPort svc) := by
  cases labelled : svc.labels.backend with
  | some b' =>
      rw [resolveBackend, labelled] at resolved
      cases resolved
      obtain ⟨raw, parsed⟩ := parsed_of_labelled found labelled
      obtain ⟨serialized, nonzero⟩ := serialized_of_accepted parsed
      rw [written_of_serialized serializes serialized]
      exact ⟨serialized, fun zero => absurd zero nonzero⟩
  | none =>
      obtain ⟨port, chosen, ⟨binding, selected, rfl⟩ | ⟨unpublished, ip, address, rfl⟩⟩ :=
        (resolveBackend_eq_ok_iff labelled).mp resolved
      · have listed := List.mem_of_mem_filter selected.mem
        exact ⟨serialized_binding serializes canonical listed,
          fun zero => .published labelled chosen selected zero⟩
      · refine ⟨serialized_ownAddress serializes canonical address, fun zero => ?_⟩
        cases zero
        exact .own labelled chosen unpublished address

/-- A port that is 0 is resolved to. -/
theorem ZeroPort.resolved (zero : ZeroPort svc) : ∃ b, resolveBackend svc = .ok b ∧ b.port = 0 := by
  cases zero with
  | published unlabelled chosen selected zero =>
      exact ⟨_, (resolveBackend_eq_ok_iff unlabelled).mpr
        ⟨_, chosen, Or.inl ⟨_, selected, rfl⟩⟩, zero⟩
  | own unlabelled chosen unpublished address =>
      exact ⟨_, (resolveBackend_eq_ok_iff unlabelled).mpr
        ⟨_, chosen, Or.inr ⟨unpublished, _, address, rfl⟩⟩, rfl⟩

end Resolved

/-- **Backends survive being written as URLs**: what was parsed is read back as itself, from
what the controller stores and from what agents register; and what is resolved for a
container is read back with the same authority exactly if it is not a port 0. -/
theorem backendUrl_survives_iff (parseUrl : UrlParser) (serializes : Serializes parseUrl) :
    (∀ raw b, parseBackendUrl parseUrl raw = .ok b →
      b.port ≠ 0 ∧ parseBackendUrl parseUrl ("http://".toList ++ b.authority) = .ok b ∧
        parseBackendUrl parseUrl b.baseUrl = .ok b) ∧
    ∀ idna id c svc, inspectService idna parseUrl id c = some svc →
      CanonicalAddresses parseUrl svc →
      ((∀ b, resolveBackend svc = .ok b →
        ∃ b', parseBackendUrl parseUrl b.baseUrl = .ok b' ∧ b'.authority = b.authority) ↔
      ¬ZeroPort svc) := by
  refine ⟨?_, ?_⟩
  · intro raw b accepted
    obtain ⟨serialized, nonzero⟩ := serialized_of_accepted accepted
    have host := written_of_serialized serializes serialized
    refine ⟨nonzero, ?_, ?_⟩
    · rw [http_authority_eq, host, parseBackendUrl_hostUrl serializes serialized _ (by simp),
        if_neg nonzero]
    · rw [baseUrl_eq, host, parseBackendUrl_hostUrl serializes serialized _ (by simp),
        if_neg nonzero]
  · intro idna id c svc found canonical
    constructor
    · intro survives zero
      obtain ⟨b, resolved, port⟩ := zero.resolved
      have serialized := (resolved_cases serializes found canonical resolved).1
      exact (survives_iff serializes serialized).mp (survives b resolved) port
    · intro nonzero b resolved
      obtain ⟨serialized, zero⟩ := resolved_cases serializes found canonical resolved
      exact (survives_iff serializes serialized).mpr fun port => nonzero (zero port)

/-! ## A parser that serializes -/

def nameChars : Text := "abcdefghijklmnopqrstuvwxyz0123456789.-".toList

def bracketChars : Text := "[]:.0123456789abcdef".toList

/-- Names and IPv4 addresses, or an IPv6 address in brackets. -/
def hostAllowed (host : Text) : Bool :=
  if host.head? = some '[' then host.all fun c => decide (c ∈ bracketChars)
  else !host.isEmpty && host.all fun c => decide (c ∈ nameChars)

/-- `host` or `host:port`. -/
def readAuthority (text : Text) : Except Text Url :=
  let digits := text.rtakeWhile Char.isDigit
  let before := text.rdropWhile Char.isDigit
  if before.getLast? = some ':' then
    if hostAllowed before.dropLast ∧ digits ≠ [] ∧ decimalValue digits < 65536 then
      .ok (plainUrl before.dropLast (UInt16.ofNat (decimalValue digits)))
    else .error "invalid port number".toList
  else if hostAllowed text then .ok (plainUrl text 80)
  else .error "empty host".toList

def withoutSlash (text : Text) : Text :=
  if text.getLast? = some '/' then text.dropLast else text

/-- `http://host` or `http://host:port`, with an optional final slash; every other text is
refused. -/
def strictUrl : UrlParser := fun raw =>
  if httpStart <+: raw then readAuthority (withoutSlash (raw.drop 7))
  else .error "relative URL without a base".toList

theorem hostAllowed_of_serialized {host : Text} (serialized : Serialized strictUrl host) :
    hostAllowed host = true := by
  obtain ⟨text, url, parsed, -, named⟩ := serialized
  unfold strictUrl readAuthority at parsed
  dsimp only at parsed
  split at parsed
  · split at parsed
    · split at parsed
      · rename_i fits
        cases parsed
        cases named
        exact fits.1
      · cases parsed
    · split at parsed
      · rename_i fits
        cases parsed
        cases named
        exact fits
      · cases parsed
  · cases parsed

theorem readAuthority_port {host : Text} (allowed : hostAllowed host = true) (port : UInt16) :
    readAuthority ((host ++ [':']) ++ Nat.toDigits 10 port.toNat) = .ok (plainUrl host port) := by
  have digits : ∀ c ∈ (Nat.toDigits 10 port.toNat).reverse, c.isDigit = true :=
    fun c member => Nat.isDigit_of_mem_toDigits (by decide) (by decide) (List.mem_reverse.mp member)
  have colon : ':'.isDigit = false := by decide
  have before : ((host ++ [':']) ++ Nat.toDigits 10 port.toNat).rdropWhile Char.isDigit =
      host ++ [':'] := by
    rw [List.rdropWhile, List.reverse_append, List.dropWhile_append_of_pos digits]
    simp [colon]
  have after : ((host ++ [':']) ++ Nat.toDigits 10 port.toNat).rtakeWhile Char.isDigit =
      Nat.toDigits 10 port.toNat := by
    rw [List.rtakeWhile, List.reverse_append, List.takeWhile_append_of_pos digits]
    simp [colon]
  have small : port.toNat < 65536 := port.toNat_lt
  unfold readAuthority
  simp only [before, after, List.getLast?_concat, List.dropLast_concat, allowed,
    decimalValue_toDigits, small, ne_eq, Nat.toDigits_ne_nil, not_false_eq_true, and_self,
    if_true, UInt16.ofNat_toNat]

theorem withoutSlash_tail {host : Text} {port : UInt16} {tail : Text} (plain : tail ∈ [[], ['/']]) :
    withoutSlash (host ++ ':' :: (Nat.toDigits 10 port.toNat ++ tail)) =
      (host ++ [':']) ++ Nat.toDigits 10 port.toNat := by
  simp only [List.mem_cons, List.not_mem_nil, or_false] at plain
  rcases plain with rfl | rfl
  · have split : host ++ ':' :: (Nat.toDigits 10 port.toNat ++ []) =
        (host ++ [':']) ++ Nat.toDigits 10 port.toNat := by simp
    rw [split, withoutSlash, if_neg]
    intro slash
    rw [List.getLast?_append_of_ne_nil _ Nat.toDigits_ne_nil] at slash
    have digit := Nat.isDigit_of_mem_toDigits (by decide) (by decide) (List.mem_of_getLast? slash)
    exact absurd digit (by decide)
  · have split : host ++ ':' :: (Nat.toDigits 10 port.toNat ++ ['/']) =
        ((host ++ [':']) ++ Nat.toDigits 10 port.toNat) ++ ['/'] := by simp
    rw [split, withoutSlash, List.getLast?_concat, if_pos rfl, List.dropLast_concat]

theorem strictUrl_hostUrl {host : Text} (allowed : hostAllowed host = true) (port : UInt16)
    {tail : Text} (plain : tail ∈ [[], ['/']]) :
    strictUrl (hostUrl host port tail) = .ok (plainUrl host port) := by
  have start : httpStart <+: hostUrl host port tail := List.prefix_append _ _
  have dropped : (hostUrl host port tail).drop 7 =
      host ++ ':' :: (Nat.toDigits 10 port.toNat ++ tail) :=
    List.drop_left' (by decide)
  unfold strictUrl
  rw [if_pos start, dropped, withoutSlash_tail plain]
  exact readAuthority_port allowed port

theorem serialized_of_hostAllowed {host : Text} (allowed : hostAllowed host = true) :
    Serialized strictUrl host :=
  ⟨hostUrl host 80 [], plainUrl host 80, strictUrl_hostUrl allowed 80 (by simp), rfl, rfl⟩

theorem strictUrl_serializes : Serializes strictUrl where
  reparse host serialized port tail plain :=
    strictUrl_hostUrl (hostAllowed_of_serialized serialized) port plain
  bracketed host serialized colon := by
    have allowed := hostAllowed_of_serialized serialized
    by_contra bare
    rw [hostAllowed, if_neg bare, Bool.and_eq_true, List.all_eq_true] at allowed
    exact absurd (of_decide_eq_true (allowed.2 ':' colon)) (by decide)
  printable host serialized c member := by
    have allowed := hostAllowed_of_serialized serialized
    have names : (nameChars.all fun c => decide (32 ≤ c.toNat)) = true := by decide
    have brackets : (bracketChars.all fun c => decide (32 ≤ c.toNat)) = true := by decide
    unfold hostAllowed at allowed
    split at allowed
    · have among := of_decide_eq_true (List.all_eq_true.mp allowed c member)
      exact of_decide_eq_true (List.all_eq_true.mp brackets c among)
    · rw [Bool.and_eq_true, List.all_eq_true] at allowed
      have among := of_decide_eq_true (allowed.2 c member)
      exact of_decide_eq_true (List.all_eq_true.mp names c among)
  loopback := serialized_of_hostAllowed (by decide)

/-- A container with one exposed port and one address. -/
def exposing (key ip : Text) : ContainerInspect where
  running := some true
  name := some "/web".toList
  networkMode := some "bridge".toList
  labels := (Table.empty.upsert "tailsvc.enable".toList "true".toList).upsert
    "tailsvc.hosts".toList "web".toList
  ports := Table.empty
  exposedPorts := Table.empty.upsert key ()
  networks := Table.empty.upsert "bridge".toList (some ip)

/-- What is discovered of it. -/
structure Exposes (svc : DiscoveredService) (port : UInt16) (ip : Text) : Prop where
  noBackend : svc.labels.backend = none
  noPort : svc.labels.port = none
  noNetwork : svc.labels.network = none
  networkMode : svc.networkMode = some "bridge".toList
  publishedPorts : svc.publishedPorts = []
  exposedPorts : svc.exposedPorts = [port]
  networks : svc.networks.rows = [("bridge".toList, ip)]

theorem Exposes.canonicalAddresses {svc : DiscoveredService} {port : UInt16} {ip : Text}
    (exposes : Exposes svc port ip) {parseUrl : UrlParser} (canonical : Canonical parseUrl ip) :
    CanonicalAddresses parseUrl svc where
  bindings binding listed := by
    rw [exposes.publishedPorts] at listed
    cases listed
  networks row listed := by
    rw [exposes.networks, List.mem_singleton] at listed
    rw [listed]
    exact canonical

theorem Exposes.not_zeroPort {svc : DiscoveredService} {port : UInt16} {ip : Text}
    (exposes : Exposes svc port ip) (nonzero : port ≠ 0) : ¬ZeroPort svc := by
  intro zero
  cases zero with
  | published _ _ selected _ =>
      have listed := List.mem_of_mem_filter selected.mem
      rw [exposes.publishedPorts] at listed
      cases listed
  | own _ chosen _ _ =>
      rcases chosen with labelled | ⟨-, only | ⟨several, -⟩⟩
      · rw [exposes.noPort] at labelled
        cases labelled
      · rw [exposes.exposedPorts] at only
        exact nonzero (List.cons.inj only).1
      · rw [exposes.exposedPorts] at several
        exact several rfl

theorem Exposes.resolved {svc : DiscoveredService} {port : UInt16} {ip : Text}
    (exposes : Exposes svc port ip) : resolveBackend svc = .ok ⟨ip, port⟩ := by
  refine (resolveBackend_eq_ok_iff exposes.noBackend).mpr ⟨port, ?_, Or.inr ⟨?_, ip, ?_, rfl⟩⟩
  · exact Or.inr ⟨exposes.noPort, Or.inl exposes.exposedPorts⟩
  · rw [DiscoveredService.bindings, exposes.publishedPorts]
    rfl
  · rw [OwnAddress, exposes.networkMode, if_neg (by decide), exposes.noNetwork]
    exact ⟨_, exposes.networks⟩

theorem exposing_discovered (key ip : Text) (port : UInt16)
    (found : ((inspectService asciiIdna strictUrl "c1".toList (exposing key ip)).any fun svc =>
      decide (svc.labels.backend = none ∧ svc.labels.port = none ∧ svc.labels.network = none ∧
        svc.networkMode = some "bridge".toList ∧ svc.publishedPorts = [] ∧
        svc.exposedPorts = [port] ∧ svc.networks.rows = [("bridge".toList, ip)])) = true) :
    ∃ svc, inspectService asciiIdna strictUrl "c1".toList (exposing key ip) = some svc ∧
      Exposes svc port ip := by
  obtain ⟨svc, inspected, facts⟩ := (Option.any_eq_true _ _).mp found
  obtain ⟨backend, label, network, mode, published, exposed, networks⟩ := of_decide_eq_true facts
  exact ⟨svc, inspected, ⟨backend, label, network, mode, published, exposed, networks⟩⟩

theorem canonical_v6 : Canonical strictUrl "fd00::5".toList :=
  ⟨by decide, serialized_of_hostAllowed (by decide)⟩

/-- A bare IPv6 address from Docker, and a bracketed one from a label. -/
theorem backendUrl_survives_iff_v6 :
    parseBackendUrl strictUrl ("http://".toList ++ (Backend.mk "[::1]".toList 80).authority) =
        .ok ⟨"[::1]".toList, 80⟩ ∧
    ∃ svc, inspectService asciiIdna strictUrl "c1".toList
        (exposing "8080/tcp".toList "fd00::5".toList) = some svc ∧
      ∀ b, resolveBackend svc = .ok b →
        ∃ b', parseBackendUrl strictUrl b.baseUrl = .ok b' ∧ b'.authority = b.authority := by
  have both := backendUrl_survives_iff strictUrl strictUrl_serializes
  refine ⟨(both.1 "http://[::1]/".toList _ (by decide +kernel)).2.1, ?_⟩
  obtain ⟨svc, found, exposes⟩ :=
    exposing_discovered "8080/tcp".toList "fd00::5".toList 8080 (by decide +kernel)
  refine ⟨svc, found, (both.2 _ _ _ svc found (exposes.canonicalAddresses canonical_v6)).mpr ?_⟩
  exact exposes.not_zeroPort (by decide)

/-- **A container that exposes port 0 is registered with a URL that is refused.** -/
theorem port_zero_refused :
    Serializes strictUrl ∧
    ∃ svc, inspectService asciiIdna strictUrl "c1".toList
        (exposing "0/tcp".toList "172.17.0.2".toList) = some svc ∧
      CanonicalAddresses strictUrl svc ∧
      resolveBackend svc = .ok ⟨"172.17.0.2".toList, 0⟩ ∧
      parseBackendUrl strictUrl (Backend.mk "172.17.0.2".toList 0).baseUrl =
        .error (.invalidBackend "invalid port".toList) := by
  refine ⟨strictUrl_serializes, ?_⟩
  obtain ⟨svc, found, exposes⟩ :=
    exposing_discovered "0/tcp".toList "172.17.0.2".toList 0 (by decide +kernel)
  have canonical : Canonical strictUrl "172.17.0.2".toList := serialized_of_hostAllowed (by decide)
  exact ⟨svc, found, exposes.canonicalAddresses canonical, exposes.resolved, by decide +kernel⟩

end Tailroute.Docker
