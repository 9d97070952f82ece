/-
# Proxy.ForwardedHeaders — what the proxy tells the backend about the client

A header map holds for each name one value or several, in order. `inject_forwarded_headers`
reads the first `X-Forwarded-For` value, if it is text, appends the peer's address and
inserts the result, which replaces all values of the name. The chain of hops is complete
exactly if the first value was text and the others, if any, list nobody; and Host is
unchanged exactly if it had no second value (`forwards_iff`).

Values are bytes, as in the `http` crate; a string is the list of its bytes. The text of
an address follows the `Display` instances of the standard library.
-/
import Tailroute.Theory.Split
import Tailroute.Dns.Server

namespace Tailroute.Proxy

open Tailroute.Theory Tailroute.Common Tailroute.Dns

set_option autoImplicit false

/-! ## Header values -/

/-- A byte a header value may hold. -/
def isValidByte (b : UInt8) : Bool := (32 ≤ b && b != 127) || b == 9

def isVisibleAscii (b : UInt8) : Bool := (32 ≤ b && b < 127) || b == 9

theorem isValidByte_of_visible {b : UInt8} (visible : isVisibleAscii b = true) :
    isValidByte b = true := by
  simp only [isVisibleAscii, Bool.or_eq_true, Bool.and_eq_true, decide_eq_true_eq, beq_iff_eq]
    at visible
  simp only [isValidByte, Bool.or_eq_true, Bool.and_eq_true, decide_eq_true_eq, beq_iff_eq,
    bne_iff_ne]
  refine visible.imp_left fun range => ⟨range.1, ?_⟩
  rintro rfl
  exact absurd range.2 (by decide)

structure HeaderValue where
  bytes : List UInt8
  valid : bytes.all isValidByte = true
deriving DecidableEq

namespace HeaderValue

/-- `HeaderValue::from_bytes`, and `from_str` of the string with these bytes. -/
def fromBytes (bytes : List UInt8) : Option HeaderValue :=
  if valid : bytes.all isValidByte = true then some ⟨bytes, valid⟩ else none

/-- `HeaderValue::to_str`. -/
def toStr (v : HeaderValue) : Option (List UInt8) :=
  if v.bytes.all isVisibleAscii then some v.bytes else none

theorem fromBytes_bytes (v : HeaderValue) : fromBytes v.bytes = some v := dif_pos v.valid

end HeaderValue

/-! ## Header maps -/

/-- The values of one name: there is a first one. -/
structure Values where
  first : HeaderValue
  extra : List HeaderValue
deriving DecidableEq

/-- `HeaderMap`; names are in lower case. -/
abbrev HeaderMap := Table Text Values

namespace HeaderMap

def get (m : HeaderMap) (name : Text) : Option HeaderValue := (m.find? name).map Values.first

def getAll (m : HeaderMap) (name : Text) : List HeaderValue :=
  match m.find? name with
  | some values => values.first :: values.extra
  | none => []

/-- All earlier values of the name are replaced. -/
def insert (m : HeaderMap) (name : Text) (v : HeaderValue) : HeaderMap := m.upsert name ⟨v, []⟩

theorem get_eq_head? (m : HeaderMap) (name : Text) : get m name = (getAll m name).head? := by
  rw [get, getAll]
  cases m.find? name <;> rfl

theorem getAll_insert (m : HeaderMap) (name other : Text) (v : HeaderValue) :
    getAll (insert m name v) other = if other = name then [v] else getAll m other := by
  rw [getAll, insert, Table.find?_upsert]
  by_cases same : other = name
  · rw [if_pos same, if_pos same]
  · rw [if_neg same, if_neg same]
    rfl

theorem get_insert_of_ne (m : HeaderMap) {name other : Text} (v : HeaderValue)
    (different : other ≠ name) : get (insert m name v) other = get m other := by
  rw [get_eq_head?, getAll_insert, if_neg different, get_eq_head?]

end HeaderMap

/-! ## Addresses as text -/

/-- The characters of addresses. -/
def addressChars : Text := "0123456789abcdef.:".toList

/-- `Display` of an IPv4 address. -/
def ipv4Text (a : Ipv4Addr) : Text :=
  ['.'].intercalate (a.octets.map fun octet => Nat.toDigits 10 octet.toNat)

/-- `Ipv6Addr::segments`. -/
def segments (a : BitVec 128) : List Nat :=
  (List.range 8).map fun i => (a >>> (16 * (7 - i))).toNat % 65536

structure Span where
  start : Nat
  len : Nat
deriving DecidableEq

/-- The loop that finds the longest run of zero segments; the first one wins. -/
def longestZeros (current longest : Span) (i : Nat) : List Nat → Span
  | [] => longest
  | segment :: rest =>
      if segment = 0 then
        let current := ⟨if current.len = 0 then i else current.start, current.len + 1⟩
        longestZeros current (if longest.len < current.len then current else longest) (i + 1) rest
      else longestZeros ⟨0, 0⟩ longest (i + 1) rest

/-- `fmt_subslice`. -/
def segmentsText (chunk : List Nat) : Text := [':'].intercalate (chunk.map (Nat.toDigits 16))

/-- `Ipv6Addr::to_ipv4_mapped`. -/
def ipv4Mapped (a : BitVec 128) : Option Ipv4Addr :=
  if (segments a).take 6 = [0, 0, 0, 0, 0, 65535] then
    some ⟨(List.range 4).map fun i => UInt8.ofNat (a >>> (8 * (3 - i))).toNat, by simp⟩
  else none

/-- `Display` of an IPv6 address. -/
def ipv6Text (a : BitVec 128) : Text :=
  match ipv4Mapped a with
  | some ipv4 => "::ffff:".toList ++ ipv4Text ipv4
  | none =>
      let zeroes := longestZeros ⟨0, 0⟩ ⟨0, 0⟩ 0 (segments a)
      if 1 < zeroes.len then
        segmentsText ((segments a).take zeroes.start) ++ "::".toList ++
          segmentsText ((segments a).drop (zeroes.start + zeroes.len))
      else segmentsText (segments a)

def ipText : IpAddr → Text
  | .v4 a => ipv4Text a
  | .v6 a => ipv6Text a

example : ipText (.v6 0xfd7a115ca1e0000000000000000000aa) = "fd7a:115c:a1e0::aa".toList := by
  decide +kernel
example : ipText (.v6 1) = "::1".toList := by decide +kernel

section AddressText

theorem toDigits_subset {base : Nat} (low : 1 < base) (high : base ≤ 16) (n : Nat) :
    Nat.toDigits base n ⊆ addressChars := by
  have digit : ∀ d < 16, Nat.digitChar d ∈ addressChars := by decide
  induction n using Nat.strongRecOn with
  | ind n ih =>
      rw [Nat.toDigits_eq_if low]
      split
      · rename_i single
        exact List.cons_subset.mpr ⟨digit n (by omega), List.nil_subset _⟩
      · rename_i several
        have last : n % base < base := Nat.mod_lt n (by omega)
        refine List.append_subset.mpr ⟨ih (n / base) (Nat.div_lt_self (by omega) low), ?_⟩
        exact List.cons_subset.mpr ⟨digit _ (by omega), List.nil_subset _⟩

theorem intercalate_subset {c : Char} (sep : c ∈ addressChars) {parts : List Text}
    (each : ∀ part ∈ parts, part ⊆ addressChars) : [c].intercalate parts ⊆ addressChars := by
  induction parts with
  | nil => exact List.nil_subset _
  | cons part rest ih =>
      obtain ⟨first, others⟩ := List.forall_mem_cons.mp each
      cases rest with
      | nil => simpa using first
      | cons next rest =>
          rw [List.intercalate_cons_cons]
          refine List.append_subset.mpr ⟨List.append_subset.mpr ⟨first, ?_⟩, ih others⟩
          exact List.cons_subset.mpr ⟨sep, List.nil_subset _⟩

theorem ipv4Text_subset (a : Ipv4Addr) : ipv4Text a ⊆ addressChars := by
  refine intercalate_subset (by decide) fun part listed => ?_
  obtain ⟨octet, -, rfl⟩ := List.mem_map.mp listed
  exact toDigits_subset (by decide) (by decide) _

theorem segmentsText_subset (chunk : List Nat) : segmentsText chunk ⊆ addressChars := by
  refine intercalate_subset (by decide) fun part listed => ?_
  obtain ⟨segment, -, rfl⟩ := List.mem_map.mp listed
  exact toDigits_subset (by decide) (by decide) _

theorem ipText_subset (ip : IpAddr) : ipText ip ⊆ addressChars := by
  cases ip with
  | v4 a => exact ipv4Text_subset a
  | v6 a =>
      have colons : "::".toList ⊆ addressChars := by decide
      have mapped : "::ffff:".toList ⊆ addressChars := by decide
      rw [ipText, ipv6Text]
      cases ipv4Mapped a with
      | some ipv4 => exact List.append_subset.mpr ⟨mapped, ipv4Text_subset ipv4⟩
      | none =>
          dsimp only
          split
          · exact List.append_subset.mpr
              ⟨List.append_subset.mpr ⟨segmentsText_subset _, colons⟩, segmentsText_subset _⟩
          · exact segmentsText_subset _

theorem intercalate_ne_nil {c : Char} {part : Text} {rest : List Text} (some : part ≠ []) :
    [c].intercalate (part :: rest) ≠ [] := by
  cases rest with
  | nil => simpa using some
  | cons next rest =>
      rw [List.intercalate_cons_cons]
      simp

theorem ipv4Text_ne_nil (a : Ipv4Addr) : ipv4Text a ≠ [] := by
  obtain ⟨octets, four⟩ := a
  cases octets with
  | nil => cases four
  | cons first rest => exact intercalate_ne_nil Nat.toDigits_ne_nil

theorem ipText_ne_nil (ip : IpAddr) : ipText ip ≠ [] := by
  cases ip with
  | v4 a => exact ipv4Text_ne_nil a
  | v6 a =>
      rw [ipText, ipv6Text]
      cases ipv4Mapped a with
      | some ipv4 => simp
      | none =>
          dsimp only
          split
          · simp
          · exact intercalate_ne_nil Nat.toDigits_ne_nil

end AddressText

/-- The bytes of an ASCII string. -/
def asciiBytes (s : Text) : List UInt8 := s.map fun c => UInt8.ofNat c.toNat

/-! ## The headers of a forwarded request -/

def hostName : Text := "host".toList
def forwardedProto : Text := "x-forwarded-proto".toList
def forwardedHost : Text := "x-forwarded-host".toList
def forwardedFor : Text := "x-forwarded-for".toList

def httpValue : HeaderValue := ⟨asciiBytes "http".toList, by decide⟩

/-- The new `X-Forwarded-For` string. -/
def extendChain (existing : Option (List UInt8)) (peerIp : List UInt8) : List UInt8 :=
  match existing with
  | some existing => if existing ≠ [] then existing ++ asciiBytes ", ".toList ++ peerIp else peerIp
  | none => peerIp

def injectForwardedHeaders (headers : HeaderMap) (peer : SocketAddr)
    (originalHost : Option HeaderValue) : HeaderMap :=
  let headers := originalHost.elim headers fun h => HeaderMap.insert headers hostName h
  let headers := HeaderMap.insert headers forwardedProto httpValue
  let headers := (originalHost.bind fun h => HeaderValue.fromBytes h.bytes).elim headers fun v =>
    HeaderMap.insert headers forwardedHost v
  let existing := (HeaderMap.get headers forwardedFor).bind HeaderValue.toStr
  let xff := extendChain existing (asciiBytes (ipText peer.ip))
  (HeaderValue.fromBytes xff).elim headers fun v => HeaderMap.insert headers forwardedFor v

/-- The headers `proxy_http` sends on. -/
def forwardHeaders (headers : HeaderMap) (peer : SocketAddr) : HeaderMap :=
  injectForwardedHeaders headers peer (HeaderMap.get headers hostName)

/-! ## Hops -/

def comma : UInt8 := 44

/-- Optional whitespace around a list element: space and tab. -/
def isOws (b : UInt8) : Bool := b == 32 || b == 9

def trimOws (v : List UInt8) : List UInt8 := (v.dropWhile isOws).rdropWhile isOws

/-- The elements of a comma-separated value; empty ones do not count. -/
def hops (v : List UInt8) : List (List UInt8) :=
  ((v.splitOn comma).map trimOws).filter fun hop => !hop.isEmpty

example : hops (asciiBytes "1.1.1.1,, 2.2.2.2 ".toList) =
    [asciiBytes "1.1.1.1".toList, asciiBytes "2.2.2.2".toList] := by decide +kernel

/-- All the hops of a header, over all its values. -/
def chain (values : List HeaderValue) : List (List UInt8) :=
  values.flatMap fun v => hops v.bytes

theorem hops_append (v w : List UInt8) : hops (v ++ comma :: w) = hops v ++ hops w := by
  rw [hops, List.splitOn_append_cons_self, List.map_append, List.filter_append]
  rfl

theorem hops_nil : hops [] = [] := rfl

/-- Bytes of an address: visible, no separator, no blank. -/
theorem addressByte {b : UInt8} {ip : IpAddr} (listed : b ∈ asciiBytes (ipText ip)) :
    isVisibleAscii b = true ∧ b ≠ comma ∧ isOws b = false := by
  obtain ⟨c, member, rfl⟩ := List.mem_map.mp listed
  have all : addressChars.all (fun c => isVisibleAscii (UInt8.ofNat c.toNat) &&
      (UInt8.ofNat c.toNat != comma && !isOws (UInt8.ofNat c.toNat))) = true := by
    decide
  simpa using List.all_eq_true.mp all c (ipText_subset ip member)

theorem trimOws_eq_self {v : List UInt8} (solid : ∀ b ∈ v, isOws b = false) : trimOws v = v :=
  strip_eq_self (fun b first => solid b (List.mem_of_head? first))
    fun b last => solid b (List.mem_of_getLast? last)

/-- A value without a comma is one hop, or none if it is blank. -/
theorem hops_eq_singleton {v hop : List UInt8} (whole : comma ∉ v) (trimmed : trimOws v = hop)
    (filled : hop ≠ []) : hops v = [hop] := by
  rw [hops, List.splitOn_eq_singleton whole, List.map_singleton, trimmed]
  simp [filled]

theorem asciiBytes_ip_ne_nil (ip : IpAddr) : asciiBytes (ipText ip) ≠ [] := by
  simpa [asciiBytes] using ipText_ne_nil ip

theorem hops_ip (ip : IpAddr) : hops (asciiBytes (ipText ip)) = [asciiBytes (ipText ip)] :=
  hops_eq_singleton (fun listed => (addressByte listed).2.1 rfl)
    (trimOws_eq_self fun _ listed => (addressByte listed).2.2) (asciiBytes_ip_ne_nil ip)

theorem hops_blank_ip (ip : IpAddr) :
    hops (32 :: asciiBytes (ipText ip)) = [asciiBytes (ipText ip)] := by
  refine hops_eq_singleton (fun listed => ?_) ?_ (asciiBytes_ip_ne_nil ip)
  · rcases List.mem_cons.mp listed with blank | listed
    · exact absurd blank (by decide)
    · exact (addressByte listed).2.1 rfl
  · exact trimOws_eq_self fun _ listed => (addressByte listed).2.2

theorem trimOws_ne_nil {v : List UInt8} {b : UInt8} (listed : b ∈ v) (solid : isOws b = false) :
    trimOws v ≠ [] := by
  intro blank
  have rest := List.rdropWhile_eq_nil_iff.mp blank
  rw [← @List.takeWhile_append_dropWhile _ isOws v, List.mem_append] at listed
  have blankByte : isOws b = true := by
    rcases listed with early | late
    · exact List.mem_takeWhile_imp early
    · exact rest b late
  rw [solid] at blankByte
  cases blankByte

/-- A value with a byte that is neither blank nor a comma lists someone. -/
theorem hops_ne_nil {v : List UInt8} {b : UInt8} (listed : b ∈ v) (solid : isOws b = false)
    (inner : b ≠ comma) : hops v ≠ [] := by
  obtain ⟨part, among, holds⟩ := (Split.mem_splitOn comma listed).resolve_left inner
  refine List.ne_nil_of_mem (a := trimOws part) (List.mem_filter.mpr ⟨?_, ?_⟩)
  · exact List.mem_map_of_mem among
  · simp [trimOws_ne_nil holds solid]

/-- What the new value lists. -/
theorem hops_extendChain (existing : Option (List UInt8)) (ip : IpAddr) :
    hops (extendChain existing (asciiBytes (ipText ip))) =
      hops (existing.getD []) ++ [asciiBytes (ipText ip)] := by
  cases existing with
  | none => exact hops_ip ip
  | some text =>
      rw [extendChain, Option.getD_some]
      by_cases empty : text = []
      · subst empty
        exact hops_ip ip
      · rw [if_pos empty, List.append_assoc]
        show hops (text ++ comma :: 32 :: asciiBytes (ipText ip)) = _
        rw [hops_append, hops_blank_ip]

/-! ## The chain -/

section Chain

variable {m : HeaderMap} {peer : SocketAddr}

theorem toStr_eq_some {v : HeaderValue} {text : List UInt8} :
    v.toStr = some text ↔ (∀ b ∈ v.bytes, isVisibleAscii b = true) ∧ text = v.bytes := by
  rw [HeaderValue.toStr, Option.ite_none_right_eq_some, List.all_eq_true, Option.some.injEq, eq_comm]

/-- The new value is always valid. -/
theorem extendChain_valid (existing : Option HeaderValue) (ip : IpAddr) :
    ∃ v, HeaderValue.fromBytes
        (extendChain (existing.bind HeaderValue.toStr) (asciiBytes (ipText ip))) = some v ∧
      v.bytes = extendChain (existing.bind HeaderValue.toStr) (asciiBytes (ipText ip)) := by
  have address : ∀ b ∈ asciiBytes (ipText ip), isValidByte b = true :=
    fun b listed => isValidByte_of_visible (addressByte listed).1
  have valid : (extendChain (existing.bind HeaderValue.toStr)
      (asciiBytes (ipText ip))).all isValidByte = true := by
    rw [List.all_eq_true]
    cases read : existing.bind HeaderValue.toStr with
    | none => exact address
    | some text =>
        obtain ⟨v, rfl, text⟩ := Option.bind_eq_some_iff.mp read
        obtain ⟨visible, rfl⟩ := toStr_eq_some.mp text
        rw [extendChain]
        split
        · intro b listed
          rcases List.mem_append.mp listed with early | late
          · rcases List.mem_append.mp early with text | separator
            · exact isValidByte_of_visible (visible b text)
            · have both : (asciiBytes ", ".toList).all isValidByte = true := by decide
              exact List.all_eq_true.mp both b separator
          · exact address b late
        · exact address
  exact ⟨⟨_, valid⟩, dif_pos valid, rfl⟩

/-- **Every header after the injection.** -/
theorem getAll_injectForwardedHeaders (originalHost : Option HeaderValue) :
    ∃ v, v.bytes = extendChain ((HeaderMap.get m forwardedFor).bind HeaderValue.toStr)
        (asciiBytes (ipText peer.ip)) ∧
      ∀ name, HeaderMap.getAll (injectForwardedHeaders m peer originalHost) name =
        if name = forwardedFor then [v]
        else if name = forwardedHost ∨ name = hostName then
          originalHost.elim (HeaderMap.getAll m name) fun h => [h]
        else if name = forwardedProto then [httpValue]
        else HeaderMap.getAll m name := by
  obtain ⟨v, made, bytes⟩ := extendChain_valid (HeaderMap.get m forwardedFor) peer.ip
  refine ⟨v, bytes, fun name => ?_⟩
  have notHost : forwardedFor ≠ hostName := by decide
  have notProto : forwardedFor ≠ forwardedProto := by decide
  have notForwardedHost : forwardedFor ≠ forwardedHost := by decide
  cases originalHost with
  | none =>
      simp only [injectForwardedHeaders, Option.elim_none, Option.bind_none,
        HeaderMap.get_insert_of_ne _ _ notProto, made, Option.elim_some, HeaderMap.getAll_insert]
      have other : ∀ name, name = forwardedHost ∨ name = hostName → name ≠ forwardedProto := by
        rintro name (rfl | rfl) <;> decide
      split
      · rfl
      · by_cases hosts : name = forwardedHost ∨ name = hostName
        · rw [if_pos hosts, if_neg (other name hosts)]
        · rw [if_neg hosts]
  | some h =>
      simp only [injectForwardedHeaders, Option.elim_some, Option.bind_some,
        HeaderValue.fromBytes_bytes, HeaderMap.get_insert_of_ne _ _ notForwardedHost,
        HeaderMap.get_insert_of_ne _ _ notProto, HeaderMap.get_insert_of_ne _ _ notHost, made,
        HeaderMap.getAll_insert]
      have hostOther : hostName ≠ forwardedProto := by decide
      split
      · rfl
      · by_cases first : name = forwardedHost
        · simp [first]
        · by_cases second : name = hostName
          · subst second
            simp [first, hostOther]
          · simp [first, second]

/-- What the backend should receive. -/
structure Forwards (m : HeaderMap) (peer : SocketAddr) (m' : HeaderMap) : Prop where
  hops : chain (HeaderMap.getAll m' forwardedFor) =
    chain (HeaderMap.getAll m forwardedFor) ++ [asciiBytes (ipText peer.ip)]
  proto : HeaderMap.getAll m' forwardedProto = [httpValue]
  host : HeaderMap.getAll m' hostName = HeaderMap.getAll m hostName
  fromHost : ∀ h, HeaderMap.get m hostName = some h → HeaderMap.getAll m' forwardedHost = [h]
  withoutHost : HeaderMap.get m hostName = none →
    HeaderMap.getAll m' forwardedHost = HeaderMap.getAll m forwardedHost
  others : ∀ name, name ∉ [forwardedFor, forwardedProto, forwardedHost, hostName] →
    HeaderMap.getAll m' name = HeaderMap.getAll m name

/-- One Host value at most, a first `X-Forwarded-For` value that is text, and nobody
listed in the others. -/
structure Foreseen (m : HeaderMap) : Prop where
  oneHost : (HeaderMap.getAll m hostName).length ≤ 1
  firstText : ∀ v, HeaderMap.get m forwardedFor = some v → v.toStr.isSome = true
  othersSilent : ∀ v ∈ (HeaderMap.getAll m forwardedFor).tail, hops v.bytes = []

theorem hops_ne_nil_of_not_text {v : HeaderValue} (binary : v.toStr = none) : hops v.bytes ≠ [] := by
  have strange : ¬∀ b ∈ v.bytes, isVisibleAscii b = true := by
    intro visible
    rw [toStr_eq_some.mpr ⟨visible, rfl⟩] at binary
    cases binary
  push Not at strange
  obtain ⟨b, listed, invisible⟩ := strange
  refine hops_ne_nil listed ?_ ?_
  · by_contra blank
    simp only [isOws, Bool.not_eq_false, Bool.or_eq_true, beq_iff_eq] at blank
    rcases blank with rfl | rfl <;> exact invisible (by decide)
  · rintro rfl
    exact invisible (by decide)

/-- The part of the chain that is carried over is all of it. -/
theorem carried_iff (values : List HeaderValue) :
    hops ((values.head?.bind HeaderValue.toStr).getD []) = chain values ↔
      (∀ v, values.head? = some v → v.toStr.isSome = true) ∧
        ∀ v ∈ values.tail, hops v.bytes = [] := by
  cases values with
  | nil => simp [chain, hops_nil]
  | cons first extra =>
      have split : chain (first :: extra) = hops first.bytes ++ chain extra := List.flatMap_cons
      rw [split, List.head?_cons, Option.bind_some, List.tail_cons]
      cases read : first.toStr with
      | none =>
          refine iff_of_false (fun same => ?_) fun text => ?_
          · rw [Option.getD_none, hops_nil] at same
            exact hops_ne_nil_of_not_text read (List.append_eq_nil_iff.mp same.symm).1
          · have isText := text.1 first rfl
            rw [read] at isText
            cases isText
      | some text =>
          obtain ⟨-, rfl⟩ := toStr_eq_some.mp read
          rw [Option.getD_some, eq_comm, List.append_right_eq_self, chain, List.flatMap_eq_nil_iff]
          refine (and_iff_right ?_).symm
          rintro v ⟨⟩
          rw [read]
          rfl

end Chain

/-- **When the chain is complete and the other headers are left alone.** -/
theorem forwards_iff (m : HeaderMap) (peer : SocketAddr) :
    Forwards m peer (forwardHeaders m peer) ↔ Foreseen m := by
  obtain ⟨v, bytes, after⟩ := @getAll_injectForwardedHeaders m peer (HeaderMap.get m hostName)
  rw [forwardHeaders]
  have carried : chain [v] = hops
      (((HeaderMap.getAll m forwardedFor).head?.bind HeaderValue.toStr).getD []) ++
        [asciiBytes (ipText peer.ip)] := by
    rw [chain, List.flatMap_singleton, bytes, hops_extendChain, HeaderMap.get_eq_head?]
  have hosts : HeaderMap.getAll (injectForwardedHeaders m peer (HeaderMap.get m hostName)) hostName =
      HeaderMap.getAll m hostName ↔ (HeaderMap.getAll m hostName).length ≤ 1 := by
    rw [after, if_neg (by decide), if_pos (Or.inr rfl), HeaderMap.get_eq_head?]
    rcases HeaderMap.getAll m hostName with _ | ⟨h, _ | ⟨h', rest⟩⟩ <;> simp
  constructor
  · intro forwards
    have whole := forwards.hops
    rw [after, if_pos rfl, carried, List.append_left_inj, carried_iff] at whole
    refine ⟨hosts.mp forwards.host, ?_, whole.2⟩
    rw [HeaderMap.get_eq_head?]
    exact whole.1
  · intro foreseen
    have whole := (carried_iff _).mpr
      ⟨HeaderMap.get_eq_head? m forwardedFor ▸ foreseen.firstText, foreseen.othersSilent⟩
    constructor
    · rw [after, if_pos rfl, carried, whole]
    · rw [after, if_neg (by decide), if_neg (by decide), if_pos rfl]
    · exact hosts.mpr foreseen.oneHost
    · intro h given
      rw [after, if_neg (by decide), if_pos (Or.inl rfl), given]
      rfl
    · intro absent
      rw [after, if_neg (by decide), if_pos (Or.inl rfl), absent]
      rfl
    · intro name other
      simp only [List.mem_cons, List.not_mem_nil, or_false, not_or] at other
      rw [after, if_neg other.1, if_neg (not_or.mpr ⟨other.2.2.1, other.2.2.2⟩), if_neg other.2.1]

/-- Two proxies before this one, each of which has added a header line. -/
def twoLines : HeaderMap :=
  Table.empty.upsert forwardedFor
    ⟨⟨asciiBytes "1.1.1.1".toList, by decide⟩, [⟨asciiBytes "2.2.2.2".toList, by decide⟩]⟩

def peer3 : SocketAddr := ⟨.v4 ⟨[3, 3, 3, 3], rfl⟩, 40000⟩

/-- **The second line is lost.** -/
theorem second_line_lost :
    chain (HeaderMap.getAll (forwardHeaders twoLines peer3) forwardedFor) =
        [asciiBytes "1.1.1.1".toList, asciiBytes "3.3.3.3".toList] ∧
      chain (HeaderMap.getAll twoLines forwardedFor) =
        [asciiBytes "1.1.1.1".toList, asciiBytes "2.2.2.2".toList] ∧
      ¬Forwards twoLines peer3 (forwardHeaders twoLines peer3) := by
  have lost : chain (HeaderMap.getAll (forwardHeaders twoLines peer3) forwardedFor) =
      [asciiBytes "1.1.1.1".toList, asciiBytes "3.3.3.3".toList] := by decide +kernel
  refine ⟨lost, by decide +kernel, fun forwards => ?_⟩
  have whole := forwards.hops
  rw [lost] at whole
  revert whole
  decide +kernel

end Tailroute.Proxy
