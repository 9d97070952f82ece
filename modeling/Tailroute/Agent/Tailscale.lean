/-
# Agent.Tailscale — where an agent's own address comes from

The agent asks the LocalAPI, the command line tool and the interface list for a text, in
this order, and takes the first address in it that `parse_ts_ip` accepts. The status
document of the LocalAPI is not parsed: it is searched for the key and then cut at quotes,
brackets and commas.

`parse_ts_ip` compares the text with the prefix `100.`, which admits all of 100.0.0.0/8
and not only the addresses that Tailscale assigns. `read_cgnat_iff` says for which outputs
this makes a difference.
-/
import Tailroute.Common.Text

namespace Tailroute.Agent

open Tailroute.Theory Tailroute.Theory.TextOrder Tailroute.Common

set_option autoImplicit false

/-! ## Addresses -/

def isLoopback (ip : Ipv4Addr) : Bool := ip.octets.head? == some 127

def isUnspecified (ip : Ipv4Addr) : Bool := ip.octets == [0, 0, 0, 0]

def isBroadcast (ip : Ipv4Addr) : Bool := ip.octets == [255, 255, 255, 255]

def tsPrefix : Text := "100.".toList

def parseTsIp (s : Text) : Except Text Ipv4Addr :=
  match parseIpv4 s with
  | none => .error "parse ip".toList
  | some ip =>
      if ¬tsPrefix <+: s then .error "not a tailscale CGNAT address".toList
      else if isLoopback ip ∨ isUnspecified ip ∨ isBroadcast ip then
        .error "invalid address class".toList
      else .ok ip

/-- 100.64.0.0/10, the addresses Tailscale assigns. -/
def Cgnat (ip : Ipv4Addr) : Prop :=
  ∃ b c d, ip.octets = [100, b, c, d] ∧ 64 ≤ b ∧ b ≤ 127

/-! ## The outputs -/

/-- `str::lines`: a carriage return is part of the line ending only before a newline. -/
def lines (s : Text) : List Text :=
  let parts := s.splitOn '\n'
  let ended := parts.dropLast.map fun line =>
    if line.getLast? = some '\r' then line.dropLast else line
  ended ++ parts.getLast?.toList.filter fun last => !last.isEmpty

/-- `str::find`, and what the text is from there. -/
def sliceFrom (key : Text) : Text → Option Text
  | [] => if key = [] then some [] else none
  | c :: rest => if key <+: c :: rest then some (c :: rest) else sliceFrom key rest

def keyName : Text := "TailscaleIPs".toList

/-- The key with its quotes. -/
def statusKey : Text := '"' :: (keyName ++ ['"'])

def cutsStatus (c : Char) : Bool := c == '"' || c == '[' || c == ']' || c == ','

/-- A part of the cut text, if it is an address. -/
def statusAddress (part : Text) : Option Ipv4Addr :=
  let p := trim part
  if tsPrefix <+: p then (parseTsIp p).toOption else none

def parseStatusJsonIp (body : Text) : Option Ipv4Addr :=
  (sliceFrom statusKey body).bind fun slice => (slice.splitOnP cutsStatus).findSome? statusAddress

def fromTailscaleCli (out : Text) : Except Text Ipv4Addr :=
  parseTsIp (trim ((lines out).head?.getD []))

/-- What a line of the interface list offers. -/
def interfaceAddress (line : Text) : Option Text :=
  let line := trim line
  if "inet ".toList <+: line then some (trim ((line.drop 5).takeWhile fun c => c != '/')) else none

/-- The loop over the lines. -/
def firstInterface : List Text → Except Text Ipv4Addr
  | [] => .error "no tailscale interface".toList
  | line :: rest =>
      match interfaceAddress line with
      | none => firstInterface rest
      | some addr =>
          match parseTsIp addr with
          | .ok ip => .ok ip
          | .error _ => firstInterface rest

def fromInterfaces (out : Text) : Except Text Ipv4Addr := firstInterface (lines out)

example : fromInterfaces "1: lo\n    inet 127.0.0.1/8 scope host lo\n    inet 100.64.0.7/32".toList =
    .ok ⟨[100, 64, 0, 7], rfl⟩ := by decide +kernel

/-! ## What is accepted -/

theorem parseOctet_eq_some {s : Text} {octet : UInt8} (parsed : parseOctet s = some octet) :
    s ≠ [] ∧ (∀ c ∈ s, c.isDigit = true) ∧ s.length ≤ 3 ∧ octet = UInt8.ofNat (decimalValue s) ∧
      decimalValue s ≤ 255 := by
  unfold parseOctet at parsed
  obtain ⟨⟨nonempty, digits, short, -, small⟩, same⟩ := Option.ite_none_right_eq_some.mp parsed
  exact ⟨nonempty, List.all_eq_true.mp digits, short, (Option.some.inj same).symm, small⟩

/-- The four octets of a text that parses. -/
theorem parseIpv4_eq_some {s : Text} {ip : Ipv4Addr} (parsed : parseIpv4 s = some ip) :
    ∃ a b c d w x y z, s.splitOn '.' = [a, b, c, d] ∧ ip.octets = [w, x, y, z] ∧
      parseOctet a = some w ∧ parseOctet b = some x ∧ parseOctet c = some y ∧
        parseOctet d = some z := by
  unfold parseIpv4 at parsed
  split at parsed
  · rename_i a b c d parts
    obtain ⟨w, first, parsed⟩ := Option.bind_eq_some_iff.mp parsed
    obtain ⟨x, second, parsed⟩ := Option.bind_eq_some_iff.mp parsed
    obtain ⟨y, third, parsed⟩ := Option.bind_eq_some_iff.mp parsed
    obtain ⟨z, fourth, parsed⟩ := Option.bind_eq_some_iff.mp parsed
    cases parsed
    exact ⟨a, b, c, d, w, x, y, z, parts, rfl, first, second, third, fourth⟩
  · cases parsed

theorem digit_eq_of_value {c : Char} {n : Nat} (digit : c.isDigit = true)
    (value : digitValue c = n) : c = Char.ofNat (48 + n) := by
  have range := toNat_of_isDigit digit
  have code : c.toNat = 48 + n := by
    rw [digitValue] at value
    omega
  rw [← code, Char.ofNat_toNat]

/-- Only one spelling of an octet is 100. -/
theorem eq_of_parseOctet_hundred {s : Text} (parsed : parseOctet s = some 100) :
    s = ['1', '0', '0'] := by
  obtain ⟨nonempty, digits, short, value, small⟩ := parseOctet_eq_some parsed
  have hundred : decimalValue s = 100 := by
    have same := congrArg UInt8.toNat value
    rw [UInt8.toNat_ofNat_of_lt' (show decimalValue s < 256 by omega)] at same
    exact same.symm
  have bound : ∀ c ∈ s, digitValue c ≤ 9 := by
    intro c member
    have range := toNat_of_isDigit (digits c member)
    rw [digitValue]
    omega
  rcases s with _ | ⟨a, _ | ⟨b, _ | ⟨c, _ | ⟨d, rest⟩⟩⟩⟩ <;>
    simp only [decimalValue, List.foldl_cons, List.foldl_nil] at hundred
  · omega
  · have ha := bound a (by simp)
    omega
  · have ha := bound a (by simp)
    have hb := bound b (by simp)
    omega
  · have ha := bound a (by simp)
    have hb := bound b (by simp)
    have hc := bound c (by simp)
    rw [digit_eq_of_value (digits a (by simp)) (show digitValue a = 1 by omega),
      digit_eq_of_value (digits b (by simp)) (show digitValue b = 0 by omega),
      digit_eq_of_value (digits c (by simp)) (show digitValue c = 0 by omega)]
  · simp only [List.length_cons] at short
    omega

/-- The prefix test looks at the first octet. -/
theorem tsPrefix_iff {s : Text} {ip : Ipv4Addr} (parsed : parseIpv4 s = some ip) :
    tsPrefix <+: s ↔ ip.octets.head? = some 100 := by
  obtain ⟨a, b, c, d, w, x, y, z, parts, octets, first, -⟩ := parseIpv4_eq_some parsed
  have joined : ['.'].intercalate [a, b, c, d] = s := by
    rw [← parts]
    exact List.intercalate_splitOn '.'
  have spelled : s = a ++ '.' :: (b ++ '.' :: (c ++ '.' :: d)) := by
    rw [← joined]
    simp [List.intercalate_cons_cons]
  rw [octets, List.head?_cons, Option.some.injEq]
  constructor
  · rintro ⟨rest, start⟩
    have upToDot : s.takeWhile (fun c => c != '.') = a := by
      rw [spelled, List.takeWhile_append_of_pos]
      · simp
      · intro c member
        rw [bne_iff_ne]
        rintro rfl
        exact absurd ((parseOctet_eq_some first).2.1 '.' member) (by decide)
    rw [← start] at upToDot
    have hundred : a = ['1', '0', '0'] := upToDot.symm
    rw [hundred] at first
    exact (Option.some.inj first).symm
  · rintro rfl
    rw [spelled, eq_of_parseOctet_hundred first]
    exact ⟨b ++ '.' :: (c ++ '.' :: d), rfl⟩

/-- **What `parse_ts_ip` accepts**: an address whose first octet is 100. -/
theorem parseTsIp_eq_ok {s : Text} {ip : Ipv4Addr} :
    parseTsIp s = .ok ip ↔ parseIpv4 s = some ip ∧ ip.octets.head? = some 100 := by
  unfold parseTsIp
  cases parsed : parseIpv4 s with
  | none => simp
  | some other =>
      rw [Option.some.injEq]
      dsimp only
      by_cases hundred : tsPrefix <+: s
      · have first := (tsPrefix_iff parsed).mp hundred
        have fine : ¬(isLoopback other ∨ isUnspecified other ∨ isBroadcast other) := by
          rintro (loopback | unspecified | broadcast)
          · rw [isLoopback, first] at loopback
            exact absurd loopback (by decide)
          · rw [isUnspecified, beq_iff_eq] at unspecified
            rw [unspecified] at first
            exact absurd first (by decide)
          · rw [isBroadcast, beq_iff_eq] at broadcast
            rw [broadcast] at first
            exact absurd first (by decide)
        rw [if_neg (not_not.mpr hundred), if_neg fine, Except.ok.injEq]
        constructor
        · rintro rfl
          exact ⟨rfl, first⟩
        · exact And.left
      · rw [if_pos hundred]
        refine iff_of_false ?_ ?_
        · intro refused
          cases refused
        · rintro ⟨rfl, first⟩
          exact hundred ((tsPrefix_iff parsed).mpr first)

/-! ## The three sources -/

inductive Source where
  | localApi
  | tailscaleCli
  | interfaces
deriving DecidableEq

/-- What a source makes of an output. -/
def Source.read : Source → Text → Option Ipv4Addr
  | localApi, body => parseStatusJsonIp body
  | tailscaleCli, out => (fromTailscaleCli out).toOption
  | interfaces, out => (fromInterfaces out).toOption

/-- The texts that are tried as addresses, in order. -/
def Source.candidates : Source → Text → List Text
  | localApi, body => (sliceFrom statusKey body).elim [] fun slice =>
      (slice.splitOnP cutsStatus).map trim
  | tailscaleCli, out => [trim ((lines out).head?.getD [])]
  | interfaces, out => (lines out).filterMap interfaceAddress

theorem statusAddress_eq (part : Text) : statusAddress part = (parseTsIp (trim part)).toOption := by
  unfold statusAddress
  dsimp only
  split
  · rfl
  · rename_i other
    cases tried : parseTsIp (trim part) with
    | error e => rfl
    | ok ip =>
        obtain ⟨parsed, first⟩ := parseTsIp_eq_ok.mp tried
        exact absurd ((tsPrefix_iff parsed).mpr first) other

theorem toOption_firstInterface (lines : List Text) :
    (firstInterface lines).toOption =
      (lines.filterMap interfaceAddress).findSome? fun text => (parseTsIp text).toOption := by
  induction lines with
  | nil => rfl
  | cons line rest ih =>
      rw [firstInterface]
      cases offered : interfaceAddress line with
      | none =>
          rw [List.filterMap_cons_none offered]
          exact ih
      | some addr =>
          rw [List.filterMap_cons_some offered, List.findSome?_cons]
          dsimp only
          cases parseTsIp addr with
          | error e => exact ih
          | ok ip => rfl

/-- **Every source takes its first candidate that is accepted.** -/
theorem read_eq_findSome? (source : Source) (output : Text) :
    source.read output =
      (source.candidates output).findSome? fun text => (parseTsIp text).toOption := by
  cases source with
  | localApi =>
      rw [Source.read, Source.candidates, parseStatusJsonIp]
      cases sliceFrom statusKey output with
      | none => rfl
      | some slice =>
          rw [Option.bind_some, Option.elim_some, List.findSome?_map]
          exact congrArg (fun f => List.findSome? f (slice.splitOnP cutsStatus))
            (funext statusAddress_eq)
  | tailscaleCli =>
      rw [Source.read, Source.candidates, fromTailscaleCli, List.findSome?_singleton]
  | interfaces => exact toOption_firstInterface (lines output)

/-- A text of the form 100.x.y.z. -/
def Dotted (s : Text) (x y z : UInt8) : Prop :=
  ∃ ip, parseIpv4 s = some ip ∧ ip.octets = [100, x, y, z]

/-- The first candidate of the form 100.x.y.z has its second octet outside 64–127. -/
def OutsideFirst (source : Source) (output : Text) : Prop :=
  ∃ before s after x y z, source.candidates output = before ++ s :: after ∧
    (∀ earlier ∈ before, ∀ x y z, ¬Dotted earlier x y z) ∧ Dotted s x y z ∧ ¬(64 ≤ x ∧ x ≤ 127)

theorem parseTsIp_eq_ok_iff_dotted {s : Text} {ip : Ipv4Addr} :
    parseTsIp s = .ok ip ↔ ∃ x y z, parseIpv4 s = some ip ∧ ip.octets = [100, x, y, z] := by
  rw [parseTsIp_eq_ok]
  constructor
  · rintro ⟨parsed, first⟩
    obtain ⟨-, -, -, -, w, x, y, z, -, octets, -⟩ := parseIpv4_eq_some parsed
    rw [octets, List.head?_cons, Option.some.injEq] at first
    exact ⟨x, y, z, parsed, by rw [octets, first]⟩
  · rintro ⟨x, y, z, parsed, octets⟩
    exact ⟨parsed, by rw [octets]; rfl⟩

theorem toOption_parseTsIp_eq_none {s : Text} :
    (parseTsIp s).toOption = none ↔ ∀ x y z, ¬Dotted s x y z := by
  constructor
  · rintro refused x y z ⟨ip, parsed, octets⟩
    rw [parseTsIp_eq_ok_iff_dotted.mpr ⟨x, y, z, parsed, octets⟩] at refused
    cases refused
  · intro other
    cases tried : parseTsIp s with
    | error e => rfl
    | ok ip =>
        obtain ⟨x, y, z, parsed, octets⟩ := parseTsIp_eq_ok_iff_dotted.mp tried
        exact absurd ⟨ip, parsed, octets⟩ (other x y z)

theorem toOption_parseTsIp_eq_some {s : Text} {ip : Ipv4Addr} :
    (parseTsIp s).toOption = some ip ↔ parseTsIp s = .ok ip := by
  cases parseTsIp s <;> simp [Except.toOption]

theorem read_eq_some {source : Source} {output : Text} {ip : Ipv4Addr} :
    source.read output = some ip ↔
      ∃ before s after, source.candidates output = before ++ s :: after ∧
        (∀ earlier ∈ before, ∀ x y z, ¬Dotted earlier x y z) ∧ parseTsIp s = .ok ip := by
  rw [read_eq_findSome?, List.findSome?_eq_some_iff]
  simp only [toOption_parseTsIp_eq_some, toOption_parseTsIp_eq_none]
  constructor
  · rintro ⟨before, s, after, cut, accepted, refused⟩
    exact ⟨before, s, after, cut, refused, accepted⟩
  · rintro ⟨before, s, after, cut, refused, accepted⟩
    exact ⟨before, s, after, cut, accepted, refused⟩

/-- **Only a first candidate outside the range is read outside the range.** -/
theorem read_cgnat_iff (source : Source) (output : Text) :
    (∀ ip, source.read output = some ip → Cgnat ip) ↔ ¬OutsideFirst source output := by
  constructor
  · rintro inside ⟨before, s, after, x, y, z, cut, refused, ⟨ip, parsed, octets⟩, outside⟩
    have accepted := parseTsIp_eq_ok_iff_dotted.mpr ⟨x, y, z, parsed, octets⟩
    obtain ⟨b, c, d, same, low, high⟩ :=
      inside ip (read_eq_some.mpr ⟨before, s, after, cut, refused, accepted⟩)
    rw [octets] at same
    cases same
    exact outside ⟨low, high⟩
  · intro inside ip taken
    obtain ⟨before, s, after, cut, refused, accepted⟩ := read_eq_some.mp taken
    obtain ⟨x, y, z, parsed, octets⟩ := parseTsIp_eq_ok_iff_dotted.mp accepted
    by_contra outside
    refine inside ⟨before, s, after, x, y, z, cut, refused, ⟨ip, parsed, octets⟩, ?_⟩
    rintro ⟨low, high⟩
    exact outside ⟨x, y, z, octets, low, high⟩

end Tailroute.Agent
