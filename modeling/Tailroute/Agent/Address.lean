/-
# Agent.Address — the address an agent registers and the one its proxy binds

`main` settles on one IPv4 address: the configured one, or what the LocalAPI, the command
line tool and the interface list yield, asked in this order. The address goes as text into
every enrollment and heartbeat. Unless `proxy_listen` is set, it is also written before the
port and the whole parsed again, and that is where the proxy listens.

Both texts are read back as what was written (`parseIpv4_ipv4Text`,
`parseSocketAddr_ipv4`), so an agent without `proxy_listen` listens on the address it
registers (`addresses_eq_ok`).
-/
import Tailroute.Agent.Tailscale
import Tailroute.Proxy.ForwardedHeaders
import Tailroute.Theory.Split

namespace Tailroute.Agent

open Tailroute.Theory Tailroute.Theory.TextOrder Tailroute.Common Tailroute.Dns Tailroute.Proxy

set_option autoImplicit false

/-! ## Asking the host -/

/-- A command that cannot be started, that fails, or that prints. -/
inductive CommandOutput where
  | missing
  | failed
  | printed (out : Text)

/-- A socket of the LocalAPI: not there, or asked with curl. -/
inductive LocalApiSocket where
  | absent
  | asked (curl : CommandOutput)

/-- What the host has to say: the sockets in the order they are tried, `tailscale ip -4`
and `ip -4 addr show`. -/
structure HostTools where
  sockets : List LocalApiSocket
  tailscaleCli : CommandOutput
  interfaces : CommandOutput

/-- The loop over the sockets. Without curl it ends at the first that is there. -/
def fromLocalApi : List LocalApiSocket → Except Text Ipv4Addr
  | [] => .error "localapi unavailable".toList
  | .absent :: rest => fromLocalApi rest
  | .asked .missing :: _ => .error "curl localapi".toList
  | .asked .failed :: rest => fromLocalApi rest
  | .asked (.printed body) :: rest =>
      match parseStatusJsonIp body with
      | some ip => .ok ip
      | none => fromLocalApi rest

/-- A command, and what is made of its output. -/
def CommandOutput.read (command : CommandOutput) (missing failed : Text)
    (parse : Text → Except Text Ipv4Addr) : Except Text Ipv4Addr :=
  match command with
  | .missing => .error missing
  | .failed => .error failed
  | .printed out => parse out

def HostTools.fromTailscaleCli (tools : HostTools) : Except Text Ipv4Addr :=
  tools.tailscaleCli.read "tailscale ip -4".toList "tailscale cli failed".toList
    Agent.fromTailscaleCli

def HostTools.fromInterfaces (tools : HostTools) : Except Text Ipv4Addr :=
  tools.interfaces.read "ip addr".toList "ip addr failed".toList Agent.fromInterfaces

def discoverTailscaleIpv4 (tools : HostTools) : Except Text Ipv4Addr :=
  match fromLocalApi tools.sockets with
  | .ok ip => .ok ip
  | .error _ =>
      match tools.fromTailscaleCli with
      | .ok ip => .ok ip
      | .error _ =>
          match tools.fromInterfaces with
          | .ok ip => .ok ip
          | .error _ => .error ("no tailscale IPv4 found (need 100.x.x.x or set tailscale_ipv4 / " ++
              "TAILSVC_TAILSCALE_IPV4)").toList

/-- The settings of `AgentConfig` that are read here. -/
structure AddressConfig where
  tailscaleIpv4 : Option Text
  proxyListen : Option Text
  proxyPort : UInt16 := 80

def resolveTailscaleIpv4 (cfg : AddressConfig) (tools : HostTools) : Except Text Ipv4Addr :=
  match cfg.tailscaleIpv4 with
  | some s => parseTsIp (trim s)
  | none => discoverTailscaleIpv4 tools

section Hundred

variable {tools : HostTools} {ip : Ipv4Addr}

theorem head_of_parseStatusJsonIp {body : Text} (found : parseStatusJsonIp body = some ip) :
    ip.octets.head? = some 100 := by
  have read : Source.read .localApi body = some ip := found
  obtain ⟨-, s, -, -, -, accepted⟩ := read_eq_some.mp read
  exact (parseTsIp_eq_ok.mp accepted).2

theorem head_of_fromLocalApi {sockets : List LocalApiSocket}
    (found : fromLocalApi sockets = .ok ip) : ip.octets.head? = some 100 := by
  induction sockets with
  | nil => cases found
  | cons socket rest ih =>
      match socket, found with
      | .absent, found => exact ih found
      | .asked .failed, found => exact ih found
      | .asked (.printed body), found =>
          rw [fromLocalApi] at found
          split at found
          · rename_i read
            cases found
            exact head_of_parseStatusJsonIp read
          · exact ih found

/-- What a command yields is what its output is parsed to. -/
theorem head_of_read {command : CommandOutput} {missing failed : Text}
    {parse : Text → Except Text Ipv4Addr}
    (accepts : ∀ out, parse out = .ok ip → ip.octets.head? = some 100)
    (found : command.read missing failed parse = .ok ip) : ip.octets.head? = some 100 := by
  cases command with
  | missing => cases found
  | failed => cases found
  | printed out => exact accepts out found

theorem head_of_fromTailscaleCli (found : tools.fromTailscaleCli = .ok ip) :
    ip.octets.head? = some 100 :=
  head_of_read (fun _ accepted => (parseTsIp_eq_ok.mp accepted).2) found

theorem head_of_fromInterfaces (found : tools.fromInterfaces = .ok ip) :
    ip.octets.head? = some 100 := by
  refine head_of_read (fun out listed => ?_) found
  have read : Source.read .interfaces out = some ip := by
    rw [Source.read, listed]
    rfl
  obtain ⟨-, s, -, -, -, accepted⟩ := read_eq_some.mp read
  exact (parseTsIp_eq_ok.mp accepted).2

/-- Wherever the address comes from, its first octet is 100. -/
theorem head_of_resolve {cfg : AddressConfig} (found : resolveTailscaleIpv4 cfg tools = .ok ip) :
    ip.octets.head? = some 100 := by
  unfold resolveTailscaleIpv4 at found
  split at found
  · exact (parseTsIp_eq_ok.mp found).2
  · unfold discoverTailscaleIpv4 at found
    split at found
    · rename_i local_
      cases found
      exact head_of_fromLocalApi local_
    · split at found
      · rename_i cli
        cases found
        exact head_of_fromTailscaleCli cli
      · split at found
        · rename_i interfaces
          cases found
          exact head_of_fromInterfaces interfaces
        · cases found

end Hundred

/-! ## Addresses read back -/

theorem parseOctet_toDigits (octet : UInt8) :
    parseOctet (Nat.toDigits 10 octet.toNat) = some octet := by
  have all : ∀ n < 256, parseOctet (Nat.toDigits 10 n) = some (UInt8.ofNat n) := by
    decide +kernel
  rw [all octet.toNat octet.toNat_lt, UInt8.ofNat_toNat]

theorem not_mem_toDigits {c : Char} (mark : c.isDigit = false) (n : Nat) :
    c ∉ Nat.toDigits 10 n := by
  intro member
  rw [Nat.isDigit_of_mem_toDigits (by decide) (by decide) member] at mark
  cases mark

theorem splitOn_ipv4Text (ip : Ipv4Addr) :
    (ipv4Text ip).splitOn '.' = ip.octets.map fun octet => Nat.toDigits 10 octet.toNat := by
  have some_ : ip.octets ≠ [] := List.ne_nil_of_length_eq_add_one ip.four
  refine List.splitOn_intercalate '.' ?_ (by simpa using some_)
  intro part listed
  obtain ⟨octet, -, rfl⟩ := List.mem_map.mp listed
  exact not_mem_toDigits (by decide) _

/-- What an agent sends is what the controller reads. -/
theorem parseIpv4_ipv4Text (ip : Ipv4Addr) : parseIpv4 (ipv4Text ip) = some ip := by
  rw [parseIpv4, splitOn_ipv4Text]
  obtain ⟨octets, four⟩ := ip
  obtain ⟨a, b, c, d, rfl⟩ := List.length_eq_four.mp four
  simp only [List.map_cons, List.map_nil, parseOctet_toDigits, Option.bind_eq_bind,
    Option.bind_some]

theorem colon_not_mem_ipv4Text (ip : Ipv4Addr) : ':' ∉ ipv4Text ip := by
  intro member
  obtain dot | ⟨part, listed, inside⟩ := Split.mem_splitOn '.' member
  · exact absurd dot (by decide)
  · rw [splitOn_ipv4Text] at listed
    obtain ⟨octet, -, rfl⟩ := List.mem_map.mp listed
    exact not_mem_toDigits (by decide) _ inside

/-- `SocketAddr` from text with an IPv4 address: the address, a colon, and digits. -/
def parseSocketAddrV4 (s : Text) : Option SocketAddr :=
  match s.dropWhile fun c => c != ':' with
  | [] => none
  | _ :: port =>
      if port.all Char.isDigit then do
        let ip ← parseIpv4 (s.takeWhile fun c => c != ':')
        let port ← parseU16 port
        some ⟨.v4 ip, port⟩
      else none

/-- `str::parse::<SocketAddr>`, with what it does for the other family. -/
def parseSocketAddr (parseV6 : Text → Option SocketAddr) (s : Text) : Option SocketAddr :=
  (parseSocketAddrV4 s).or (parseV6 s)

theorem all_isDigit_toDigits (n : Nat) : (Nat.toDigits 10 n).all Char.isDigit = true := by
  rw [List.all_eq_true]
  exact fun c member => Nat.isDigit_of_mem_toDigits (by decide) (by decide) member

theorem parseU16_toDigits (port : UInt16) : parseU16 (Nat.toDigits 10 port.toNat) = some port := by
  have unsigned : (Nat.toDigits 10 port.toNat).head? ≠ some '+' :=
    fun plus => not_mem_toDigits (by decide) _ (List.mem_of_head? plus)
  have small : decimalValue (Nat.toDigits 10 port.toNat) ≤ 65535 := by
    have := port.toNat_lt
    rw [decimalValue_toDigits]
    omega
  simp only [parseU16, parseUnsigned, if_neg unsigned]
  rw [if_pos ⟨Nat.toDigits_ne_nil, all_isDigit_toDigits _, small⟩, decimalValue_toDigits,
    Option.map_some, UInt16.ofNat_toNat]

theorem parseSocketAddr_ipv4 (parseV6 : Text → Option SocketAddr) (ip : Ipv4Addr)
    (port : UInt16) :
    parseSocketAddr parseV6 (ipv4Text ip ++ ':' :: Nat.toDigits 10 port.toNat) =
      some ⟨.v4 ip, port⟩ := by
  have solid : ∀ c ∈ ipv4Text ip, (c != ':') = true := by
    intro c member
    rw [bne_iff_ne]
    rintro rfl
    exact colon_not_mem_ipv4Text ip member
  have after : (ipv4Text ip ++ ':' :: Nat.toDigits 10 port.toNat).dropWhile (fun c => c != ':') =
      ':' :: Nat.toDigits 10 port.toNat := by
    rw [List.dropWhile_append_of_pos solid]
    rfl
  have before : (ipv4Text ip ++ ':' :: Nat.toDigits 10 port.toNat).takeWhile (fun c => c != ':') =
      ipv4Text ip := by
    rw [List.takeWhile_append_of_pos solid]
    exact List.append_nil _
  rw [parseSocketAddr, parseSocketAddrV4, after, before]
  simp only [all_isDigit_toDigits, if_true, parseIpv4_ipv4Text, parseU16_toDigits, Option.bind_eq_bind,
    Option.bind_some, Option.some_or]

/-! ## The start of the agent -/

def proxyListenAddr (parseV6 : Text → Option SocketAddr) (cfg : AddressConfig) (ip : Ipv4Addr) :
    Except Text SocketAddr :=
  match cfg.proxyListen with
  | some s =>
      match parseSocketAddr parseV6 s with
      | some addr => .ok addr
      | none => .error ("invalid proxy_listen: ".toList ++ s)
  | none =>
      match parseSocketAddr parseV6 (ipv4Text ip ++ ':' :: Nat.toDigits 10 cfg.proxyPort.toNat) with
      | some addr => .ok addr
      | none => .error "invalid socket address syntax".toList

/-- A process of an agent: its settings and its host. -/
structure AgentStart where
  cfg : AddressConfig
  tools : HostTools

/-- The beginning of `main`: the address to register and the one to bind. -/
def AgentStart.addresses (parseV6 : Text → Option SocketAddr) (p : AgentStart) :
    Except Text (Ipv4Addr × SocketAddr) := do
  let ip ← resolveTailscaleIpv4 p.cfg p.tools
  let listen ← proxyListenAddr parseV6 p.cfg ip
  .ok (ip, listen)

/-- A process that gets past the beginning has an address of Tailscale's first octet, and
without `proxy_listen` it listens there. -/
theorem addresses_eq_ok {parseV6 : Text → Option SocketAddr} {p : AgentStart} {ip : Ipv4Addr}
    {listen : SocketAddr} (started : p.addresses parseV6 = .ok (ip, listen)) :
    ip.octets.head? = some 100 ∧
      (p.cfg.proxyListen = none → listen = ⟨.v4 ip, p.cfg.proxyPort⟩) := by
  unfold AgentStart.addresses at started
  cases resolved : resolveTailscaleIpv4 p.cfg p.tools with
  | error e =>
      rw [resolved] at started
      cases started
  | ok ip' =>
      rw [resolved] at started
      change (proxyListenAddr parseV6 p.cfg ip' >>= _) = _ at started
      cases bound : proxyListenAddr parseV6 p.cfg ip' with
      | error e =>
          rw [bound] at started
          cases started
      | ok listen' =>
          rw [bound] at started
          cases started
          refine ⟨head_of_resolve resolved, fun default => ?_⟩
          simp only [proxyListenAddr, default, parseSocketAddr_ipv4] at bound
          exact (Except.ok.inj bound).symm

end Tailroute.Agent
