/-
# Proxy.HostHeader — the names DNS answers against the names the proxy accepts

The controller's registry and an agent's route table hold the same normalized
hostnames. A client asks DNS for a name and then sends it to the agent as its Host
header, with or without a port. `lookup_a` drops trailing dots and letter case,
`resolve` drops a port and letter case: on names without a trailing dot the two
reach the same key, and a name with one is answered by DNS and unknown to the
proxy (`dotted_name_unrouted`). `hits_agree_iff` says that nothing else separates
them.
-/
import Tailroute.Dns.Registry
import Tailroute.Proxy.Routes

namespace Tailroute.Proxy

open Tailroute.Theory Tailroute.Common Tailroute.Dns

set_option autoImplicit false

/-! ## Keys -/

/-- The key `resolve` looks up. -/
def resolveKey (host : Text) : Text := toAsciiLowercase (host.takeWhile fun c => c != ':')

theorem resolve_eq_find? (store : SharedRouteStore) (host : Text) :
    store.resolve host = store.find? (resolveKey host) := rfl

/-- A Host value with a port. -/
def withPort (host : Text) (port : UInt16) : Text := host ++ ':' :: Nat.toDigits 10 port.toNat

/-- `lookup_a` finds an address, under key `k`. -/
def DnsHits (registry : DnsRegistry) (name k : Text) : Prop :=
  lookupKey name = k ∧ (registry.lookupA name).isSome = true

instance (registry : DnsRegistry) (name k : Text) : Decidable (DnsHits registry name k) :=
  inferInstanceAs (Decidable (_ ∧ _))

/-- `resolve` finds a route, under key `k`. -/
def ProxyHits (store : SharedRouteStore) (host k : Text) : Prop :=
  resolveKey host = k ∧ (store.resolve host).isSome = true

instance (store : SharedRouteStore) (host k : Text) : Decidable (ProxyHits store host k) :=
  inferInstanceAs (Decidable (_ ∧ _))

variable {registry : DnsRegistry} {store : SharedRouteStore} {host k : Text}

theorem dnsHits_iff : DnsHits registry host k ↔ lookupKey host = k ∧ k ∈ registry.keys := by
  rw [DnsHits, DnsRegistry.lookupA, Option.isSome_iff_exists, ← Table.mem_keys_iff]
  constructor <;>
  · rintro ⟨rfl, found⟩
    exact ⟨rfl, found⟩

theorem proxyHits_iff : ProxyHits store host k ↔ resolveKey host = k ∧ k ∈ store.keys := by
  rw [ProxyHits, resolve_eq_find?, Option.isSome_iff_exists, ← Table.mem_keys_iff]
  constructor <;>
  · rintro ⟨rfl, found⟩
    exact ⟨rfl, found⟩

theorem resolveKey_of_portless (portless : ':' ∉ host) :
    resolveKey host = toAsciiLowercase host := by
  rw [resolveKey, List.takeWhile_eq_self_iff.mpr]
  intro c member
  rw [bne_iff_ne]
  rintro rfl
  exact portless member

/-- A port does not change the key. -/
theorem resolveKey_withPort (portless : ':' ∉ host) (port : UInt16) :
    resolveKey (withPort host port) = resolveKey host := by
  rw [resolveKey_of_portless portless, resolveKey, withPort, List.takeWhile_append_of_pos]
  · simp
  · intro c member
    rw [bne_iff_ne]
    rintro rfl
    exact portless member

/-! ## Tables with the same names -/

/-- The registry and the route table hold the same normalized hostnames. -/
structure SharedNames (registry : DnsRegistry) (store : SharedRouteStore) : Prop where
  same : ∀ k, k ∈ registry.keys ↔ k ∈ store.keys
  normalized : ∀ k ∈ registry.keys, Normalized k

/-- A normalized hostname has no trailing dot. -/
theorem undotted_of_normalized (normalized : Normalized host) : Undotted host := by
  intro dotted
  have valid := normalized.2
  rw [validateHostnameSyntax, if_pos dotted] at valid
  split at valid <;> cases valid

/-- A name with a trailing dot keeps it in lowercase, so no table holds its key. -/
theorem not_mem_of_dotted (shared : SharedNames registry store) (dotted : ¬Undotted host) :
    toAsciiLowercase host ∉ registry.keys := by
  intro member
  apply undotted_of_normalized (shared.normalized _ member)
  rw [toAsciiLowercase, List.getLast?_map, not_not.mp dotted]
  rfl

/-- `lookup_a` and `resolve` hit the same keys, with and without a port. -/
def HitsAgree (registry : DnsRegistry) (store : SharedRouteStore) (host : Text) (port : UInt16) :
    Prop :=
  ∀ k, (DnsHits registry host k ↔ ProxyHits store host k) ∧
    (ProxyHits store host k ↔ ProxyHits store (withPort host port) k)

/-- **When a name DNS answers is routable at the proxy.** The two lookups of a name
without a colon agree exactly if it has no trailing dot or DNS does not know it. -/
theorem hits_agree_iff (shared : SharedNames registry store) (portless : ':' ∉ host)
    (port : UInt16) :
    HitsAgree registry store host port ↔ Undotted host ∨ lookupKey host ∉ registry.keys := by
  have key := resolveKey_of_portless portless
  have ported : ∀ k, ProxyHits store host k ↔ ProxyHits store (withPort host port) k := by
    intro k
    rw [proxyHits_iff, proxyHits_iff, resolveKey_withPort portless]
  by_cases undotted : Undotted host
  · refine iff_of_true ?_ (Or.inl undotted)
    intro k
    refine ⟨?_, ported k⟩
    rw [dnsHits_iff, proxyHits_iff, lookupKey_of_undotted undotted, key, shared.same]
  · have missed : ∀ k, ¬ProxyHits store host k := by
      intro k hit
      obtain ⟨rfl, member⟩ := proxyHits_iff.mp hit
      rw [key, ← shared.same] at member
      exact not_mem_of_dotted shared undotted member
    constructor
    · intro agree
      right
      intro known
      exact missed _ ((agree _).1.mp (dnsHits_iff.mpr ⟨rfl, known⟩))
    · rintro (plain | unknown)
      · exact absurd plain undotted
      · intro k
        refine ⟨iff_of_false ?_ (missed k), ported k⟩
        intro hit
        obtain ⟨rfl, known⟩ := dnsHits_iff.mp hit
        exact unknown known

/-! ## One shared name -/

def webAddress : DnsRegistry := Table.empty.upsert "web".toList ⟨[100, 64, 0, 1], rfl⟩

def webRoute : SharedRouteStore :=
  Table.empty.upsert "web".toList ⟨⟨"10.0.0.1".toList, 80⟩, none, none⟩

theorem sharedNames_web : SharedNames webAddress webRoute := by
  refine ⟨fun k => Iff.rfl, ?_⟩
  intro k member
  obtain rfl : k = "web".toList := List.mem_singleton.mp member
  decide +kernel

/-- Letter case and a port do not matter. -/
theorem hits_agree_web :
    ':' ∉ "Web".toList ∧ DnsHits webAddress "Web".toList "web".toList ∧
      HitsAgree webAddress webRoute "Web".toList 8080 :=
  ⟨by decide, by decide, (hits_agree_iff sharedNames_web (by decide) 8080).mpr (by decide)⟩

/-- **A name with the root dot is answered by DNS and unknown to the proxy.** -/
theorem dotted_name_unrouted :
    SharedNames webAddress webRoute ∧ ':' ∉ "web.".toList ∧
      DnsHits webAddress "web.".toList "web".toList ∧
      webRoute.resolve "web.".toList = none ∧ webRoute.resolve "web.:8080".toList = none ∧
      ¬HitsAgree webAddress webRoute "web.".toList 8080 := by
  have known : DnsHits webAddress "web.".toList "web".toList := by decide
  refine ⟨sharedNames_web, by decide, known, by decide, by decide, ?_⟩
  intro agree
  have routed := (agree "web".toList).1.mp known
  exact absurd routed (by decide)

end Tailroute.Proxy
