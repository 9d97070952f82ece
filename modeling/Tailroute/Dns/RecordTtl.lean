/-
# Dns.RecordTtl — how long a client may keep what the cache sends

The cache takes the lifetime of an entry from the TTLs of its records and gives the
records back as they were stored: a hit just before the entry expires sends them with
their full TTL.

`Deliveries` runs the cache of `Dns.Forwarding` and writes down, for every record
that is sent, what it was fetched as and when. A record is always sent as it was
fetched (`Dated.source`), so the upstream's limit is kept by a record sent at the
instant it was fetched and by no later one (`ttl_respected`). What the lifetime of an
entry still guarantees is that the limit is at most doubled
(`delivered_within_twice_ttl`).
-/
import Tailroute.Dns.Forwarding

namespace Tailroute.Dns

open Tailroute.Theory Tailroute.Common

set_option autoImplicit false

/-! ## Records on their way -/

/-- Records an upstream answered with, and when. -/
structure Fetch where
  records : List Record
  fetchedAt : Nat

/-- A record sent to a client, beside what it was fetched as. -/
structure Delivery where
  sent : Record
  sentAt : Nat
  fetched : Record
  fetchedAt : Nat
deriving DecidableEq

/-- The client may not keep the record longer than the upstream allowed. -/
def Delivery.Respected (d : Delivery) : Prop :=
  d.sentAt + fromSecs d.sent.ttl ≤ d.fetchedAt + fromSecs d.fetched.ttl

/-- The records of an entry, each with the one it was fetched as. -/
def deliver (f : Fetch) (records : List Record) (now : Nat) : List Delivery :=
  (records.zip f.records).map fun pair => ⟨pair.1, now, pair.2, f.fetchedAt⟩

theorem mem_deliver_self {f : Fetch} {now : Nat} {d : Delivery} :
    d ∈ deliver f f.records now ↔
      ∃ record ∈ f.records, d = ⟨record, now, record, f.fetchedAt⟩ := by
  have paired : f.records.zip f.records = f.records.map fun record => (record, record) := by
    simpa using List.zip_map' (f := id) (g := id) (l := f.records)
  rw [deliver, paired]
  simp [eq_comm]

/-! ## The cache with its deliveries -/

/-- `fetches` holds what the entry under each key was made from. -/
structure Deliveries where
  server : Forwarder
  fetches : Table (Text × RecordType) Fetch
  log : List Delivery

namespace Deliveries

def init : Deliveries := ⟨.init, .empty, []⟩

/-- What `ResponseCache::put` makes an entry from. -/
def note (fetches : Table (Text × RecordType) Fetch) (query : Query) (records : List Record)
    (ttl now : Nat) : Table (Text × RecordType) Fetch :=
  if ttl = 0 then fetches else fetches.upsert (cacheKey query.name query.queryType) ⟨records, now⟩

/-- The fetches behind the cache after the lookup of a question is settled. -/
def noteLookup (cfg : DnsServerConfig) (fetches : Table (Text × RecordType) Fetch) (query : Query)
    (now : Nat) : Lookup → Table (Text × RecordType) Fetch
  | .records records => note fetches query records (positiveTtl cfg records) now
  | .noRecords => note fetches query [] cfg.negativeCacheMax now
  | .error => fetches
  | .elapsed => fetches

/-- The records a step sends: those of a hit, or those a lookup has just returned. -/
def sends (l : Deliveries) : ForwardAction → List Delivery
  | .tick _ => []
  | .probe query =>
      match (l.server.cache.get query.name query.queryType l.server.clock).1,
        l.fetches.find? (cacheKey query.name query.queryType) with
      | some hit, some f => deliver f hit.records l.server.clock
      | _, _ => []
  | .settle _ (.records records) => deliver ⟨records, l.server.clock⟩ records l.server.clock
  | .settle _ _ => []

def fetchesAfter (cfg : DnsServerConfig) (l : Deliveries) :
    ForwardAction → Table (Text × RecordType) Fetch
  | .settle index lookup =>
      match l.server.waiting[index]? with
      | some query => noteLookup cfg l.fetches query l.server.clock lookup
      | none => l.fetches
  | _ => l.fetches

/-- One step of the cache, with what it sends. -/
def step (cfg : DnsServerConfig) (l : Deliveries) (a : ForwardAction) : Option Deliveries :=
  (l.server.step cfg a).map fun server => ⟨server, l.fetchesAfter cfg a, l.log ++ l.sends a⟩

/-! ## Entries are what was fetched -/

/-- Every entry has the records of its fetch, which lies behind, and does not outlive
the lifetime computed from them. -/
def Dated (cfg : DnsServerConfig) (l : Deliveries) : Prop :=
  ∀ key ent, l.server.cache.find? key = some ent →
    ∃ f, l.fetches.find? key = some f ∧ f.records = ent.records ∧ f.fetchedAt ≤ l.server.clock ∧
      (ent.records ≠ [] → ent.expires ≤ f.fetchedAt + positiveTtl cfg ent.records)

variable {cfg : DnsServerConfig} {l l' : Deliveries} {a : ForwardAction}

/-- A `put` and its note change the same key, or nothing. -/
theorem Dated.put {query : Query} {records : List Record} {rcode : ResponseCode} {ttl : Nat}
    (dated : Dated cfg l) (lifetime : records ≠ [] → ttl ≤ positiveTtl cfg records)
    (waiting : List Query) (log : List Delivery) :
    Dated cfg
      ⟨⟨l.server.cache.put query.name query.queryType records rcode ttl l.server.clock, waiting,
        l.server.clock⟩, note l.fetches query records ttl l.server.clock, log⟩ := by
  intro key ent found
  simp only [ResponseCache.put, note] at found ⊢
  by_cases zero : ttl = 0
  · rw [if_pos zero] at found ⊢
    exact dated key ent found
  · rw [if_neg zero, Table.find?_upsert] at found
    rw [if_neg zero, Table.find?_upsert]
    by_cases here : key = cacheKey query.name query.queryType
    · rw [if_pos here] at found ⊢
      cases found
      exact ⟨_, rfl, rfl, le_rfl, fun some => Nat.add_le_add_left (lifetime some) _⟩
    · rw [if_neg here] at found ⊢
      exact dated key ent found

theorem Dated.step (dated : Dated cfg l) (taken : l.step cfg a = some l') : Dated cfg l' := by
  obtain ⟨server, moved, rfl⟩ := Option.map_eq_some_iff.mp taken
  cases a with
  | tick elapsed =>
      cases moved
      intro key ent found
      obtain ⟨f, noted, same, past, lifetime⟩ := dated key ent found
      exact ⟨f, noted, same, Nat.le_add_right_of_le past, lifetime⟩
  | probe query =>
      intro key ent found
      have before : l.server.cache.find? key = some ent := by
        rcases Forwarder.find?_step moved found with before | ⟨_, _, _, settled, -⟩
        · exact before
        · cases settled
      have clock : server.clock = l.server.clock := by
        simp only [Forwarder.step] at moved
        split at moved <;> (cases moved; rfl)
      obtain ⟨f, noted, same, past, lifetime⟩ := dated key ent before
      exact ⟨f, noted, same, past.trans_eq clock.symm, lifetime⟩
  | settle index lookup =>
      simp only [Forwarder.step] at moved
      split at moved
      · cases moved
      · rename_i query asked
        cases moved
        simp only [fetchesAfter, asked]
        cases lookup with
        | records records => exact dated.put (fun _ => le_rfl) _ _
        | noRecords => exact dated.put (fun some => absurd rfl some) _ _
        | error => exact dated
        | elapsed => exact dated

/-- The entry of a hit, with its fetch. -/
theorem Dated.hit (dated : Dated cfg l) {query : Query} {hit : CacheEntry}
    (found : (l.server.cache.get query.name query.queryType l.server.clock).1 = some hit) :
    ∃ f, l.fetches.find? (cacheKey query.name query.queryType) = some f ∧
      f.records = hit.records ∧ f.fetchedAt ≤ l.server.clock ∧
      (hit.records ≠ [] → l.server.clock < f.fetchedAt + positiveTtl cfg hit.records) := by
  obtain ⟨f, noted, same, past, lifetime⟩ := dated _ _ (ResponseCache.find?_of_get found)
  refine ⟨f, noted, same, past, ?_⟩
  intro some
  exact (ResponseCache.lt_expires_of_get found).trans_le (lifetime some)

/-! ## What is sent -/

/-- A hit on an entry with records happens at the instant they were fetched. -/
def InTime (l : Deliveries) : ForwardAction → Prop
  | .probe query =>
      ∀ hit ∈ (l.server.cache.get query.name query.queryType l.server.clock).1,
        ∀ f ∈ l.fetches.find? (cacheKey query.name query.queryType),
          hit.records = [] ∨ l.server.clock ≤ f.fetchedAt
  | .tick _ => True
  | .settle _ _ => True

instance (l : Deliveries) : (a : ForwardAction) → Decidable (l.InTime a)
  | .probe _ => inferInstanceAs (Decidable (∀ _ ∈ _, ∀ _ ∈ _, _ ∨ _))
  | .tick _ => isTrue trivial
  | .settle _ _ => isTrue trivial

/-- Every record sent so far respects its TTL. -/
def TtlRespected (l : Deliveries) : Prop := ∀ d ∈ l.log, d.Respected

/-- Where a record that is sent comes from. -/
inductive Source (l : Deliveries) : ForwardAction → Delivery → Prop
  | hit {query : Query} {entry : CacheEntry} {f : Fetch} {record : Record}
      (found : (l.server.cache.get query.name query.queryType l.server.clock).1 = some entry)
      (noted : l.fetches.find? (cacheKey query.name query.queryType) = some f)
      (listed : record ∈ entry.records) :
      Source l (.probe query) ⟨record, l.server.clock, record, f.fetchedAt⟩
  | fresh {index : Nat} {records : List Record} {record : Record} (listed : record ∈ records) :
      Source l (.settle index (.records records))
        ⟨record, l.server.clock, record, l.server.clock⟩

theorem Dated.mem_sends_iff (dated : Dated cfg l) {d : Delivery} :
    d ∈ l.sends a ↔ Source l a d := by
  constructor
  · intro sent
    cases a with
    | tick elapsed => cases sent
    | probe query =>
        simp only [sends] at sent
        split at sent
        · rename_i entry f found noted
          obtain ⟨f', noted', same, -⟩ := dated.hit found
          rw [noted'] at noted
          cases noted
          rw [← same, mem_deliver_self] at sent
          obtain ⟨record, listed, rfl⟩ := sent
          exact .hit found noted' (same ▸ listed)
        · cases sent
    | settle index lookup =>
        cases lookup with
        | records records =>
            obtain ⟨record, listed, rfl⟩ := mem_deliver_self.mp sent
            exact .fresh listed
        | noRecords => cases sent
        | error => cases sent
        | elapsed => cases sent
  · intro source
    cases source with
    | hit found noted listed =>
        obtain ⟨f', noted', same, -⟩ := dated.hit found
        rw [noted'] at noted
        cases noted
        simp only [sends, found, noted', ← same]
        exact mem_deliver_self.mpr ⟨_, same ▸ listed, rfl⟩
    | fresh listed => exact mem_deliver_self.mpr ⟨_, listed, rfl⟩

/-- What is sent is what was fetched, while the entry lives. -/
theorem Dated.source (dated : Dated cfg l) {d : Delivery} (source : Source l a d) :
    d.sent = d.fetched ∧ d.fetchedAt ≤ d.sentAt ∧
      d.sentAt ≤ d.fetchedAt + min (fromSecs d.fetched.ttl) cfg.positiveCacheMax := by
  cases source with
  | hit found noted listed =>
      obtain ⟨f', noted', -, past, alive⟩ := dated.hit found
      rw [noted'] at noted
      cases noted
      have within := (alive (List.ne_nil_of_mem listed)).le
      exact ⟨rfl, past, within.trans (Nat.add_le_add_left (positiveTtl_le cfg listed) _)⟩
  | fresh listed => exact ⟨rfl, le_rfl, Nat.le_add_right _ _⟩

/-- A step is in time exactly when every record it sends respects its TTL. -/
theorem Dated.inTime_iff (dated : Dated cfg l) :
    l.InTime a ↔ ∀ d ∈ l.sends a, d.Respected := by
  simp only [dated.mem_sends_iff]
  constructor
  · intro inTime d source
    cases source with
    | hit found noted listed =>
        rcases inTime _ found _ noted with silent | now
        · rw [silent] at listed
          cases listed
        · exact Nat.add_le_add_right now _
    | fresh listed => exact le_rfl
  · intro respected
    cases a with
    | tick elapsed => trivial
    | settle index lookup => trivial
    | probe query =>
        intro entry found f noted
        rw [or_iff_not_imp_left]
        intro some
        obtain ⟨record, listed⟩ := List.exists_mem_of_ne_nil _ some
        exact Nat.le_of_add_le_add_right (respected _ (.hit found noted listed))

/-! ## Runs -/

theorem dated_of_reach {ok : Deliveries → ForwardAction → Prop}
    (reached : Transition.Reach (step cfg) ok init l) : Dated cfg l := by
  refine reached.invariant (I := Dated cfg) ?_ ?_
  · intro key ent found
    cases found
  · intro l a l' _ dated _ taken
    exact dated.step taken

theorem log_step (taken : l.step cfg a = some l') : l'.log = l.log ++ l.sends a := by
  obtain ⟨server, -, rfl⟩ := Option.map_eq_some_iff.mp taken
  rfl

/-- One step keeps the TTLs respected exactly when it is in time. -/
theorem Dated.ttlRespected_step (dated : Dated cfg l) (taken : l.step cfg a = some l') :
    l'.TtlRespected ↔ l.TtlRespected ∧ l.InTime a := by
  rw [dated.inTime_iff, TtlRespected, log_step taken]
  simp only [List.mem_append, or_imp, forall_and]
  rfl

/-- A record is sent while its entry lives, so that a client keeps it for less than
twice the time the upstream allowed. -/
theorem delivered_within_twice_ttl (reached : Transition.Reach (step cfg) (fun _ _ => True) init l) :
    ∀ d ∈ l.log, d.sentAt + fromSecs d.sent.ttl ≤ d.fetchedAt + 2 * fromSecs d.fetched.ttl := by
  refine reached.invariant (I := fun l => ∀ d ∈ l.log,
    d.sentAt + fromSecs d.sent.ttl ≤ d.fetchedAt + 2 * fromSecs d.fetched.ttl) ?_ ?_
  · intro d sent
    cases sent
  · intro l a l' past kept _ taken d sent
    rw [log_step taken, List.mem_append] at sent
    rcases sent with earlier | now
    · exact kept d earlier
    · have dated := dated_of_reach past
      obtain ⟨same, -, within⟩ := dated.source (dated.mem_sends_iff.mp now)
      rw [same]
      omega

end Deliveries

/-- **The TTLs of the upstream are respected in every run without a late hit, and in no
other.** The first part is for every state of such a run; by the second a late hit is
the end of it. -/
theorem ttl_respected (cfg : DnsServerConfig) :
    (∀ l, Transition.Reach (Deliveries.step cfg) Deliveries.InTime .init l → l.TtlRespected) ∧
    ∀ l a l', Transition.Reach (Deliveries.step cfg) (fun _ _ => True) .init l →
      l.step cfg a = some l' → ¬l.InTime a → ¬l'.TtlRespected := by
  constructor
  · intro l reached
    refine reached.invariant (I := Deliveries.TtlRespected) ?_ ?_
    · intro d sent
      cases sent
    · intro l a l' past respected inTime taken
      exact ((Deliveries.dated_of_reach past).ttlRespected_step taken).mpr ⟨respected, inTime⟩
  · intro l a l' reached taken late respected
    exact late (((Deliveries.dated_of_reach reached).ttlRespected_step taken).mp respected).2

/-! ## A hit after half the TTL -/

def exampleQuestion : Query := ⟨"example.com.".toList, .a⟩

/-- `example.com` is fetched with a TTL of 60 seconds and asked for again at the same
instant and, if time passes, after it. -/
def fetchAndHit (elapsed : Nat) : List ForwardAction :=
  [.probe exampleQuestion, .settle 0 (.records example4), .tick elapsed, .probe exampleQuestion]

/-- A hit at the instant of the fetch. -/
theorem ttl_respected_at_once :
    ∃ l, Transition.Reach (Deliveries.step publicUpstream) Deliveries.InTime .init l ∧
      l.log.length = 2 ∧ l.TtlRespected := by
  obtain ⟨l, reached, sent⟩ : ∃ l, Transition.Reach (Deliveries.step publicUpstream)
      Deliveries.InTime .init l ∧ l.log.length = 2 :=
    Transition.exists_reach_of_run _ (fetchAndHit 0) (by decide +kernel)
  exact ⟨l, reached, sent, (ttl_respected publicUpstream).1 l reached⟩

/-- **A hit after 30 of 60 seconds sends the record with 60 seconds to go.** -/
theorem hit_sends_full_ttl :
    ∃ l, Transition.Reach (Deliveries.step publicUpstream) (fun _ _ => True) .init l ∧
      ∃ d ∈ l.log, d.sentAt = fromSecs 30 ∧ d.fetchedAt = 0 ∧ d.sent.ttl = 60 ∧
        d.fetched.ttl = 60 ∧ ¬d.sentAt + fromSecs d.sent.ttl ≤ d.fetchedAt + fromSecs d.fetched.ttl :=
  Transition.exists_reach_of_run _ (fetchAndHit (fromSecs 30)) (by decide +kernel)

end Tailroute.Dns
