/-
# Dns.Server — answering, forwarding and caching DNS questions

`DnsServer::handle_request` from the decoded request to the response that it
encodes. A request is answered from three things that other tasks change while it
runs: the registry, the response cache and the upstream resolvers. A `Sight` lists
what one question meets there, read by read: the registry content at its `contains` test and at its `lookup_a`, the
clock at `cache.get` and `cache.put`, and what the resolver returns. The
functions are total in the sights, so a statement for every sight is a statement
for every interleaving.

`forwardQuery` is cut at its only await, the resolver's lookup: `settle` is the
part after it.
-/
import Tailroute.Dns.Registry

namespace Tailroute.Dns

open Tailroute.Theory Tailroute.Common

set_option autoImplicit false

/-! ## Messages -/

inductive RecordType where
  | a
  | aaaa
  | other (code : UInt16)
deriving DecidableEq

inductive RData where
  | a (address : Ipv4Addr)
  | other (type : RecordType) (data : List UInt8)
deriving DecidableEq

/-- A resource record; `ttl` in seconds. -/
structure Record where
  name : Text
  ttl : Nat
  rdata : RData
deriving DecidableEq

inductive ResponseCode where
  | noError
  | servFail
  | nxDomain
  | refused
deriving DecidableEq

inductive MessageType where
  | query
  | response
deriving DecidableEq

/-- A question; `name` is the text `query.name().to_ascii()`. -/
structure Query where
  name : Text
  queryType : RecordType
deriving DecidableEq

structure Message where
  id : UInt16
  messageType : MessageType
  opCode : UInt8
  authoritative : Bool
  truncated : Bool
  recursionDesired : Bool
  recursionAvailable : Bool
  responseCode : ResponseCode
  queries : List Query
  answers : List Record
deriving DecidableEq

/-- `Message::new`. -/
def Message.new : Message :=
  { id := 0, messageType := .query, opCode := 0, authoritative := false, truncated := false,
    recursionDesired := false, recursionAvailable := false, responseCode := .noError,
    queries := [], answers := [] }

/-! ## Configuration -/

inductive IpAddr where
  | v4 (address : Ipv4Addr)
  | v6 (address : BitVec 128)
deriving DecidableEq

structure SocketAddr where
  ip : IpAddr
  port : UInt16
deriving DecidableEq

/-- Durations are in nanoseconds, TTLs in seconds. -/
structure DnsServerConfig where
  listen : SocketAddr
  upstreams : List SocketAddr
  serviceTtl : Nat
  positiveCacheMax : Nat
  negativeCacheMax : Nat

/-- `Duration::from_secs`. -/
def fromSecs (seconds : Nat) : Nat := seconds * 1000000000

def DnsServerConfig.withDefaults (listen : SocketAddr) (upstreams : List SocketAddr)
    (serviceTtl : Nat) : DnsServerConfig :=
  { listen, upstreams, serviceTtl, positiveCacheMax := fromSecs 300,
    negativeCacheMax := fromSecs 30 }

/-! ## The response cache -/

structure CacheEntry where
  records : List Record
  rcode : ResponseCode
  expires : Nat
deriving DecidableEq

abbrev ResponseCache := Table (Text × RecordType) CacheEntry

/-- The cache compares names without letter case. -/
def cacheKey (name : Text) (qtype : RecordType) : Text × RecordType :=
  (toAsciiLowercase name, qtype)

namespace ResponseCache

/-- `ResponseCache::get`: an expired entry is removed and not returned. -/
def get (cache : ResponseCache) (name : Text) (qtype : RecordType) (now : Nat) :
    Option CacheEntry × ResponseCache :=
  match cache.find? (cacheKey name qtype) with
  | none => (none, cache)
  | some ent =>
      if ent.expires ≤ now then
        (none, cache.deleteWhere fun key _ => decide (key = cacheKey name qtype))
      else (some ent, cache)

/-- `ResponseCache::put`: a zero TTL is not stored. -/
def put (cache : ResponseCache) (name : Text) (qtype : RecordType) (records : List Record)
    (rcode : ResponseCode) (ttl now : Nat) : ResponseCache :=
  if ttl = 0 then cache
  else cache.upsert (cacheKey name qtype) { records, rcode, expires := now + ttl }

variable {cache : ResponseCache} {name : Text} {qtype : RecordType} {now : Nat}

/-- A hit is the entry stored under the name. -/
theorem find?_of_get {hit : CacheEntry} (found : (cache.get name qtype now).1 = some hit) :
    cache.find? (cacheKey name qtype) = some hit := by
  unfold get at found
  split at found
  · cases found
  · rename_i ent stored
    split at found
    · cases found
    · rw [stored]
      exact found

/-- A hit has not expired. -/
theorem lt_expires_of_get {hit : CacheEntry} (found : (cache.get name qtype now).1 = some hit) :
    now < hit.expires := by
  unfold get at found
  split at found
  · cases found
  · split at found
    · cases found
    · rename_i alive
      cases found
      exact Nat.lt_of_not_le alive

/-- A probe adds nothing to the cache. -/
theorem find?_get {key : Text × RecordType} {ent : CacheEntry}
    (found : (cache.get name qtype now).2.find? key = some ent) : cache.find? key = some ent := by
  unfold get at found
  split at found
  · exact found
  · split at found
    · exact (Table.find?_deleteWhere_eq_some.mp found).1
    · exact found

/-- After a `put` an entry is the one written or was there before. -/
theorem find?_put {records : List Record} {rcode : ResponseCode} {ttl : Nat}
    {key : Text × RecordType} {ent : CacheEntry}
    (found : (cache.put name qtype records rcode ttl now).find? key = some ent) :
    (key = cacheKey name qtype ∧ ent = { records, rcode, expires := now + ttl }) ∨
      cache.find? key = some ent := by
  unfold put at found
  split at found
  · exact Or.inr found
  · rw [Table.find?_upsert] at found
    split at found
    · rename_i same
      exact Or.inl ⟨same, (Option.some.inj found).symm⟩
    · exact Or.inr found

end ResponseCache

/-! ## One question -/

/-- What `resolver.lookup` does under the query timer: records, an error for
which `is_no_records_found()` holds, another error, or nothing before the timer
elapses. -/
inductive Lookup where
  | records (records : List Record)
  | noRecords
  | error
  | elapsed
deriving DecidableEq

/-- The three arms `handle_request` distinguishes. -/
inductive Outcome where
  | answered (records : List Record) (rcode : ResponseCode)
  | failed
  | elapsed
deriving DecidableEq

/-- What one question meets outside the server's own code. -/
structure Sight where
  listed : DnsRegistry
  looked : DnsRegistry
  probed : Nat
  lookup : Lookup
  stored : Nat

/-- The lifetime of a positive entry: the smallest record TTL, capped. -/
def positiveTtl (cfg : DnsServerConfig) (records : List Record) : Nat :=
  min ((records.map fun r => fromSecs r.ttl).min?.getD cfg.positiveCacheMax) cfg.positiveCacheMax

/-- An entry lives no longer than any of its records, nor than the cap. -/
theorem positiveTtl_le (cfg : DnsServerConfig) {records : List Record} {record : Record}
    (listed : record ∈ records) :
    positiveTtl cfg records ≤ min (fromSecs record.ttl) cfg.positiveCacheMax := by
  refine Nat.le_min.mpr ⟨(Nat.min_le_left _ _).trans ?_, Nat.min_le_right _ _⟩
  have member : fromSecs record.ttl ∈ records.map fun r => fromSecs r.ttl :=
    List.mem_map_of_mem listed
  cases smallest : (records.map fun r => fromSecs r.ttl).min? with
  | none =>
      rw [List.min?_eq_none_iff] at smallest
      rw [smallest] at member
      cases member
  | some least => exact (List.min?_eq_some_iff.mp smallest).2 _ member

/-- `forward_query` from the resolver's answer on. -/
def settle (cfg : DnsServerConfig) (cache : ResponseCache) (query : Query) (lookup : Lookup)
    (now : Nat) : Outcome × ResponseCache :=
  match lookup with
  | .records records =>
      (.answered records .noError,
        cache.put query.name query.queryType records .noError (positiveTtl cfg records) now)
  | .noRecords =>
      (.answered [] .nxDomain,
        cache.put query.name query.queryType [] .nxDomain cfg.negativeCacheMax now)
  | .error => (.failed, cache)
  | .elapsed => (.elapsed, cache)

/-- The entry a lookup's result is cached in, counted from `now`. -/
inductive Settles (cfg : DnsServerConfig) (now : Nat) : Lookup → CacheEntry → Prop
  | positive (records : List Record) :
      Settles cfg now (.records records) ⟨records, .noError, now + positiveTtl cfg records⟩
  | negative : Settles cfg now .noRecords ⟨[], .nxDomain, now + cfg.negativeCacheMax⟩

/-- After `settle` an entry is the lookup's own or was there before. -/
theorem find?_settle {cfg : DnsServerConfig} {cache : ResponseCache} {query : Query}
    {lookup : Lookup} {now : Nat} {key : Text × RecordType} {ent : CacheEntry}
    (found : (settle cfg cache query lookup now).2.find? key = some ent) :
    (key = cacheKey query.name query.queryType ∧ Settles cfg now lookup ent) ∨
      cache.find? key = some ent := by
  cases lookup with
  | records records =>
      rcases ResponseCache.find?_put found with ⟨here, rfl⟩ | before
      · exact Or.inl ⟨here, .positive records⟩
      · exact Or.inr before
  | noRecords =>
      rcases ResponseCache.find?_put found with ⟨here, rfl⟩ | before
      · exact Or.inl ⟨here, .negative⟩
      · exact Or.inr before
  | error => exact Or.inr found
  | elapsed => exact Or.inr found

def forwardQuery (cfg : DnsServerConfig) (cache : ResponseCache) (query : Query) (sight : Sight) :
    Outcome × ResponseCache :=
  match cache.get query.name query.queryType sight.probed with
  | (some hit, cache) => (.answered hit.records hit.rcode, cache)
  | (none, cache) => settle cfg cache query sight.lookup sight.stored

def answerQuery (cfg : DnsServerConfig) (cache : ResponseCache) (query : Query) (sight : Sight) :
    Outcome × ResponseCache :=
  if sight.listed.contains query.name then
    match query.queryType with
    | .a =>
        match sight.looked.lookupA query.name with
        -- missing registry ip
        | none => (.failed, cache)
        | some ip => (.answered [⟨query.name, cfg.serviceTtl, .a ip⟩] .noError, cache)
    -- NODATA
    | .aaaa => (.answered [] .noError, cache)
    | .other _ => forwardQuery cfg cache query sight
  else forwardQuery cfg cache query sight

/-! ## One request -/

/-- The response before any question is looked at: header and question section
of the request. -/
def Message.echo (req : Message) : Message :=
  { Message.new with
    id := req.id
    messageType := .response
    opCode := req.opCode
    authoritative := false
    recursionAvailable := true
    recursionDesired := req.recursionDesired
    queries := req.queries }

/-- DNS loop detection: the code a request is turned away with. Without a peer
address nothing is checked. -/
def loopGuard (cfg : DnsServerConfig) (registry : DnsRegistry) (req : Message) :
    Option SocketAddr → Option ResponseCode
  | none => none
  | some peer =>
      if peer = cfg.listen then some .refused
      else if cfg.upstreams.any fun up =>
          decide (up = cfg.listen) && req.queries.any fun q => !registry.contains q.name then
        some .servFail
      else none

/-- The variables of the question loop. -/
structure Progress where
  resp : Message
  anyFail : Bool
  anyAnswer : Bool

/-- The body of the question loop, once the outcome is known. -/
def Progress.add (p : Progress) : Outcome → Progress
  | .answered records rcode =>
      { p with
        resp := { p.resp with
          responseCode :=
            if rcode ≠ .noError ∧ records = [] then rcode else p.resp.responseCode
          answers := p.resp.answers ++ records }
        anyAnswer := p.anyAnswer || !records.isEmpty }
  | .failed => { p with anyFail := true }
  | .elapsed => { p with anyFail := true }

/-- The code set after the loop: SERVFAIL, not a fabricated NXDOMAIN. -/
def Progress.finish (p : Progress) : Message :=
  if p.anyFail ∧ ¬p.anyAnswer then { p.resp with responseCode := .servFail } else p.resp

/-- The question loop; the `i`-th question meets the `i`-th sight. -/
def answerQueries (cfg : DnsServerConfig) (sights : Nat → Sight) :
    Nat → List Query → Progress → ResponseCache → Progress × ResponseCache
  | _, [], p, cache => (p, cache)
  | i, q :: rest, p, cache =>
      let (outcome, cache) := answerQuery cfg cache q (sights i)
      answerQueries cfg sights (i + 1) rest (p.add outcome) cache

/-- What one request meets: the registry at the loop guard, then a sight for
each question. -/
structure World where
  guard : DnsRegistry
  sight : Nat → Sight

/-- `handle_request` between `from_bytes` and `to_bytes`: the response that is encoded. -/
def handleRequest (cfg : DnsServerConfig) (world : World) (cache : ResponseCache) (req : Message)
    (peer : Option SocketAddr) : Message × ResponseCache :=
  match loopGuard cfg world.guard req peer with
  | some code => ({ req.echo with responseCode := code }, cache)
  | none =>
      let (p, cache) := answerQueries cfg world.sight 0 req.queries ⟨req.echo, false, false⟩ cache
      (p.finish, cache)

/-! ## A request with one question -/

/-- The records a question contributes. -/
def Outcome.records : Outcome → List Record
  | .answered records _ => records
  | .failed => []
  | .elapsed => []

/-- The code a lone question gives its response. -/
def Outcome.code : Outcome → ResponseCode
  | .answered records rcode => if records = [] then rcode else .noError
  | .failed => .servFail
  | .elapsed => .servFail

/-- The outcome makes the response count a failure. -/
def Outcome.Fails : Outcome → Prop
  | .answered _ _ => False
  | .failed => True
  | .elapsed => True

/-- The response to a lone question is the echo of the request with the
question's records and code. -/
theorem handleRequest_single {cfg : DnsServerConfig} {world : World} {cache : ResponseCache}
    {req : Message} {peer : Option SocketAddr} {q : Query} (single : req.queries = [q])
    (passed : loopGuard cfg world.guard req peer = none) :
    (handleRequest cfg world cache req peer).1 =
      { req.echo with
        responseCode := (answerQuery cfg cache q (world.sight 0)).1.code
        answers := (answerQuery cfg cache q (world.sight 0)).1.records } := by
  simp only [handleRequest, passed, single, answerQueries]
  cases (answerQuery cfg cache q (world.sight 0)).1 with
  | answered records rcode =>
      simp only [Progress.add, Progress.finish, Outcome.code, Outcome.records, Message.echo,
        Message.new]
      by_cases empty : records = [] <;> by_cases good : rcode = .noError <;> simp [empty, good]
  | failed => rfl
  | elapsed => rfl

/-- A name outside the registry is forwarded, whatever its type. -/
theorem answerQuery_of_unlisted {cfg : DnsServerConfig} {cache : ResponseCache} {q : Query}
    {sight : Sight} (unlisted : sight.listed.contains q.name = false) :
    answerQuery cfg cache q sight = forwardQuery cfg cache q sight := by
  rw [answerQuery, unlisted]
  rfl

end Tailroute.Dns
