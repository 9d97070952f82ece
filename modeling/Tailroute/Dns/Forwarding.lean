/-
# Dns.Forwarding — response codes through the resolver and the cache

An upstream that gives each name and type one fixed answer, the resolver that
reports that answer to the server, and the cache the server fills from the
reports. The resolver folds two answers into one report: NXDOMAIN and NOERROR
without a record of the asked type both arrive as "no records found".

Questions are forwarded concurrently, so the cache is a state machine of its
own: a probe and the settling of a lookup are separate steps, with any number of
lookups waiting between them. `Faithful` is what every such history keeps: a
cached entry is what the resolver's report of the fixed answer would give.
`codePreserved_iff` says for which answers the client then sees the upstream's
own response code; `nodata_becomes_nxdomain` is the answer that is lost.
-/
import Tailroute.Theory.Transition
import Tailroute.Dns.Server

namespace Tailroute.Dns

open Tailroute.Theory Tailroute.Common

set_option autoImplicit false

/-! ## Upstreams and the resolver -/

/-- An upstream's answer to one name and type. `failed`: no upstream answered in
time. -/
inductive Answer where
  | records (records : List Record)
  | noData
  | nxDomain
  | failed
deriving DecidableEq

namespace Answer

/-- The answer's response code is NOERROR. -/
def NoError : Answer → Prop
  | .records _ => True
  | .noData => True
  | .nxDomain => False
  | .failed => False

def answers : Answer → List Record
  | .records rs => rs
  | .noData => []
  | .nxDomain => []
  | .failed => []

/-- The resolver's contract: what a lookup may return for an answer. -/
def Reports : Answer → Lookup → Prop
  | .records rs, lookup => lookup = .records rs
  | .noData, lookup => lookup = .noRecords
  | .nxDomain, lookup => lookup = .noRecords
  | .failed, lookup => lookup = .error ∨ lookup = .elapsed

instance : (answer : Answer) → (lookup : Lookup) → Decidable (answer.Reports lookup)
  | .records _, _ => inferInstanceAs (Decidable (_ = _))
  | .noData, _ => inferInstanceAs (Decidable (_ = _))
  | .nxDomain, _ => inferInstanceAs (Decidable (_ = _))
  | .failed, _ => inferInstanceAs (Decidable (_ ∨ _))

/-- The cache entry the answer's report leads to has these contents. -/
def Cached (answer : Answer) (ent : CacheEntry) : Prop :=
  match answer with
  | .records rs => ent.records = rs ∧ ent.rcode = .noError
  | .noData => ent.records = [] ∧ ent.rcode = .nxDomain
  | .nxDomain => ent.records = [] ∧ ent.rcode = .nxDomain
  | .failed => False

/-- The code a lone question gets for the answer. -/
def code : Answer → ResponseCode
  | .records _ => .noError
  | .noData => .nxDomain
  | .nxDomain => .nxDomain
  | .failed => .servFail

end Answer

/-- Upstream resolvers whose answers do not change. DNS names are compared
without letter case. -/
structure Upstream where
  answer : Text → RecordType → Answer
  caseless : ∀ name qtype, answer (toAsciiLowercase name) qtype = answer name qtype

/-! ## Histories of the cache -/

/-- The cache, the questions whose lookup is under way, and the clock. -/
structure Forwarder where
  cache : ResponseCache
  waiting : List Query
  clock : Nat

def Forwarder.init : Forwarder := ⟨Table.empty, [], 0⟩

inductive ForwardAction where
  | tick (elapsed : Nat)
  | probe (query : Query)
  | settle (index : Nat) (lookup : Lookup)

def Forwarder.step (cfg : DnsServerConfig) (s : Forwarder) : ForwardAction → Option Forwarder
  | .tick elapsed => some { s with clock := s.clock + elapsed }
  | .probe query =>
      match s.cache.get query.name query.queryType s.clock with
      | (some _, cache) => some { s with cache }
      | (none, cache) => some { s with cache, waiting := query :: s.waiting }
  | .settle index lookup =>
      match s.waiting[index]? with
      | none => none
      | some query =>
          some { s with
            cache := (settle cfg s.cache query lookup s.clock).2
            waiting := s.waiting.eraseIdx index }

/-- What a step adds to the cache is the result of the lookup it settles. -/
theorem Forwarder.find?_step {cfg : DnsServerConfig} {s s' : Forwarder} {a : ForwardAction}
    (taken : s.step cfg a = some s') {key : Text × RecordType} {ent : CacheEntry}
    (found : s'.cache.find? key = some ent) :
    s.cache.find? key = some ent ∨
      ∃ index lookup query, a = .settle index lookup ∧ s.waiting[index]? = some query ∧
        key = cacheKey query.name query.queryType ∧ Settles cfg s.clock lookup ent := by
  cases a with
  | tick elapsed =>
      cases taken
      exact Or.inl found
  | probe query =>
      have kept : s'.cache = (s.cache.get query.name query.queryType s.clock).2 := by
        simp only [Forwarder.step] at taken
        split at taken <;> (rename_i probed; cases taken; rw [probed])
      rw [kept] at found
      exact Or.inl (ResponseCache.find?_get found)
  | settle index lookup =>
      simp only [Forwarder.step] at taken
      split at taken
      · cases taken
      · rename_i query asked
        cases taken
        rcases find?_settle found with ⟨here, settles⟩ | before
        · exact Or.inr ⟨index, lookup, query, rfl, asked, here, settles⟩
        · exact Or.inl before

/-- The resolver reports what the upstream answers. -/
def Conforms (upstream : Upstream) (s : Forwarder) : ForwardAction → Prop
  | .tick _ => True
  | .probe _ => True
  | .settle index lookup =>
      ∀ query ∈ s.waiting[index]?, (upstream.answer query.name query.queryType).Reports lookup

instance (upstream : Upstream) (s : Forwarder) :
    (a : ForwardAction) → Decidable (Conforms upstream s a)
  | .tick _ => isTrue trivial
  | .probe _ => isTrue trivial
  | .settle index lookup =>
      inferInstanceAs (Decidable (∀ query ∈ s.waiting[index]?,
        (upstream.answer query.name query.queryType).Reports lookup))

/-- The states of the cache after any history of forwarded questions. -/
abbrev History (cfg : DnsServerConfig) (upstream : Upstream) (s : Forwarder) : Prop :=
  Transition.Reach (Forwarder.step cfg) (Conforms upstream) Forwarder.init s

/-! ## What the cache holds -/

/-- Every entry holds the contents its name's answer leads to. -/
def Faithful (upstream : Upstream) (cache : ResponseCache) : Prop :=
  ∀ name qtype ent, cache.find? (name, qtype) = some ent → (upstream.answer name qtype).Cached ent

variable {cfg : DnsServerConfig} {upstream : Upstream} {cache : ResponseCache} {query : Query}

theorem faithful_empty : Faithful upstream Table.empty := by
  intro name qtype ent found
  cases found

/-- A hit under any spelling has the contents the answer leads to. -/
theorem Faithful.hit {name : Text} {qtype : RecordType} {now : Nat} {ent : CacheEntry}
    (faithful : Faithful upstream cache) (found : (cache.get name qtype now).1 = some ent) :
    (upstream.answer name qtype).Cached ent := by
  have stored := faithful _ _ _ (ResponseCache.find?_of_get found)
  rw [upstream.caseless] at stored
  exact stored

/-- What a conforming lookup leaves in the cache is what its answer leads to. -/
theorem Answer.Reports.cached {answer : Answer} {lookup : Lookup} {now : Nat} {ent : CacheEntry}
    (reported : answer.Reports lookup) (settles : Settles cfg now lookup ent) :
    answer.Cached ent := by
  cases answer with
  | records records =>
      cases reported
      cases settles
      exact ⟨rfl, rfl⟩
  | noData =>
      cases reported
      cases settles
      exact ⟨rfl, rfl⟩
  | nxDomain =>
      cases reported
      cases settles
      exact ⟨rfl, rfl⟩
  | failed => rcases reported with rfl | rfl <;> cases settles

/-- One step of the cache keeps it faithful. -/
theorem Faithful.step {s s' : Forwarder} {a : ForwardAction} (faithful : Faithful upstream s.cache)
    (conforms : Conforms upstream s a) (taken : s.step cfg a = some s') :
    Faithful upstream s'.cache := by
  intro name qtype ent found
  rcases Forwarder.find?_step taken found with
    before | ⟨index, lookup, query, rfl, asked, key, settles⟩
  · exact faithful name qtype ent before
  · obtain ⟨rfl, rfl⟩ := Prod.mk.inj key
    rw [upstream.caseless]
    exact (conforms query asked).cached settles

/-- **After any history the cache agrees with the upstream.** -/
theorem faithful_of_history {s : Forwarder} (reached : History cfg upstream s) :
    Faithful upstream s.cache :=
  reached.invariant (I := fun s => Faithful upstream s.cache) faithful_empty
    fun _ _ _ _ faithful conforms taken => faithful.step conforms taken

/-! ## What the client sees -/

/-- The outcome carries the records of the answer and the code it leads to. -/
def Answer.Conveyed (answer : Answer) (outcome : Outcome) : Prop :=
  outcome.code = answer.code ∧ outcome.records = answer.answers

theorem Answer.Cached.conveyed {answer : Answer} {ent : CacheEntry} (cached : answer.Cached ent) :
    answer.Conveyed (.answered ent.records ent.rcode) := by
  cases answer with
  | records rs =>
      obtain ⟨records, rcode⟩ := cached
      rw [records, rcode]
      exact ⟨ite_self _, rfl⟩
  | noData =>
      obtain ⟨records, rcode⟩ := cached
      rw [records, rcode]
      exact ⟨rfl, rfl⟩
  | nxDomain =>
      obtain ⟨records, rcode⟩ := cached
      rw [records, rcode]
      exact ⟨rfl, rfl⟩
  | failed => exact cached.elim

theorem Answer.Reports.conveyed {answer : Answer} {lookup : Lookup} {now : Nat}
    (reported : answer.Reports lookup) :
    answer.Conveyed (settle cfg cache query lookup now).1 := by
  cases answer with
  | records rs =>
      cases reported
      exact ⟨ite_self _, rfl⟩
  | noData =>
      cases reported
      exact ⟨rfl, rfl⟩
  | nxDomain =>
      cases reported
      exact ⟨rfl, rfl⟩
  | failed =>
      rcases reported with rfl | rfl
      · exact ⟨rfl, rfl⟩
      · exact ⟨rfl, rfl⟩

/-- A forwarded question conveys its answer, cached or not. -/
theorem Faithful.conveyed {sight : Sight} (faithful : Faithful upstream cache)
    (reported : (upstream.answer query.name query.queryType).Reports sight.lookup) :
    (upstream.answer query.name query.queryType).Conveyed
      (forwardQuery cfg cache query sight).1 := by
  unfold forwardQuery
  split
  · rename_i hit _ probed
    exact (faithful.hit (congrArg Prod.fst probed)).conveyed
  · exact reported.conveyed

/-- No question about the name is answered from the registry. -/
def World.Unregistered (world : World) (name : Text) : Prop :=
  world.guard.contains name = false ∧ ∀ i, (world.sight i).listed.contains name = false

/-- The response to one question carries the upstream's own response code, and
the same one as without the cache. -/
structure CodePreserved (answer : Answer) (resp uncached : Message) : Prop where
  nxDomain : resp.responseCode = .nxDomain ↔ answer = .nxDomain
  noError : resp.responseCode = .noError ∧ resp.answers = answer.answers ↔ answer.NoError
  servFail : resp.responseCode = .servFail ↔ answer = .failed
  cached : resp.responseCode = uncached.responseCode

/-- The question gets past the loop guard with an answer that is not NODATA; a
server that lists itself as an upstream reports failure to every question. -/
def Relayed (cfg : DnsServerConfig) (peer : Option SocketAddr) (answer : Answer) : Prop :=
  match peer with
  | none => answer ≠ .noData
  | some peer =>
      peer ≠ cfg.listen ∧
        if cfg.listen ∈ cfg.upstreams then answer = .failed else answer ≠ .noData

instance (cfg : DnsServerConfig) (answer : Answer) :
    (peer : Option SocketAddr) → Decidable (Relayed cfg peer answer)
  | none => inferInstanceAs (Decidable (_ ≠ _))
  | some _ => inferInstanceAs (Decidable (_ ∧ ite _ _ _))

/-- The loop guard on a lone question about an unregistered name. -/
theorem loopGuard_single {registry : DnsRegistry} {req : Message} {peer : SocketAddr}
    (single : req.queries = [query]) (unlisted : registry.contains query.name = false) :
    loopGuard cfg registry req (some peer) =
      if peer = cfg.listen then some .refused
      else if cfg.listen ∈ cfg.upstreams then some .servFail else none := by
  have selfListed : (cfg.upstreams.any fun up =>
      decide (up = cfg.listen) && req.queries.any fun q => !registry.contains q.name) =
      decide (cfg.listen ∈ cfg.upstreams) := by
    rw [Bool.eq_iff_iff]
    simp [single, unlisted]
  rw [loopGuard, selfListed]
  simp only [decide_eq_true_eq]

/-- A request the guard turns away shows the guard's code; only SERVFAIL can be
the upstream's own. -/
theorem codePreserved_of_refused {answer : Answer} {resp uncached : Message} {code : ResponseCode}
    (turnedAway : code = .refused ∨ code = .servFail) (shown : resp.responseCode = code)
    (same : uncached.responseCode = code) :
    CodePreserved answer resp uncached ↔ code = .servFail ∧ answer = .failed := by
  constructor
  · intro preserved
    have notNoError : ¬answer.NoError := by
      intro noError
      have code' := (preserved.noError.mpr noError).1
      rw [shown] at code'
      rcases turnedAway with rfl | rfl <;> cases code'
    have notNxDomain : answer ≠ .nxDomain := by
      intro nxDomain
      have code' := preserved.nxDomain.mpr nxDomain
      rw [shown] at code'
      rcases turnedAway with rfl | rfl <;> cases code'
    have failed : answer = .failed := by
      cases answer with
      | records rs => exact absurd trivial notNoError
      | noData => exact absurd trivial notNoError
      | nxDomain => exact absurd rfl notNxDomain
      | failed => rfl
    exact ⟨shown.symm.trans (preserved.servFail.mpr failed), failed⟩
  · rintro ⟨rfl, rfl⟩
    exact
      { nxDomain := by simp [shown]
        noError := by simp [shown, Answer.NoError]
        servFail := by simp [shown]
        cached := shown.trans same.symm }

/-- A forwarded question keeps the upstream's code unless the answer is NODATA. -/
theorem codePreserved_of_forwarded {answer : Answer} {resp uncached : Message}
    (code : resp.responseCode = answer.code) (records : resp.answers = answer.answers)
    (same : uncached.responseCode = answer.code) :
    CodePreserved answer resp uncached ↔ answer ≠ .noData := by
  constructor
  · rintro preserved rfl
    cases preserved.nxDomain.mp code
  · intro hasData
    refine ⟨?_, ?_, ?_, code.trans same.symm⟩
    all_goals
      rw [code]
      cases answer <;> simp_all [Answer.code, Answer.NoError]

theorem forwarded_iff {s : Forwarder} {world : World} {req : Message} {peer : Option SocketAddr}
    (reached : History cfg upstream s) (single : req.queries = [query])
    (unregistered : world.Unregistered query.name)
    (reported : (upstream.answer query.name query.queryType).Reports (world.sight 0).lookup)
    (passed : loopGuard cfg world.guard req peer = none) :
    CodePreserved (upstream.answer query.name query.queryType)
        (handleRequest cfg world s.cache req peer).1
        (handleRequest cfg world Table.empty req peer).1 ↔
      upstream.answer query.name query.queryType ≠ .noData := by
  have conveyed : ∀ cache, Faithful upstream cache →
      (upstream.answer query.name query.queryType).Conveyed
        (answerQuery cfg cache query (world.sight 0)).1 := by
    intro cache faithful
    rw [answerQuery_of_unlisted (unregistered.2 0)]
    exact faithful.conveyed reported
  have warm := conveyed _ (faithful_of_history reached)
  have cold := conveyed _ faithful_empty
  rw [handleRequest_single single passed, handleRequest_single single passed]
  exact codePreserved_of_forwarded warm.1 warm.2 cold.1

/-- **When the upstream's response code reaches the client.** For every
unregistered name, every type and every earlier history of forwarded questions. -/
theorem codePreserved_iff {s : Forwarder} (reached : History cfg upstream s) (world : World)
    (req : Message) (peer : Option SocketAddr) (single : req.queries = [query])
    (unregistered : world.Unregistered query.name)
    (reported : (upstream.answer query.name query.queryType).Reports (world.sight 0).lookup) :
    CodePreserved (upstream.answer query.name query.queryType)
        (handleRequest cfg world s.cache req peer).1
        (handleRequest cfg world Table.empty req peer).1 ↔
      Relayed cfg peer (upstream.answer query.name query.queryType) := by
  have turnedAway : ∀ code, loopGuard cfg world.guard req peer = some code →
      ∀ cache, (handleRequest cfg world cache req peer).1.responseCode = code := by
    intro code refused cache
    simp only [handleRequest, refused]
  cases peer with
  | none => exact forwarded_iff reached single unregistered reported rfl
  | some peer =>
      have guard : loopGuard cfg world.guard req (some peer) = _ :=
        loopGuard_single single unregistered.1
      simp only [Relayed]
      by_cases self : peer = cfg.listen
      · rw [if_pos self] at guard
        rw [codePreserved_of_refused (.inl rfl) (turnedAway _ guard _) (turnedAway _ guard _)]
        simp [self]
      · rw [if_neg self] at guard
        by_cases loops : cfg.listen ∈ cfg.upstreams
        · rw [if_pos loops] at guard
          rw [codePreserved_of_refused (.inr rfl) (turnedAway _ guard _) (turnedAway _ guard _)]
          simp [self, loops]
        · rw [if_neg loops] at guard
          rw [forwarded_iff reached single unregistered reported guard]
          simp [self, loops]

/-! ## A name with an IPv4 address only -/

/-- A server on the tailnet with one public upstream. -/
def publicUpstream : DnsServerConfig :=
  .withDefaults ⟨.v4 ⟨[100, 64, 0, 9], rfl⟩, 53⟩ [⟨.v4 ⟨[1, 1, 1, 1], rfl⟩, 53⟩] 5

def example4 : List Record := [⟨"example.com.".toList, 60, .a ⟨[93, 184, 216, 34], rfl⟩⟩]

/-- `example.com` has an A record and nothing else; no other name exists. -/
def ipv4Only : Upstream where
  answer name qtype :=
    if toAsciiLowercase name = "example.com.".toList then
      match qtype with
      | .a => .records example4
      | _ => .noData
    else .nxDomain
  caseless name qtype := by rw [toAsciiLowercase_idem]

/-- An empty registry and a resolver that returns `lookup`. -/
def forwardingWorld (lookup : Lookup) : World :=
  ⟨Table.empty, fun _ => ⟨Table.empty, Table.empty, 0, lookup, 0⟩⟩

theorem forwardingWorld_unregistered (lookup : Lookup) (name : Text) :
    (forwardingWorld lookup).Unregistered name :=
  ⟨rfl, fun _ => rfl⟩

def ask (name : Text) (qtype : RecordType) : Message :=
  { Message.new with id := 7, recursionDesired := true, queries := [⟨name, qtype⟩] }

def client : Option SocketAddr := some ⟨.v4 ⟨[100, 64, 0, 2], rfl⟩, 40000⟩

/-- The A record of `example.com`, cached under one spelling, is served with
NOERROR under another. -/
theorem codePreserved_cached_address :
    ∃ s, History publicUpstream ipv4Only s ∧ s.cache.rows ≠ [] ∧
      CodePreserved (.records example4)
        (handleRequest publicUpstream (forwardingWorld (.records example4)) s.cache
          (ask "EXAMPLE.com.".toList .a) client).1
        (handleRequest publicUpstream (forwardingWorld (.records example4)) Table.empty
          (ask "EXAMPLE.com.".toList .a) client).1 := by
  have reached : History publicUpstream ipv4Only _ :=
    Transition.reach_of_run
      [.tick 1, .probe ⟨"Example.com.".toList, .a⟩, .settle 0 (.records example4)] rfl
  have single : (ask "EXAMPLE.com.".toList .a).queries = [⟨"EXAMPLE.com.".toList, .a⟩] := rfl
  have answered : ipv4Only.answer "EXAMPLE.com.".toList .a = .records example4 := by decide
  have preserved := codePreserved_iff reached (forwardingWorld (.records example4)) _ client single
    (forwardingWorld_unregistered _ _) (by rw [answered]; rfl)
  rw [answered] at preserved
  exact ⟨_, reached, by decide, preserved.mpr (by decide)⟩

/-- **NODATA becomes NXDOMAIN.** The upstream answers the AAAA question with
NOERROR and no record; the client is told that the name does not exist. -/
theorem nodata_becomes_nxdomain :
    let world := forwardingWorld .noRecords
    let resp := (handleRequest publicUpstream world Table.empty
      (ask "example.com.".toList .aaaa) client).1
    History publicUpstream ipv4Only Forwarder.init ∧
      (ipv4Only.answer "example.com.".toList .aaaa).Reports .noRecords ∧
      ipv4Only.answer "example.com.".toList .aaaa = .noData ∧
      resp.responseCode = .nxDomain ∧
      ¬CodePreserved .noData resp resp := by
  refine ⟨.start, by decide, by decide, by decide, ?_⟩
  intro preserved
  exact absurd (preserved.nxDomain.mp (by decide)) (by decide)

end Tailroute.Dns
