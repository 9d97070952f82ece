/-
# Dns.LoopDetection — a server that is its own upstream

With its own listen address among the upstreams, the server would ask itself.
`handle_request` turns such requests away when they hold a name outside the
registry: a registry miss would be forwarded. But `answer_query` forwards by
record type too: a registered name asked for anything but A or AAAA passes the
guard and reaches the resolver (`registered_txt_loops`).

`resolverLookups` lists the questions of a request that reach the lookup of
`forward_query`. If it is empty, nothing the resolvers would have said matters
(`handleRequest_of_no_lookups`), and `no_lookups_iff` says exactly when it is.
-/
import Tailroute.Dns.Forwarding

namespace Tailroute.Dns

open Tailroute.Theory Tailroute.Common

set_option autoImplicit false

/-! ## Which questions reach the resolver -/

/-- `forward_query` finds no live entry and goes on to the resolver. -/
def misses (cache : ResponseCache) (query : Query) (sight : Sight) : Bool :=
  (cache.get query.name query.queryType sight.probed).1.isNone

/-- The dispatch of `answer_query`, as far as the resolver is concerned. -/
def looksUp (cache : ResponseCache) (query : Query) (sight : Sight) : Bool :=
  if sight.listed.contains query.name then
    match query.queryType with
    | .a => false
    | .aaaa => false
    | .other _ => misses cache query sight
  else misses cache query sight

/-- The questions of the loop that reach the resolver, in order. -/
def lookups (cfg : DnsServerConfig) (sights : Nat → Sight) :
    Nat → List Query → ResponseCache → List Query
  | _, [], _ => []
  | i, q :: rest, cache =>
      let later := lookups cfg sights (i + 1) rest (answerQuery cfg cache q (sights i)).2
      if looksUp cache q (sights i) then q :: later else later

/-- The questions of a request that reach the resolver. -/
def resolverLookups (cfg : DnsServerConfig) (world : World) (cache : ResponseCache) (req : Message)
    (peer : Option SocketAddr) : List Query :=
  match loopGuard cfg world.guard req peer with
  | some _ => []
  | none => lookups cfg world.sight 0 req.queries cache

/-- The cache holds an entry for the question that has not expired. -/
def LiveEntry (cache : ResponseCache) (query : Query) (now : Nat) : Prop :=
  ∃ ent, cache.find? (cacheKey query.name query.queryType) = some ent ∧ now < ent.expires

/-- The question is answered without the resolver: an address question for a
registered name, or one the cache answers. -/
def Settled (cache : ResponseCache) (query : Query) (sight : Sight) : Prop :=
  (sight.listed.contains query.name = true ∧
      (query.queryType = .a ∨ query.queryType = .aaaa)) ∨
    LiveEntry cache query sight.probed

section Question

variable {cfg : DnsServerConfig} {cache : ResponseCache} {query : Query} {sight : Sight}

theorem misses_eq_false : misses cache query sight = false ↔ LiveEntry cache query sight.probed := by
  simp only [misses, ResponseCache.get, LiveEntry]
  cases cache.find? (cacheKey query.name query.queryType) with
  | none => simp
  | some ent =>
      by_cases expired : ent.expires ≤ sight.probed
      · simp [expired]
      · simp only [expired, if_false, Option.isNone_some, true_iff]
        exact ⟨ent, rfl, by omega⟩

theorem looksUp_eq_false : looksUp cache query sight = false ↔ Settled cache query sight := by
  simp only [looksUp, Settled, ← misses_eq_false]
  cases query.queryType with
  | a => by_cases listed : sight.listed.contains query.name = true <;> simp [listed]
  | aaaa => by_cases listed : sight.listed.contains query.name = true <;> simp [listed]
  | other code => by_cases listed : sight.listed.contains query.name = true <;> simp [listed]

/-- A question that reaches the resolver is settled by what the resolver says. -/
theorem answerQuery_of_looksUp (reaches : looksUp cache query sight = true) :
    answerQuery cfg cache query sight =
      settle cfg (cache.get query.name query.queryType sight.probed).2 query sight.lookup
        sight.stored := by
  have forwarded (missed : misses cache query sight = true) :
      forwardQuery cfg cache query sight =
        settle cfg (cache.get query.name query.queryType sight.probed).2 query sight.lookup
          sight.stored := by
    simp only [forwardQuery]
    rw [misses, Option.isNone_iff_eq_none] at missed
    split
    · rename_i hit _ found
      rw [found] at missed
      cases missed
    · rename_i found
      rw [found]
  by_cases listed : sight.listed.contains query.name = true
  · rw [looksUp, if_pos listed] at reaches
    rw [answerQuery, if_pos listed]
    cases asked : query.queryType with
    | a => rw [asked] at reaches; cases reaches
    | aaaa => rw [asked] at reaches; cases reaches
    | other code =>
        rw [asked] at reaches
        have settled := forwarded reaches
        rw [asked] at settled
        exact settled
  · rw [looksUp, if_neg listed] at reaches
    rw [answerQuery, if_neg listed]
    exact forwarded reaches

/-- A settled question leaves the cache alone and has one outcome, whatever the
resolver would say and whenever it would say it. -/
theorem answerQuery_of_settled (settled : Settled cache query sight) (lookup : Lookup)
    (stored : Nat) :
    (answerQuery cfg cache query sight).2 = cache ∧
      answerQuery cfg cache query { sight with lookup := lookup, stored := stored } =
        answerQuery cfg cache query sight := by
  have forwarded (live : LiveEntry cache query sight.probed) :
      (forwardQuery cfg cache query sight).2 = cache ∧
        forwardQuery cfg cache query { sight with lookup := lookup, stored := stored } =
          forwardQuery cfg cache query sight := by
    obtain ⟨ent, found, alive⟩ := live
    simp only [forwardQuery, ResponseCache.get, found, Nat.not_le.mpr alive, if_false, and_self]
  by_cases listed : sight.listed.contains query.name = true
  · simp only [answerQuery, if_pos listed]
    rcases settled with ⟨-, asked | asked⟩ | live
    · cases sight.looked.lookupA query.name <;> simp [asked]
    · simp [asked]
    · cases query.queryType with
      | a => cases sight.looked.lookupA query.name <;> simp
      | aaaa => simp
      | other code => exact forwarded live
  · simp only [answerQuery, if_neg listed]
    rcases settled with ⟨registered, -⟩ | live
    · exact absurd registered listed
    · exact forwarded live

end Question

/-! ## Requests -/

section Request

variable {cfg : DnsServerConfig} {cache : ResponseCache}

/-- No question of the loop reaches the resolver exactly when each is settled by
the registry and the cache the request started with. -/
theorem lookups_eq_nil (sights : Nat → Sight) (queries : List Query) (i : Nat) :
    lookups cfg sights i queries cache = [] ↔
      ∀ j q, queries[j]? = some q → Settled cache q (sights (i + j)) := by
  -- settled questions do not change the cache, so the later ones meet the first one's
  induction queries generalizing i with
  | nil => simp [lookups]
  | cons q rest ih =>
      have split : (∀ j q', (q :: rest)[j]? = some q' → Settled cache q' (sights (i + j))) ↔
          Settled cache q (sights i) ∧
            ∀ j q', rest[j]? = some q' → Settled cache q' (sights (i + 1 + j)) := by
        constructor
        · intro all
          refine ⟨all 0 q rfl, ?_⟩
          intro j q' there
          have settled := all (j + 1) q' (by simpa using there)
          rwa [show i + (j + 1) = i + 1 + j by omega] at settled
        · rintro ⟨first, later⟩ j q' there
          cases j with
          | zero =>
              cases there
              exact first
          | succ j =>
              have settled := later j q' (by simpa using there)
              rwa [show i + 1 + j = i + (j + 1) by omega] at settled
      rw [split, lookups]
      by_cases reaches : looksUp cache q (sights i) = true
      · have unsettled : ¬Settled cache q (sights i) := by
          rw [← looksUp_eq_false, reaches]
          exact Bool.true_eq_false.mp
        simp [reaches, unsettled]
      · have settled := looksUp_eq_false.mp (Bool.not_eq_true _ ▸ reaches)
        have kept : (answerQuery cfg cache q (sights i)).2 = cache :=
          (answerQuery_of_settled settled .error 0).1
        simp only [if_neg reaches, kept, ih, settled, true_and]

/-- The resolvers of two worlds may differ, the rest may not. -/
structure World.SameButResolver (world world' : World) : Prop where
  guard : world'.guard = world.guard
  sight : ∀ i, world'.sight i =
    { world.sight i with lookup := (world'.sight i).lookup, stored := (world'.sight i).stored }

theorem answerQueries_of_no_lookups {sights sights' : Nat → Sight} (queries : List Query) (i : Nat)
    (same : ∀ j, sights' j =
      { sights j with lookup := (sights' j).lookup, stored := (sights' j).stored })
    (none : lookups cfg sights i queries cache = []) (p : Progress) :
    answerQueries cfg sights' i queries p cache = answerQueries cfg sights i queries p cache ∧
      (answerQueries cfg sights i queries p cache).2 = cache := by
  induction queries generalizing i p with
  | nil => exact ⟨rfl, rfl⟩
  | cons q rest ih =>
      have settled : Settled cache q (sights i) :=
        (lookups_eq_nil sights (q :: rest) i).mp none 0 q rfl
      obtain ⟨kept, unread⟩ := answerQuery_of_settled settled (sights' i).lookup (sights' i).stored
      have outcome : answerQuery cfg cache q (sights' i) = answerQuery cfg cache q (sights i) := by
        rw [same i]
        exact unread
      have later : lookups cfg sights (i + 1) rest cache = [] := by
        rw [lookups, looksUp_eq_false.mpr settled, kept] at none
        exact none
      simp only [answerQueries, outcome, kept]
      exact ih (i + 1) later _

/-- **Without a lookup the resolvers do not matter**: response and cache are the
same whatever they would have answered, and the cache is not written. -/
theorem handleRequest_of_no_lookups {world world' : World} {req : Message}
    {peer : Option SocketAddr} (same : world.SameButResolver world')
    (none : resolverLookups cfg world cache req peer = []) :
    handleRequest cfg world' cache req peer = handleRequest cfg world cache req peer ∧
      (handleRequest cfg world cache req peer).2 = cache := by
  simp only [resolverLookups] at none
  simp only [handleRequest, same.guard]
  cases passed : loopGuard cfg world.guard req peer with
  | some code => exact ⟨rfl, rfl⟩
  | none =>
      rw [passed] at none
      obtain ⟨unread, kept⟩ := answerQueries_of_no_lookups req.queries 0 same.sight none
        ⟨req.echo, false, false⟩
      rw [unread]
      exact ⟨rfl, kept⟩

/-- The guard of a server that is its own upstream. -/
theorem loopGuard_of_self (self : cfg.listen ∈ cfg.upstreams) (registry : DnsRegistry)
    (req : Message) (peer : Option SocketAddr) :
    loopGuard cfg registry req peer = none ↔
      ∀ addr, peer = some addr →
        addr ≠ cfg.listen ∧ ∀ q ∈ req.queries, registry.contains q.name = true := by
  cases peer with
  | none => simp [loopGuard]
  | some addr =>
      by_cases own : addr = cfg.listen
      · simp [loopGuard, own]
      · have any : (cfg.upstreams.any fun up =>
            decide (up = cfg.listen) && req.queries.any fun q => !registry.contains q.name) = true ↔
            ∃ q ∈ req.queries, registry.contains q.name = false := by
          simp only [List.any_eq_true, Bool.and_eq_true, decide_eq_true_eq, Bool.not_eq_true']
          constructor
          · rintro ⟨up, -, -, missing⟩
            exact missing
          · intro missing
            exact ⟨cfg.listen, self, rfl, missing⟩
        simp only [loopGuard, own, if_false]
        by_cases missing : ∃ q ∈ req.queries, registry.contains q.name = false
        · rw [if_pos (any.mpr missing)]
          obtain ⟨q, asked, unregistered⟩ := missing
          simp only [reduceCtorEq, false_iff]
          intro registered
          have listed := (registered addr rfl).2 q asked
          rw [unregistered] at listed
          cases listed
        · rw [if_neg (mt any.mp missing)]
          simp only [true_iff]
          intro _ same
          cases same
          refine ⟨own, ?_⟩
          intro q asked
          by_contra unregistered
          exact missing ⟨q, asked, Bool.not_eq_true _ ▸ unregistered⟩

/-- **When a server that is its own upstream does not ask itself.** No question
reaches the resolver exactly if the request comes from the server's own address or
holds an unregistered name, or if every question is an address question for a
registered name or has a live cache entry. -/
theorem no_lookups_iff (self : cfg.listen ∈ cfg.upstreams) (world : World) (cache : ResponseCache)
    (req : Message) (peer : Option SocketAddr) :
    resolverLookups cfg world cache req peer = [] ↔
      (∃ addr, peer = some addr ∧
        (addr = cfg.listen ∨ ∃ q ∈ req.queries, world.guard.contains q.name = false)) ∨
      ∀ i q, req.queries[i]? = some q → Settled cache q (world.sight i) := by
  have guard := loopGuard_of_self self world.guard req peer
  simp only [resolverLookups]
  cases passed : loopGuard cfg world.guard req peer with
  | some code =>
      simp only [true_iff]
      left
      by_contra through
      rw [passed] at guard
      have admitted := guard.mpr ?_
      · cases admitted
      · intro addr known
        refine ⟨fun own => through ⟨addr, known, Or.inl own⟩, ?_⟩
        intro q asked
        by_contra unregistered
        exact through ⟨addr, known, Or.inr ⟨q, asked, Bool.not_eq_true _ ▸ unregistered⟩⟩
  | none =>
      have admitted := guard.mp passed
      have turned : ¬∃ addr, peer = some addr ∧
          (addr = cfg.listen ∨ ∃ q ∈ req.queries, world.guard.contains q.name = false) := by
        rintro ⟨addr, known, own | ⟨q, asked, unregistered⟩⟩
        · exact (admitted addr known).1 own
        · have listed := (admitted addr known).2 q asked
          rw [unregistered] at listed
          cases listed
      simp only [turned, false_or, lookups_eq_nil, Nat.zero_add]

end Request

/-! ## A registered name asked for its text records -/

/-- A server whose only upstream is itself. -/
def selfUpstream : DnsServerConfig :=
  { publicUpstream with upstreams := [publicUpstream.listen] }

/-- One registered name and a resolver that never answers. -/
def webOnly : World :=
  let registry : DnsRegistry := Table.empty.upsert "web".toList ⟨[100, 64, 0, 7], rfl⟩
  ⟨registry, fun _ => ⟨registry, registry, 0, .elapsed, 0⟩⟩

/-- An address question for the registered name stays inside the server. -/
theorem no_lookups_registered_address :
    selfUpstream.listen ∈ selfUpstream.upstreams ∧
      resolverLookups selfUpstream webOnly Table.empty (ask "web.".toList .a) client = [] := by
  refine ⟨by decide, (no_lookups_iff (by decide) webOnly _ _ _).mpr (Or.inr ?_)⟩
  intro i q asked
  cases i with
  | zero =>
      cases asked
      exact Or.inl ⟨by decide, Or.inl rfl⟩
  | succ i => simp [ask] at asked

/-- **A registered name asked for TXT goes round in circles**: it passes the guard
and is forwarded to the server itself. -/
theorem registered_txt_loops :
    selfUpstream.listen ∈ selfUpstream.upstreams ∧
      loopGuard selfUpstream webOnly.guard (ask "web.".toList (.other 16)) client = none ∧
      resolverLookups selfUpstream webOnly Table.empty (ask "web.".toList (.other 16)) client =
        [⟨"web.".toList, .other 16⟩] := by
  decide

end Tailroute.Dns
