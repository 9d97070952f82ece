/-
# Dns.Responses — what a response is made of

The question loop threads two flags and a response code that later questions may
overwrite. `outcomes` takes the loop apart: the outcomes of the questions, in order,
each with the cache the ones before it left. The response is then read off that list
(`resp_foldl`, `anyFail_foldl`, `anyAnswer_foldl`), whatever the number of questions.

The code of a response is SERVFAIL by the flags alone, because no cached code is:
`forward_query` stores NOERROR and NXDOMAIN only (`cachedSound_of_reach`).
-/
import Tailroute.Dns.LoopDetection
import Tailroute.Dns.Wire

namespace Tailroute.Dns

open Tailroute.Theory Tailroute.Common

set_option autoImplicit false

/-! ## The question loop taken apart -/

/-- The outcomes of the questions, in order. -/
def outcomes (cfg : DnsServerConfig) (sights : Nat → Sight) :
    Nat → List Query → ResponseCache → List Outcome
  | _, [], _ => []
  | i, q :: rest, cache =>
      let (outcome, cache) := answerQuery cfg cache q (sights i)
      outcome :: outcomes cfg sights (i + 1) rest cache

theorem answerQueries_eq (cfg : DnsServerConfig) (sights : Nat → Sight) (i : Nat)
    (queries : List Query) (p : Progress) (cache : ResponseCache) :
    (answerQueries cfg sights i queries p cache).1 =
      (outcomes cfg sights i queries cache).foldl Progress.add p := by
  induction queries generalizing i p cache with
  | nil => rfl
  | cons q rest ih => exact ih _ _ _

/-- The outcome of a question does not depend on the others but through the cache. -/
theorem exists_outcome (cfg : DnsServerConfig) (sights : Nat → Sight) {i n : Nat}
    {queries : List Query} {q : Query} (cache : ResponseCache) (asked : queries[n]? = some q) :
    ∃ cache', (outcomes cfg sights i queries cache)[n]? =
      some (answerQuery cfg cache' q (sights (i + n))).1 := by
  induction queries generalizing i n cache with
  | nil => cases asked
  | cons first rest ih =>
      cases n with
      | zero =>
          cases asked
          exact ⟨cache, rfl⟩
      | succ n =>
          obtain ⟨cache', found⟩ :=
            ih (i := i + 1) (answerQuery cfg cache first (sights i)).2 asked
          refine ⟨cache', ?_⟩
          rw [Nat.add_right_comm] at found
          exact found

variable (os : List Outcome) (p : Progress)

/-- The loop touches nothing of the response but its answers and its code. -/
theorem resp_foldl :
    (os.foldl Progress.add p).resp =
      { p.resp with
        responseCode := (os.foldl Progress.add p).resp.responseCode
        answers := p.resp.answers ++ os.flatMap Outcome.records } := by
  induction os generalizing p with
  | nil => simp
  | cons o os ih =>
      rw [List.foldl_cons, ih]
      cases o <;> simp [Progress.add, Outcome.records]

theorem anyFail_foldl :
    (os.foldl Progress.add p).anyFail = true ↔ p.anyFail = true ∨ ∃ o ∈ os, o.Fails := by
  induction os generalizing p with
  | nil => simp
  | cons o os ih =>
      rw [List.foldl_cons, ih, List.exists_mem_cons_iff]
      cases o <;> simp [Progress.add, Outcome.Fails]

theorem anyAnswer_foldl :
    (os.foldl Progress.add p).anyAnswer = true ↔
      p.anyAnswer = true ∨ ∃ o ∈ os, o.records ≠ [] := by
  induction os generalizing p with
  | nil => simp
  | cons o os ih =>
      rw [List.foldl_cons, ih, List.exists_mem_cons_iff]
      cases o <;> simp [Progress.add, Outcome.records, or_assoc]

/-! ## Codes that come out of the cache -/

/-- The outcome of a question that did not fail carries another code than SERVFAIL. -/
def Outcome.Sound : Outcome → Prop
  | .answered _ rcode => rcode ≠ .servFail
  | .failed => True
  | .elapsed => True

/-- No entry is an answer SERVFAIL. -/
def CachedSound (cache : ResponseCache) : Prop :=
  ∀ key ent, cache.find? key = some ent → ent.rcode ≠ .servFail

variable {cfg : DnsServerConfig} {cache : ResponseCache} {query : Query}

theorem Settles.sound {now : Nat} {lookup : Lookup} {ent : CacheEntry}
    (settles : Settles cfg now lookup ent) : ent.rcode ≠ .servFail := by
  cases settles with
  | positive records => simp
  | negative => simp

/-- **Every history of forwarded questions leaves a sound cache.** -/
theorem cachedSound_of_reach {s : Forwarder}
    (reached : Transition.Reach (Forwarder.step cfg) (fun _ _ => True) .init s) :
    CachedSound s.cache := by
  refine reached.invariant (I := fun s => CachedSound s.cache) ?_ ?_
  · intro key ent found
    cases found
  · intro s a s' _ sound _ taken key ent found
    rcases Forwarder.find?_step taken found with before | ⟨_, _, _, -, -, -, settles⟩
    · exact sound key ent before
    · exact settles.sound

/-- A forwarded question keeps the cache sound and has a sound outcome. -/
theorem CachedSound.forwardQuery (sound : CachedSound cache) (sight : Sight) :
    (forwardQuery cfg cache query sight).1.Sound ∧
      CachedSound (forwardQuery cfg cache query sight).2 := by
  have kept : CachedSound (cache.get query.name query.queryType sight.probed).2 :=
    fun key ent found => sound key ent (ResponseCache.find?_get found)
  unfold Dns.forwardQuery
  split
  · rename_i hit rest probed
    rw [probed] at kept
    exact ⟨sound _ hit (ResponseCache.find?_of_get (congrArg Prod.fst probed)), kept⟩
  · rename_i rest probed
    rw [probed] at kept
    refine ⟨?_, ?_⟩
    · cases sight.lookup <;> simp [settle, Outcome.Sound]
    · intro key ent found
      rcases find?_settle found with ⟨-, settles⟩ | before
      · exact settles.sound
      · exact kept key ent before

theorem CachedSound.answerQuery (sound : CachedSound cache) (sight : Sight) :
    (answerQuery cfg cache query sight).1.Sound ∧
      CachedSound (answerQuery cfg cache query sight).2 := by
  unfold Dns.answerQuery
  split
  · split
    · split
      · exact ⟨trivial, sound⟩
      · exact ⟨by simp [Outcome.Sound], sound⟩
    · exact ⟨by simp [Outcome.Sound], sound⟩
    · exact sound.forwardQuery sight
  · exact sound.forwardQuery sight

theorem CachedSound.outcomes (sound : CachedSound cache) (sights : Nat → Sight) (i : Nat)
    (queries : List Query) : ∀ o ∈ outcomes cfg sights i queries cache, o.Sound := by
  induction queries generalizing i cache with
  | nil =>
      intro o listed
      cases listed
  | cons q rest ih =>
      obtain ⟨first, after⟩ : (Dns.answerQuery cfg cache q (sights i)).1.Sound ∧
        CachedSound (Dns.answerQuery cfg cache q (sights i)).2 := sound.answerQuery (sights i)
      intro o listed
      rcases List.mem_cons.mp listed with rfl | later
      · exact first
      · exact ih after (i + 1) o later

/-- Sound outcomes do not set the code SERVFAIL inside the loop. -/
theorem responseCode_foldl (sound : ∀ o ∈ os, o.Sound) (clean : p.resp.responseCode ≠ .servFail) :
    (os.foldl Progress.add p).resp.responseCode ≠ .servFail := by
  refine List.foldlRecOn os Progress.add (motive := fun p => p.resp.responseCode ≠ .servFail)
    clean ?_
  intro p clean o listed
  cases o with
  | answered records rcode =>
      simp only [Progress.add]
      split
      · exact sound _ listed
      · exact clean
  | failed => exact clean
  | elapsed => exact clean

theorem finish_servFail_iff {p : Progress} (clean : p.resp.responseCode ≠ .servFail) :
    p.finish.responseCode = .servFail ↔ p.anyFail = true ∧ ¬p.anyAnswer = true := by
  unfold Progress.finish
  split
  · rename_i flags
    exact iff_of_true rfl flags
  · rename_i flags
    exact iff_of_false clean flags

/-! ## The response -/

/-- The response repeats header and question section of the request. -/
structure Message.Echoes (resp req : Message) : Prop where
  id : resp.id = req.id
  messageType : resp.messageType = .response
  opCode : resp.opCode = req.opCode
  recursionDesired : resp.recursionDesired = req.recursionDesired
  queries : resp.queries = req.queries

theorem handleRequest_echoes (cfg : DnsServerConfig) (world : World) (cache : ResponseCache)
    (req : Message) (peer : Option SocketAddr) :
    (handleRequest cfg world cache req peer).1.Echoes req := by
  unfold handleRequest
  split
  · exact ⟨rfl, rfl, rfl, rfl, rfl⟩
  · simp only [answerQueries_eq, Progress.finish]
    split
    · rw [resp_foldl]
      exact ⟨rfl, rfl, rfl, rfl, rfl⟩
    · rw [resp_foldl]
      exact ⟨rfl, rfl, rfl, rfl, rfl⟩

theorem handleRequest_answers {cfg : DnsServerConfig} {world : World} {req : Message}
    {peer : Option SocketAddr} (passed : loopGuard cfg world.guard req peer = none)
    (cache : ResponseCache) :
    (handleRequest cfg world cache req peer).1.answers =
      (outcomes cfg world.sight 0 req.queries cache).flatMap Outcome.records := by
  simp only [handleRequest, passed, answerQueries_eq, Progress.finish]
  split
  · rw [resp_foldl]
    rfl
  · rw [resp_foldl]
    rfl

theorem handleRequest_servFail_iff {cfg : DnsServerConfig} {world : World} {req : Message}
    {peer : Option SocketAddr} (passed : loopGuard cfg world.guard req peer = none)
    {cache : ResponseCache} (sound : CachedSound cache) :
    (handleRequest cfg world cache req peer).1.responseCode = .servFail ↔
      (∃ o ∈ outcomes cfg world.sight 0 req.queries cache, o.Fails) ∧
        ∀ o ∈ outcomes cfg world.sight 0 req.queries cache, o.records = [] := by
  have all : ∀ o ∈ outcomes cfg world.sight 0 req.queries cache, o.Sound :=
    sound.outcomes world.sight 0 req.queries
  have clean := responseCode_foldl _ ⟨req.echo, false, false⟩ all (by simp [Message.echo, Message.new])
  simp only [handleRequest, passed, answerQueries_eq]
  rw [finish_servFail_iff clean, anyFail_foldl, anyAnswer_foldl]
  simp

/-! ## Registered names -/

/-- The registry stays the same while the request is answered. -/
structure World.Unchanged (world : World) (registry : DnsRegistry) : Prop where
  guard : world.guard = registry
  listed : ∀ i, (world.sight i).listed = registry
  looked : ∀ i, (world.sight i).looked = registry

/-- The registry answers an address question before cache and resolver are asked. -/
theorem answerQuery_registered (cfg : DnsServerConfig) {sight : Sight} {registry : DnsRegistry} {address : Ipv4Addr}
    (listed : sight.listed = registry) (looked : sight.looked = registry)
    (registered : registry.lookupA query.name = some address) (cache : ResponseCache) :
    (query.queryType = .a → (answerQuery cfg cache query sight).1 =
      .answered [⟨query.name, cfg.serviceTtl, .a address⟩] .noError) ∧
    (query.queryType = .aaaa → (answerQuery cfg cache query sight).1 = .answered [] .noError) := by
  have present : registry.contains query.name = true := by
    rw [DnsRegistry.contains, registered, Option.isSome_some]
  constructor
  · intro asked
    simp only [answerQuery, listed, looked, present, asked, registered, if_true]
  · intro asked
    simp only [answerQuery, listed, present, asked, if_true]

/-! ## What goes out -/

section Sent

variable {codec : WireCodec} {world : World} {req resp : Message} {peer : Option SocketAddr}

theorem sentResponse_echoes (out : sentResponse codec cfg world cache req peer = some resp) :
    resp.Echoes req := by
  obtain ⟨same, -, -⟩ := WireCodec.emit_eq_some out
  obtain ⟨id, messageType, opCode, recursionDesired, queries⟩ :=
    handleRequest_echoes cfg world cache req peer
  rw [same]
  exact ⟨id, messageType, opCode, recursionDesired, queries⟩

/-- Leaving answers out does not change the code. -/
theorem sentResponse_responseCode (out : sentResponse codec cfg world cache req peer = some resp) :
    resp.responseCode = (handleRequest cfg world cache req peer).1.responseCode := by
  rw [(WireCodec.emit_eq_some out).1]

/-- The questions tell the code of what goes out, all their records or not. -/
theorem sentResponse_servFail_iff (out : sentResponse codec cfg world cache req peer = some resp)
    (passed : loopGuard cfg world.guard req peer = none) (sound : CachedSound cache) :
    resp.responseCode = .servFail ↔
      (∃ o ∈ outcomes cfg world.sight 0 req.queries cache, o.Fails) ∧
        ∀ o ∈ outcomes cfg world.sight 0 req.queries cache, o.records = [] := by
  rw [sentResponse_responseCode out]
  exact handleRequest_servFail_iff passed sound

end Sent

/-- What a question contributes stands between the records of the questions before it and
of those after it. -/
theorem flatMap_records_of_getElem? {os : List Outcome} {n : Nat} {o : Outcome}
    (found : os[n]? = some o) :
    os.flatMap Outcome.records =
      (os.take n).flatMap Outcome.records ++ o.records ++
        (os.drop (n + 1)).flatMap Outcome.records := by
  obtain ⟨short, rfl⟩ := List.getElem?_eq_some_iff.mp found
  conv_lhs => rw [← List.take_append_drop n os, List.drop_eq_getElem_cons short]
  rw [List.flatMap_append, List.flatMap_cons, List.append_assoc]

/-- An outcome without records that does not fail has no part in the failure of the others. -/
theorem fails_iff_eraseIdx {os : List Outcome} {n : Nat} {o : Outcome} (found : os[n]? = some o)
    (calm : ¬o.Fails) (empty : o.records = []) :
    ((∃ o ∈ os, o.Fails) ∧ ∀ o ∈ os, o.records = []) ↔
      (∃ o ∈ os.eraseIdx n, o.Fails) ∧ ∀ o ∈ os.eraseIdx n, o.records = [] := by
  obtain ⟨short, rfl⟩ := List.getElem?_eq_some_iff.mp found
  have member : ∀ other, other ∈ os ↔ other = os[n] ∨ other ∈ os.eraseIdx n := by
    intro other
    conv_lhs => rw [← List.take_append_drop n os, List.drop_eq_getElem_cons short]
    rw [List.eraseIdx_eq_take_drop_succ, List.mem_append, List.mem_append, List.mem_cons]
    exact or_left_comm
  simp [member, or_and_right, exists_or, or_imp, forall_and, calm, empty]

/-- **What every response is made of.** For any request, peer, upstream behaviour and
cache content, with a registry that does not change meanwhile. Every response that goes
out repeats the request's header and questions. When the loop guard lets the request
through, its code is told by the questions and its answers are theirs from the first on;
all of them, and with each registered name's own, if the response fits into a message. -/
theorem response_wellFormed (codec : WireCodec) (cfg : DnsServerConfig) {s : Forwarder}
    (reached : Transition.Reach (Forwarder.step cfg) (fun _ _ => True) .init s)
    (world : World) {registry : DnsRegistry} (unchanged : world.Unchanged registry)
    (req : Message) (peer : Option SocketAddr) :
    let outs := outcomes cfg world.sight 0 req.queries s.cache
    (∀ resp, sentResponse codec cfg world s.cache req peer = some resp →
      resp.Echoes req ∧
      (loopGuard cfg registry req peer = none →
        resp.answers <+: outs.flatMap Outcome.records ∧
        (resp.responseCode = .servFail ↔
          (∃ o ∈ outs, o.Fails) ∧ ∀ o ∈ outs, o.records = []))) ∧
    (codec.Fits (handleRequest cfg world s.cache req peer).1 →
      ∃ resp, sentResponse codec cfg world s.cache req peer = some resp ∧
        (loopGuard cfg registry req peer = none →
          resp.answers = outs.flatMap Outcome.records ∧
          ∀ (n : Nat) (q : Query) (host : Text) (address : Ipv4Addr),
            req.queries[n]? = some q → registry.find? host = some address →
            lookupKey q.name = host →
            (q.queryType = .a →
              resp.answers = (outs.take n).flatMap Outcome.records ++
                [⟨q.name, cfg.serviceTtl, .a address⟩] ++
                (outs.drop (n + 1)).flatMap Outcome.records) ∧
            (q.queryType = .aaaa →
              resp.answers = (outs.eraseIdx n).flatMap Outcome.records ∧
              (resp.responseCode = .servFail ↔
                (∃ o ∈ outs.eraseIdx n, o.Fails) ∧
                  ∀ o ∈ outs.eraseIdx n, o.records = [])))) ∧
    ∀ host name : Text, Undotted host → toAsciiLowercase name = host →
      lookupKey (name ++ ['.']) = host := by
  intro outs
  have passed : loopGuard cfg registry req peer = none →
      loopGuard cfg world.guard req peer = none := by
    intro passed
    rwa [unchanged.guard]
  have sound := cachedSound_of_reach reached
  refine ⟨?_, ?_, fun host name undotted lower => lookupKey_rootDot undotted lower⟩
  · intro resp out
    refine ⟨sentResponse_echoes out, fun open' =>
      ⟨?_, sentResponse_servFail_iff out (passed open') sound⟩⟩
    rw [← handleRequest_answers (passed open') s.cache]
    exact (WireCodec.emit_eq_some out).2.1
  · intro fits
    have out : sentResponse codec cfg world s.cache req peer = some _ := WireCodec.emit_of_fits fits
    refine ⟨_, out, fun open' => ?_⟩
    have answers := handleRequest_answers (passed open') s.cache
    refine ⟨answers, ?_⟩
    rintro n q host address asked stored rfl
    obtain ⟨cache, outcome⟩ := exists_outcome cfg world.sight (i := 0) s.cache asked
    have registered := answerQuery_registered cfg (unchanged.listed (0 + n))
      (unchanged.looked (0 + n)) stored cache
    refine ⟨?_, ?_⟩
    · intro type
      rw [registered.1 type] at outcome
      rw [answers]
      exact flatMap_records_of_getElem? outcome
    · intro type
      rw [registered.2 type] at outcome
      refine ⟨?_, ?_⟩
      · rw [answers, List.eraseIdx_eq_take_drop_succ, List.flatMap_append]
        have around := flatMap_records_of_getElem? outcome
        rwa [Outcome.records, List.append_nil] at around
      · rw [sentResponse_servFail_iff out (passed open') sound]
        exact fails_iff_eraseIdx outcome id rfl

/-- A registered name twice, then one that the resolver does not answer for. -/
def askThree : Message :=
  { ask "WEB.".toList .a with
    queries := [⟨"WEB.".toList, .a⟩, ⟨"web.".toList, .aaaa⟩, ⟨"example.com.".toList, .a⟩] }

/-- The address of the registered name keeps the response from being SERVFAIL. -/
theorem response_wellFormed_three :
    ∃ resp, sentResponse plainCodec publicUpstream webOnly Table.empty askThree client = some resp ∧
      resp.Echoes askThree ∧ resp.answers.length = 1 ∧ resp.responseCode ≠ .servFail := by
  obtain ⟨every, whole, -⟩ := response_wellFormed plainCodec publicUpstream .start webOnly
    ⟨rfl, fun _ => rfl, fun _ => rfl⟩ askThree client
  obtain ⟨resp, out, loop⟩ := whole (by decide)
  obtain ⟨echoes, code⟩ := every resp out
  obtain ⟨answers, registered⟩ := loop (by decide)
  have one : resp.answers.length = 1 := (congrArg List.length answers).trans (by decide)
  refine ⟨resp, out, echoes, one, ?_⟩
  intro failed
  obtain ⟨first, -⟩ := registered 0 ⟨"WEB.".toList, .a⟩ "web".toList _ rfl rfl (by decide)
  have silent : resp.answers = [] := by
    rw [answers, List.flatMap_eq_nil_iff]
    exact ((code (by decide)).2.mp failed).2
  rw [first rfl] at silent
  cases silent

/-- A TXT record of 65480 empty strings, almost a message in itself. -/
def longText : Record :=
  ⟨"example.com.".toList, 60, .other (.other 16) (List.replicate 65480 0)⟩

/-- The registry of `webOnly`, with a resolver that finds the long record. -/
def longTextWorld : World :=
  ⟨webOnly.guard, fun _ => ⟨webOnly.guard, webOnly.guard, 0, .records [longText], 0⟩⟩

def askLongText : Message :=
  { ask "example.com.".toList (.other 16) with
    queries := [⟨"example.com.".toList, .other 16⟩, ⟨"web.".toList, .a⟩] }

theorem length_wireRecord_longText :
    (wireRecord askLongText.queries longText).length = 65492 := by
  have owner : (wireOwner 12 askLongText.queries longText.name).length = 2 := by decide
  have data : longText.rdata.bytes.length = 65480 := List.length_replicate
  simp only [wireRecord, List.length_append, owner, data, toBeBytes, List.length_cons,
    List.length_nil]

/-- **A registered name can go without its answer.** The server's own address is refused;
and behind the record of another question there may be no room left. -/
theorem registered_name_unanswered :
    (∃ resp, sentResponse plainCodec publicUpstream webOnly Table.empty (ask "web.".toList .a)
        (some publicUpstream.listen) = some resp ∧
      resp.answers = []) ∧
    loopGuard publicUpstream longTextWorld.guard askLongText client = none ∧
    ∃ resp, sentResponse plainCodec publicUpstream longTextWorld Table.empty askLongText client =
        some resp ∧
      resp.truncated = true ∧ resp.answers = [longText] := by
  refine ⟨⟨_, WireCodec.emit_of_fits (by decide), rfl⟩, by decide, ?_⟩
  let web : Record := ⟨"web.".toList, 5, .a ⟨[100, 64, 0, 7], rfl⟩⟩
  let full : Message := { askLongText.echo with answers := [longText, web] }
  have response : (handleRequest publicUpstream longTextWorld Table.empty askLongText client).1 =
      full := rfl
  have long := length_wireRecord_longText
  have questions : (askLongText.queries.flatMap wireQuery).length = 26 := by decide
  have short : (wireRecord askLongText.queries web).length = 16 := by decide
  have base : plainCodec.Fits { full with answers := [] } := by decide
  have first : plainCodec.Fits { full with answers := [longText] } := by
    show (wireMessage _).length ≤ 65535
    rw [length_wireMessage, List.flatMap_singleton]
    show 12 + (askLongText.queries.flatMap wireQuery).length +
      (wireRecord askLongText.queries longText).length ≤ 65535
    omega
  have second : ¬plainCodec.Fits full := by
    show ¬(wireMessage _).length ≤ 65535
    rw [length_wireMessage, List.flatMap_cons, List.flatMap_singleton, List.length_append]
    show ¬12 + (askLongText.queries.flatMap wireQuery).length +
      ((wireRecord askLongText.queries longText).length +
        (wireRecord askLongText.queries web).length) ≤ 65535
    omega
  have kept : plainCodec.emitAnswers full [] full.answers = [longText] := by
    show plainCodec.emitAnswers full [] [longText, web] = [longText]
    rw [WireCodec.emitAnswers, List.nil_append, if_pos first, WireCodec.emitAnswers]
    exact if_neg second
  have out : plainCodec.emit full = some _ := WireCodec.emit_eq base
  rw [kept] at out
  exact ⟨_, (congrArg plainCodec.emit response).trans out, rfl, rfl⟩

end Tailroute.Dns
