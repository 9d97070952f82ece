/-
# Dns.Snapshot — one question while the registry is replaced

`answer_query` loads the registry twice: for its `contains` test, and again for the
`lookup_a` of an A question. Each load is atomic and the pair is not. `Answering` is
one question with the two loads as separate steps and any number of replacements
before, between and after them; it keeps every content that has been in place since
the question arrived.

`fromOneContent_iff` says when the outcome is one that a single one of these
contents would have given. A name that is added, removed or moved to another address
meanwhile does no harm, with one exception: removed between the two loads of an A
question it is neither looked up nor forwarded, and the question fails
(`removed_name_fails`).
-/
import Tailroute.Dns.LoopDetection

namespace Tailroute.Dns

open Tailroute.Theory Tailroute.Common

set_option autoImplicit false

/-! ## The two loads -/

/-- How far a question has got, with the contents its loads returned. -/
inductive Loads where
  | asked
  | tested (listed : DnsRegistry)
  | finished (listed looked : DnsRegistry)

/-- A question under way. `installed` are the contents in place since it arrived,
the current one first. -/
structure Answering where
  registry : DnsRegistry
  installed : List DnsRegistry
  loads : Loads

inductive AnsweringStep where
  | replace (routes : DnsRegistry)
  | contains
  | lookupA

namespace Answering

/-- A question that arrives while `registry` is in place. -/
def arrive (registry : DnsRegistry) : Answering := ⟨registry, [registry], .asked⟩

/-- A replacement or the next load. A question that is over after its first load
ignores the second. -/
def step (s : Answering) : AnsweringStep → Option Answering
  | .replace routes => some { s with registry := routes, installed := routes :: s.installed }
  | .contains =>
      match s.loads with
      | .asked => some { s with loads := .tested s.registry }
      | _ => none
  | .lookupA =>
      match s.loads with
      | .tested listed => some { s with loads := .finished listed s.registry }
      | _ => none

/-- Any interleaving of replacements with the loads. -/
abbrev Interleaved (registry : DnsRegistry) (s : Answering) : Prop :=
  Transition.Reach step (fun _ _ => True) (arrive registry) s

/-- What has been loaded was in place. -/
structure Recorded (s : Answering) : Prop where
  current : s.registry ∈ s.installed
  tested : ∀ listed, s.loads = .tested listed → listed ∈ s.installed
  finished : ∀ listed looked, s.loads = .finished listed looked →
    listed ∈ s.installed ∧ looked ∈ s.installed

theorem Recorded.step {s s' : Answering} {a : AnsweringStep} (recorded : s.Recorded)
    (taken : s.step a = some s') : s'.Recorded := by
  cases a with
  | replace routes =>
      cases taken
      refine ⟨List.mem_cons_self, ?_, ?_⟩
      · intro listed here
        exact List.mem_cons_of_mem _ (recorded.tested listed here)
      · intro listed looked here
        obtain ⟨first, second⟩ := recorded.finished listed looked here
        exact ⟨List.mem_cons_of_mem _ first, List.mem_cons_of_mem _ second⟩
  | contains =>
      simp only [Answering.step] at taken
      split at taken
      · cases taken
        refine ⟨recorded.current, ?_, ?_⟩
        · rintro _ ⟨⟩
          exact recorded.current
        · rintro _ _ ⟨⟩
      · cases taken
  | lookupA =>
      simp only [Answering.step] at taken
      split at taken
      · rename_i listed before
        cases taken
        refine ⟨recorded.current, ?_, ?_⟩
        · rintro _ ⟨⟩
        · rintro _ _ ⟨⟩
          exact ⟨recorded.tested listed before, recorded.current⟩
      · cases taken

theorem recorded_of_interleaved {registry : DnsRegistry} {s : Answering}
    (reached : Interleaved registry s) : s.Recorded := by
  refine reached.invariant (I := Recorded) ?_ ?_
  · refine ⟨List.mem_cons_self, ?_, ?_⟩
    · rintro _ ⟨⟩
    · rintro _ _ ⟨⟩
  · intro s a s' _ recorded _ taken
    exact recorded.step taken

end Answering

/-! ## Outcomes a single content would give -/

/-- The question as it would go with one content throughout. -/
def Sight.under (sight : Sight) (registry : DnsRegistry) : Sight :=
  { sight with listed := registry, looked := registry }

/-- What the response takes from the question, it would take with one of the
contents in place throughout. -/
def FromOneContent (cfg : DnsServerConfig) (cache : ResponseCache) (query : Query) (sight : Sight)
    (installed : List DnsRegistry) : Prop :=
  ∃ registry ∈ installed, ∀ p : Progress,
    p.add (answerQuery cfg cache query sight).1 =
      p.add (answerQuery cfg cache query (sight.under registry)).1

/-- The name of an A question is gone at the second load. -/
def RemovedBetween (query : Query) (sight : Sight) : Prop :=
  query.queryType = .a ∧ sight.listed.contains query.name = true ∧
    sight.looked.contains query.name = false

/-- Forwarding the question fails: nothing is cached and the resolver has no answer. -/
def ForwardFails (cache : ResponseCache) (query : Query) (sight : Sight) : Prop :=
  ¬LiveEntry cache query sight.probed ∧ (sight.lookup = .error ∨ sight.lookup = .elapsed)

section Question

variable {cfg : DnsServerConfig} {cache : ResponseCache} {query : Query} {sight : Sight}
  {registry : DnsRegistry}

/-- A failure and an answer leave different flags. -/
theorem Outcome.fails_congr {o o' : Outcome} (same : ∀ p : Progress, p.add o = p.add o')
    (fails : o.Fails) : o'.Fails := by
  have flag (o : Outcome) : (Progress.add ⟨Message.new, false, false⟩ o).anyFail = true ↔
      o.Fails := by
    cases o <;> simp [Progress.add, Outcome.Fails]
  rw [← flag] at fails ⊢
  rw [← same]
  exact fails

/-- A failed question and one that ran out of time leave the same. -/
theorem Outcome.Fails.add_failed {o : Outcome} (fails : o.Fails) (p : Progress) :
    p.add .failed = p.add o := by
  cases o with
  | answered records rcode => exact fails.elim
  | failed => rfl
  | elapsed => rfl

theorem forwardQuery_fails_iff :
    (forwardQuery cfg cache query sight).1.Fails ↔ ForwardFails cache query sight := by
  rw [ForwardFails, ← misses_eq_false, misses, forwardQuery]
  cases probed : cache.get query.name query.queryType sight.probed with
  | mk hit rest =>
      cases hit with
      | some ent => simp [Outcome.Fails]
      | none => cases looked : sight.lookup <;> simp [settle, Outcome.Fails]

/-- The resolver and the cache answer a forwarded question alike under any content. -/
theorem forwardQuery_under :
    forwardQuery cfg cache query (sight.under registry) = forwardQuery cfg cache query sight := rfl

/-- All but an A question for a listed name go as under the content of the first
load. -/
theorem answerQuery_under_listed
    (address : query.queryType = .a → sight.listed.contains query.name = false) :
    answerQuery cfg cache query sight = answerQuery cfg cache query (sight.under sight.listed) := by
  unfold answerQuery
  by_cases listed : sight.listed.contains query.name = true
  · cases asked : query.queryType with
    | a =>
        rw [address asked] at listed
        cases listed
    | aaaa => simp [Sight.under, listed]
    | other code => simp [Sight.under, listed, forwardQuery, asked]
  · simp [Sight.under, listed, forwardQuery]

/-- An A question whose name is in both contents goes as under the second. -/
theorem answerQuery_under_looked (asked : query.queryType = .a)
    (listed : sight.listed.contains query.name = true)
    (looked : sight.looked.contains query.name = true) :
    answerQuery cfg cache query sight = answerQuery cfg cache query (sight.under sight.looked) := by
  simp only [answerQuery, Sight.under, listed, looked, asked, if_true]

theorem answerQuery_of_removed (removed : RemovedBetween query sight) :
    (answerQuery cfg cache query sight).1 = .failed := by
  obtain ⟨asked, listed, gone⟩ := removed
  have missing : sight.looked.lookupA query.name = none := by
    simpa [DnsRegistry.contains] using gone
  simp only [answerQuery, listed, asked, missing, if_true]

/-- Under one content a question fails only where forwarding it fails. -/
theorem forwardFails_of_fails_under
    (fails : (answerQuery cfg cache query (sight.under registry)).1.Fails) :
    ForwardFails cache query sight := by
  by_cases listed : registry.contains query.name = true
  · obtain ⟨address, found⟩ := Option.isSome_iff_exists.mp listed
    cases asked : query.queryType with
    | a => simp [answerQuery, Sight.under, listed, asked, found, Outcome.Fails] at fails
    | aaaa => simp [answerQuery, Sight.under, listed, asked, Outcome.Fails] at fails
    | other code =>
        have forwarded : answerQuery cfg cache query (sight.under registry) =
            forwardQuery cfg cache query sight := by
          simp [answerQuery, Sight.under, listed, asked, forwardQuery]
        rw [forwarded] at fails
        exact forwardQuery_fails_iff.mp fails
  · have unlisted : (sight.under registry).listed.contains query.name = false := by
      simpa [Sight.under] using listed
    rw [answerQuery_of_unlisted unlisted, forwardQuery_under] at fails
    exact forwardQuery_fails_iff.mp fails

end Question

/-! ## When an outcome comes from one content -/

/-- **Every outcome comes from one content, except that of an A question whose name is
removed between the two loads.** That question fails, which no content would have made
it do unless forwarding it fails as well. -/
theorem fromOneContent_iff (cfg : DnsServerConfig) (cache : ResponseCache) (query : Query)
    (sight : Sight) {registry : DnsRegistry} {s : Answering}
    (reached : Answering.Interleaved registry s)
    (finished : s.loads = .finished sight.listed sight.looked) :
    FromOneContent cfg cache query sight s.installed ↔
      (RemovedBetween query sight → ForwardFails cache query sight) := by
  obtain ⟨first, second⟩ := (Answering.recorded_of_interleaved reached).finished _ _ finished
  constructor
  · rintro ⟨content, -, same⟩ removed
    apply forwardFails_of_fails_under
    apply Outcome.fails_congr same
    rw [answerQuery_of_removed removed]
    trivial
  · intro harmless
    by_cases removed : RemovedBetween query sight
    · -- the second content has no such name, so the question would have been forwarded
      refine ⟨sight.looked, second, ?_⟩
      have unlisted : (sight.under sight.looked).listed.contains query.name = false := removed.2.2
      intro p
      rw [answerQuery_of_removed removed, answerQuery_of_unlisted unlisted, forwardQuery_under]
      exact (forwardQuery_fails_iff.mpr (harmless removed)).add_failed p
    · by_cases address : query.queryType = .a ∧ sight.listed.contains query.name = true
      · obtain ⟨asked, listed⟩ := address
        have looked : sight.looked.contains query.name = true := by
          by_contra gone
          exact removed ⟨asked, listed, by simpa using gone⟩
        refine ⟨sight.looked, second, ?_⟩
        intro p
        rw [← answerQuery_under_looked asked listed looked]
      · refine ⟨sight.listed, first, ?_⟩
        intro p
        rw [← answerQuery_under_listed fun asked => by
          by_contra listed
          exact address ⟨asked, by simpa using listed⟩]

/-! ## A name that moves and a name that goes -/

/-- A registry with the one name `web`. -/
def webAt (address : Ipv4Addr) : DnsRegistry := Table.empty.upsert "web".toList address

def oldAddress : Ipv4Addr := ⟨[100, 64, 0, 21], rfl⟩

def newAddress : Ipv4Addr := ⟨[100, 64, 0, 22], rfl⟩

def webQuestion : Query := ⟨"Web.".toList, .a⟩

/-- The registry is replaced between the loads; the resolver knows no such name. -/
def replacedBetween (routes : DnsRegistry) : Sight :=
  ⟨webAt oldAddress, routes, 0, .noRecords, 0⟩

theorem interleaved_replacedBetween (routes : DnsRegistry) :
    Answering.Interleaved (webAt oldAddress)
      ⟨routes, [routes, webAt oldAddress],
        .finished (replacedBetween routes).listed (replacedBetween routes).looked⟩ :=
  Transition.reach_of_run [.contains, .replace routes, .lookupA] rfl

/-- A name that gets a new address between the loads is answered with one of the two. -/
theorem moved_name_fromOneContent :
    FromOneContent publicUpstream Table.empty webQuestion (replacedBetween (webAt newAddress))
      [webAt newAddress, webAt oldAddress] :=
  (fromOneContent_iff publicUpstream Table.empty webQuestion _
    (interleaved_replacedBetween (webAt newAddress)) rfl).mpr fun removed =>
      absurd removed.2.2 (by decide)

/-- **A name removed between the loads is answered SERVFAIL.** Under the first content
the answer is its address, under the second the resolver's NXDOMAIN. -/
theorem removed_name_fails :
    Answering.Interleaved (webAt oldAddress)
        ⟨.empty, [.empty, webAt oldAddress], .finished (webAt oldAddress) .empty⟩ ∧
      (answerQuery publicUpstream Table.empty webQuestion (replacedBetween .empty)).1 = .failed ∧
      (answerQuery publicUpstream Table.empty webQuestion
        ((replacedBetween .empty).under (webAt oldAddress))).1 =
          .answered [⟨"Web.".toList, 5, .a oldAddress⟩] .noError ∧
      (answerQuery publicUpstream Table.empty webQuestion
        ((replacedBetween .empty).under .empty)).1 = .answered [] .nxDomain ∧
      ¬FromOneContent publicUpstream Table.empty webQuestion (replacedBetween .empty)
        [.empty, webAt oldAddress] := by
  refine ⟨interleaved_replacedBetween .empty, by decide, by decide, by decide, ?_⟩
  rintro ⟨content, -, same⟩
  have fails : (answerQuery publicUpstream Table.empty webQuestion (replacedBetween .empty)).1 =
      .failed := by decide
  rw [fails] at same
  have resolver := (forwardFails_of_fails_under (Outcome.fails_congr same trivial)).2
  rcases resolver with error | elapsed
  · cases error
  · cases elapsed

end Tailroute.Dns
