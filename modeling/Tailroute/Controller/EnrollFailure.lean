/-
# Controller.EnrollFailure — what a failed enrollment leaves behind

The enroll handler consumes its token and then creates the agent, by two calls that share
no transaction. Here every step of the two may fail: the `SELECT` and the `UPDATE` of
`consume_enrollment_token`, the hashing of the new credential and the `INSERT` of
`enroll_agent`. An error before the `UPDATE` leaves the tables alone. An error after it
leaves the token used and nobody enrolled (`enroll_failure_spares_iff`).
-/
import Tailroute.Storage.Transaction
import Tailroute.Controller.Config

namespace Tailroute.Controller

open Tailroute.Theory Tailroute.Common Tailroute.Storage

set_option autoImplicit false

structure LeasesConfig where
  heartbeatIntervalSeconds : Nat
  agentTtlSeconds : Nat
deriving DecidableEq

structure EnrollResponse where
  agentId : Text
  agentToken : Text
  heartbeatIntervalSeconds : Nat
  leaseTtlSeconds : Nat
deriving DecidableEq

/-! ## The handler -/

/-- What a request meets outside the database: statements that fail, the token hash and
its check, the readings of the clock and the generated values. -/
structure EnrollRun where
  fault : Nat → Option StorageError
  verifyToken : Text → Text → Bool
  /-- `hash_token`, which fails when the hasher does. -/
  hashToken : Text → Except Text Text
  leases : LeasesConfig
  usedAt : Int
  createdAt : Int
  agentId : Text
  agentToken : Text

/-- A statement outside any transaction is committed at once. -/
def Session.commitStore (c : Session) (s : Store) : Session := { c with database.store := s }

namespace EnrollRun

variable (run : EnrollRun)

/-- `Storage::consume_enrollment_token`. -/
def consumeEnrollmentTokenCall (token : Text) : Attempt Session StorageError Unit := do
  let matching ← query run.fault fun c => c.database.store.matchingToken run.verifyToken token
  match matching with
  | some hash =>
      execute run.fault fun c => Session.commitStore c (c.database.store.markToken run.usedAt hash)
  | none => Attempt.ofExcept fun _ => .error (.other "invalid enrollment token".toList)

/-- `Storage::enroll_agent`. -/
def enrollAgentCall (body : EnrollRequest) : Attempt Session StorageError (Text × Text) := do
  let credentialHash ← Attempt.ofExcept fun _ =>
    (run.hashToken run.agentToken).mapError StorageError.other
  let inserted ← statement run.fault fun c =>
    let result := c.database.store.enrollAgent run.createdAt run.agentId credentialHash body
    (result, Session.commitStore c (c.database.store.commit result))
  let _ ← Attempt.ofExcept fun _ => inserted
  pure (run.agentId, run.agentToken)

def enrollCall (authorization : Option Text) (body : EnrollRequest) :
    Attempt Session ApiError EnrollResponse := do
  let token ← Attempt.ofExcept fun _ =>
    (bearerToken authorization).elim (.error ApiError.unauthorized) .ok
  (run.consumeEnrollmentTokenCall token).mapError fun _ => ApiError.unauthorized
  let (agentId, agentToken) ← (run.enrollAgentCall body).mapError ApiError.storage
  pure
    { agentId := agentId
      agentToken := agentToken
      heartbeatIntervalSeconds := run.leases.heartbeatIntervalSeconds
      leaseTtlSeconds := run.leases.agentTtlSeconds }

/-- The answer to a request, and the database after it. -/
def enroll (db : Database) (authorization : Option Text) (body : EnrollRequest) :
    Except ApiError EnrollResponse × Database :=
  let ended := run.enrollCall authorization body db.session
  (ended.1, ended.2.database)

/-! ## How the two calls end -/

/-- The token matches the hash, and the two statements that consume it succeed. -/
structure Consumes (s : Store) (token hash : Text) : Prop where
  selected : run.fault 0 = none
  matching : s.matchingToken run.verifyToken token = some hash
  marked : run.fault 1 = none

/-- The agent can be created: the credential is hashed, the statement succeeds and the
identifier is free. -/
structure Creates (s : Store) : Prop where
  hashed : ∃ credentialHash, run.hashToken run.agentToken = .ok credentialHash
  inserted : run.fault 2 = none
  free : run.agentId ∉ s.agents.keys

variable {run}

theorem ends_consumeEnrollmentTokenCall (db : Database) (token : Text) :
    (run.consumeEnrollmentTokenCall token).Ends db.session
      (fun _ c => c.executed = 2 ∧ ∃ hash, run.Consumes db.store token hash ∧
        c.database = { db with store := db.store.markToken run.usedAt hash })
      (fun _ c => c.database = db ∧ ∀ hash, ¬run.Consumes db.store token hash) := by
  have selected : (query run.fault fun c =>
      c.database.store.matchingToken run.verifyToken token).Ends db.session
      (fun matching c => run.fault 0 = none ∧
        matching = db.store.matchingToken run.verifyToken token ∧ c = db.session.count)
      (fun _ c => c.database = db ∧ ∀ hash, ¬run.Consumes db.store token hash) := by
    refine ends_statement (fun passed => ⟨passed, rfl, rfl⟩) fun e failed => ⟨rfl, ?_⟩
    intro hash consumes
    exact absurd (failed.symm.trans consumes.selected) (Option.some_ne_none e)
  refine selected.bind ?_
  rintro matching c ⟨passed, found, rfl⟩
  cases matching with
  | none =>
      refine Attempt.ends_ofExcept (fun _ returned => by cases returned) fun _ _ => ⟨rfl, ?_⟩
      intro hash consumes
      exact absurd (found.trans consumes.matching) (Option.some_ne_none hash).symm
  | some hash =>
      refine ends_statement (fun marked => ⟨rfl, hash, ⟨passed, found.symm, marked⟩, rfl⟩) ?_
      refine fun e failed => ⟨rfl, ?_⟩
      intro hash consumes
      exact absurd (failed.symm.trans consumes.marked) (Option.some_ne_none e)

theorem enrollAgent_eq (s : Store) (now : Int) (agentId credentialHash : Text)
    (body : EnrollRequest) :
    s.enrollAgent now agentId credentialHash body =
      if agentId ∈ s.agents.keys then .error .constraint
      else .ok { s with
        agents := s.agents.upsert agentId (Store.enrolledRow now credentialHash body) } := by
  rw [Store.enrollAgent, Store.insertAgent, Table.insert?]
  by_cases taken : agentId ∈ s.agents.keys
  · rw [if_pos taken, if_pos taken]
    rfl
  · rw [if_neg taken, if_neg taken]
    rfl

section Creating

variable {c : Session} {credentialHash : Text} (body : EnrollRequest)

theorem ends_hash :
    (Attempt.ofExcept fun _ : Session =>
      (run.hashToken run.agentToken).mapError StorageError.other).Ends c
      (fun credentialHash c' => run.hashToken run.agentToken = .ok credentialHash ∧ c' = c)
      (fun _ c' => c'.database = c.database ∧ ¬run.Creates c.database.store) := by
  cases result : run.hashToken run.agentToken with
  | ok credentialHash =>
      refine Attempt.ends_ofExcept (fun _ returned => ?_) fun _ failed => by cases failed
      cases returned
      exact ⟨rfl, rfl⟩
  | error message =>
      refine Attempt.ends_ofExcept (fun _ returned => by cases returned) fun _ _ => ⟨rfl, ?_⟩
      intro creates
      obtain ⟨credentialHash, hashed⟩ := creates.hashed
      rw [result] at hashed
      cases hashed

theorem ends_insert (sent : c.executed = 2) :
    (statement run.fault fun c =>
      let result := c.database.store.enrollAgent run.createdAt run.agentId credentialHash body
      (result, Session.commitStore c (c.database.store.commit result))).Ends c
      (fun inserted c' => run.fault 2 = none ∧
        inserted = c.database.store.enrollAgent run.createdAt run.agentId credentialHash body ∧
        c'.database = { c.database with store := c.database.store.commit inserted })
      (fun _ c' => c'.database = c.database ∧ ¬run.Creates c.database.store) := by
  refine ends_statement (fun passed => ⟨sent ▸ passed, rfl, rfl⟩) ?_
  intro e failed
  refine ⟨rfl, fun creates => ?_⟩
  rw [sent, creates.inserted] at failed
  cases failed

/-- The result of the `INSERT`, in the session `c'` that it left. -/
theorem ends_inserted {c' : Session} (hashed : run.hashToken run.agentToken = .ok credentialHash)
    (passed : run.fault 2 = none)
    (database : c'.database = { c.database with
      store := c.database.store.commit
        (c.database.store.enrollAgent run.createdAt run.agentId credentialHash body) }) :
    (Attempt.ofExcept fun _ : Session =>
      c.database.store.enrollAgent run.createdAt run.agentId credentialHash body).Ends c'
      (fun _ d => run.Creates c.database.store ∧
        c.database.store.enrollAgent run.createdAt run.agentId credentialHash body =
          .ok d.database.store)
      (fun _ d => d.database = c.database ∧ ¬run.Creates c.database.store) := by
  by_cases taken : run.agentId ∈ c.database.store.agents.keys
  · rw [enrollAgent_eq, if_pos taken] at database ⊢
    refine Attempt.ends_ofExcept (fun _ returned => by cases returned) fun _ _ => ?_
    exact ⟨database, fun creates => creates.free taken⟩
  · rw [enrollAgent_eq, if_neg taken] at database ⊢
    refine Attempt.ends_ofExcept (fun _ _ => ?_) fun _ failed => by cases failed
    exact ⟨⟨⟨credentialHash, hashed⟩, passed, taken⟩, by rw [database]; rfl⟩

theorem ends_enrollAgentCall (sent : c.executed = 2) :
    (run.enrollAgentCall body).Ends c
      (fun _ c' => run.Creates c.database.store ∧ ∃ credentialHash,
        c.database.store.enrollAgent run.createdAt run.agentId credentialHash body =
          .ok c'.database.store)
      (fun _ c' => c'.database = c.database ∧ ¬run.Creates c.database.store) := by
  refine ends_hash.bind ?_
  rintro credentialHash c ⟨hashed, rfl⟩
  refine (ends_insert body sent).bind ?_
  rintro inserted c' ⟨passed, rfl, database⟩
  refine (ends_inserted body hashed passed database).bind ?_
  exact fun _ _ created => ⟨created.1, credentialHash, created.2⟩

end Creating

/-! ## What a failure costs -/

variable (run)

/-- The request consumes a token and cannot create its agent. -/
structure Wastes (s : Store) (authorization : Option Text) : Prop where
  consumes : ∃ token hash, bearerToken authorization = some token ∧ run.Consumes s token hash
  uncreated : ¬run.Creates s

/-- The agents and the set of usable tokens are the same. -/
def Spared (s s' : Store) : Prop :=
  s'.agents = s.agents ∧ ∀ hash, hash ∈ s'.unusedTokens ↔ hash ∈ s.unusedTokens

/-- What a failed request leaves: the database as it was, or one token less. -/
def Cost (db : Database) (authorization : Option Text) (c : Session) : Prop :=
  (c.database = db ∧ ¬run.Wastes db.store authorization) ∨
    ¬Spared db.store c.database.store ∧ run.Wastes db.store authorization

variable {run}

theorem mem_unusedTokens {s : Store} {hash : Text} :
    hash ∈ s.unusedTokens ↔ ∃ row, s.enrollmentTokens.find? hash = some row ∧ row.usedAt = none := by
  simp [Store.unusedTokens, Table.find?_eq_some_iff]

theorem not_mem_unusedTokens_markToken (s : Store) (now : Int) (hash : Text) :
    hash ∉ (s.markToken now hash).unusedTokens := by
  rw [mem_unusedTokens]
  rintro ⟨row, found, unused⟩
  simp only [Store.markToken, Table.find?_modifyAt, if_true, Option.map_eq_some_iff] at found
  obtain ⟨before, -, rfl⟩ := found
  cases unused

theorem Consumes.not_spared {s : Store} {token hash : Text} (consumes : run.Consumes s token hash) :
    ¬Spared s (s.markToken run.usedAt hash) := by
  intro spared
  have unused : hash ∈ s.unusedTokens := List.mem_of_find?_eq_some consumes.matching
  exact not_mem_unusedTokens_markToken s run.usedAt hash ((spared.2 hash).mpr unused)

theorem Creates.congr {s s' : Store} (creates : run.Creates s) (same : s'.agents = s.agents) :
    run.Creates s' :=
  ⟨creates.hashed, creates.inserted, same ▸ creates.free⟩

section Failing

variable {db : Database} {authorization : Option Text} {token : Text}

theorem ends_bearer :
    (Attempt.ofExcept fun _ : Session =>
      (bearerToken authorization).elim (.error ApiError.unauthorized) .ok).Ends db.session
      (fun token c => bearerToken authorization = some token ∧ c = db.session)
      (fun _ c => run.Cost db authorization c) := by
  cases bearer : bearerToken authorization with
  | none =>
      refine Attempt.ends_ofExcept (fun _ returned => by cases returned) fun _ _ => ?_
      refine Or.inl ⟨rfl, fun wastes => ?_⟩
      obtain ⟨token, hash, bears, -⟩ := wastes.consumes
      rw [bearer] at bears
      cases bears
  | some token =>
      refine Attempt.ends_ofExcept (fun _ returned => ?_) fun _ failed => by cases failed
      cases returned
      exact ⟨rfl, rfl⟩

theorem ends_consume (bearer : bearerToken authorization = some token) :
    ((run.consumeEnrollmentTokenCall token).mapError fun _ => ApiError.unauthorized).Ends
      db.session
      (fun _ c => c.executed = 2 ∧ ∃ hash, run.Consumes db.store token hash ∧
        c.database = { db with store := db.store.markToken run.usedAt hash })
      (fun _ c => run.Cost db authorization c) := by
  refine Attempt.ends_mapError ((ends_consumeEnrollmentTokenCall db token).weaken ?_)
  rintro - c ⟨database, unconsumed⟩
  refine Or.inl ⟨database, fun wastes => ?_⟩
  obtain ⟨other, hash, bears, consumes⟩ := wastes.consumes
  cases bearer.symm.trans bears
  exact unconsumed hash consumes

/-- Behind the `UPDATE` every failure costs the token. -/
theorem ends_create {c : Session} {hash : Text} (bearer : bearerToken authorization = some token)
    (consumes : run.Consumes db.store token hash)
    (database : c.database = { db with store := db.store.markToken run.usedAt hash })
    (sent : c.executed = 2) (body : EnrollRequest) :
    ((run.enrollAgentCall body).mapError ApiError.storage).Ends c
      (fun _ c' => run.Creates db.store ∧ ∃ credentialHash,
        c.database.store.enrollAgent run.createdAt run.agentId credentialHash body =
          .ok c'.database.store)
      (fun _ c' => run.Cost db authorization c') := by
  have agents : c.database.store.agents = db.store.agents := by rw [database]; rfl
  refine Attempt.ends_mapError (((ends_enrollAgentCall body sent).mono ?_).weaken ?_)
  · rintro - c' ⟨creates, inserted⟩
    exact ⟨creates.congr agents.symm, inserted⟩
  · rintro - c' ⟨same, uncreated⟩
    refine Or.inr ⟨?_, ⟨token, hash, bearer, consumes⟩, fun creates => ?_⟩
    · rw [same, database]
      exact consumes.not_spared
    · exact uncreated (creates.congr agents)

/-- A request that returns has done what the two operations do one after the other. -/
theorem ends_enrollCall (db : Database) (authorization : Option Text) (body : EnrollRequest) :
    (run.enrollCall authorization body).Ends db.session
      (fun _ c => ¬run.Wastes db.store authorization ∧ ∃ token s credentialHash,
        db.store.consumeEnrollmentToken run.verifyToken run.usedAt token = .ok s ∧
        s.enrollAgent run.createdAt run.agentId credentialHash body = .ok c.database.store)
      (fun _ c => run.Cost db authorization c) := by
  refine ends_bearer.bind ?_
  rintro token c ⟨bearer, rfl⟩
  refine (ends_consume bearer).bind ?_
  rintro - c ⟨sent, hash, consumes, database⟩
  refine (ends_create bearer consumes database sent body).bind ?_
  rintro - c' ⟨creates, credentialHash, inserted⟩
  refine Attempt.ends_pure ⟨fun wastes => wastes.uncreated creates, token, c.database.store,
    credentialHash, ?_, inserted⟩
  rw [Store.consumeEnrollmentToken, consumes.matching, database]

end Failing

/-- **Which failed enrollments cost nothing.** The agents and the usable tokens are as
before after every error, unless the token was consumed and the agent could not be created. -/
theorem enroll_failure_spares_iff (run : EnrollRun) (db : Database) (authorization : Option Text)
    (body : EnrollRequest) :
    (∀ e, (run.enroll db authorization body).1 = .error e →
      Spared db.store (run.enroll db authorization body).2.store) ↔
    ¬run.Wastes db.store authorization := by
  have ends := @ends_enrollCall run db authorization body
  rw [Attempt.Ends] at ends
  unfold enroll
  revert ends
  rcases run.enrollCall authorization body db.session with ⟨_ | _, c⟩
  · rintro (⟨database, spares⟩ | ⟨changed, wastes⟩)
    · refine iff_of_true (fun _ _ => ?_) spares
      exact database ▸ ⟨rfl, fun _ => Iff.rfl⟩
    · exact iff_of_false (fun spared => changed (spared _ rfl)) fun spares => spares wastes
  · rintro ⟨spares, -⟩
    refine iff_of_true (fun _ failed => ?_) spares
    cases failed

/-- The disk fails at the third statement. -/
def diskFails : EnrollRun where
  fault := fun n => if n = 2 then some (.other "disk I/O error".toList) else none
  verifyToken := fun hash token => hash == token
  hashToken := .ok
  leases := ⟨20, 90⟩
  usedAt := 0
  createdAt := 0
  agentId := "agt_a".toList
  agentToken := "a".toList

def oneToken : Database :=
  ⟨(Store.empty.insertToken 0 "t0k".toList).getD .empty, .empty, .empty⟩

/-- **A failed `INSERT` uses up the token.** -/
theorem failed_insert_wastes_token :
    let ended := diskFails.enroll oneToken (some "Bearer t0k".toList)
      ⟨"nas".toList, "100.64.0.1".toList, "engine".toList⟩
    ended.1 = .error (.storage (.other "disk I/O error".toList)) ∧
      ¬Spared oneToken.store ended.2.store := by
  refine ⟨rfl, fun spared => ?_⟩
  have unused : "t0k".toList ∈ oneToken.store.unusedTokens := by decide +kernel
  have still := (spared.2 _).mpr unused
  revert still
  decide +kernel

end EnrollRun

end Tailroute.Controller
