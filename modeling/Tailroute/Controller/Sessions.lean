/-
# Controller.Sessions — admin sessions and the admin password

`SessionStore` maps session tokens to the instant they expire. Entries leave it
by a purge at the head of every `create` and `valid`, by `valid` itself and by a
logout; each of these reads the clock on its own. `create` draws its token and
computes the expiry before it takes the lock, so a login is two steps here, with
anything in between.

`adminAuthorized_iff` says that none of this shows: a bearer text is authorized
exactly if it is the password or a session opened less than the lifetime ago and
not logged out since. The comparison of secrets is an or-fold of xors and decides
equality (`constantTimeEq_iff`).
-/
import Tailroute.Controller.Config
import Tailroute.Theory.Table
import Tailroute.Theory.Transition

namespace Tailroute.Controller

open Tailroute.Theory Tailroute.Common

set_option autoImplicit false

/-! ## Secrets -/

/-- `str::as_bytes`. -/
def asBytes (s : Text) : List UInt8 := s.flatMap String.utf8EncodeChar

def constantTimeEq (a b : List UInt8) : Bool :=
  if a.length ≠ b.length then false
  else (a.zip b).foldl (fun diff pair => diff ||| (pair.1 ^^^ pair.2)) 0 == 0

/-- The fold stays zero exactly while the pairs are equal. -/
theorem foldl_xor_eq_zero (a b : List UInt8) (same : a.length = b.length) (diff : UInt8) :
    (a.zip b).foldl (fun diff pair => diff ||| (pair.1 ^^^ pair.2)) diff = 0 ↔
      diff = 0 ∧ a = b := by
  induction a generalizing b diff with
  | nil => simp [List.length_eq_zero_iff.mp same.symm]
  | cons x a ih =>
      cases b with
      | nil => cases same
      | cons y b =>
          rw [List.zip_cons_cons, List.foldl_cons, ih b (by simpa using same),
            UInt8.or_eq_zero_iff, UInt8.xor_eq_zero_iff, List.cons.injEq, and_assoc]

theorem constantTimeEq_iff (a b : List UInt8) : constantTimeEq a b = true ↔ a = b := by
  rw [constantTimeEq]
  split
  · rename_i different
    simp only [Bool.false_eq_true, false_iff]
    rintro rfl
    exact different rfl
  · rename_i same
    rw [beq_iff_eq, foldl_xor_eq_zero a b (not_not.mp same)]
    simp

/-! ## The session store -/

/-- Token to expiry. -/
abbrev SessionStore := Table Text Int

namespace SessionStore

def purgeLocked (store : SessionStore) (now : Int) : SessionStore :=
  store.deleteWhere fun _ exp => decide (exp ≤ now)

/-- `create` once it has the lock, with the token and the expiry it came with. -/
def createLocked (store : SessionStore) (token : Text) (exp now : Int) : SessionStore :=
  (store.purgeLocked now).upsert token exp

def revoke (store : SessionStore) (token : Text) : SessionStore :=
  store.deleteWhere fun key _ => decide (key = token)

/-- `valid`; the purge and the comparison each read the clock. -/
def valid (store : SessionStore) (token : Text) (purgedAt now : Int) : Bool × SessionStore :=
  let store := store.purgeLocked purgedAt
  match store.find? token with
  | some exp => if now < exp then (true, store) else (false, store.revoke token)
  | none => (false, store)

variable {store : SessionStore} {token other : Text} {exp now : Int}

theorem find?_purgeLocked : (store.purgeLocked now).find? token = some exp ↔
    store.find? token = some exp ∧ now < exp := by
  rw [purgeLocked, Table.find?_deleteWhere_eq_some]
  simp

theorem find?_revoke : (store.revoke token).find? other = some exp ↔
    store.find? other = some exp ∧ other ≠ token := by
  rw [revoke, Table.find?_deleteWhere_eq_some]
  simp

/-- A token is valid exactly while its entry is there and not expired. -/
theorem valid_eq_true {purgedAt : Int} (later : purgedAt ≤ now) :
    (store.valid token purgedAt now).1 = true ↔ ∃ exp, store.find? token = some exp ∧ now < exp := by
  rw [valid]
  cases found : (store.purgeLocked purgedAt).find? token with
  | none =>
      simp only [Bool.false_eq_true, false_iff, not_exists, not_and]
      intro exp stored alive
      have kept := find?_purgeLocked.mpr ⟨stored, lt_of_le_of_lt later alive⟩
      rw [found] at kept
      cases kept
  | some exp =>
      have stored := (find?_purgeLocked.mp found).1
      by_cases alive : now < exp
      · simp only [alive, if_true, true_iff]
        exact ⟨exp, stored, alive⟩
      · simp only [alive, if_false, Bool.false_eq_true, false_iff, not_exists, not_and]
        intro other stored'
        rw [stored] at stored'
        cases stored'
        exact alive

/-- What a check removes had expired. -/
theorem find?_valid {purgedAt : Int} (later : purgedAt ≤ now) :
    ((store.valid token purgedAt now).2.find? other = some exp → store.find? other = some exp) ∧
      (store.find? other = some exp →
        (store.valid token purgedAt now).2.find? other = some exp ∨ exp ≤ now) := by
  have purged : (store.purgeLocked purgedAt).find? other = some exp ↔
      store.find? other = some exp ∧ purgedAt < exp := find?_purgeLocked
  have kept (stored : store.find? other = some exp) :
      (store.purgeLocked purgedAt).find? other = some exp ∨ exp ≤ now := by
    by_cases alive : purgedAt < exp
    · exact Or.inl (purged.mpr ⟨stored, alive⟩)
    · exact Or.inr (by omega)
  rw [valid]
  cases found : (store.purgeLocked purgedAt).find? token with
  | none => exact ⟨fun there => (purged.mp there).1, kept⟩
  | some first =>
      by_cases alive : now < first
      · simp only [alive, if_true]
        exact ⟨fun there => (purged.mp there).1, kept⟩
      · simp only [alive, if_false, find?_revoke]
        refine ⟨fun there => (purged.mp there.1).1, ?_⟩
        intro stored
        by_cases same : other = token
        · subst same
          right
          rw [(find?_purgeLocked.mp found).1] at stored
          cases stored
          omega
        · exact (kept stored).imp_left fun there => ⟨there, same⟩

end SessionStore

/-! ## Logins, logouts and checks -/

structure AdminConfig where
  username : Text
  password : List UInt8
  sessionTtlSeconds : Nat

/-- The lifetime of a session, at least five minutes. -/
def AdminConfig.ttl (cfg : AdminConfig) : Int := max cfg.sessionTtlSeconds 300 * nanosPerSecond

def verifyPassword (cfg : AdminConfig) (username password : Text) : Bool :=
  if !constantTimeEq (asBytes cfg.username) (asBytes username) then false
  else constantTimeEq cfg.password (asBytes password)

/-- Accept session token from login, or password as Bearer. -/
def adminAuthorized (cfg : AdminConfig) (store : SessionStore) (bearer : Text)
    (purgedAt now : Int) : Bool × SessionStore :=
  let (live, store) := store.valid bearer purgedAt now
  (live || constantTimeEq cfg.password (asBytes bearer), store)

structure LoginResponse where
  token : Text
  tokenType : Text
  expiresInSeconds : Nat
deriving DecidableEq

/-- What happened to sessions: a login answered, with the instant its expiry
counts from, or a logout. -/
inductive SessionEvent where
  | loggedIn (response : LoginResponse) (at_ : Int)
  | loggedOut (token : Text)
deriving DecidableEq

/-- A login that drew its token and has not got the lock yet. -/
structure PendingLogin where
  token : Text
  createdAt : Int
  exp : Int

/-- The sessions, the logins in flight, and what the program does not keep: the
tokens drawn so far and the history, newest first. -/
structure AdminState where
  clock : Int
  sessions : SessionStore
  pending : Table Nat PendingLogin
  drawn : List Text
  log : List SessionEvent

def AdminState.init (start : Int) : AdminState := ⟨start, .empty, .empty, [], []⟩

inductive AdminAction where
  /-- `admin_login` up to the lock of `create`; `token` is what `generate_token` gives. -/
  | login (id : Nat) (username password token : Text) (now : Int)
  /-- The rest of the login. -/
  | create (id : Nat) (now : Int)
  | logout (authorization : Option Text) (now : Int)
  | check (authorization : Option Text) (purgedAt now : Int)
deriving DecidableEq

def loginResponse (cfg : AdminConfig) (token : Text) : LoginResponse :=
  ⟨token, "Bearer".toList, cfg.sessionTtlSeconds⟩

/-- One step. The clock does not go back; a login of an id in use is not a step. -/
def AdminState.step (cfg : AdminConfig) (s : AdminState) : AdminAction → Option AdminState
  | .login id username password token now =>
      if s.clock ≤ now then
        if verifyPassword cfg username password then
          (s.pending.insert? id ⟨token, now, now + cfg.ttl⟩).map fun pending =>
            { s with clock := now, pending := pending, drawn := token :: s.drawn }
        else some { s with clock := now }
      else none
  | .create id now =>
      if s.clock ≤ now then
        (s.pending.find? id).map fun login =>
          { s with
            clock := now
            sessions := s.sessions.createLocked login.token login.exp now
            pending := s.pending.put id none
            log := .loggedIn (loginResponse cfg login.token) login.createdAt :: s.log }
      else none
  | .logout authorization now =>
      if s.clock ≤ now then
        match bearerToken authorization with
        | some token =>
            some { s with
              clock := now, sessions := s.sessions.revoke token, log := .loggedOut token :: s.log }
        | none => some { s with clock := now }
      else none
  | .check authorization purgedAt now =>
      if s.clock ≤ purgedAt ∧ purgedAt ≤ now then
        match bearerToken authorization with
        | some token =>
            some { s with
              clock := now, sessions := (adminAuthorized cfg s.sessions token purgedAt now).2 }
        | none => some { s with clock := now }
      else none

/-- `generate_token` never repeats a value. -/
def UnrepeatedTokens (s : AdminState) : AdminAction → Prop
  | .login _ _ _ token _ => token ∉ s.drawn
  | _ => True

instance (s : AdminState) (a : AdminAction) : Decidable (UnrepeatedTokens s a) :=
  match a with
  | .login _ _ _ _ _ => inferInstanceAs (Decidable (_ ∉ _))
  | .create _ _ => isTrue trivial
  | .logout _ _ => isTrue trivial
  | .check _ _ _ => isTrue trivial

abbrev AdminRun (cfg : AdminConfig) (start : Int) : AdminState → Prop :=
  Transition.Reach (AdminState.step cfg) UnrepeatedTokens (AdminState.init start)

/-- What a step can do. -/
inductive AdminMove (cfg : AdminConfig) (s : AdminState) : AdminState → Prop
  | waited (now : Int) (later : s.clock ≤ now) : AdminMove cfg s { s with clock := now }
  | drew (id : Nat) (token : Text) (now : Int) (later : s.clock ≤ now) (free : token ∉ s.drawn)
      (idle : s.pending.find? id = none) :
      AdminMove cfg s { s with
        clock := now
        pending := s.pending.upsert id ⟨token, now, now + cfg.ttl⟩
        drawn := token :: s.drawn }
  | opened (id : Nat) (login : PendingLogin) (now : Int) (later : s.clock ≤ now)
      (waiting : s.pending.find? id = some login) :
      AdminMove cfg s { s with
        clock := now
        sessions := s.sessions.createLocked login.token login.exp now
        pending := s.pending.put id none
        log := .loggedIn (loginResponse cfg login.token) login.createdAt :: s.log }
  | closed (token : Text) (now : Int) (later : s.clock ≤ now) :
      AdminMove cfg s { s with
        clock := now, sessions := s.sessions.revoke token, log := .loggedOut token :: s.log }
  | checked (token : Text) (purgedAt now : Int) (before : s.clock ≤ purgedAt)
      (later : purgedAt ≤ now) :
      AdminMove cfg s { s with
        clock := now, sessions := (s.sessions.valid token purgedAt now).2 }

theorem adminMove {cfg : AdminConfig} {s s' : AdminState} {a : AdminAction}
    (fresh : UnrepeatedTokens s a) (taken : s.step cfg a = some s') : AdminMove cfg s s' := by
  cases a with
  | login id username password token now =>
      simp only [AdminState.step] at taken
      split at taken
      · rename_i later
        split at taken
        · obtain ⟨pending, inserted, rfl⟩ := Option.map_eq_some_iff.mp taken
          obtain ⟨idle, rfl⟩ := Table.insert?_eq_some inserted
          exact .drew id token now later fresh idle
        · cases taken
          exact .waited now later
      · cases taken
  | create id now =>
      simp only [AdminState.step] at taken
      split at taken
      · rename_i later
        obtain ⟨login, waiting, rfl⟩ := Option.map_eq_some_iff.mp taken
        exact .opened id login now later waiting
      · cases taken
  | logout authorization now =>
      simp only [AdminState.step] at taken
      split at taken
      · rename_i later
        split at taken
        · cases taken
          exact .closed _ now later
        · cases taken
          exact .waited now later
      · cases taken
  | check authorization purgedAt now =>
      simp only [AdminState.step] at taken
      split at taken
      · rename_i ordered
        split at taken
        · cases taken
          exact .checked _ purgedAt now ordered.1 ordered.2
        · cases taken
          exact .waited now (ordered.1.trans ordered.2)
      · cases taken

/-! ## Sessions of a history -/

/-- A login answered with the token, its expiry counted from `c`, and no logout
presented the token since. -/
def SessionSince (log : List SessionEvent) (token : Text) (c : Int) : Prop :=
  ∃ after before response, log = after ++ .loggedIn response c :: before ∧
    response.token = token ∧ .loggedOut token ∉ after

/-- A login answered with the token at some time. -/
def LoggedIn (log : List SessionEvent) (token : Text) : Prop :=
  ∃ response c, .loggedIn response c ∈ log ∧ response.token = token

section Log

variable {log : List SessionEvent} {token other : Text} {c c' : Int} {response : LoginResponse}

theorem SessionSince.loggedIn (session : SessionSince log token c) : LoggedIn log token := by
  obtain ⟨after, before, response, rfl, same, -⟩ := session
  exact ⟨response, c, by simp, same⟩

theorem sessionSince_loggedIn :
    SessionSince (.loggedIn response c' :: log) token c ↔
      (response.token = token ∧ c' = c) ∨ SessionSince log token c := by
  constructor
  · rintro ⟨after, before, opened, split, same, kept⟩
    cases after with
    | nil =>
        cases split
        exact Or.inl ⟨same, rfl⟩
    | cons event after =>
        cases split
        exact Or.inr ⟨after, before, opened, rfl, same, fun out => kept (.tail _ out)⟩
  · rintro (⟨same, rfl⟩ | ⟨after, before, opened, rfl, same, kept⟩)
    · exact ⟨[], log, response, rfl, same, List.not_mem_nil⟩
    · exact ⟨.loggedIn response c' :: after, before, opened, rfl, same, by simpa using kept⟩

theorem sessionSince_loggedOut :
    SessionSince (.loggedOut other :: log) token c ↔ token ≠ other ∧ SessionSince log token c := by
  constructor
  · rintro ⟨after, before, opened, split, same, kept⟩
    cases after with
    | nil => cases split
    | cons event after =>
        cases split
        refine ⟨?_, after, before, opened, rfl, same, fun out => kept (.tail _ out)⟩
        rintro rfl
        exact kept (.head _)
  · rintro ⟨different, after, before, opened, rfl, same, kept⟩
    exact ⟨.loggedOut other :: after, before, opened, rfl, same, by simp [kept, different]⟩

end Log

/-- The session store against the history. -/
structure SessionsKept (cfg : AdminConfig) (s : AdminState) : Prop where
  drawn : ∀ token, LoggedIn s.log token → token ∈ s.drawn
  pending : ∀ id login, s.pending.find? id = some login →
    login.exp = login.createdAt + cfg.ttl ∧ login.token ∈ s.drawn ∧ ¬LoggedIn s.log login.token
  distinct : ∀ id id' login login', s.pending.find? id = some login →
    s.pending.find? id' = some login' → login.token = login'.token → id = id'
  backed : ∀ token exp, s.sessions.find? token = some exp →
    ∃ c, SessionSince s.log token c ∧ exp = c + cfg.ttl
  present : ∀ token c, SessionSince s.log token c →
    s.sessions.find? token = some (c + cfg.ttl) ∨ c + cfg.ttl ≤ s.clock

section Kept

variable {cfg : AdminConfig} {s s' : AdminState}

theorem loggedIn_loggedIn {log : List SessionEvent} {response : LoginResponse} {c : Int}
    {token : Text} :
    LoggedIn (.loggedIn response c :: log) token ↔ response.token = token ∨ LoggedIn log token := by
  constructor
  · rintro ⟨opened, c', member, same⟩
    rcases List.mem_cons.mp member with first | old
    · cases first
      exact Or.inl same
    · exact Or.inr ⟨opened, c', old, same⟩
  · rintro (same | ⟨opened, c', old, same⟩)
    · exact ⟨response, c, .head _, same⟩
    · exact ⟨opened, c', .tail _ old, same⟩

theorem loggedIn_loggedOut {log : List SessionEvent} {other token : Text} :
    LoggedIn (.loggedOut other :: log) token ↔ LoggedIn log token := by
  simp [LoggedIn]

theorem SessionsKept.opened (kept : SessionsKept cfg s) {id : Nat} {login : PendingLogin} {now : Int}
    (later : s.clock ≤ now) (waiting : s.pending.find? id = some login) :
    SessionsKept cfg { s with
      clock := now
      sessions := s.sessions.createLocked login.token login.exp now
      pending := s.pending.put id none
      log := .loggedIn (loginResponse cfg login.token) login.createdAt :: s.log } := by
  obtain ⟨expires, drawn, unopened⟩ := kept.pending id login waiting
  have others : ∀ id' login', (s.pending.put id none).find? id' = some login' →
      id' ≠ id ∧ s.pending.find? id' = some login' := by
    intro id' login' found
    rw [Table.find?_put] at found
    split at found
    · cases found
    · exact ⟨‹_›, found⟩
  refine ⟨?_, ?_, ?_, ?_, ?_⟩
  · intro token opened
    rcases loggedIn_loggedIn.mp opened with rfl | old
    · exact drawn
    · exact kept.drawn token old
  · intro id' login' found
    obtain ⟨different, old⟩ := others id' login' found
    obtain ⟨expires', drawn', unopened'⟩ := kept.pending id' login' old
    refine ⟨expires', drawn', ?_⟩
    intro opened
    rcases loggedIn_loggedIn.mp opened with same | earlier
    · exact different (kept.distinct id' id login' login old waiting same.symm)
    · exact unopened' earlier
  · intro id₁ id₂ first second found₁ found₂ same
    exact kept.distinct id₁ id₂ first second (others _ _ found₁).2 (others _ _ found₂).2 same
  · intro token exp found
    rw [SessionStore.createLocked, Table.find?_upsert] at found
    split at found
    · rename_i same
      cases found
      exact ⟨login.createdAt, sessionSince_loggedIn.mpr (Or.inl ⟨same.symm, rfl⟩), expires⟩
    · obtain ⟨c, session, rfl⟩ := kept.backed token exp (SessionStore.find?_purgeLocked.mp found).1
      exact ⟨c, sessionSince_loggedIn.mpr (Or.inr session), rfl⟩
  · intro token c session
    rw [SessionStore.createLocked, Table.find?_upsert]
    rcases sessionSince_loggedIn.mp session with ⟨rfl, rfl⟩ | old
    · left
      rw [if_pos (show (loginResponse cfg login.token).token = login.token from rfl), expires]
    · have different : token ≠ login.token := by
        rintro rfl
        exact unopened old.loggedIn
      rw [if_neg different, SessionStore.find?_purgeLocked]
      rcases kept.present token c old with stored | ended
      · by_cases alive : now < c + cfg.ttl
        · exact Or.inl ⟨stored, alive⟩
        · exact Or.inr (by simpa using alive)
      · exact Or.inr (ended.trans later)

theorem SessionsKept.drew (kept : SessionsKept cfg s) {id : Nat} {token : Text} {now : Int}
    (later : s.clock ≤ now) (free : token ∉ s.drawn) :
    SessionsKept cfg { s with
      clock := now
      pending := s.pending.upsert id ⟨token, now, now + cfg.ttl⟩
      drawn := token :: s.drawn } := by
  have waiting : ∀ id' login, (s.pending.upsert id ⟨token, now, now + cfg.ttl⟩).find? id' =
      some login → (id' = id ∧ login = ⟨token, now, now + cfg.ttl⟩) ∨
        s.pending.find? id' = some login := by
    intro id' login found
    rw [Table.find?_upsert] at found
    split at found
    · cases found
      exact Or.inl ⟨‹_›, rfl⟩
    · exact Or.inr found
  refine ⟨?_, ?_, ?_, kept.backed, ?_⟩
  · intro token' opened
    exact List.mem_cons_of_mem _ (kept.drawn token' opened)
  · intro id' login found
    rcases waiting id' login found with ⟨-, rfl⟩ | old
    · exact ⟨rfl, List.mem_cons_self, fun opened => free (kept.drawn token opened)⟩
    · obtain ⟨expires, drawn, unopened⟩ := kept.pending id' login old
      exact ⟨expires, List.mem_cons_of_mem _ drawn, unopened⟩
  · intro id₁ id₂ first second found₁ found₂ same
    rcases waiting id₁ first found₁ with ⟨rfl, rfl⟩ | old₁ <;>
      rcases waiting id₂ second found₂ with ⟨rfl, rfl⟩ | old₂
    · rfl
    · have drawn := (kept.pending id₂ second old₂).2.1
      rw [← same] at drawn
      exact absurd drawn free
    · have drawn := (kept.pending id₁ first old₁).2.1
      rw [same] at drawn
      exact absurd drawn free
    · exact kept.distinct id₁ id₂ first second old₁ old₂ same
  · intro token' c session
    exact (kept.present token' c session).imp_right fun ended => ended.trans later

theorem SessionsKept.closed (kept : SessionsKept cfg s) {token : Text} {now : Int}
    (later : s.clock ≤ now) :
    SessionsKept cfg { s with
      clock := now, sessions := s.sessions.revoke token, log := .loggedOut token :: s.log } := by
  refine ⟨?_, ?_, kept.distinct, ?_, ?_⟩
  · intro token' opened
    exact kept.drawn token' (loggedIn_loggedOut.mp opened)
  · intro id login found
    obtain ⟨expires, drawn, unopened⟩ := kept.pending id login found
    exact ⟨expires, drawn, fun opened => unopened (loggedIn_loggedOut.mp opened)⟩
  · intro token' exp found
    obtain ⟨stored, different⟩ := SessionStore.find?_revoke.mp found
    obtain ⟨c, session, rfl⟩ := kept.backed token' exp stored
    exact ⟨c, sessionSince_loggedOut.mpr ⟨different, session⟩, rfl⟩
  · intro token' c session
    obtain ⟨different, old⟩ := sessionSince_loggedOut.mp session
    rw [SessionStore.find?_revoke]
    exact (kept.present token' c old).imp (fun stored => ⟨stored, different⟩)
      fun ended => ended.trans later

theorem SessionsKept.step (kept : SessionsKept cfg s) (moved : AdminMove cfg s s') :
    SessionsKept cfg s' := by
  cases moved with
  | waited now later =>
      exact { kept with
        present := fun token c session =>
          (kept.present token c session).imp_right fun ended => ended.trans later }
  | drew id token now later free idle => exact kept.drew later free
  | opened id login now later waiting => exact kept.opened later waiting
  | closed token now later => exact kept.closed later
  | checked token purgedAt now before later =>
      refine ⟨kept.drawn, kept.pending, kept.distinct, ?_, ?_⟩
      · intro token' exp found
        exact kept.backed token' exp ((SessionStore.find?_valid later).1 found)
      · intro token' c session
        rcases kept.present token' c session with stored | ended
        · exact (SessionStore.find?_valid later).2 stored
        · exact Or.inr (ended.trans (before.trans later))

theorem sessionsKept {start : Int} (reached : AdminRun cfg start s) : SessionsKept cfg s := by
  refine reached.invariant (I := SessionsKept cfg) ?_ ?_
  · refine ⟨?_, ?_, ?_, ?_, ?_⟩
    · rintro token ⟨response, c, member, -⟩
      cases member
    · intro id login found
      cases found
    · intro id id' login login' found
      cases found
    · intro token exp found
      cases found
    · intro token c session
      obtain ⟨response, c', member, -⟩ := session.loggedIn
      cases member
  · intro s a s' _ kept fresh taken
    exact kept.step (adminMove fresh taken)

end Kept

/-! ## Authorization -/

/-- **A bearer text is authorized exactly by the password or a session.** In every
run, at every instant not before the last step, the answer is what the history of
logins and logouts says; and a login succeeds exactly with the configured username
and password. -/
theorem adminAuthorized_iff (cfg : AdminConfig) {start : Int} {s : AdminState}
    (reached : AdminRun cfg start s) :
    (∀ bearer purgedAt now, s.clock ≤ purgedAt → purgedAt ≤ now →
      ((adminAuthorized cfg s.sessions bearer purgedAt now).1 = true ↔
        asBytes bearer = cfg.password ∨
          ∃ c, SessionSince s.log bearer c ∧ now < c + cfg.ttl)) ∧
      ∀ username password, verifyPassword cfg username password = true ↔
        asBytes username = asBytes cfg.username ∧ asBytes password = cfg.password := by
  have kept := sessionsKept reached
  constructor
  · intro bearer purgedAt now before later
    have live : (s.sessions.valid bearer purgedAt now).1 = true ↔
        ∃ c, SessionSince s.log bearer c ∧ now < c + cfg.ttl := by
      rw [SessionStore.valid_eq_true later]
      constructor
      · rintro ⟨exp, stored, alive⟩
        obtain ⟨c, session, rfl⟩ := kept.backed bearer exp stored
        exact ⟨c, session, alive⟩
      · rintro ⟨c, session, alive⟩
        rcases kept.present bearer c session with stored | ended
        · exact ⟨_, stored, alive⟩
        · omega
    simp only [adminAuthorized, Bool.or_eq_true, live, constantTimeEq_iff]
    rw [or_comm, eq_comm]
  · intro username password
    rw [verifyPassword]
    by_cases known : asBytes cfg.username = asBytes username
    · rw [(constantTimeEq_iff _ _).mpr known]
      simp only [Bool.not_true, Bool.false_eq_true, if_false, constantTimeEq_iff, known, true_and]
      exact eq_comm
    · have unequal : constantTimeEq (asBytes cfg.username) (asBytes username) = false := by
        rw [← Bool.not_eq_true, constantTimeEq_iff]
        exact known
      simp [unequal, Ne.symm known]

def plainAdmin : AdminConfig := ⟨"admin".toList, asBytes "pw".toList, 3600⟩

/-- Of two sessions the one that logged out is refused and the other goes on. -/
theorem adminAuthorized_after_logout :
    ∃ s, AdminRun plainAdmin 0 s ∧
      (adminAuthorized plainAdmin s.sessions "t1".toList 4 5).1 = true ∧
      (adminAuthorized plainAdmin s.sessions "t2".toList 4 5).1 = false ∧
      verifyPassword plainAdmin "admin".toList "pw".toList = true := by
  have reached : AdminRun plainAdmin 0 _ := Transition.reach_of_run
    [.login 0 "admin".toList "pw".toList "t1".toList 0,
      .login 1 "admin".toList "pw".toList "t2".toList 1, .create 1 1, .create 0 2,
      .check (some "Bearer t1".toList) 2 2, .logout (some "Bearer t2".toList) 3] rfl
  obtain ⟨authorized, login⟩ := adminAuthorized_iff plainAdmin reached
  have session : (adminAuthorized plainAdmin _ "t1".toList 4 5).1 = true :=
    (authorized "t1".toList 4 5 (by decide) (by decide)).mpr
      (Or.inr ⟨0, ⟨[_], _, _, rfl, rfl, by decide⟩, by decide⟩)
  exact ⟨_, reached, session, by decide, (login _ _).mpr ⟨rfl, rfl⟩⟩

end Tailroute.Controller
