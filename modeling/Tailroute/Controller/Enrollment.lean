/-
# Controller.Enrollment — an enrollment token enrolls one agent, one at a time

`consume_enrollment_token` reads the unused tokens and marks the one that matches
in two statements. Two requests that both read before either marks are both let
through (`token_enrolls_two_agents`). If no request reads while another one with
its token is between the two statements, a token enrolls at most one agent
(`enrollment_one_time`). That a token which was never handed out enrolls nobody
needs no such condition.

The argument follows the token: the requests that got past the read (`past`) hold
it, at most one of them at a time, and once it is marked no further request gets
hold of it.
-/
import Tailroute.Controller.History

namespace Tailroute.Controller

open Tailroute.Theory Tailroute.Common Tailroute.Storage

set_option autoImplicit false

variable {env : Env} {ok : State → Action → Prop} {start : Int} {s s' : State}

/-! ## Tokens, requests and conditions -/

/-- A token verifies against its own hashes only. -/
def TokenLaw (env : Env) : Prop :=
  ∀ salt token presented,
    env.verifyToken (env.hashToken salt token) presented = true ↔ token = presented

def Event.enrolls (token : Text) : Event → Bool
  | enrolled bearing _ _ => bearing == token
  | _ => false

/-- The number of agents created by requests bearing the token. -/
def enrollments (log : Log) (token : Text) : Nat := log.countP fun entry => entry.2.enrolls token

/-- What enrollment promises of a state. -/
def OneTime (s : State) : Prop :=
  ∀ token, enrollments s.log token ≤ 1 ∧
    (¬Issued s.log token → enrollments s.log token = 0)

def Task.creates : Task → Option Text
  | createToken _ token => some token
  | _ => none

def Task.selects : Task → Option Text
  | enrollSelect token _ => some token
  | _ => none

/-- The request found its token unused and has not marked it yet. -/
def Task.marks : Task → Option Text
  | enrollMark token _ _ => some token
  | _ => none

/-- The request has marked its token and is about to create the agent. -/
def Task.inserts : Task → Option Text
  | enrollInsert token _ => some token
  | _ => none

/-- Generated tokens are distinct. -/
def FreshTokens (s : State) : Action → Prop
  | .spawn _ _ => True
  | .advance id _ => ∀ token ∈ (s.tasks.find? id).bind Task.creates,
      ∀ entry ∈ s.log, entry.2 ≠ .tokenIssued token

instance (s : State) (a : Action) : Decidable (FreshTokens s a) :=
  match a with
  | .spawn _ _ => isTrue trivial
  | .advance _ _ => inferInstanceAs (Decidable (∀ _ ∈ _, ∀ _ ∈ _, _))

/-- No request reads the unused tokens while another one that bears the same token
is between its `SELECT` and its `UPDATE`. -/
def SelectsAlone (s : State) : Action → Prop
  | .spawn _ _ => True
  | .advance id _ => ∀ token ∈ (s.tasks.find? id).bind Task.selects,
      ∀ row ∈ s.tasks.rows, row.2.marks ≠ some token

instance (s : State) (a : Action) : Decidable (SelectsAlone s a) :=
  match a with
  | .spawn _ _ => isTrue trivial
  | .advance _ _ => inferInstanceAs (Decidable (∀ _ ∈ _, ∀ _ ∈ _, _))

/-! ## The steps that concern tokens -/

/-- A move that leaves tokens, enrollments and holders alone. -/
structure Quiet (m : Move) : Prop where
  tokens : m.statement.any Statement.writesTokens = false
  silent : ∀ event ∈ m.event, (∀ token, event ≠ .tokenIssued token) ∧
    ∀ token, event.enrolls token = false
  next : ∀ task ∈ m.next, task.marks = none ∧ task.inserts = none

/-- The four steps of an enrollment, and every other step. -/
inductive EnrollMove (env : Env) (s : State) (now : Int) : Task → Move → Prop
  | quiet {task : Task} {m : Move} (quiet : Quiet m) : EnrollMove env s now task m
  | issued (salt token : Text)
      (fresh : env.hashToken salt token ∉ s.store.enrollmentTokens.keys) :
      EnrollMove env s now (.createToken salt token)
        { statement := some (.insertToken (env.hashToken salt token))
          event := some (.tokenIssued token) }
  | selected (token hash : Text) (agent : NewAgent)
      (matched : s.store.matchingToken env.verifyToken token = some hash) :
      EnrollMove env s now (.enrollSelect token agent)
        { next := some (.enrollMark token hash agent) }
  | marked (token hash : Text) (agent : NewAgent) :
      EnrollMove env s now (.enrollMark token hash agent)
        { statement := some (.markToken hash), next := some (.enrollInsert token agent) }
  | enrolled (token : Text) (agent : NewAgent) (st : Statement)
      (silent : st.writesTokens = false) (address : Text) :
      EnrollMove env s now (.enrollInsert token agent)
        { statement := some st, event := some (.enrolled token agent.agentId address) }

theorem enrollMove {task : Task} {m : Move} {now : Int} (moved : Moves env s now task m) :
    EnrollMove env s now task m := by
  cases moved with
  | issued salt token fresh => exact .issued salt token fresh
  | selected token hash agent matched => exact .selected token hash agent matched
  | marked token hash agent => exact .marked token hash agent
  | enrolled token agent fresh => exact .enrolled token agent _ rfl _
  | _ =>
      refine .quiet ⟨rfl, ?_, ?_⟩
      · rintro event ⟨⟩ <;> exact ⟨fun _ => Event.noConfusion, fun _ => rfl⟩
      · rintro task ⟨⟩ <;> exact ⟨rfl, rfl⟩

/-- The row a `SELECT` matched: unused, and the token verifies against it. -/
theorem matchingToken_eq_some {st : Store} {verifyToken : Text → Text → Bool} {token hash : Text}
    (matched : st.matchingToken verifyToken token = some hash) :
    verifyToken hash token = true ∧
      ∃ row, st.enrollmentTokens.find? hash = some row ∧ row.usedAt = none := by
  refine ⟨by simpa using List.find?_some matched, ?_⟩
  have member := List.mem_of_find?_eq_some matched
  obtain ⟨row, hrow, rfl⟩ := List.mem_map.mp member
  obtain ⟨stored, unused⟩ := List.mem_filter.mp hrow
  exact ⟨row.2, Table.find?_eq_some_iff.mpr stored, by simpa using unused⟩

theorem issued_perform {token : Text} (issued : Issued s.log token) (id : Nat) (now : Int)
    (m : Move) : Issued (s.perform env id now m).log token := by
  obtain ⟨t, member⟩ := issued
  refine ⟨t, ?_⟩
  simp only [State.perform]
  cases m.event with
  | none => exact member
  | some event => exact List.mem_cons_of_mem _ member

namespace Quiet

variable {m : Move} {id : Nat} {now : Int}

theorem enrollmentTokens (quiet : Quiet m) :
    (s.perform env id now m).store.enrollmentTokens = s.store.enrollmentTokens := by
  have silent := quiet.tokens
  simp only [State.perform]
  cases ran : m.statement with
  | none => rfl
  | some st =>
      rw [ran, Option.any_some] at silent
      exact st.enrollmentTokens_exec env.rfc s.store now silent

theorem enrollments (quiet : Quiet m) (token : Text) :
    enrollments (s.perform env id now m).log token = enrollments s.log token := by
  simp only [State.perform]
  cases happened : m.event with
  | none => rfl
  | some event =>
      have silent := (quiet.silent event happened).2 token
      simp [Controller.enrollments, silent]

end Quiet

theorem find?_insertToken {hash hash' : Text} {now : Int}
    (fresh : hash ∉ s.store.enrollmentTokens.keys) :
    ((Statement.insertToken hash).exec env.rfc s.store now).enrollmentTokens.find? hash' =
      if hash' = hash then some ⟨toRfc3339 now, none⟩
      else s.store.enrollmentTokens.find? hash' := by
  rw [Statement.insertToken_exec, if_neg fresh, Table.find?_upsert]

theorem find?_markToken {hash hash' : Text} {now : Int} :
    ((Statement.markToken hash).exec env.rfc s.store now).enrollmentTokens.find? hash' =
      (s.store.enrollmentTokens.find? hash').map fun row =>
        if hash' = hash then { row with usedAt := some (toRfc3339 now) } else row := by
  rw [Statement.exec, Store.markToken, Table.find?_modifyAt]
  by_cases same : hash' = hash <;> simp [same]

section After

variable {task : Task} {m : Move} {now : Int} {id : Nat}

/-- A row was there before, no less used, or belongs to the token being issued. -/
theorem tokenRow_after (moved : EnrollMove env s now task m) {hash : Text} {row : TokenRow}
    (found : (s.perform env id now m).store.enrollmentTokens.find? hash = some row) :
    (∃ old, s.store.enrollmentTokens.find? hash = some old ∧
      (old.usedAt ≠ none → row.usedAt ≠ none)) ∨
    ∃ salt token, task = .createToken salt token ∧ hash = env.hashToken salt token ∧
      Issued (s.perform env id now m).log token := by
  cases moved with
  | quiet quiet =>
      rw [quiet.enrollmentTokens] at found
      exact Or.inl ⟨row, found, fun used => used⟩
  | issued salt token fresh =>
      simp only [State.perform, Option.elim_some, find?_insertToken fresh] at found
      split at found
      · rename_i same
        exact Or.inr ⟨salt, token, rfl, same, now, List.mem_cons_self⟩
      · exact Or.inl ⟨row, found, fun used => used⟩
  | selected => exact Or.inl ⟨row, found, fun used => used⟩
  | marked token marked agent =>
      simp only [State.perform, Option.elim_some, find?_markToken] at found
      obtain ⟨old, stored, rfl⟩ := Option.map_eq_some_iff.mp found
      refine Or.inl ⟨old, stored, ?_⟩
      intro used
      split
      · simp
      · exact used
  | enrolled token agent st silent address =>
      simp only [State.perform, Option.elim_some, st.enrollmentTokens_exec env.rfc s.store now silent]
        at found
      exact Or.inl ⟨row, found, fun used => used⟩

/-- Rows are never deleted. -/
theorem tokenRow_persists (moved : EnrollMove env s now task m) {hash : Text} {row : TokenRow}
    (found : s.store.enrollmentTokens.find? hash = some row) :
    ∃ row', (s.perform env id now m).store.enrollmentTokens.find? hash = some row' := by
  cases moved with
  | quiet quiet => exact ⟨row, by rw [quiet.enrollmentTokens]; exact found⟩
  | issued salt token fresh =>
      simp only [State.perform, Option.elim_some, find?_insertToken fresh]
      split
      · exact ⟨_, rfl⟩
      · exact ⟨row, found⟩
  | selected => exact ⟨row, found⟩
  | marked token marked agent =>
      simp only [State.perform, Option.elim_some, find?_markToken, found, Option.map_some]
      exact ⟨_, rfl⟩
  | enrolled token agent st silent address =>
      simp only [State.perform, Option.elim_some, st.enrollmentTokens_exec env.rfc s.store now silent]
      exact ⟨row, found⟩

/-- A request gets to mark its token by finding it unused. -/
theorem marking_after (moved : EnrollMove env s now task m) {id' : Nat} {token hash : Text}
    {agent : NewAgent}
    (found : (s.perform env id now m).tasks.find? id' = some (.enrollMark token hash agent)) :
    (id' ≠ id ∧ s.tasks.find? id' = some (.enrollMark token hash agent)) ∨
      id' = id ∧ task = .enrollSelect token agent ∧
        s.store.matchingToken env.verifyToken token = some hash := by
  rcases task_of_perform found with ⟨same, next⟩ | other
  · cases moved with
    | quiet quiet => exact absurd (quiet.next _ next).1 (by simp [Task.marks])
    | selected _ _ _ matched =>
        cases next
        exact Or.inr ⟨same, rfl, matched⟩
    | issued => cases next
    | marked => cases next
    | enrolled => cases next
  · exact Or.inl other

/-- A request gets to create its agent by marking a row. -/
theorem inserting_after (moved : EnrollMove env s now task m) {id' : Nat} {token : Text}
    {agent : NewAgent}
    (found : (s.perform env id now m).tasks.find? id' = some (.enrollInsert token agent)) :
    (id' ≠ id ∧ s.tasks.find? id' = some (.enrollInsert token agent)) ∨
      id' = id ∧ ∃ hash, task = .enrollMark token hash agent ∧
        ∀ row, (s.perform env id now m).store.enrollmentTokens.find? hash = some row →
          row.usedAt ≠ none := by
  rcases task_of_perform found with ⟨same, next⟩ | other
  · cases moved with
    | quiet quiet => exact absurd (quiet.next _ next).2 (by simp [Task.inserts])
    | marked _ hash _ =>
        cases next
        refine Or.inr ⟨same, hash, rfl, ?_⟩
        intro row stored
        simp only [State.perform, Option.elim_some, find?_markToken, if_true] at stored
        obtain ⟨old, -, rfl⟩ := Option.map_eq_some_iff.mp stored
        simp
    | issued => cases next
    | selected => cases next
    | enrolled => cases next
  · exact Or.inl other

/-- An agent is created by the last step of the request. -/
theorem enrollments_after (moved : EnrollMove env s now task m) (token : Text) :
    enrollments (s.perform env id now m).log token = enrollments s.log token ∨
      enrollments (s.perform env id now m).log token = enrollments s.log token + 1 ∧
        ∃ agent, task = .enrollInsert token agent := by
  cases moved with
  | quiet quiet => exact Or.inl (quiet.enrollments token)
  | issued => exact Or.inl rfl
  | selected => exact Or.inl rfl
  | marked => exact Or.inl rfl
  | enrolled bearing agent st silent address =>
      by_cases same : bearing = token
      · subst same
        exact Or.inr ⟨by simp [State.perform, enrollments, Event.enrolls], agent, rfl⟩
      · exact Or.inl (by simp [State.perform, enrollments, Event.enrolls, same])

end After

/-! ## Where a held token comes from -/

/-- Rows, holders and created agents all trace back to tokens that were issued. -/
structure Traced (env : Env) (s : State) : Prop where
  rows : ∀ hash row, s.store.enrollmentTokens.find? hash = some row →
    ∃ salt token, hash = env.hashToken salt token ∧ Issued s.log token
  marking : ∀ id token hash agent, s.tasks.find? id = some (.enrollMark token hash agent) →
    env.verifyToken hash token = true ∧ ∃ row, s.store.enrollmentTokens.find? hash = some row
  inserting : ∀ id token agent, s.tasks.find? id = some (.enrollInsert token agent) →
    Issued s.log token
  counted : ∀ token, enrollments s.log token ≠ 0 → Issued s.log token

/-- A row that a token verifies against was made for that token. -/
theorem Traced.issued_of_verified (traced : Traced env s) (law : TokenLaw env)
    {hash token : Text} {row : TokenRow}
    (found : s.store.enrollmentTokens.find? hash = some row)
    (verified : env.verifyToken hash token = true) : Issued s.log token := by
  obtain ⟨salt, made, rfl, issued⟩ := traced.rows hash row found
  rw [(law salt made token).mp verified] at issued
  exact issued

theorem traced_perform (traced : Traced env s) (law : TokenLaw env) {task : Task} {m : Move}
    {now : Int} {id : Nat} (running : s.tasks.find? id = some task)
    (moved : EnrollMove env s now task m) : Traced env (s.perform env id now m) := by
  refine ⟨?_, ?_, ?_, ?_⟩
  · intro hash row found
    rcases tokenRow_after moved found with ⟨old, stored, -⟩ | ⟨salt, token, -, made, issued⟩
    · obtain ⟨salt, token, made, issued⟩ := traced.rows hash old stored
      exact ⟨salt, token, made, issued_perform issued id now m⟩
    · exact ⟨salt, token, made, issued⟩
  · intro id' token hash agent found
    rcases marking_after moved found with ⟨-, old⟩ | ⟨-, -, matched⟩
    · obtain ⟨verified, row, stored⟩ := traced.marking id' token hash agent old
      exact ⟨verified, tokenRow_persists moved stored⟩
    · obtain ⟨verified, row, stored, -⟩ := matchingToken_eq_some matched
      exact ⟨verified, tokenRow_persists moved stored⟩
  · intro id' token agent found
    apply issued_perform
    rcases inserting_after moved found with ⟨-, old⟩ | ⟨-, hash, rfl, -⟩
    · exact traced.inserting id' token agent old
    · obtain ⟨verified, row, stored⟩ := traced.marking id token hash agent running
      exact traced.issued_of_verified law stored verified
  · intro token positive
    apply issued_perform
    rcases enrollments_after moved token with same | ⟨-, agent, rfl⟩
    · exact traced.counted token (same ▸ positive)
    · exact traced.inserting id token agent running

theorem traced (law : TokenLaw env) (reached : Run env ok start s) : Traced env s := by
  refine reached.invariant (I := Traced env) ?_ ?_
  · refine ⟨?_, ?_, ?_, ?_⟩
    · intro hash row found
      cases found
    · intro id token hash agent found
      cases found
    · intro id token agent found
      cases found
    · intro token positive
      exact absurd rfl positive
  · intro s a s' _ traced _ taken
    rcases step_cases taken with
      ⟨id, request, task, -, started, -, rfl⟩ | ⟨id, now, task, -, -, running, rfl⟩
    · refine ⟨traced.rows, ?_, ?_, traced.counted⟩
      · intro id' token hash agent found
        rcases task_of_spawn started found with first | old
        · cases first
        · exact traced.marking id' token hash agent old
      · intro id' token agent found
        rcases task_of_spawn started found with first | old
        · cases first
        · exact traced.inserting id' token agent old
    · exact traced_perform traced law running (enrollMove (moves env s now task))

/-! ## One holder at a time -/

/-- The task found the token unused and has not created its agent yet. -/
def Holds (s : State) (id : Nat) (token : Text) : Prop :=
  (∃ hash agent, s.tasks.find? id = some (.enrollMark token hash agent)) ∨
    ∃ agent, s.tasks.find? id = some (.enrollInsert token agent)

/-- The token has been marked by a request. -/
def Spent (s : State) (token : Text) : Prop :=
  (∃ id agent, s.tasks.find? id = some (.enrollInsert token agent)) ∨ enrollments s.log token ≠ 0

structure Exclusive (env : Env) (s : State) : Prop where
  oneRow : ∀ token hash hash' row row', s.store.enrollmentTokens.find? hash = some row →
    s.store.enrollmentTokens.find? hash' = some row' → env.verifyToken hash token = true →
      env.verifyToken hash' token = true → hash = hash'
  used : ∀ token, Spent s token → ∀ hash row, s.store.enrollmentTokens.find? hash = some row →
    env.verifyToken hash token = true → row.usedAt ≠ none
  alone : ∀ token id id', Holds s id token → Holds s id' token → id = id'
  unspent : ∀ token id, Holds s id token → enrollments s.log token = 0
  once : ∀ token, enrollments s.log token ≤ 1

/-- A spent token is never found unused. -/
theorem Exclusive.not_spent (exclusive : Exclusive env s) {token hash : Text}
    (matched : s.store.matchingToken env.verifyToken token = some hash) : ¬Spent s token := by
  intro spent
  obtain ⟨verified, row, stored, unused⟩ := matchingToken_eq_some matched
  exact exclusive.used token spent hash row stored verified unused

section Step

variable {task : Task} {m : Move} {now : Int} {id : Nat}

theorem Traced.issued_of_spent (traced : Traced env s) {token : Text} (spent : Spent s token) :
    Issued s.log token := by
  rcases spent with ⟨id, agent, running⟩ | positive
  · exact traced.inserting id token agent running
  · exact traced.counted token positive

/-- How a task comes to hold a token. -/
theorem holds_after (moved : EnrollMove env s now task m) {id' : Nat} {token : Text}
    (holds : Holds (s.perform env id now m) id' token) :
    (id' ≠ id ∧ Holds s id' token) ∨
      id' = id ∧ ((∃ agent hash, task = .enrollSelect token agent ∧
        s.store.matchingToken env.verifyToken token = some hash) ∨
          ∃ agent hash, task = .enrollMark token hash agent) := by
  rcases holds with ⟨hash, agent, found⟩ | ⟨agent, found⟩
  · rcases marking_after moved found with ⟨other, old⟩ | ⟨same, selects, matched⟩
    · exact Or.inl ⟨other, Or.inl ⟨hash, agent, old⟩⟩
    · exact Or.inr ⟨same, Or.inl ⟨agent, hash, selects, matched⟩⟩
  · rcases inserting_after moved found with ⟨other, old⟩ | ⟨same, hash, marks, -⟩
    · exact Or.inl ⟨other, Or.inr ⟨agent, old⟩⟩
    · exact Or.inr ⟨same, Or.inr ⟨agent, hash, marks⟩⟩

variable (exclusive : Exclusive env s) (traced : Traced env s) (law : TokenLaw env)
  (moved : EnrollMove env s now task m) (running : s.tasks.find? id = some task)
  (fresh : ∀ salt token, task = .createToken salt token → ¬Issued s.log token)
  (free : ∀ token agent, task = .enrollSelect token agent →
    ∀ id' hash other, s.tasks.find? id' ≠ some (.enrollMark token hash other))

include exclusive traced law moved fresh in
theorem oneRow_perform {token hash hash' : Text} {row row' : TokenRow}
    (found : (s.perform env id now m).store.enrollmentTokens.find? hash = some row)
    (found' : (s.perform env id now m).store.enrollmentTokens.find? hash' = some row')
    (verified : env.verifyToken hash token = true)
    (verified' : env.verifyToken hash' token = true) : hash = hash' := by
  rcases tokenRow_after moved found with ⟨old, stored, -⟩ | ⟨salt, made, issues, rfl, -⟩
  · rcases tokenRow_after moved found' with ⟨old', stored', -⟩ | ⟨salt', made', issues', rfl, -⟩
    · exact exclusive.oneRow token hash hash' old old' stored stored' verified verified'
    · have same := (law salt' made' token).mp verified'
      exact absurd (traced.issued_of_verified law stored verified)
        (fresh salt' token (same ▸ issues'))
  · have same := (law salt made token).mp verified
    rcases tokenRow_after moved found' with ⟨old', stored', -⟩ | ⟨salt', made', issues', rfl, -⟩
    · exact absurd (traced.issued_of_verified law stored' verified')
        (fresh salt token (same ▸ issues))
    · rw [issues] at issues'
      cases issues'
      rfl

include exclusive traced law moved running fresh in
theorem used_perform {token : Text} (spent : Spent (s.perform env id now m) token) {hash : Text}
    {row : TokenRow}
    (found : (s.perform env id now m).store.enrollmentTokens.find? hash = some row)
    (verified : env.verifyToken hash token = true) : row.usedAt ≠ none := by
  -- either the token was spent before, or this step marked the only row it verifies against
  have cases : Spent s token ∨ row.usedAt ≠ none := by
    rcases spent with ⟨id', agent, inserting⟩ | positive
    · rcases inserting_after moved inserting with ⟨-, old⟩ | ⟨-, marked, rfl, marks⟩
      · exact Or.inl (Or.inl ⟨id', agent, old⟩)
      · right
        obtain ⟨verifies, old, stored⟩ := traced.marking id token marked agent running
        have persists : ∃ new, (s.perform env id now m).store.enrollmentTokens.find? marked =
            some new := tokenRow_persists moved stored
        obtain ⟨new, there⟩ := persists
        have same := oneRow_perform exclusive traced law moved fresh found there verified verifies
        exact marks row (same ▸ found)
    · rcases enrollments_after moved token with same | ⟨-, agent, rfl⟩
      · exact Or.inl (Or.inr (same ▸ positive))
      · exact Or.inl (Or.inl ⟨id, agent, running⟩)
  rcases cases with spentBefore | used
  · rcases tokenRow_after moved found with ⟨old, stored, keeps⟩ | ⟨salt, made, issues, rfl, -⟩
    · exact keeps (exclusive.used token spentBefore hash old stored verified)
    · rw [(law salt made token).mp verified] at issues
      exact absurd (traced.issued_of_spent spentBefore) (fresh salt token issues)
  · exact used

include exclusive moved running free in
theorem alone_perform {token : Text} {id₁ id₂ : Nat}
    (first : Holds (s.perform env id now m) id₁ token)
    (second : Holds (s.perform env id now m) id₂ token) : id₁ = id₂ := by
  -- the task that moves comes to hold the token only if no other task does
  have onlyOne : ∀ other, Holds (s.perform env id now m) id token → other ≠ id →
      ¬Holds s other token := by
    intro other new different held
    rcases holds_after moved new with ⟨absurdly, -⟩ | ⟨-, ⟨agent, hash, rfl, matched⟩ | marks⟩
    · exact absurdly rfl
    · rcases held with ⟨hash', agent', marking⟩ | ⟨agent', inserting⟩
      · exact free token agent rfl other hash' agent' marking
      · exact exclusive.not_spent matched (Or.inl ⟨other, agent', inserting⟩)
    · obtain ⟨agent, hash, rfl⟩ := marks
      exact different (exclusive.alone token other id held (Or.inl ⟨hash, agent, running⟩))
  rcases holds_after moved first with ⟨other₁, held₁⟩ | ⟨rfl, -⟩
  · rcases holds_after moved second with ⟨-, held₂⟩ | ⟨rfl, -⟩
    · exact exclusive.alone token id₁ id₂ held₁ held₂
    · exact absurd held₁ (onlyOne id₁ second other₁)
  · by_contra different
    rcases holds_after moved second with ⟨other₂, held₂⟩ | ⟨same, -⟩
    · exact onlyOne id₂ first other₂ held₂
    · exact different same.symm

include exclusive moved running in
theorem unspent_perform {token : Text} {id' : Nat}
    (holds : Holds (s.perform env id now m) id' token) :
    enrollments (s.perform env id now m).log token = 0 := by
  rcases enrollments_after moved token with same | ⟨-, agent, rfl⟩
  · rw [same]
    rcases holds_after moved holds with ⟨-, held⟩ | ⟨-, ⟨agent, hash, rfl, matched⟩ | marks⟩
    · exact exclusive.unspent token id' held
    · by_contra positive
      exact exclusive.not_spent matched (Or.inr positive)
    · obtain ⟨agent, hash, rfl⟩ := marks
      exact exclusive.unspent token id (Or.inl ⟨hash, agent, running⟩)
  · rcases holds_after moved holds with ⟨other, held⟩ | ⟨-, ⟨_, _, absurdly, -⟩ | ⟨_, _, absurdly⟩⟩
    · exact absurd (exclusive.alone token id' id held (Or.inr ⟨agent, running⟩)) other
    · cases absurdly
    · cases absurdly

include exclusive moved running in
theorem once_perform (token : Text) : enrollments (s.perform env id now m).log token ≤ 1 := by
  rcases enrollments_after moved token with same | ⟨more, agent, rfl⟩
  · rw [same]
    exact exclusive.once token
  · have none := exclusive.unspent token id (Or.inr ⟨agent, running⟩)
    omega

end Step

theorem exclusive (law : TokenLaw env)
    (reached : Run env (fun s a => FreshTokens s a ∧ SelectsAlone s a) start s) :
    Exclusive env s := by
  refine reached.invariant (I := Exclusive env) ?_ ?_
  · refine ⟨?_, ?_, ?_, ?_, fun _ => Nat.zero_le 1⟩
    · intro token hash hash' row row' found
      cases found
    · intro token spent hash row found
      cases found
    · rintro token id id' (⟨hash, agent, found⟩ | ⟨agent, found⟩) <;> cases found
    · intro token id holds
      rfl
  · intro s a s' past holds allowed taken
    rcases step_cases taken with
      ⟨id, request, task, rfl, started, -, rfl⟩ | ⟨id, now, task, rfl, -, running, rfl⟩
    · -- a request that has just started holds nothing
      have unheld : ∀ id' token, Holds { s with tasks := s.tasks.upsert id task } id' token →
          Holds s id' token := by
        rintro id' token (⟨hash, agent, found⟩ | ⟨agent, found⟩)
        · rcases task_of_spawn started found with first | old
          · cases first
          · exact Or.inl ⟨hash, agent, old⟩
        · rcases task_of_spawn started found with first | old
          · cases first
          · exact Or.inr ⟨agent, old⟩
      refine ⟨holds.oneRow, ?_, ?_, ?_, holds.once⟩
      · intro token spent
        refine holds.used token ?_
        rcases spent with ⟨id', agent, inserting⟩ | positive
        · rcases task_of_spawn started inserting with first | old
          · cases first
          · exact Or.inl ⟨id', agent, old⟩
        · exact Or.inr positive
      · intro token id₁ id₂ first second
        exact holds.alone token id₁ id₂ (unheld id₁ token first) (unheld id₂ token second)
      · intro token id' held
        exact holds.unspent token id' (unheld id' token held)
    · have traced := traced law past
      have moved := enrollMove (moves env s now task)
      have fresh : ∀ salt token, task = .createToken salt token → ¬Issued s.log token := by
        rintro salt token rfl ⟨t, issued⟩
        exact allowed.1 token (by rw [running]; rfl) _ issued rfl
      have free : ∀ token agent, task = .enrollSelect token agent →
          ∀ id' hash other, s.tasks.find? id' ≠ some (.enrollMark token hash other) := by
        rintro token agent rfl id' hash other marking
        exact allowed.2 token (by rw [running]; rfl) _ (Table.find?_eq_some_iff.mp marking) rfl
      exact
        { oneRow := fun _ _ _ _ _ => oneRow_perform holds traced law moved fresh
          used := fun _ spent _ _ => used_perform holds traced law moved running fresh spent
          alone := fun _ _ _ => alone_perform holds moved running free
          unspent := fun _ _ => unspent_perform holds moved running
          once := once_perform holds moved running }

/-- **An enrollment token enrolls at most one agent**, and none if it was never
issued, in every run in which no request reads the unused tokens while another one
with the same token has read them and not yet marked it. -/
theorem enrollment_one_time (law : TokenLaw env)
    (reached : Run env (fun s a => FreshTokens s a ∧ SelectsAlone s a) start s) : OneTime s := by
  intro token
  refine ⟨(exclusive law reached).once token, ?_⟩
  intro unissued
  by_contra positive
  exact unissued ((traced law reached).counted token positive)

theorem tokenLaw_plainEnv : TokenLaw plainEnv := by
  intro salt token presented
  exact beq_iff_eq

/-- A token is issued and two requests bearing it start. -/
def twoEnrolls : List Action :=
  [.spawn 0 (.createEnrollmentToken [] "t".toList), .advance 0 0,
    .spawn 1 (.enroll (some "Bearer t".toList)
      ⟨"agt_a".toList, [], "a".toList, ⟨"a".toList, "100.64.0.1".toList, "e".toList⟩⟩),
    .spawn 2 (.enroll (some "Bearer t".toList)
      ⟨"agt_b".toList, [], "b".toList, ⟨"b".toList, "100.64.0.2".toList, "e".toList⟩⟩)]

/-- The second request reads after the first one has marked the token. -/
theorem enrollment_one_time_in_turn :
    ∃ s, Run plainEnv (fun s a => FreshTokens s a ∧ SelectsAlone s a) 0 s ∧
      enrollments s.log "t".toList = 1 ∧ OneTime s := by
  have reached : Run plainEnv (fun s a => FreshTokens s a ∧ SelectsAlone s a) 0 _ :=
    Transition.reach_of_run
      (twoEnrolls ++ [.advance 1 1, .advance 1 1, .advance 2 2, .advance 1 3]) rfl
  exact ⟨_, reached, by decide, enrollment_one_time tokenLaw_plainEnv reached⟩

/-- **A token enrolls two agents.** Both requests read the unused tokens before
either marks its own; the second `UPDATE` finds the token used and does not care. -/
theorem token_enrolls_two_agents :
    ∃ s, TokenLaw plainEnv ∧ Run plainEnv FreshTokens 0 s ∧
      enrollments s.log "t".toList = 2 ∧ ¬OneTime s := by
  have reached : Run plainEnv FreshTokens 0 _ :=
    Transition.reach_of_run
      (twoEnrolls ++ [.advance 1 1, .advance 2 1, .advance 1 2, .advance 2 2, .advance 1 3,
        .advance 2 3]) rfl
  refine ⟨_, tokenLaw_plainEnv, reached, by decide, ?_⟩
  intro oneTime
  exact absurd (oneTime "t".toList).1 (by decide)

end Tailroute.Controller
