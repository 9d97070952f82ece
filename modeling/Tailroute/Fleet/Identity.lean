/-
# Fleet.Identity — an agent's identity over restarts of its process

The first process of an agent enrolls with the token of its configuration and writes what
it was answered to `agent.json`; every later one reads that file. The process may end at
any moment: before the answer, which leaves an enrolled agent that nobody runs, or while
the file is being written.

What is in the file is what the controller knows: its token verifies as long as no admin
revokes the agent, a process that has started runs under it, and no later process replaces
it. `std::fs::write` truncates before it writes, and a proper beginning of a JSON object
does not parse; so a process that ends in between leaves a file with which none starts
again (`identity_survives`).
-/
import Tailroute.Controller.Enrollment
import Tailroute.Fleet.Server

namespace Tailroute.Fleet

open Tailroute.Theory Tailroute.Common Tailroute.Storage Tailroute.Controller

set_option autoImplicit false

/-! ## The host of the agent -/

structure PersistedAgentState where
  agentId : Text
  agentToken : Text
  controllerUrl : Text
deriving DecidableEq

/-- `agent.json`. -/
inductive StateFile where
  | absent
  | torn
  | whole (state : PersistedAgentState)
deriving DecidableEq

def StateFile.load : StateFile → Except Unit (Option PersistedAgentState)
  | absent => .ok none
  | torn => .error ()
  | whole state => .ok (some state)

structure AgentReady where
  tailscaleOk : Bool := false
  dockerOk : Bool := false
  proxyOk : Bool := false
  enrolled : Bool := false
  initialReconcile : Bool := false

def AgentReady.isReady (ready : AgentReady) : Bool :=
  ready.tailscaleOk && ready.dockerOk && ready.proxyOk && ready.enrolled && ready.initialReconcile

/-- The settings that matter here. -/
structure StartConfig where
  controllerUrl : Text
  enrollmentToken : Option Text

/-- How far `main` and `AgentRun::new` are. -/
inductive Stage where
  | stopped
  | located
  | bound
  | enrolling (task : Nat) (agent : NewAgent)
  | saving (state : PersistedAgentState)
  | running (state : PersistedAgentState)
deriving DecidableEq

/-- The process is not past the point where it reads the file. -/
def Stage.BeforeOpen : Stage → Prop
  | .stopped | .located | .bound => True
  | _ => False

structure Host where
  server : Server
  file : StateFile
  stage : Stage
  ready : AgentReady

def Host.init (start : Int) : Host := ⟨.init start, .absent, .stopped, {}⟩

/-- The process ends: by a signal, a crash or an error on the way. -/
def Host.stop (h : Host) : Host := { h with stage := .stopped, ready := {} }

inductive HostAction where
  | locate
  | bind
  | openState (task : Nat) (agent : NewAgent)
  | receive
  | truncate
  | saved
  | reconciled
  | stop
  | controller (action : Controller.Action)

section Step

variable (env : Env) (cfg : StartConfig)

/-- `AgentRun::new`: connect to Docker, read the file, and enroll if there is none. -/
def Host.openState (h : Host) (id : Nat) (agent : NewAgent) : Option Host :=
  let h := { h with ready.dockerOk := true }
  match h.file.load with
  | .error _ => some h.stop
  | .ok (some state) => some { h with stage := .running state, ready.enrolled := true }
  | .ok none =>
      match cfg.enrollmentToken with
      | none => some h.stop
      | some token =>
          (h.server.spawn env id (.enroll (some ("Bearer ".toList ++ token)) agent)).map
            fun server => { h with server := server, stage := .enrolling id agent }

def hostStep (h : Host) : HostAction → Option Host
  | .locate =>
      match h.stage with
      | .stopped => some { h with stage := .located, ready.tailscaleOk := true }
      | _ => none
  | .bind =>
      match h.stage with
      | .located => some { h with stage := .bound, ready.proxyOk := true }
      | _ => none
  | .openState id agent =>
      match h.stage with
      | .bound => h.openState env cfg id agent
      | _ => none
  | .receive =>
      match h.stage with
      | .enrolling id agent =>
          (h.server.answers.find? id).map fun success =>
            if success then
              { h with stage := .saving ⟨agent.agentId, agent.agentToken, cfg.controllerUrl⟩ }
            else h.stop
      | _ => none
  | .truncate =>
      match h.stage with
      | .saving _ => some { h with file := .torn }
      | _ => none
  | .saved =>
      match h.stage, h.file with
      | .saving state, .torn =>
          some { h with file := .whole state, stage := .running state, ready.enrolled := true }
      | _, _ => none
  | .reconciled =>
      match h.stage with
      | .running _ => some { h with ready.initialReconcile := true }
      | _ => none
  | .stop => some h.stop
  | .controller (.spawn id request) =>
      (h.server.spawn env id request).map fun server => { h with server := server }
  | .controller (.advance id now) =>
      (h.server.advance env id now).map fun server => { h with server := server }

end Step

/-! ## What the controller knows -/

section Known

variable {env : Env} {s : State} {id : Nat} {agent : NewAgent}

/-- The controller has the agent with the hash of this token. -/
def Known (env : Env) (s : State) (agentId agentToken : Text) : Prop :=
  ∃ row salt, s.store.agents.find? agentId = some row ∧
    row.credentialHash = env.hashToken salt agentToken

/-- No statement changes a credential or deletes its row. -/
theorem credentialHash_exec (rfc : Rfc3339) {store : Store} (now : Int) (st : Statement)
    {agentId : Text} {row : AgentRow} (found : store.agents.find? agentId = some row) :
    ∃ row', (st.exec rfc store now).agents.find? agentId = some row' ∧
      row'.credentialHash = row.credentialHash := by
  have change := st.agentChange_exec rfc store now agentId
  rw [found] at change
  generalize (st.exec rfc store now).agents.find? agentId = after at change ⊢
  cases change with
  | kept => exact ⟨row, rfl, rfl⟩
  | seen => exact ⟨_, rfl, rfl⟩
  | revoked => exact ⟨_, rfl, rfl⟩

theorem Known.perform {agentId agentToken : Text} (known : Known env s agentId agentToken)
    (id : Nat) (now : Int) (m : Move) : Known env (s.perform env id now m) agentId agentToken := by
  obtain ⟨row, salt, found, hash⟩ := known
  simp only [Known, State.perform]
  cases m.statement with
  | none => exact ⟨row, salt, found, hash⟩
  | some st =>
      obtain ⟨row', found', same⟩ := credentialHash_exec env.rfc now st found
      exact ⟨row', salt, found', same.trans hash⟩

/-- The agent that an enrollment under way is for. -/
def enrollOf : Task → Option NewAgent
  | .enrollSelect _ agent => some agent
  | .enrollMark _ _ agent => some agent
  | .enrollInsert _ agent => some agent
  | _ => none

/-- How far the controller is with an enrollment. -/
inductive Pending (env : Env) (s : State) (answers : Table Nat Bool) (id : Nat) (agent : NewAgent) :
    Prop
  | processing (task : Task) (found : s.tasks.find? id = some task)
      (own : enrollOf task = some agent)
  | answered (success : Bool) (found : answers.find? id = some success)
      (known : success = true → Known env s agent.agentId agent.agentToken)

variable {answers : Table Nat Bool}

/-- The step of the enrollment's own handler. -/
theorem pending_own {task : Task} (found : s.tasks.find? id = some task)
    (own : enrollOf task = some agent) (now : Int) :
    Pending env (s.perform env id now (task.move env s now))
      (recordAnswer answers id (task.move env s now)) id agent := by
  have here := find?_perform_self env s id now (task.move env s now)
  have moved := moves env s now task
  generalize task.move env s now = m at moved here ⊢
  cases moved with
  | ended =>
      exact .answered false (find?_recordAnswer_self rfl) (by rintro ⟨⟩)
  | selected token hash agent => exact .processing _ here own
  | marked token hash agent => exact .processing _ here own
  | enrolled token agent fresh =>
      cases own
      refine .answered true (find?_recordAnswer_self rfl) fun _ => ?_
      refine ⟨Store.enrolledRow now (env.hashToken agent.salt agent.agentToken) agent.body,
        agent.salt, ?_, rfl⟩
      simp only [State.perform, Option.elim_some, Statement.insertAgent_exec, if_neg fresh,
        Table.find?_upsert, if_true]
  | _ => cases own

theorem Pending.advance (pending : Pending env s answers id agent)
    (ended : ∀ id ∈ answers.keys, s.tasks.find? id = none) {id' : Nat} {task : Task}
    (found : s.tasks.find? id' = some task) (now : Int) :
    Pending env (s.perform env id' now (task.move env s now))
      (recordAnswer answers id' (task.move env s now)) id agent := by
  by_cases same : id = id'
  · subst same
    cases pending with
    | processing own found' carries =>
        rw [found] at found'
        cases found'
        exact pending_own found carries now
    | answered success there known =>
        rw [ended id (Table.mem_keys_iff.mpr ⟨success, there⟩)] at found
        cases found
  · cases pending with
    | processing own found' carries =>
        exact .processing own ((find?_perform_of_other env same now _).trans found') carries
    | answered success there known =>
        exact .answered success ((find?_recordAnswer_of_other same _).trans there)
          fun good => (known good).perform id' now _

end Known

/-! ## Runs -/

section Runs

variable {env : Env} {cfg : StartConfig} {start : Int} {h h' : Host}

/-- What holds in every state. -/
structure HostInvariant (env : Env) (start : Int) (h : Host) : Prop where
  valid : h.server.Valid env start
  file : ∀ state, h.file = .whole state →
    Known env h.server.controller state.agentId state.agentToken
  enrolling : ∀ id agent, h.stage = .enrolling id agent →
    h.file = .absent ∧ Pending env h.server.controller h.server.answers id agent
  saving : ∀ state, h.stage = .saving state →
    (∀ other, h.file ≠ .whole other) ∧
      Known env h.server.controller state.agentId state.agentToken
  running : ∀ state, h.stage = .running state → h.file = .whole state
  enrolled : h.ready.enrolled = true → ∃ state, h.stage = .running state

/-- Before the file is read, only the file matters. -/
theorem hostInvariant_before (valid : h.server.Valid env start)
    (file : ∀ state, h.file = .whole state →
      Known env h.server.controller state.agentId state.agentToken)
    (before : h.stage.BeforeOpen) (unset : h.ready.enrolled = false) :
    HostInvariant env start h := by
  refine ⟨valid, file, fun id agent stage => ?_, fun state stage => ?_, fun state stage => ?_,
    fun set => ?_⟩
  · rw [stage] at before
    exact before.elim
  · rw [stage] at before
    exact before.elim
  · rw [stage] at before
    exact before.elim
  · rw [unset] at set
    cases set

/-- A process that has not read the file has not set the flag. -/
theorem HostInvariant.unset (holds : HostInvariant env start h)
    (early : ∀ state, h.stage ≠ .running state) : h.ready.enrolled = false := by
  rw [Bool.eq_false_iff]
  intro set
  obtain ⟨state, running⟩ := holds.enrolled set
  exact early state running

theorem HostInvariant.stop (holds : HostInvariant env start h) : HostInvariant env start h.stop :=
  hostInvariant_before holds.valid holds.file trivial rfl

/-- A step of the server that keeps what the controller knows. -/
theorem HostInvariant.serve (holds : HostInvariant env start h) {v : Server}
    (valid : v.Valid env start)
    (known : ∀ agentId agentToken, Known env h.server.controller agentId agentToken →
      Known env v.controller agentId agentToken)
    (pending : ∀ id agent, Pending env h.server.controller h.server.answers id agent →
      Pending env v.controller v.answers id agent) :
    HostInvariant env start { h with server := v } := by
  refine ⟨valid, ?_, ?_, ?_, holds.running, holds.enrolled⟩
  · exact fun state whole => known _ _ (holds.file state whole)
  · exact fun id agent stage => (holds.enrolling id agent stage).imp_right (pending id agent)
  · exact fun state stage => (holds.saving state stage).imp_right (known _ _)

theorem HostInvariant.spawn (holds : HostInvariant env start h) {v : Server} {id : Nat}
    {request : Request} (taken : h.server.spawn env id request = some v) :
    HostInvariant env start { h with server := v } := by
  obtain ⟨task, -, fresh, -, rfl, -⟩ := Server.spawn_cases taken
  refine holds.serve (holds.valid.spawn taken) (fun _ _ known => known) ?_
  intro id' agent pending
  cases pending with
  | processing own found carries => exact .processing own (find?_spawned fresh found) carries
  | answered success there known => exact .answered success there known

theorem HostInvariant.openState (holds : HostInvariant env start h) (bound : h.stage = .bound)
    {id : Nat} {agent : NewAgent} (taken : h.openState env cfg id agent = some h') :
    HostInvariant env start h' := by
  have unset := holds.unset fun state running => by
    rw [bound] at running
    cases running
  unfold Host.openState at taken
  cases content : h.file with
  | torn =>
      simp only [content, StateFile.load] at taken
      cases taken
      exact hostInvariant_before holds.valid (by rintro _ ⟨⟩) trivial rfl
  | whole state =>
      simp only [content, StateFile.load] at taken
      cases taken
      refine ⟨holds.valid, ?_, by rintro _ _ ⟨⟩, by rintro _ ⟨⟩, ?_, fun _ => ⟨state, rfl⟩⟩
      · rintro _ ⟨⟩
        exact holds.file state content
      · rintro _ ⟨⟩
        rfl
  | absent =>
      simp only [content, StateFile.load] at taken
      split at taken
      · cases taken
        exact hostInvariant_before holds.valid (by rintro _ ⟨⟩) trivial rfl
      · obtain ⟨server, spawned, rfl⟩ := Option.map_eq_some_iff.mp taken
        refine ⟨holds.valid.spawn spawned, by rintro _ ⟨⟩, ?_, by rintro _ ⟨⟩, by rintro _ ⟨⟩, ?_⟩
        · rintro _ _ ⟨⟩
          obtain ⟨task, started, -, -, rfl, -⟩ := Server.spawn_cases spawned
          refine ⟨rfl, .processing task (by simp only [Table.find?_upsert, if_true]) ?_⟩
          cases starts started
          rfl
        · intro set
          rw [unset] at set
          cases set

theorem HostInvariant.receive (holds : HostInvariant env start h) {id : Nat} {agent : NewAgent}
    (stage : h.stage = .enrolling id agent) (answer : h.server.answers.find? id = some true) :
    HostInvariant env start
      { h with stage := .saving ⟨agent.agentId, agent.agentToken, cfg.controllerUrl⟩ } := by
  obtain ⟨absent, pending⟩ := holds.enrolling id agent stage
  have unset := holds.unset fun state running => by
    rw [stage] at running
    cases running
  refine ⟨holds.valid, holds.file, by rintro _ _ ⟨⟩, ?_, by rintro _ ⟨⟩, ?_⟩
  · rintro _ ⟨⟩
    refine ⟨fun other whole => ?_, ?_⟩
    · rw [absent] at whole
      cases whole
    · cases pending with
      | processing task found own =>
          rw [holds.valid.not_running answer] at found
          cases found
      | answered success there known =>
          rw [answer] at there
          cases there
          exact known rfl
  · intro set
    rw [unset] at set
    cases set

/-- **One step keeps the invariant.** -/
theorem HostInvariant.next (holds : HostInvariant env start h) {action : HostAction}
    (taken : hostStep env cfg h action = some h') : HostInvariant env start h' := by
  cases action with
  | locate | bind =>
      simp only [hostStep] at taken
      split at taken <;> cases taken
      rename_i stage
      have unset := holds.unset fun state running => by
        rw [stage] at running
        cases running
      exact hostInvariant_before holds.valid holds.file trivial unset
  | openState id agent =>
      simp only [hostStep] at taken
      split at taken
      · rename_i stage
        exact holds.openState stage taken
      · cases taken
  | receive =>
      simp only [hostStep] at taken
      split at taken
      · rename_i id agent stage
        obtain ⟨success, answer, rfl⟩ := Option.map_eq_some_iff.mp taken
        cases success with
        | true => exact holds.receive stage answer
        | false => exact holds.stop
      · cases taken
  | truncate =>
      simp only [hostStep] at taken
      split at taken <;> cases taken
      rename_i state stage
      refine ⟨holds.valid, by rintro _ ⟨⟩, fun id agent enrolling => ?_, fun other saving => ?_,
        fun other running => ?_, holds.enrolled⟩
      · rw [stage] at enrolling
        cases enrolling
      · exact ⟨by rintro _ ⟨⟩, (holds.saving other saving).2⟩
      · rw [stage] at running
        cases running
  | saved =>
      simp only [hostStep] at taken
      split at taken <;> cases taken
      rename_i state stage _
      refine ⟨holds.valid, ?_, by rintro _ _ ⟨⟩, by rintro _ ⟨⟩, ?_, fun _ => ⟨state, rfl⟩⟩
      · rintro _ ⟨⟩
        exact (holds.saving state stage).2
      · rintro _ ⟨⟩
        rfl
  | reconciled =>
      simp only [hostStep] at taken
      split at taken <;> cases taken
      exact ⟨holds.valid, holds.file, holds.enrolling, holds.saving, holds.running, holds.enrolled⟩
  | stop =>
      cases taken
      exact holds.stop
  | controller action =>
      cases action with
      | spawn id request =>
          obtain ⟨server, spawned, rfl⟩ := Option.map_eq_some_iff.mp taken
          exact holds.spawn spawned
      | advance id now =>
          obtain ⟨server, advanced, rfl⟩ := Option.map_eq_some_iff.mp taken
          have valid := holds.valid.advance advanced
          obtain ⟨task, found, rfl, -⟩ := Server.advance_cases advanced
          exact holds.serve valid (fun _ _ known => known.perform id now _)
            fun _ _ pending => pending.advance holds.valid.ended found now

/-- Every order of steps of the agent's processes, their ends, and the controller. -/
abbrev HostRun (env : Env) (cfg : StartConfig) : Host → Host → Prop :=
  Transition.Reach (hostStep env cfg) (fun _ _ => True)

theorem hostInvariant (reached : HostRun env cfg (.init start) h) : HostInvariant env start h := by
  refine reached.invariant (I := HostInvariant env start) ?_ ?_
  · exact hostInvariant_before (Server.valid_init env start) (by rintro _ ⟨⟩) trivial rfl
  · exact fun _ _ _ _ holds _ taken => holds.next taken

/-- A process reads the file or begins to write one where there is none. -/
theorem HostInvariant.file_next (holds : HostInvariant env start h) {action : HostAction}
    (taken : hostStep env cfg h action = some h') {state : PersistedAgentState}
    (whole : h.file = .whole state) : h'.file = .whole state := by
  cases action with
  | locate | bind | reconciled =>
      simp only [hostStep] at taken
      split at taken <;> cases taken
      exact whole
  | openState id agent =>
      simp only [hostStep] at taken
      split at taken
      · simp only [Host.openState, whole, StateFile.load] at taken
        cases taken
        rfl
      · cases taken
  | receive =>
      simp only [hostStep] at taken
      split at taken
      · obtain ⟨success, -, rfl⟩ := Option.map_eq_some_iff.mp taken
        cases success <;> exact whole
      · cases taken
  | truncate =>
      simp only [hostStep] at taken
      split at taken
      · rename_i saving stage
        exact absurd whole ((holds.saving saving stage).1 state)
      · cases taken
  | saved =>
      simp only [hostStep] at taken
      split at taken
      · rename_i torn
        rw [whole] at torn
        cases torn
      · cases taken
  | stop =>
      cases taken
      exact whole
  | controller action =>
      cases action <;>
      · obtain ⟨server, -, rfl⟩ := Option.map_eq_some_iff.mp taken
        exact whole

/-- With a torn file no process gets past that point. -/
theorem torn_next {action : HostAction} (taken : hostStep env cfg h action = some h')
    (torn : h.file = .torn) (before : h.stage.BeforeOpen) :
    h'.file = .torn ∧ h'.stage.BeforeOpen := by
  cases action with
  | locate | bind =>
      simp only [hostStep] at taken
      split at taken <;> cases taken
      exact ⟨torn, trivial⟩
  | openState id agent =>
      simp only [hostStep] at taken
      split at taken
      · simp only [Host.openState, torn, StateFile.load] at taken
        cases taken
        exact ⟨rfl, trivial⟩
      · cases taken
  | receive | truncate | reconciled =>
      simp only [hostStep] at taken
      split at taken
      · rename_i stage
        rw [stage] at before
        exact before.elim
      · cases taken
  | saved =>
      simp only [hostStep] at taken
      split at taken
      · rename_i stage _
        rw [stage] at before
        exact before.elim
      · cases taken
  | stop =>
      cases taken
      exact ⟨torn, trivial⟩
  | controller action =>
      cases action <;>
      · obtain ⟨server, -, rfl⟩ := Option.map_eq_some_iff.mp taken
        exact ⟨torn, before⟩

/-- **The identity of an agent survives its processes.** Wherever the processes of an agent
end, and whatever the controller does meanwhile:

* the controller has the agent of a written file, and the token in it verifies unless the
  agent is revoked;
* a process past its start runs under the file's identity, and only such a one is ready;
* a written file is never replaced;
* a file torn by a process that ended while writing is never mended, and no later process
  becomes ready. -/
theorem identity_survives (law : TokenLaw env) (reached : HostRun env cfg (.init start) h) :
    (∀ state, h.file = .whole state → ∃ row,
      h.server.controller.store.agents.find? state.agentId = some row ∧
      (row.revokedAt = none →
        h.server.controller.store.verifyAgentToken env.verifyToken state.agentId
          state.agentToken = .ok ())) ∧
    (∀ state, h.stage = .running state → h.file = .whole state) ∧
    (h.ready.isReady = true → ∃ state, h.stage = .running state) ∧
    (∀ state, h.file = .whole state → ∀ later, HostRun env cfg h later →
      later.file = .whole state) ∧
    (h.file = .torn → h.stage = .stopped → ∀ later, HostRun env cfg h later →
      later.file = .torn ∧ later.ready.isReady = false) := by
  have holds := hostInvariant reached
  refine ⟨?_, holds.running, ?_, ?_, ?_⟩
  · intro state whole
    obtain ⟨row, salt, found, hash⟩ := holds.file state whole
    refine ⟨row, found, fun active => ?_⟩
    rw [Store.verifyAgentToken, found]
    simp only [active, Option.isSome_none, Bool.false_eq_true, if_false, hash,
      (law salt state.agentToken state.agentToken).mpr rfl, if_true]
  · intro ready
    simp only [AgentReady.isReady, Bool.and_eq_true] at ready
    exact holds.enrolled ready.1.2
  · intro state whole later run
    have kept := run.invariant (I := fun h => HostInvariant env start h ∧ h.file = .whole state)
      ⟨holds, whole⟩ fun _ _ _ _ now _ taken => ⟨now.1.next taken, now.1.file_next taken now.2⟩
    exact kept.2
  · intro torn stopped later run
    have kept := run.invariant
      (I := fun h => HostInvariant env start h ∧ h.file = .torn ∧ h.stage.BeforeOpen)
      ⟨holds, torn, stopped ▸ trivial⟩
      fun _ _ _ _ now _ taken => ⟨now.1.next taken, torn_next taken now.2.1 now.2.2⟩
    obtain ⟨holds, torn, before⟩ := kept
    refine ⟨torn, Bool.eq_false_iff.mpr fun ready => ?_⟩
    simp only [AgentReady.isReady, Bool.and_eq_true] at ready
    obtain ⟨state, running⟩ := holds.enrolled ready.1.2
    rw [running] at before
    exact before

end Runs

/-! ## Two first runs -/

def firstAgent : NewAgent :=
  ⟨"agt_a".toList, [], "a".toList, ⟨"a".toList, "100.64.0.1".toList, "e".toList⟩⟩

def firstConfig : StartConfig := ⟨"http://c".toList, some "t".toList⟩

def firstState : PersistedAgentState := ⟨"agt_a".toList, "a".toList, "http://c".toList⟩

/-- The first process enrolls and begins to write the file. -/
def enrollFirst : List HostAction :=
  [.controller (.spawn 0 (.createEnrollmentToken [] "t".toList)), .controller (.advance 0 0),
    .locate, .bind, .openState 1 firstAgent, .controller (.advance 1 0),
    .controller (.advance 1 0), .controller (.advance 1 0), .receive, .truncate]

/-- The agent of the file is ready and not revoked. -/
def readyAgain (h : Host) : Bool :=
  decide (h.file = .whole firstState) && h.ready.isReady &&
    (h.server.controller.store.agents.find? "agt_a".toList).all fun row => row.revokedAt.isNone

/-- The process has ended and left a torn file; the controller has the agent. -/
def leftTorn (h : Host) : Bool :=
  decide (h.file = .torn) && decide (h.stage = .stopped) &&
    (h.server.controller.store.agents.find? "agt_a".toList).isSome

/-- The first process wrote the file and a second one is ready; or the first ended before
the file was written. -/
theorem identity_survives_restarted :
    (∃ h, HostRun plainEnv firstConfig (.init 0) h ∧ h.ready.isReady = true ∧
      ∃ state, h.stage = .running state ∧
        h.server.controller.store.verifyAgentToken plainEnv.verifyToken state.agentId
          state.agentToken = .ok ()) ∧
    ∃ h, HostRun plainEnv firstConfig (.init 0) h ∧
      (h.server.controller.store.agents.find? "agt_a".toList).isSome = true ∧
      ∀ later, HostRun plainEnv firstConfig h later → later.ready.isReady = false := by
  constructor
  · have ran : ∃ h, HostRun plainEnv firstConfig (.init 0) h ∧ readyAgain h = true :=
      Transition.exists_reach_of_run (fun h => readyAgain h = true)
        (enrollFirst ++ [.saved, .stop, .locate, .bind, .openState 2 firstAgent, .reconciled])
        (by decide +kernel)
    obtain ⟨h, reached, test⟩ := ran
    simp only [readyAgain, Bool.and_eq_true, decide_eq_true_eq] at test
    obtain ⟨⟨whole, ready⟩, active⟩ := test
    obtain ⟨known, written, running, -⟩ := identity_survives tokenLaw_plainEnv reached
    obtain ⟨state, stage⟩ := running ready
    obtain rfl : firstState = state := StateFile.whole.inj (whole.symm.trans (written state stage))
    obtain ⟨row, found, verifies⟩ := known firstState whole
    change h.server.controller.store.agents.find? "agt_a".toList = some row at found
    rw [found, Option.all_some, Option.isNone_iff_eq_none] at active
    exact ⟨h, reached, ready, firstState, stage, verifies active⟩
  · have ran : ∃ h, HostRun plainEnv firstConfig (.init 0) h ∧ leftTorn h = true :=
      Transition.exists_reach_of_run (fun h => leftTorn h = true) (enrollFirst ++ [.stop])
        (by decide +kernel)
    obtain ⟨h, reached, test⟩ := ran
    simp only [leftTorn, Bool.and_eq_true, decide_eq_true_eq] at test
    obtain ⟨⟨torn, stopped⟩, enrolled⟩ := test
    obtain ⟨-, -, -, -, stranded⟩ := identity_survives tokenLaw_plainEnv reached
    exact ⟨h, reached, enrolled, fun later run => (stranded torn stopped later run).2⟩

end Tailroute.Fleet
