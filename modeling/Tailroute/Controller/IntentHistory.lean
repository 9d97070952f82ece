/-
# Controller.IntentHistory — the intents of the interface have one history

`Controller.ClickToEnable` serves one enable or disable request after the other and keeps
their history. In the controller their statements come between those of any other request,
and any of them may fail. `IntentHistory` says that the table is nevertheless the one such a
history leaves, and `IntentHistory.change` that every write of the interface keeps it so: an
upsert or a clearing of the flag is the next event, and no other write is.

`intents_follow_history` reads the requests against that history. An agent is told what the
history leaves on, and an enable or disable that nothing interrupts is refused without a
trace or is the next event of the history and of the audit trail.
-/
import Tailroute.Controller.Served

namespace Tailroute.Controller

open Tailroute.Theory Tailroute.Common Tailroute.Storage

set_option autoImplicit false

/-! ## Histories of a state -/

/-- The table of intents is that of a serial run, whatever ids that drew, and the run knows
the enrolled agents. -/
structure IntentHistory (env : ApiEnv) (s : EnableState) (st : AppState) : Prop where
  serial : Transition.Reach (EnableState.step env.enable) (fun _ _ => True) .init s
  services : s.services = st.database.enabledServices
  agents : ∀ agentId, agentId ∈ s.agents ↔ agentId ∈ st.store.agents.keys

namespace IntentHistory

variable {env : ApiEnv} {s s' : EnableState} {st st' : AppState}

theorem recorded (history : IntentHistory env s st) : Recorded env.enable s :=
  Controller.recorded history.serial

theorem known (history : IntentHistory env s st) (agentId : Text) :
    s.agents.contains agentId = decide (agentId ∈ st.store.agents.keys) := by
  rw [List.contains_eq_mem]
  exact decide_eq_decide.mpr (history.agents agentId)

/-- The serial run serves an enable request as the controller does. -/
theorem enable_eq (history : IntentHistory env s st) (authorized : Bool) (now : Int) (token : Text)
    (body : EnableServiceRequest) :
    s.enable env.enable authorized now token body =
      Controller.adminEnableService env.enable st.database.enabledServices authorized
        (decide (body.agentId ∈ st.store.agents.keys)) now token body := by
  rw [EnableState.enable, history.known, history.services]

/-- Agents enroll, one after the other. -/
theorem enroll {env : EnableEnv}
    (serial : Transition.Reach (EnableState.step env) (fun _ _ => True) .init s)
    (agents : List Text) :
    Transition.Reach (EnableState.step env) (fun _ _ => True) .init
      { s with agents := agents ++ s.agents } := by
  induction agents with
  | nil => exact serial
  | cons agentId agents ih => exact .next ih trivial (a := .enroll agentId) rfl

/-- A write beside the intents. -/
theorem kept (history : IntentHistory env s st)
    (services : st'.database.enabledServices = st.database.enabledServices)
    (grows : ∀ agentId ∈ st.store.agents.keys, agentId ∈ st'.store.agents.keys) :
    ∃ s', IntentHistory env s' st' ∧ s'.log = s.log := by
  refine ⟨_, ⟨enroll history.serial st'.store.agents.keys, history.services.trans services.symm,
    ?_⟩, rfl⟩
  intro agentId
  rw [List.mem_append]
  constructor
  · rintro (enrolled | before)
    · exact enrolled
    · exact grows agentId ((history.agents agentId).mp before)
  · exact Or.inl

/-- A write to the intents: a request served serially has the same effect. -/
theorem step (history : IntentHistory env s st) {a : EnableAction}
    (taken : s.step env.enable a = some s') (agents : s'.agents = s.agents)
    (services : s'.services = st'.database.enabledServices)
    (keys : st'.store.agents.keys = st.store.agents.keys) : IntentHistory env s' st' where
  serial := .next history.serial trivial taken
  services := services
  agents := by
    intro agentId
    rw [agents, keys]
    exact history.agents agentId

/-- An event is added to the history or none is. -/
theorem log_suffix {env : EnableEnv} {a : EnableAction} (taken : s.step env a = some s') :
    s.log <:+ s'.log := by
  cases enableMove taken with
  | kept => exact List.suffix_refl _
  | enabled => exact List.suffix_cons _ _
  | disabled => exact List.suffix_cons _ _

/-- Every write of the interface continues the history. -/
theorem change {t : Moment StorageError} {access : Access} (history : IntentHistory env s st)
    (change : Change env t st access st') :
    ∃ s', IntentHistory env s' st' ∧ s.log <:+ s'.log := by
  have grows := fun agentId (known : agentId ∈ st.store.agents.keys) => change.keys known
  have beside : st'.database.enabledServices = st.database.enabledServices →
      ∃ s', IntentHistory env s' st' ∧ s.log <:+ s'.log := by
    intro same
    obtain ⟨s', after, log⟩ := history.kept same grows
    exact ⟨s', after, log ▸ List.suffix_refl _⟩
  cases change with
  | stored => exact beside rfl
  | reported agentId payloadJson db ran =>
      obtain ⟨-, rfl⟩ := Database.of_putDiscoverySnapshot ran
      exact beside rfl
  | enabled token body intent checked services ran =>
      have taken : s.step env.enable (.enable true t.last token body) = some _ := rfl
      refine ⟨_, history.step taken rfl ?_ rfl, log_suffix taken⟩
      have json : env.enable.json = env.json := rfl
      show (s.enable env.enable true t.last token body).2 = services
      simp [history.enable_eq, Controller.adminEnableService, checked, json, ran]
  | disabled id services ran =>
      have taken : s.step env.enable (.disable true t.last id) = some _ := rfl
      refine ⟨_, history.step taken rfl ?_ rfl, log_suffix taken⟩
      show (Controller.adminDisableService s.services true t.last id).2 = services
      simp [Controller.adminDisableService, history.services, ran]
  | audited => exact beside rfl
  | refreshed => exact beside rfl

/-! ## What the history knows -/

theorem firstId_eq (history : IntentHistory env s st) (pair : Text × Text) :
    firstId s.log pair = (st.database.enabledServices.rows.find? pair).map EnabledRow.id := by
  rw [← history.services]
  cases found : s.services.rows.find? pair with
  | none => exact history.recorded.absent pair found
  | some row => exact history.recorded.ids pair row found

theorem mem_ids_iff (history : IntentHistory env s st) (id : Text) :
    id ∈ st.database.enabledServices.ids ↔ ∃ pair, firstId s.log pair = some id := by
  simp only [EnabledServices.mem_ids, history.firstId_eq, Option.map_eq_some_iff]

end IntentHistory

/-- A database without intents has the empty history. -/
theorem intentHistory_of_empty (env : ApiEnv) {st : AppState}
    (none_ : st.database.enabledServices = .empty) :
    ∃ s, IntentHistory env s st ∧ s.log = [] := by
  refine ⟨_, ⟨IntentHistory.enroll .start st.store.agents.keys, none_.symm, ?_⟩, rfl⟩
  intro agentId
  exact iff_of_eq (congrArg _ (List.append_nil _))

/-! ## Requests against the history -/

section Requests

variable {env : ApiEnv} {clock : Nat → Moment StorageError} {s : EnableState} {st : AppState}

/-- The request is the next event of the history and the next row of the audit trail. -/
def Noted (env : ApiEnv) (s : EnableState) (st after : AppState) (event : EnableEvent)
    (row : AuditRow) : Prop :=
  (∃ s', IntentHistory env s' after ∧ s'.log = event :: s.log) ∧
    after.auditEvents = st.auditEvents ++ [row]

/-- The request leaves neither an event nor a row. -/
def Unnoted (st after : AppState) : Prop :=
  after.database = st.database ∧ after.auditEvents = st.auditEvents

/-- An enable request is due: an admin sends it, it passes its checks, and its pair was
enabled before or can be added. -/
def EnableDue (env : ApiEnv) (clock : Nat → Moment StorageError) (s : EnableState) (st : AppState)
    (authorization : Option Text) (token : Text) (body : EnableServiceRequest) (intent : Intent) :
    Prop :=
  adminBears env (clock 0) st authorization = true ∧ checkEnable env.enable body = .ok intent ∧
    (firstId s.log (body.agentId, body.identityKey) ≠ none ∨
      body.agentId ∈ st.store.agents.keys ∧ ∀ pair, firstId s.log pair ≠ some (enabledId token))

/-- An enable request is answered the pair's first id, or else the one drawn, if it is due,
and refused if it is not. -/
def EnableServed (env : ApiEnv) (clock : Nat → Moment StorageError) (s : EnableState)
    (st : AppState) : Prop :=
  ∀ authorization token body, ∃ answer after,
    (handle env (.adminEnableService authorization token body)).serve clock st = (answer, after) ∧
    (∀ intent, EnableDue env clock s st authorization token body intent →
      ∃ id, id = (firstId s.log (body.agentId, body.identityKey)).getD (enabledId token) ∧
        answer = .ok (.enabled ⟨id⟩) ∧
        Noted env s st after (.enabled (body.agentId, body.identityKey) id intent)
          ⟨"service_enable".toList, enableDetail body.identityKey intent.hostnames,
            toRfc3339 (clock 2).last⟩) ∧
    ((∀ intent, ¬EnableDue env clock s st authorization token body intent) →
      (∃ e, answer = .error e) ∧ Unnoted st after)

/-- A disable request is answered 204 if an admin sends it with an id of the history, and
refused if not. -/
def DisableServed (env : ApiEnv) (clock : Nat → Moment StorageError) (s : EnableState)
    (st : AppState) : Prop :=
  ∀ authorization id, ∃ answer after,
    (handle env (.adminDisableService authorization id)).serve clock st = (answer, after) ∧
    (adminBears env (clock 0) st authorization = true → (∃ pair, firstId s.log pair = some id) →
      answer = .ok .noContent ∧
        Noted env s st after (.disabled id)
          ⟨"service_disable".toList, id, toRfc3339 (clock 2).last⟩) ∧
    (adminBears env (clock 0) st authorization = false ∨ (∀ pair, firstId s.log pair ≠ some id) →
      (∃ e, answer = .error e) ∧ Unnoted st after)

/-- An agent is told the services that the history leaves on, one for each identity key. -/
def DesiresServed (env : ApiEnv) (clock : Nat → Moment StorageError) (s : EnableState)
    (st : AppState) : Prop :=
  ∀ agentId authorization, agentBears env (clock 0) st agentId authorization = true →
    ∃ services,
      (handle env (.desiredServices agentId authorization)).serve clock st =
        (.ok (.desired services), st) ∧
      (services.map DesiredEnabledService.identityKey).Nodup ∧
      ∀ svc, svc ∈ services ↔
        ∃ intent, intended s.log (agentId, svc.identityKey) = some intent ∧
          firstId s.log (agentId, svc.identityKey) = some svc.id ∧
          svc = ⟨svc.id, svc.identityKey, intent.hostnames, intent.backend, intent.containerName⟩

/-- What is due in the history succeeds on the table. -/
theorem IntentHistory.exists_due_iff (history : IntentHistory env s st)
    (clock : Nat → Moment StorageError) (authorization : Option Text) (now : Int) (token : Text)
    (body : EnableServiceRequest) :
    (∃ intent, EnableDue env clock s st authorization token body intent) ↔
      ∃ response, (Controller.adminEnableService env.enable st.database.enabledServices
        (adminBears env (clock 0) st authorization) (decide (body.agentId ∈ st.store.agents.keys))
        now token body).1 = .ok response := by
  simp only [adminEnableService_isOk_iff, EnableDue, history.firstId_eq, ne_eq,
    Option.map_eq_none_iff, decide_eq_true_eq, history.mem_ids_iff, not_exists]

theorem IntentHistory.enableServed (history : IntentHistory env s st) (clean : Faultless clock) :
    EnableServed env clock s st := by
  intro authorization token body
  obtain ⟨sessions, served⟩ := @serve_adminEnable env clock st clean authorization token body
  have due := history.exists_due_iff clock authorization (clock 1).last token body
  rcases adminEnableService_cases env.enable st.database.enabledServices
      (adminBears env (clock 0) st authorization) (decide (body.agentId ∈ st.store.agents.keys))
      (clock 1).last token body with ⟨e, refused⟩ | ⟨response, t, intent, row, passed, done⟩
  · simp only [refused] at served due
    refine ⟨_, _, served, ?_, fun _ => ⟨⟨e, rfl⟩, rfl, rfl⟩⟩
    intro intent isDue
    obtain ⟨_, answered⟩ := due.mp ⟨intent, isDue⟩
    cases answered
  · simp only [passed, done.checked] at served due
    refine ⟨_, _, served, ?_, fun never => ?_⟩
    · rintro intent' ⟨-, checked, -⟩
      obtain rfl : intent = intent' := Except.ok.inj (done.checked.symm.trans checked)
      have taken : s.step env.enable (.enable (adminBears env (clock 0) st authorization)
        (clock 1).last token body) = some _ := rfl
      refine ⟨response.id, ?_, rfl, ⟨_, history.step taken rfl ?_ rfl, ?_⟩, rfl⟩
      · rw [done.answered, done.kept, history.firstId_eq]
      · simp only [history.enable_eq, passed]
        rfl
      · simp only [history.enable_eq, passed, done.checked]
    · obtain ⟨intent', isDue⟩ := due.mpr ⟨response, rfl⟩
      exact absurd isDue (never intent')

theorem IntentHistory.disableServed (history : IntentHistory env s st) (clean : Faultless clock) :
    DisableServed env clock s st := by
  intro authorization id
  obtain ⟨sessions, served⟩ := @serve_adminDisable env clock st clean authorization id
  have clears := @adminDisableService_isOk_iff st.database.enabledServices
    (adminBears env (clock 0) st authorization) (clock 1).last id
  rw [history.mem_ids_iff] at clears
  rcases adminDisableService_cases st.database.enabledServices
      (adminBears env (clock 0) st authorization) (clock 1).last id with
    ⟨e, refused⟩ | ⟨t, passed, -⟩
  · simp only [refused] at served clears
    refine ⟨_, _, served, ?_, fun _ => ⟨⟨e, rfl⟩, rfl, rfl⟩⟩
    intro bears known
    cases clears.mpr ⟨bears, known⟩
  · simp only [passed] at served clears
    obtain ⟨bears, pair, known⟩ := clears.mp trivial
    refine ⟨_, _, served, fun _ _ => ⟨rfl, ⟨?_, rfl⟩⟩, ?_⟩
    · have taken : s.step env.enable (.disable (adminBears env (clock 0) st authorization)
        (clock 1).last id) = some _ := rfl
      refine ⟨_, history.step taken rfl ?_ rfl, ?_⟩
      · simp only [history.services, passed]
        rfl
      · simp only [history.services, passed]
    · rintro (unknown | never)
      · rw [bears] at unknown
        cases unknown
      · exact absurd known (never pair)

theorem IntentHistory.desiresServed (history : IntentHistory env s st)
    (roundTrips : ∀ texts, env.json.fromText (env.json.toText texts) = some texts)
    (clean : Faultless clock) : DesiresServed env clock s st := by
  intro agentId authorization bears
  obtain ⟨nodup, desires⟩ := desiresIntended roundTrips history.recorded agentId
  refine ⟨_, serve_desiredServices clean bears, ?_, ?_⟩
  · rw [← history.services]
    exact nodup
  · rw [← history.services]
    exact desires

end Requests

section Results

variable {env : ApiEnv} {start : Int} {st₀ : AppState} {p : Serving} {s₀ : EnableState}

/-- **The intents follow one history.** Whatever requests are interleaved and whatever
fails, the table is what a history of enables and disables leaves, which only grows. A
request that nothing interrupts and in which nothing fails is answered by it: an agent is
told what the history leaves on, and an enable or disable is refused and leaves no trace,
or succeeds, as the history says, and is its next event and that of the audit trail. -/
theorem intents_follow_history
    (roundTrips : ∀ texts, env.json.fromText (env.json.toText texts) = some texts)
    (history : IntentHistory env s₀ st₀) (reached : ApiRun env (fun _ => True) start st₀ p) :
    ∃ s, IntentHistory env s p.shared ∧ s₀.log <:+ s.log ∧ ∀ clock, Faultless clock →
      DesiresServed env clock s p.shared ∧ EnableServed env clock s p.shared ∧
        DisableServed env clock s p.shared := by
  have followed : ∃ s, IntentHistory env s p.shared ∧ s₀.log <:+ s.log := by
    refine reached.invariant
      (I := fun _ st => ∃ s, IntentHistory env s st ∧ s₀.log <:+ s.log)
      ⟨s₀, history, List.suffix_refl _⟩ ?_ ?_ ?_
    · exact fun _ _ _ _ followed => followed
    · rintro _ st _ ⟨s, history, grown⟩
      exact ⟨s, ⟨history.serial, history.services, history.agents⟩, grown⟩
    · rintro _ t st access st' - - ⟨s, history, grown⟩ change
      obtain ⟨s', history', more⟩ := history.change change
      exact ⟨s', history', grown.trans more⟩
  obtain ⟨s, history, grown⟩ := followed
  exact ⟨s, history, grown, fun _ clean => ⟨history.desiresServed roundTrips clean,
    history.enableServed clean, history.disableServed clean⟩⟩

/-- Two admins enable one container at once. -/
def enabledTwice : List (Pool.Action StorageError ApiRequest) :=
  [.start 0 (.adminEnableService (some "Bearer pw".toList) "1".toList
      (enableWeb "old.internal".toList)),
    .start 1 (.adminEnableService (some "Bearer pw".toList) "2".toList
      (enableWeb "new.internal".toList)),
    .advance 0 (.at 1), .advance 1 (.at 1), .advance 1 (.at 2), .advance 0 (.at 3),
    .advance 0 (.at 3)]

/-- The container has the id of the one whose statement came first, and that id disables
it. -/
theorem intents_follow_history_twice :
    ∃ p s, ApiRun plainApi (fun _ => True) 0 twoAgents p ∧ IntentHistory plainApi s p.shared ∧
      firstId s.log ("agt_a".toList, "compose:web".toList) = some "en_2".toList ∧
      ∃ after, (handle plainApi (.adminDisableService (some "Bearer pw".toList)
          "en_2".toList)).serve (stillClock 7) p.shared = (.ok .noContent, after) ∧
        Noted plainApi s p.shared after (.disabled "en_2".toList)
          ⟨"service_disable".toList, "en_2".toList, toRfc3339 7⟩ := by
  have reached : ApiRun plainApi (fun _ => True) 0 twoAgents _ :=
    Transition.reach_of_run enabledTwice rfl
  have bare : twoAgents.database.enabledServices = .empty := rfl
  obtain ⟨s₀, before, -⟩ := intentHistory_of_empty plainApi bare
  obtain ⟨s, history, -, served⟩ :=
    intents_follow_history unquoteTexts_quoteTexts before reached
  have first := (history.firstId_eq ("agt_a".toList, "compose:web".toList)).trans
    (by decide +kernel : _ = some "en_2".toList)
  obtain ⟨-, -, disables⟩ := served (stillClock 7) fun _ => rfl
  obtain ⟨answer, after, serves, due, -⟩ := disables (some "Bearer pw".toList) "en_2".toList
  obtain ⟨answered, noted⟩ := due (by decide) ⟨_, first⟩
  rw [answered] at serves
  exact ⟨_, s, reached, history, first, after, serves, noted⟩

/-- An enable that is interrupted: its row, which has an id already, is disabled before the
handler reads the id back. It answers the id it drew, which no row has. -/
example : (Transition.run (Pool.step (handle plainApi)) ⟨0, twoAgents, .empty⟩
    (enabledTwice ++
      [.advance 1 (.at 4), .advance 1 (.at 4),
        .start 2 (.adminDisableService (some "Bearer pw".toList) "en_2".toList),
        .advance 2 (.at 5), .advance 2 (.at 5), .advance 0 (.at 6)])).any (fun p =>
      match p.tasks.find? 0 with
      | some (_, .done (.ok (.enabled response))) =>
          response.id = "en_1".toList ∧ "en_1".toList ∉ p.shared.database.enabledServices.ids
      | _ => false) = true := by
  decide +kernel

end Results

end Tailroute.Controller
