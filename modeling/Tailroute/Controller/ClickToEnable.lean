/-
# Controller.ClickToEnable — enabled services and the admin's history

An admin enables a discovered container under hostnames and a backend, and
disables it by the id the enable answered. The handler draws an id first, upserts,
and then reads the id back, since an upsert of a pair the table knows keeps the
row's old id.

`firstId` and `intended` read off a history of successful requests which id a pair
of agent and identity key got first and what its last operation left.
`enabled_services_follow_history` says that the table holds nothing else: an
agent's desired services are its intended ones, ids never change, and a refused
request leaves everything as it was.
-/
import Tailroute.Common.Backend
import Tailroute.Controller.Config
import Tailroute.Storage.EnabledServices
import Tailroute.Theory.Transition

namespace Tailroute.Controller

open Tailroute.Theory Tailroute.Common Tailroute.Storage

set_option autoImplicit false

/-! ## Handlers -/

/-- `serde_json` on lists of strings. -/
structure JsonTexts where
  toText : List Text → Text
  fromText : Text → Option (List Text)

/-- What the handlers take from outside the table. -/
structure EnableEnv where
  idna : Idna
  parseUrl : UrlParser
  json : JsonTexts
  security : SecurityConfig

/-- The loop over the requested hostnames. -/
def checkHostnames (env : EnableEnv) : List Text → Except ApiError (List Text)
  | [] => .ok []
  | h :: rest =>
      match normalizeHostname env.idna h with
      | .error e => .error (.forbidden e.display)
      | .ok n =>
          match hostnameAllowed env.security n.text with
          | .error message => .error (.forbidden message)
          | .ok _ => (checkHostnames env rest).map fun hosts => n.text :: hosts

/-- What an enable request is about, once it has passed its checks. -/
structure Intent where
  containerName : Option Text
  hostnames : List Text
  backend : Text
deriving DecidableEq

/-- The checks of `admin_enable_service`, in order. -/
def checkEnable (env : EnableEnv) (body : EnableServiceRequest) : Except ApiError Intent :=
  if body.hostnames = [] then .error (.forbidden "at least one hostname required".toList)
  else
    match checkHostnames env body.hostnames with
    | .error e => .error e
    | .ok hosts =>
        match parseBackendUrl env.parseUrl body.backend with
        | .error e => .error (.forbidden e.display)
        | .ok backend => .ok ⟨body.containerName, hosts, "http://".toList ++ backend.authority⟩

/-- The id made of a generated token. -/
def enabledId (token : Text) : Text :=
  "en_".toList ++ token.filter fun c => !(c == '+' || c == '/' || c == '=')

/-- `admin_enable_service`; `authorized` is the answer of `check_admin`, `known` says
whether the agent has a row and `token` is what `generate_token` gives. The audit
entry is left out: its result is dropped. -/
def adminEnableService (env : EnableEnv) (t : EnabledServices) (authorized known : Bool) (now : Int)
    (token : Text) (body : EnableServiceRequest) :
    Except ApiError EnableServiceResponse × EnabledServices :=
  if !authorized then (.error .unauthorized, t)
  else
    match checkEnable env body with
    | .error e => (.error e, t)
    | .ok intent =>
        let id := enabledId token
        match t.upsertEnabledService known now id body.agentId body.identityKey
            intent.containerName (env.json.toText intent.hostnames) intent.backend with
        | .error e => (.error (.storage e), t)
        | .ok t =>
            let final := (t.listEnabledForAgent body.agentId).find? fun record =>
              record.identityKey == body.identityKey
            (.ok ⟨(final.map EnabledServiceRecord.id).getD id⟩, t)

def adminDisableService (t : EnabledServices) (authorized : Bool) (now : Int) (id : Text) :
    Except ApiError Unit × EnabledServices :=
  if !authorized then (.error .unauthorized, t)
  else
    match t.setEnabledService now id false with
    | .error e => (.error (.storage e), t)
    | .ok t => (.ok (), t)

/-- One row of the answer of `desired_services`. -/
def desiredService (json : JsonTexts) (record : EnabledServiceRecord) : DesiredEnabledService :=
  ⟨record.id, record.identityKey, (json.fromText record.hostnamesJson).getD [], record.backend,
    record.containerName⟩

/-- `desired_services`, once the agent's token is verified. -/
def desiredServices (json : JsonTexts) (t : EnabledServices) (agentId : Text) :
    List DesiredEnabledService :=
  (t.listEnabledForAgent agentId).map (desiredService json)

/-! ## Histories -/

/-- A request that succeeded, with the id an enable answered. -/
inductive EnableEvent where
  | enabled (pair : Text × Text) (id : Text) (intent : Intent)
  | disabled (id : Text)
deriving DecidableEq

/-- The id the first enable of a pair answered; histories are newest first. -/
def firstId : List EnableEvent → Text × Text → Option Text
  | [], _ => none
  | .enabled pair id _ :: past, p => (firstId past p).or (if pair = p then some id else none)
  | .disabled _ :: past, p => firstId past p

/-- What the last operation on a pair left: an enable its intent, a disable of the
pair's id nothing. -/
def intended : List EnableEvent → Text × Text → Option Intent
  | [], _ => none
  | .enabled pair _ intent :: past, p => if pair = p then some intent else intended past p
  | .disabled id :: past, p => if firstId past p = some id then none else intended past p

/-! ## Runs -/

/-- The table, the agents it may refer to, and what the program does not keep: the
ids drawn so far and the history. -/
structure EnableState where
  agents : List Text
  services : EnabledServices
  drawn : List Text
  log : List EnableEvent

def EnableState.init : EnableState := ⟨[], .empty, [], []⟩

inductive EnableAction where
  | enroll (agentId : Text)
  | enable (authorized : Bool) (now : Int) (token : Text) (body : EnableServiceRequest)
  | disable (authorized : Bool) (now : Int) (id : Text)
deriving DecidableEq

namespace EnableState

/-- The answer of an enable request and the table after it. -/
def enable (env : EnableEnv) (s : EnableState) (authorized : Bool) (now : Int) (token : Text)
    (body : EnableServiceRequest) : Except ApiError EnableServiceResponse × EnabledServices :=
  adminEnableService env s.services authorized (s.agents.contains body.agentId) now token body

/-- One request, served to its end. -/
def step (env : EnableEnv) (s : EnableState) : EnableAction → Option EnableState
  | .enroll agentId => some { s with agents := agentId :: s.agents }
  | .enable authorized now token body =>
      let served := s.enable env authorized now token body
      some { s with
        services := served.2
        drawn := enabledId token :: s.drawn
        log := match served.1, checkEnable env body with
          | .ok response, .ok intent =>
              .enabled (body.agentId, body.identityKey) response.id intent :: s.log
          | _, _ => s.log }
  | .disable authorized now id =>
      let served := adminDisableService s.services authorized now id
      some { s with
        services := served.2
        log := match served.1 with
          | .ok _ => .disabled id :: s.log
          | .error _ => s.log }

end EnableState

/-- Generated ids are distinct. -/
def UnrepeatedIds (s : EnableState) : EnableAction → Prop
  | .enable _ _ token _ => enabledId token ∉ s.drawn
  | _ => True

instance (s : EnableState) (a : EnableAction) : Decidable (UnrepeatedIds s a) :=
  match a with
  | .enroll _ => isTrue trivial
  | .enable _ _ _ _ => inferInstanceAs (Decidable (_ ∉ _))
  | .disable _ _ _ => isTrue trivial

abbrev EnableRun (env : EnableEnv) : EnableState → Prop :=
  Transition.Reach (EnableState.step env) UnrepeatedIds EnableState.init

/-! ## What a request does -/

/-- What an enable did to the table when it answered `response`: it passed its
checks, and the pair has an enabled row with the values asked for, under the id it
had or else the new one. -/
structure Enabled (env : EnableEnv) (t t' : EnabledServices) (token : Text)
    (body : EnableServiceRequest) (response : EnableServiceResponse) (intent : Intent)
    (row : EnabledRow) : Prop where
  checked : checkEnable env body = .ok intent
  found : t'.rows.find? (body.agentId, body.identityKey) = some row
  kept : row.id = ((t.rows.find? (body.agentId, body.identityKey)).map EnabledRow.id).getD
    (enabledId token)
  answered : response.id = row.id
  enabled : row.enabled = true
  containerName : row.containerName = intent.containerName
  hostnames : row.hostnamesJson = env.json.toText intent.hostnames
  backend : row.backend = intent.backend
  others : ∀ pair, pair ≠ (body.agentId, body.identityKey) →
    t'.rows.find? pair = t.rows.find? pair

/-- An enable is refused and changes nothing, or enables its pair. -/
theorem adminEnableService_cases (env : EnableEnv) (t : EnabledServices) (authorized known : Bool)
    (now : Int) (token : Text) (body : EnableServiceRequest) :
    (∃ e, adminEnableService env t authorized known now token body = (.error e, t)) ∨
      ∃ response t' intent row,
        adminEnableService env t authorized known now token body = (.ok response, t') ∧
          Enabled env t t' token body response intent row := by
  cases admitted : authorized with
  | false => exact Or.inl ⟨_, rfl⟩
  | true =>
      cases checked : checkEnable env body with
      | error e => exact Or.inl ⟨e, by simp [adminEnableService, checked]⟩
      | ok intent =>
          cases stored : t.upsertEnabledService known now (enabledId token) body.agentId
              body.identityKey intent.containerName (env.json.toText intent.hostnames)
              intent.backend with
          | error e => exact Or.inl ⟨.storage e, by simp [adminEnableService, checked, stored]⟩
          | ok t' =>
              obtain ⟨⟨row, found, same, enabled, name, json, backend⟩, others⟩ :=
                EnabledServices.find?_upsertEnabledService stored
              refine Or.inr ⟨⟨row.id⟩, t', intent, row, ?_,
                checked, found, same, rfl, enabled, name, json, backend, others⟩
              simp [adminEnableService, checked, stored,
                EnabledServices.find?_listEnabledForAgent found enabled,
                EnabledServices.rowToEnabled]

/-- An enable succeeds exactly if an admin sends it, it passes its checks, and its row is
there or can be inserted. -/
theorem adminEnableService_isOk_iff {env : EnableEnv} {t : EnabledServices}
    {authorized known : Bool} {now : Int} {token : Text} {body : EnableServiceRequest} :
    (∃ response, (adminEnableService env t authorized known now token body).1 = .ok response) ↔
      ∃ intent, authorized = true ∧ checkEnable env body = .ok intent ∧
        (t.rows.find? (body.agentId, body.identityKey) ≠ none ∨
          known = true ∧ enabledId token ∉ t.ids) := by
  unfold adminEnableService
  cases authorized with
  | false => simp
  | true =>
      cases checkEnable env body with
      | error e => simp
      | ok intent =>
          have stores := t.exists_upsertEnabledService_iff known now (enabledId token)
            body.agentId body.identityKey intent.containerName (env.json.toText intent.hostnames)
            intent.backend
          simp only [Bool.not_true, Bool.false_eq_true, if_false, true_and, Except.ok.injEq,
            exists_eq_left', ← stores]
          cases t.upsertEnabledService known now (enabledId token) body.agentId
              body.identityKey intent.containerName (env.json.toText intent.hostnames)
              intent.backend <;> simp

/-- A disable is refused and changes nothing, or clears the flag of the row with
the id. -/
theorem adminDisableService_cases (t : EnabledServices) (authorized : Bool) (now : Int)
    (id : Text) :
    (∃ e, adminDisableService t authorized now id = (.error e, t)) ∨
      ∃ t', adminDisableService t authorized now id = (.ok (), t') ∧
        ∀ pair, t'.rows.find? pair = (t.rows.find? pair).map fun row =>
          if row.id = id then { row with enabled := false, updatedAt := toRfc3339 now }
          else row := by
  cases admitted : authorized with
  | false => exact Or.inl ⟨_, rfl⟩
  | true =>
      cases stored : t.setEnabledService now id false with
      | error e => exact Or.inl ⟨.storage e, by simp [adminDisableService, stored]⟩
      | ok t' =>
          exact Or.inr ⟨t', by simp [adminDisableService, stored],
            EnabledServices.find?_setEnabledService stored⟩

theorem adminDisableService_isOk_iff {t : EnabledServices} {authorized : Bool} {now : Int}
    {id : Text} :
    (adminDisableService t authorized now id).1 = .ok () ↔ authorized = true ∧ id ∈ t.ids := by
  unfold adminDisableService EnabledServices.setEnabledService
  cases authorized with
  | false => simp
  | true => by_cases stored : id ∈ t.ids <;> simp [stored]

/-- What one request can do to the table and the history. -/
inductive EnableMove (env : EnableEnv) (s : EnableState) : EnableState → Prop
  | kept (agents drawn : List Text) :
      EnableMove env s { s with agents := agents, drawn := drawn }
  | enabled (token : Text) (body : EnableServiceRequest) (response : EnableServiceResponse)
      (intent : Intent) (row : EnabledRow) (t : EnabledServices) (drawn : List Text)
      (done : Enabled env s.services t token body response intent row) :
      EnableMove env s { s with
        services := t
        drawn := drawn
        log := .enabled (body.agentId, body.identityKey) row.id intent :: s.log }
  | disabled (now : Int) (id : Text) (t : EnabledServices)
      (done : ∀ pair, t.rows.find? pair = (s.services.rows.find? pair).map fun row =>
        if row.id = id then { row with enabled := false, updatedAt := toRfc3339 now } else row) :
      EnableMove env s { s with services := t, log := .disabled id :: s.log }

theorem enableMove {env : EnableEnv} {s s' : EnableState} {a : EnableAction}
    (taken : s.step env a = some s') : EnableMove env s s' := by
  cases a with
  | enroll agentId =>
      cases taken
      exact .kept _ _
  | enable authorized now token body =>
      simp only [EnableState.step, Option.some.injEq] at taken
      rcases adminEnableService_cases env s.services authorized (s.agents.contains body.agentId) now
          token body with ⟨e, served⟩ | ⟨response, t, intent, row, served, done⟩
      · simp only [EnableState.enable, served] at taken
        rw [← taken]
        exact .kept _ _
      · simp only [EnableState.enable, served, done.checked, done.answered] at taken
        rw [← taken]
        exact .enabled token body response intent row t _ done
  | disable authorized now id =>
      simp only [EnableState.step, Option.some.injEq] at taken
      rcases adminDisableService_cases s.services authorized now id with
        ⟨e, served⟩ | ⟨t, served, done⟩
      · simp only [served] at taken
        rw [← taken]
        exact .kept _ _
      · simp only [served] at taken
        rw [← taken]
        exact .disabled now id t done

/-! ## The table follows the history -/

/-- Each pair's row against the history. -/
structure Recorded (env : EnableEnv) (s : EnableState) : Prop where
  absent : ∀ pair, s.services.rows.find? pair = none → firstId s.log pair = none
  ids : ∀ pair row, s.services.rows.find? pair = some row → firstId s.log pair = some row.id
  off : ∀ pair row, s.services.rows.find? pair = some row → row.enabled = false →
    intended s.log pair = none
  on : ∀ pair row, s.services.rows.find? pair = some row → row.enabled = true →
    ∃ hosts, row.hostnamesJson = env.json.toText hosts ∧
      intended s.log pair = some ⟨row.containerName, hosts, row.backend⟩

section Step

variable {env : EnableEnv} {s s' : EnableState}

theorem Recorded.enabled (recorded : Recorded env s) {token : Text} {body : EnableServiceRequest}
    {response : EnableServiceResponse} {intent : Intent} {row : EnabledRow} {t : EnabledServices}
    (drawn : List Text) (done : Enabled env s.services t token body response intent row) :
    Recorded env { s with
      services := t
      drawn := drawn
      log := .enabled (body.agentId, body.identityKey) row.id intent :: s.log } := by
  refine ⟨?_, ?_, ?_, ?_⟩
  · intro pair missing
    by_cases same : pair = (body.agentId, body.identityKey)
    · subst same
      cases done.found.symm.trans missing
    · have old : s.services.rows.find? pair = none := (done.others pair same).symm.trans missing
      simp [firstId, recorded.absent pair old, Ne.symm same]
  · intro pair row' found
    by_cases same : pair = (body.agentId, body.identityKey)
    · subst same
      obtain rfl : row = row' := Option.some.inj (done.found.symm.trans found)
      have kept := done.kept
      cases before : s.services.rows.find? (body.agentId, body.identityKey) with
      | none => simp [firstId, recorded.absent _ before]
      | some old =>
          rw [before] at kept
          simp only [firstId, recorded.ids _ old before]
          exact congrArg some kept.symm
    · have old : s.services.rows.find? pair = some row' := (done.others pair same).symm.trans found
      simp [firstId, recorded.ids pair row' old]
  · intro pair row' found disabled
    by_cases same : pair = (body.agentId, body.identityKey)
    · subst same
      obtain rfl : row = row' := Option.some.inj (done.found.symm.trans found)
      rw [done.enabled] at disabled
      cases disabled
    · rw [intended, if_neg (Ne.symm same)]
      exact recorded.off pair row' ((done.others pair same).symm.trans found) disabled
  · intro pair row' found enabled
    by_cases same : pair = (body.agentId, body.identityKey)
    · subst same
      obtain rfl : row = row' := Option.some.inj (done.found.symm.trans found)
      refine ⟨intent.hostnames, done.hostnames, ?_⟩
      rw [intended, if_pos rfl, done.containerName, done.backend]
    · rw [intended, if_neg (Ne.symm same)]
      exact recorded.on pair row' ((done.others pair same).symm.trans found) enabled

theorem Recorded.disabled (recorded : Recorded env s) {now : Int} {id : Text} {t : EnabledServices}
    (done : ∀ pair, t.rows.find? pair = (s.services.rows.find? pair).map fun row =>
      if row.id = id then { row with enabled := false, updatedAt := toRfc3339 now } else row) :
    Recorded env { s with services := t, log := .disabled id :: s.log } := by
  have before : ∀ pair row, t.rows.find? pair = some row →
      ∃ old, s.services.rows.find? pair = some old ∧ row = if old.id = id then
        { old with enabled := false, updatedAt := toRfc3339 now } else old := by
    intro pair row found
    rw [done pair] at found
    obtain ⟨old, stored, rfl⟩ := Option.map_eq_some_iff.mp found
    exact ⟨old, stored, rfl⟩
  refine ⟨?_, ?_, ?_, ?_⟩
  · intro pair missing
    rw [done pair, Option.map_eq_none_iff] at missing
    exact recorded.absent pair missing
  · intro pair row found
    obtain ⟨old, stored, rfl⟩ := before pair row found
    rw [firstId, recorded.ids pair old stored]
    split <;> rfl
  · intro pair row found disabled
    obtain ⟨old, stored, rfl⟩ := before pair row found
    rw [intended, recorded.ids pair old stored]
    by_cases same : old.id = id
    · rw [if_pos (congrArg some same)]
    · rw [if_neg same] at disabled
      rw [if_neg (fun both => same (Option.some.inj both))]
      exact recorded.off pair old stored disabled
  · intro pair row found enabled
    obtain ⟨old, stored, rfl⟩ := before pair row found
    by_cases same : old.id = id
    · rw [if_pos same] at enabled
      cases enabled
    · rw [if_neg same] at enabled ⊢
      rw [intended, recorded.ids pair old stored,
        if_neg (fun both => same (Option.some.inj both))]
      exact recorded.on pair old stored enabled

/-- Each row is recorded, whatever ids are drawn. -/
theorem recorded {drawn : EnableState → EnableAction → Prop}
    (reached : Transition.Reach (EnableState.step env) drawn .init s) : Recorded env s := by
  refine reached.invariant (I := Recorded env) ?_ ?_
  · refine ⟨fun _ _ => rfl, ?_, ?_, ?_⟩
    · intro pair row found
      cases found
    · intro pair row found
      cases found
    · intro pair row found
      cases found
  · intro s a s' _ recorded _ taken
    cases enableMove taken with
    | kept agents drawn => exact ⟨recorded.absent, recorded.ids, recorded.off, recorded.on⟩
    | enabled token body response intent row t drawn done => exact recorded.enabled drawn done
    | disabled now id t done => exact recorded.disabled done

end Step

/-! ## The admin's history is all there is -/

section Results

variable (env : EnableEnv) (s : EnableState)

/-- An agent's desired services are its intended ones, one for each identity key,
under the pair's first id. -/
def DesiresIntended : Prop :=
  ∀ agent, ((desiredServices env.json s.services agent).map
      DesiredEnabledService.identityKey).Nodup ∧
    ∀ svc, svc ∈ desiredServices env.json s.services agent ↔
      ∃ intent, intended s.log (agent, svc.identityKey) = some intent ∧
        firstId s.log (agent, svc.identityKey) = some svc.id ∧
        svc = ⟨svc.id, svc.identityKey, intent.hostnames, intent.backend, intent.containerName⟩

/-- A successful enable records what it was asked for, normalized, and answers the
id of the pair's first enable. -/
def EnableAnswersFirstId : Prop :=
  ∀ authorized now token body response, (s.enable env authorized now token body).1 = .ok response →
    ∃ s' intent, s.step env (.enable authorized now token body) = some s' ∧
      checkEnable env body = .ok intent ∧
      s'.log = .enabled (body.agentId, body.identityKey) response.id intent :: s.log ∧
      firstId s'.log (body.agentId, body.identityKey) = some response.id ∧
      ∀ first, firstId s.log (body.agentId, body.identityKey) = some first → response.id = first

/-- Disabling a pair's id removes the pair and changes no other. -/
def DisableRemovesPair : Prop :=
  ∀ now id agent key, firstId s.log (agent, key) = some id →
    ∃ s', s.step env (.disable true now id) = some s' ∧ s'.log = .disabled id :: s.log ∧
      (∀ svc ∈ desiredServices env.json s'.services agent, svc.identityKey ≠ key) ∧
      ∀ agent' svc, (agent', svc.identityKey) ≠ (agent, key) →
        (svc ∈ desiredServices env.json s'.services agent' ↔
          svc ∈ desiredServices env.json s.services agent')

/-- A request that fails a check is refused, and a refused one changes nothing. -/
def RefusalChangesNothing : Prop :=
  (∀ now token body e, checkEnable env body = .error e →
    (s.enable env true now token body).1 = .error e) ∧
  ∀ authorized now token body e, (s.enable env authorized now token body).1 = .error e →
    ∃ s', s.step env (.enable authorized now token body) = some s' ∧
      s'.services = s.services ∧ s'.log = s.log

variable {env s}

theorem desiresIntended
    (roundTrips : ∀ texts, env.json.fromText (env.json.toText texts) = some texts)
    (recorded : Recorded env s) : DesiresIntended env s := by
  intro agent
  constructor
  · have nodup := s.services.listEnabledForAgent_nodup agent
    rw [desiredServices, List.map_map]
    exact nodup
  · intro svc
    simp only [desiredServices, List.mem_map, EnabledServices.mem_listEnabledForAgent]
    constructor
    · rintro ⟨record, ⟨row, found, enabled, same⟩, rfl⟩
      obtain ⟨hosts, json, meant⟩ := recorded.on _ row found enabled
      refine ⟨_, meant, ?_, ?_⟩
      · rw [same]
        exact recorded.ids _ row found
      · rw [same]
        simp [desiredService, EnabledServices.rowToEnabled, json, roundTrips]
    · rintro ⟨intent, meant, first, same⟩
      cases found : s.services.rows.find? (agent, svc.identityKey) with
      | none =>
          rw [recorded.absent _ found] at first
          cases first
      | some row =>
          have id := recorded.ids _ row found
          rw [first] at id
          cases enabled : row.enabled with
          | false =>
              rw [recorded.off _ row found enabled] at meant
              cases meant
          | true =>
              obtain ⟨hosts, json, meant'⟩ := recorded.on _ row found enabled
              rw [meant] at meant'
              cases meant'
              refine ⟨EnabledServices.rowToEnabled (agent, svc.identityKey) row,
                ⟨row, found, enabled, rfl⟩, ?_⟩
              rw [same]
              simp [desiredService, EnabledServices.rowToEnabled, json, roundTrips,
                Option.some.inj id]

theorem enableAnswersFirstId (recorded : Recorded env s) : EnableAnswersFirstId env s := by
  intro authorized now token body response answered
  rcases adminEnableService_cases env s.services authorized (s.agents.contains body.agentId) now
      token body with ⟨e, served⟩ | ⟨response', t, intent, row, served, done⟩
  · rw [EnableState.enable, served] at answered
    cases answered
  · rw [EnableState.enable, served] at answered
    cases answered
    have after := recorded.enabled (enabledId token :: s.drawn) done
    refine ⟨_, intent, rfl, done.checked, ?_, ?_, ?_⟩
    · simp only [EnableState.enable, served, done.checked]
    · simp only [EnableState.enable, served, done.checked, done.answered]
      exact after.ids _ row done.found
    · intro first known
      rw [done.answered, done.kept]
      cases before : s.services.rows.find? (body.agentId, body.identityKey) with
      | none =>
          rw [recorded.absent _ before] at known
          cases known
      | some old =>
          rw [recorded.ids _ old before] at known
          exact Option.some.inj known

theorem disableRemovesPair
    (roundTrips : ∀ texts, env.json.fromText (env.json.toText texts) = some texts)
    (recorded : Recorded env s) : DisableRemovesPair env s := by
  intro now id agent key first
  obtain ⟨row, found, same⟩ : ∃ row, s.services.rows.find? (agent, key) = some row ∧
      row.id = id := by
    cases found : s.services.rows.find? (agent, key) with
    | none =>
        rw [recorded.absent _ found] at first
        cases first
    | some row =>
        rw [recorded.ids _ row found] at first
        exact ⟨row, rfl, Option.some.inj first⟩
  have stored : id ∈ s.services.ids := EnabledServices.mem_ids.mpr ⟨_, row, found, same⟩
  rcases adminDisableService_cases s.services true now id with ⟨e, served⟩ | ⟨t, served, done⟩
  · simp [adminDisableService, EnabledServices.setEnabledService, stored] at served
  have before := desiresIntended roundTrips recorded
  have after := desiresIntended roundTrips (recorded.disabled done)
  refine ⟨{ s with services := t, log := .disabled id :: s.log }, ?_, rfl, ?_, ?_⟩
  · simp only [EnableState.step, served]
  · rintro svc listed rfl
    obtain ⟨intent, meant, -⟩ := ((after agent).2 svc).mp listed
    rw [intended, if_pos first] at meant
    cases meant
  · intro agent' svc other
    -- the id belongs to one pair, so the other pairs are not what was disabled
    have unnamed : firstId s.log (agent', svc.identityKey) ≠ some id := by
      intro named
      cases found' : s.services.rows.find? (agent', svc.identityKey) with
      | none =>
          rw [recorded.absent _ found'] at named
          cases named
      | some row' =>
          rw [recorded.ids _ row' found'] at named
          exact other (s.services.pair_unique found' found
            ((Option.some.inj named).trans same.symm))
    rw [(after agent').2 svc, (before agent').2 svc]
    simp only [intended, firstId, if_neg unnamed]

theorem refusalChangesNothing : RefusalChangesNothing env s := by
  constructor
  · intro now token body e unchecked
    simp [EnableState.enable, adminEnableService, unchecked]
  · intro authorized now token body e refused
    rcases adminEnableService_cases env s.services authorized (s.agents.contains body.agentId) now
        token body with ⟨e', served⟩ | ⟨response, t, intent, row, served, -⟩
    · refine ⟨_, rfl, ?_, ?_⟩ <;> simp only [EnableState.enable, served]
    · rw [EnableState.enable, served] at refused
      cases refused

/-- **Click-to-enable state is the admin's history.** In every run of enable and
disable requests the four hold at once. -/
theorem enabled_services_follow_history
    (roundTrips : ∀ texts, env.json.fromText (env.json.toText texts) = some texts)
    (reached : EnableRun env s) :
    DesiresIntended env s ∧ EnableAnswersFirstId env s ∧ DisableRemovesPair env s ∧
      RefusalChangesNothing env s :=
  ⟨desiresIntended roundTrips (recorded reached), enableAnswersFirstId (recorded reached),
    disableRemovesPair roundTrips (recorded reached), refusalChangesNothing⟩

end Results

/-! ## Disabled and enabled again -/

/-- Each character of a text behind a quote, each text closed by a comma. -/
def quoteTexts (texts : List Text) : Text :=
  texts.flatMap fun text => (text.flatMap fun c => ['"', c]) ++ [',']

/-- Reads them back; `quoted` is set behind a quote. -/
def unquoteTexts (quoted : Bool) (word : Text) : Text → Option (List Text)
  | [] => if !quoted && word.isEmpty then some [] else none
  | c :: rest =>
      if quoted then unquoteTexts false (word ++ [c]) rest
      else if c = '"' then unquoteTexts true word rest
      else (unquoteTexts false [] rest).map fun texts => word :: texts

theorem unquoteTexts_word (word text rest : Text) :
    unquoteTexts false word ((text.flatMap fun c => ['"', c]) ++ rest) =
      unquoteTexts false (word ++ text) rest := by
  induction text generalizing word with
  | nil => simp
  | cons c text ih => simpa [unquoteTexts] using ih (word ++ [c])

theorem unquoteTexts_quoteTexts (texts : List Text) :
    unquoteTexts false [] (quoteTexts texts) = some texts := by
  induction texts with
  | nil => rfl
  | cons text texts ih =>
      have later : quoteTexts (text :: texts) =
          (text.flatMap fun c => ['"', c]) ++ (',' :: quoteTexts texts) := by
        simp [quoteTexts]
      rw [later, unquoteTexts_word]
      simp [unquoteTexts, ih]

/-- No policy, ASCII names and plain URLs. -/
def plainEnable : EnableEnv :=
  ⟨asciiIdna, httpUrl, ⟨quoteTexts, unquoteTexts false []⟩, ⟨[], []⟩⟩

def enableWeb (hostname : Text) : EnableServiceRequest :=
  ⟨"agt_a".toList, "compose:web".toList, some "web".toList, [hostname], "http://10.0.0.1:80".toList⟩

/-- A pair that was enabled, disabled and enabled again answers its first id and
stands for the last request. -/
theorem enabled_services_reenabled :
    ∃ s, EnableRun plainEnable s ∧
      firstId s.log ("agt_a".toList, "compose:web".toList) = some "en_1".toList ∧
      desiredServices plainEnable.json s.services "agt_a".toList =
        [⟨"en_1".toList, "compose:web".toList, ["new.internal".toList],
          "http://10.0.0.1:80".toList, some "web".toList⟩] ∧
      DesiresIntended plainEnable s ∧ EnableAnswersFirstId plainEnable s ∧
      DisableRemovesPair plainEnable s ∧ RefusalChangesNothing plainEnable s := by
  have reached : EnableRun plainEnable _ := Transition.reach_of_run
    [.enroll "agt_a".toList, .enable true 0 "1".toList (enableWeb "old.internal".toList),
      .disable true 1 "en_1".toList, .enable true 2 "2".toList (enableWeb " New.internal".toList)]
    rfl
  exact ⟨_, reached, by decide +kernel, by decide +kernel,
    enabled_services_follow_history unquoteTexts_quoteTexts reached⟩

end Tailroute.Controller
