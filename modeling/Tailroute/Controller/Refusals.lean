/-
# Controller.Refusals — when a request is answered 401

`unauthorized_iff`: 401 is answered for a missing credential or a failed check, and then
nothing has been written. A handler behind its check is `Proper`: it answers anything but
401, whatever it meets.
-/
import Tailroute.Controller.Access

namespace Tailroute.Controller

open Tailroute.Theory Tailroute.Common Tailroute.Storage Tailroute.Dns

set_option autoImplicit false

variable {env : ApiEnv}

/-- Others may do anything. -/
def anyContract : Contract StorageError AppState where
  rely := fun _ _ => True
  guarantee := fun _ _ _ => True
  trans := fun _ _ => trivial
  idle := fun _ _ => trivial
  relies := fun _ => trivial

/-- The handler does not answer 401, whatever the others do. -/
def Proper (h : ApiHandler) : Prop :=
  ∀ st, h.Obeys anyContract (fun _ _ => True) (fun a => statusOf a ≠ 401) st

theorem Proper.serve {h : ApiHandler} (proper : Proper h) (clock : Nat → Moment StorageError)
    (st : AppState) : statusOf (h.serve clock st).1 ≠ 401 :=
  (proper st).serve (fun _ _ => trivial) clock

theorem proper_answerWith (a : Answer) : Proper (answerWith a) := by
  intro _ same
  cases a <;> cases same

theorem proper_refuseWith {e : ApiError} (other : e ≠ .unauthorized) : Proper (refuseWith e) := by
  intro _ same
  cases e with
  | unauthorized => exact other rfl
  | forbidden => cases same
  | storage => cases same

theorem proper_read {rest : Moment StorageError → AppState → ApiHandler}
    (follows : ∀ t st, Proper (rest t st)) : Proper (.read rest) :=
  fun _ => Handler.obeys_read fun t st _ _ => follows t st st

theorem proper_step {write : Moment StorageError → AppState → AppState}
    {rest : Moment StorageError → AppState → ApiHandler} (follows : ∀ t st, Proper (rest t st)) :
    Proper (.step write rest) :=
  fun _ => Handler.obeys_step fun t st _ _ => ⟨trivial, follows t st _⟩

theorem proper_selectThen {next : Moment StorageError → AppState → ApiHandler}
    (follows : ∀ t st, Proper (next t st)) : Proper (selectThen next) := by
  apply proper_read
  intro t st
  split
  · exact proper_refuseWith (by simp)
  · exact follows t st

theorem proper_writeThen {write : Moment StorageError → AppState → Except StorageError AppState}
    {next : ApiHandler} (follows : Proper next) : Proper (writeThen write next) := by
  apply proper_step
  intro t st
  split
  · exact follows
  · exact proper_refuseWith (by simp)

theorem proper_writeAnyway {write : Moment StorageError → AppState → AppState} {next : ApiHandler}
    (follows : Proper next) : Proper (writeAnyway write next) :=
  proper_step fun _ _ => follows

theorem proper_refreshThen (a : Answer) : Proper (refreshThen env a) :=
  proper_selectThen fun _ _ => proper_step fun _ _ => proper_answerWith a

theorem proper_checkHostnames {env : EnableEnv} {hosts : List Text} {e : ApiError}
    (failed : checkHostnames env hosts = .error e) : e ≠ .unauthorized := by
  induction hosts with
  | nil => cases failed
  | cons h rest ih =>
      unfold checkHostnames at failed
      split at failed
      · cases failed
        simp
      · split at failed
        · cases failed
          simp
        · cases inner : checkHostnames env rest with
          | error e' =>
              rw [inner] at failed
              cases failed
              exact ih inner
          | ok hosts =>
              rw [inner] at failed
              cases failed

theorem proper_checkEnable {body : EnableServiceRequest} {e : ApiError}
    (failed : checkEnable env.enable body = .error e) : e ≠ .unauthorized := by
  unfold checkEnable at failed
  split at failed
  · cases failed
    simp
  · split at failed
    · rename_i refused
      cases failed
      exact proper_checkHostnames refused
    · split at failed
      · cases failed
        simp
      · cases failed

/-- Nothing but sessions that had expired is gone. -/
structure Untouched (now : Int) (st st' : AppState) : Prop where
  same : st' = { st with sessions := st'.sessions }
  kept : ∀ token exp, st'.sessions.find? token = some exp → st.sessions.find? token = some exp
  expired : ∀ token exp, st.sessions.find? token = some exp →
    st'.sessions.find? token = some exp ∨ exp ≤ now

theorem Untouched.refl (now : Int) (st : AppState) : Untouched now st st :=
  ⟨rfl, fun _ _ found => found, fun _ _ found => Or.inl found⟩

/-- A store failure in the check is answered as a wrong credential. -/
def ApiRequest.checkFails (clock : Nat → Moment StorageError) (r : ApiRequest) : Bool :=
  match r.access with
  | .agent _ => (clock 0).fault.isSome
  | .enrollment => (clock 0).fault.isSome || (clock 1).fault.isSome
  | _ => false

/-- A handler answers 401 exactly if the check says so, and then it has written nothing. -/
def RefusesIff (h : ApiHandler) (clock : Nat → Moment StorageError) (st : AppState)
    (refused : Prop) : Prop :=
  (statusOf (h.serve clock st).1 = 401 ↔ refused) ∧
    (refused → Untouched (clock 0).last st (h.serve clock st).2)

theorem refusesIff_proper {h : ApiHandler} (proper : Proper h)
    (clock : Nat → Moment StorageError) (st : AppState) {refused : Prop} (never : ¬refused) :
    RefusesIff h clock st refused :=
  ⟨iff_of_false (proper.serve clock st) never, fun refused => absurd refused never⟩

theorem refusesIff_checkAdmin {next : ApiHandler} (proper : Proper next)
    (authorization : Option Text) (clock : Nat → Moment StorageError) (st : AppState) :
    RefusesIff (checkAdmin env authorization next) clock st
      (((bearerToken authorization).any fun token =>
        Access.admin.admits env (clock 0) st token) = false) := by
  unfold RefusesIff checkAdmin
  cases bearerToken authorization with
  | none => exact ⟨iff_of_true rfl rfl, fun _ => .refl _ st⟩
  | some token =>
      rw [Option.any_some, Access.admits, Handler.serve_step]
      cases good : (adminAuthorized env.admin st.sessions token (clock 0).first (clock 0).last).1 with
      | true => exact ⟨iff_of_false (proper.serve _ _) (by simp), fun bad => by cases bad⟩
      | false =>
          refine ⟨iff_of_true rfl rfl, fun _ => ⟨rfl, ?_, ?_⟩⟩
          · exact fun other exp => (SessionStore.find?_valid (clock 0).ordered).1
          · exact fun other exp => (SessionStore.find?_valid (clock 0).ordered).2

theorem refusesIff_checkAgent {next : ApiHandler} (proper : Proper next) (agentId : Text)
    (authorization : Option Text) (clock : Nat → Moment StorageError) (st : AppState) :
    RefusesIff (checkAgent env agentId authorization next) clock st
      (((bearerToken authorization).any fun token =>
        (Access.agent agentId).admits env (clock 0) st token) = false ∨
          (clock 0).fault.isSome = true) := by
  unfold RefusesIff checkAgent
  cases bearerToken authorization with
  | none => exact ⟨iff_of_true rfl (Or.inl rfl), fun _ => .refl _ st⟩
  | some token =>
      simp only [Option.any_some, Access.admits, verifyThen, Handler.serve_read]
      cases failed : (clock 0).fault with
      | some e => exact ⟨iff_of_true rfl (Or.inr rfl), fun _ => .refl _ st⟩
      | none =>
          cases verified : st.store.verifyAgentToken env.verifyToken agentId token with
          | error e => exact ⟨iff_of_true rfl (Or.inl rfl), fun _ => .refl _ st⟩
          | ok _ =>
              have never : ¬((Except.ok () : Except StorageError Unit).isOk = false ∨
                  (none : Option StorageError).isSome = true) := by decide
              exact ⟨iff_of_false (proper.serve _ _) never, fun bad => absurd bad never⟩

theorem refusesIff_enroll (authorization : Option Text) (agent : NewAgent)
    (clock : Nat → Moment StorageError) (st : AppState) :
    RefusesIff (enrollHandler env authorization agent) clock st
      (((bearerToken authorization).any fun token =>
        Access.enrollment.admits env (clock 0) st token) = false ∨
          ((clock 0).fault.isSome || (clock 1).fault.isSome) = true) := by
  unfold RefusesIff enrollHandler
  cases bearerToken authorization with
  | none => exact ⟨iff_of_true rfl (Or.inl rfl), fun _ => .refl _ st⟩
  | some token =>
      simp only [Option.any_some, Access.admits, selectTokenThen, Handler.serve_read]
      cases failed : (clock 0).fault with
      | some e => exact ⟨iff_of_true rfl (Or.inr rfl), fun _ => .refl _ st⟩
      | none =>
          cases matched : st.store.matchingToken env.verifyToken token with
          | none => exact ⟨iff_of_true rfl (Or.inl rfl), fun _ => .refl _ st⟩
          | some hash =>
              simp only [markTokenThen, Handler.serve_step, Nat.zero_add]
              cases marked : (clock 1).fault with
              | some e => exact ⟨iff_of_true rfl (Or.inr rfl), fun _ => .refl _ st⟩
              | none =>
                  have never : ¬((some hash).isSome = false ∨
                      ((none : Option StorageError).isSome || (none : Option StorageError).isSome) =
                        true) := by simp
                  have proper : Proper (enrollAgentThen env agent) :=
                    proper_writeThen (proper_answerWith _)
                  exact ⟨iff_of_false (proper.serve _ _) never, fun bad => absurd bad never⟩

theorem proper_allowedThen (agentId : Text) (entries : List RouteEntry) :
    Proper (allowedThen env agentId entries) := by
  unfold allowedThen
  split
  · exact proper_refuseWith (by simp)
  · apply proper_selectThen
    intro t st
    split
    · exact proper_refuseWith (by simp)
    · apply proper_step
      intro t' st'
      split
      · exact proper_refuseWith (by simp)
      · exact proper_refreshThen _

/-- **401 means a bad credential and no effect.** A request is answered 401 exactly if its
credential is not good or the store fails while it is checked, and then no table, audit
event or DNS record has changed; of the sessions only expired ones are gone. -/
theorem unauthorized_iff (env : ApiEnv) (r : ApiRequest) (clock : Nat → Moment StorageError)
    (st : AppState) :
    RefusesIff (handle env r) clock st
      (r.authorized env (clock 0) st = false ∨ r.checkFails clock = true) := by
  -- without a checked credential there is nothing to refuse
  have unchecked : ∀ h, Proper h → RefusesIff h clock st (true = false ∨ false = true) :=
    fun h proper => refusesIff_proper proper clock st (by simp)
  have admin : ∀ next authorization, Proper next →
      RefusesIff (checkAdmin env authorization next) clock st
        (((bearerToken authorization).any fun token =>
          Access.admin.admits env (clock 0) st token) = false ∨ false = true) := by
    intro next authorization proper
    rw [or_iff_left Bool.false_ne_true]
    exact refusesIff_checkAdmin proper authorization clock st
  cases r with
  | health => exact unchecked _ (proper_answerWith _)
  | ready =>
      refine unchecked _ (proper_read fun t st => ?_)
      split
      · exact proper_answerWith _
      · split <;> exact proper_answerWith _
  | root accept => exact unchecked _ (proper_answerWith _)
  | adminUi => exact unchecked _ (proper_answerWith _)
  | adminLogin username password token =>
      simp only [handle, adminLoginHandler, ApiRequest.authorized]
      cases verifyPassword env.admin username password with
      | false => exact ⟨iff_of_true rfl (Or.inl rfl), fun _ => .refl _ st⟩
      | true => exact unchecked _ (proper_read fun _ _ => proper_step fun _ _ => proper_answerWith _)
  | adminLogout authorization =>
      refine unchecked _ ?_
      show Proper (adminLogoutHandler authorization)
      unfold adminLogoutHandler
      split
      · exact proper_step fun _ _ => proper_answerWith _
      · exact proper_answerWith _
  | enroll authorization agent => exact refusesIff_enroll authorization agent clock st
  | heartbeat agentId authorization body =>
      exact refusesIff_checkAgent (proper_writeThen (proper_refreshThen _)) _ _ clock st
  | putRoutes agentId authorization entries =>
      exact refusesIff_checkAgent (proper_allowedThen agentId entries) _ _ clock st
  | putDiscovery agentId authorization services =>
      exact refusesIff_checkAgent (proper_writeThen (proper_answerWith _)) _ _ clock st
  | desiredServices agentId authorization =>
      exact refusesIff_checkAgent (proper_selectThen fun _ _ => proper_answerWith _) _ _ clock st
  | adminDiscovery authorization =>
      exact admin _ _ (proper_selectThen fun _ _ => proper_selectThen fun _ _ =>
        proper_selectThen fun _ _ => proper_answerWith _)
  | adminEnableService authorization token body =>
      refine admin _ _ ?_
      split
      · rename_i failed
        exact proper_refuseWith (proper_checkEnable failed)
      · exact proper_writeThen (proper_writeAnyway (proper_selectThen fun _ _ =>
          proper_answerWith _))
  | adminDisableService authorization id =>
      exact admin _ _ (proper_writeThen (proper_writeAnyway (proper_answerWith _)))
  | adminAgents authorization =>
      exact admin _ _ (proper_selectThen fun _ _ => proper_read fun _ _ => proper_answerWith _)
  | adminRoutes authorization =>
      exact admin _ _ (proper_selectThen fun _ _ => proper_selectThen fun _ _ =>
        proper_answerWith _)
  | adminDashboard authorization =>
      exact admin _ _ (proper_read fun _ _ => proper_selectThen fun _ _ =>
        proper_selectThen fun _ _ => proper_answerWith _)
  | adminDeleteRoute authorization hostname =>
      exact admin _ _ (proper_writeThen (proper_refreshThen _))
  | adminCreateEnrollmentToken authorization salt token =>
      exact admin _ _ (proper_writeThen (proper_answerWith _))
  | adminRevokeAgent authorization agentId =>
      exact admin _ _ (proper_writeThen (proper_writeThen (proper_refreshThen _)))
  | cleanupTick => exact unchecked _ (proper_writeAnyway (proper_refreshThen _))

end Tailroute.Controller
