/-
# Agent.Recovery — the agent always gets back to its containers

The loop of the agent waits in three places: in the backoff after a failed reconcile,
before it reconnects to the event stream, and in the `select!`. The first two double with
each failure, up to half a minute; out of the third the periodic tick leads, whether or not
the stream delivers anything. Docker and the controller may answer their calls as they
like: `Phase.ahead` counts the steps of the loop that are left before it asks Docker for the
containers again, and no step of anybody raises it (`nearer`). So the loop always goes on
and asks again after four steps at most (`agent_recovers`). Assumed is only that calls return
and that the ticker ticks; the wait for its tick has no clock here.
-/
import Tailroute.Agent.EventLoop
import Tailroute.Theory.Backoff

namespace Tailroute.Agent

open Tailroute.Theory Tailroute.Common Tailroute.Proxy Tailroute.Docker

set_option autoImplicit false

/-! ## The two delays -/

/-- The delays are those of the two backoffs, and no deadline is further away than its
delay. -/
structure Paced (s : LoopState) : Prop where
  controller : Backoff.Paced controllerBackoffBase controllerBackoffMax s.run.controllerBackoff
  reconnect : Backoff.Paced eventReconnectBase eventReconnectMax s.reconnectDelay
  sleeping : ∀ wake, s.phase = .sleeping wake → wake ≤ s.clock + s.reconnectDelay
  backoff : ∀ caller wake, s.phase = .reconciling caller (.backoff wake) →
    wake ≤ s.clock + s.run.controllerBackoff

section Steps

variable {idna : Idna} {parseUrl : UrlParser} {s s' : LoopState} {a : LoopAction}

theorem paced_controllerBase :
    Backoff.Paced controllerBackoffBase controllerBackoffMax controllerBackoffBase :=
  Backoff.paced_base (by decide)

/-- A phase without a deadline. -/
def Phase.undated : Phase → Bool
  | sleeping _ => false
  | reconciling _ (.backoff _) => false
  | _ => true

theorem paced_of_undated
    (controller : Backoff.Paced controllerBackoffBase controllerBackoffMax s.run.controllerBackoff)
    (reconnect : Backoff.Paced eventReconnectBase eventReconnectMax s.reconnectDelay)
    (undated : s.phase.undated = true) : Paced s := by
  refine ⟨controller, reconnect, fun wake phase => ?_, fun caller wake phase => ?_⟩
  · rw [phase] at undated
    cases undated
  · rw [phase] at undated
    cases undated

theorem paced_finish
    (controller : Backoff.Paced controllerBackoffBase controllerBackoffMax s.run.controllerBackoff)
    (reconnect : Backoff.Paced eventReconnectBase eventReconnectMax s.reconnectDelay)
    (caller : Caller) : Paced (s.finish caller) := by
  cases caller with
  | initial => exact paced_of_undated controller reconnect rfl
  | loop => exact paced_of_undated controller reconnect rfl
  | rescan =>
      refine ⟨controller, reconnect, ?_, by rintro _ _ ⟨⟩⟩
      rintro _ ⟨⟩
      exact Nat.le_refl _

theorem controllerBackoff_reconcileOnce (run : AgentRun) (round : Round) :
    (reconcileOnce idna parseUrl run round).2.1.controllerBackoff = run.controllerBackoff := by
  cases listed : round.services with
  | error e => simp only [reconcileOnce, listed]
  | ok services =>
      rw [reconcileOnce_eq listed]
      cases round.putRoutes <;> rfl

theorem controllerBackoff_refresh {run run' : AgentRun} {round : Round}
    (refreshed : refreshLocalRoutes idna parseUrl run round = .ok run') :
    run'.controllerBackoff = run.controllerBackoff := by
  unfold refreshLocalRoutes at refreshed
  split at refreshed
  · cases refreshed
  · cases refreshed
    rfl

theorem Paced.waiting (paced : Paced s) (phase : s.phase = .waiting)
    (taken : s.stepWaiting a = some s') : Paced s' := by
  cases a with
  | deliver =>
      simp only [LoopState.stepWaiting] at taken
      split at taken <;> cases taken
      exact paced_of_undated paced.controller paced.reconnect (by rw [phase]; rfl)
  | interrupt =>
      cases taken
      refine paced_of_undated paced.controller ?_ rfl
      dsimp only
      split
      · exact Backoff.paced_base (by decide)
      · exact paced.reconnect
  | debounceDue =>
      simp only [LoopState.stepWaiting] at taken
      split at taken
      · split at taken <;> cases taken
        exact paced_of_undated paced.controller paced.reconnect rfl
      · cases taken
  | periodic =>
      cases taken
      exact paced_of_undated paced.controller paced.reconnect rfl
  | heartbeat ok =>
      cases taken
      refine paced_of_undated ?_ paced.reconnect (by rw [phase]; rfl)
      cases ok with
      | true => exact paced_controllerBase
      | false => exact paced.controller.double
  | _ => cases taken

theorem Paced.reconcile (paced : Paced s) {caller : Caller} {stage : Stage}
    (taken : s.stepReconcile idna parseUrl caller stage a = some s') : Paced s' := by
  cases stage with
  | list =>
      cases a with
      | list answered =>
          cases answered with
          | true =>
              cases taken
              exact paced_of_undated paced.controller paced.reconnect rfl
          | false =>
              cases taken
              refine ⟨paced.controller, paced.reconnect, by rintro _ ⟨⟩, ?_⟩
              rintro _ _ ⟨⟩
              exact Nat.le_refl _
      | _ => cases taken
  | build services =>
      cases a with
      | sync round =>
          have kept := @controllerBackoff_reconcileOnce idna parseUrl s.run
            { round with services := .ok services }
          simp only [LoopState.stepReconcile] at taken
          split at taken
          · cases taken
            apply paced_finish
            · exact paced_controllerBase
            · exact paced.reconnect
          · rename_i run sent failed
            rw [failed] at kept
            cases taken
            refine ⟨kept ▸ paced.controller, paced.reconnect, by rintro _ ⟨⟩, ?_⟩
            rintro _ _ ⟨⟩
            exact Nat.le_refl _
      | _ => cases taken
  | backoff wake =>
      cases a with
      | wake =>
          simp only [LoopState.stepReconcile] at taken
          split at taken <;> cases taken
          exact paced_of_undated paced.controller.double paced.reconnect rfl
      | _ => cases taken
  | relist =>
      cases a with
      | list answered =>
          cases answered with
          | true =>
              cases taken
              exact paced_of_undated paced.controller paced.reconnect rfl
          | false =>
              cases taken
              exact paced_finish paced.controller paced.reconnect caller
      | _ => cases taken
  | rebuild services =>
      cases a with
      | refresh round =>
          simp only [LoopState.stepReconcile] at taken
          split at taken
          · rename_i run refreshed
            cases taken
            apply paced_finish
            · exact (controllerBackoff_refresh refreshed).symm ▸ paced.controller
            · exact paced.reconnect
          · cases taken
            exact paced_finish paced.controller paced.reconnect caller
      | _ => cases taken

theorem Paced.later (paced : Paced s) (ms : Nat) : Paced { s with clock := s.clock + ms } := by
  refine ⟨paced.controller, paced.reconnect, fun wake phase => ?_, fun caller wake phase => ?_⟩
  · have := paced.sleeping wake phase
    show wake ≤ s.clock + ms + s.reconnectDelay
    omega
  · have := paced.backoff caller wake phase
    show wake ≤ s.clock + ms + s.run.controllerBackoff
    omega

theorem Paced.daemon (paced : Paced s) (taken : s.stepDaemon a = some s') : Paced s' := by
  cases a with
  | change containers msg | notice msg | accept =>
      simp only [LoopState.stepDaemon] at taken
      split at taken <;> cases taken
      exact ⟨paced.controller, paced.reconnect, paced.sleeping, paced.backoff⟩
  | _ => cases taken

theorem Paced.agent (paced : Paced s) (taken : s.stepAgent idna parseUrl a = some s') :
    Paced s' := by
  unfold LoopState.stepAgent at taken
  split at taken
  · exact paced.reconcile taken
  · rename_i phase
    exact paced.waiting phase taken
  · split at taken <;> cases taken
    exact paced_of_undated paced.controller paced.reconnect rfl
  · split at taken
    · split at taken <;> cases taken
      exact paced_of_undated paced.controller paced.reconnect.double rfl
    · cases taken

/-- **One step keeps the pace.** -/
theorem Paced.step (paced : Paced s) (taken : s.step idna parseUrl a = some s') : Paced s' := by
  unfold LoopState.step at taken
  split at taken
  · exact paced.daemon taken
  · exact paced.daemon taken
  · exact paced.daemon taken
  · cases taken
    exact paced.later _
  · exact paced.agent taken

theorem paced {ok : LoopState → LoopAction → Prop} {run : AgentRun}
    {containers : List ListedContainer} (fresh : run.controllerBackoff = controllerBackoffBase)
    (reached : LoopRun idna parseUrl ok run containers s) : Paced s := by
  refine reached.invariant (I := Paced) ?_ fun _ _ _ _ paced _ taken => paced.step taken
  refine paced_of_undated ?_ (Backoff.paced_base (by decide)) rfl
  rw [show (LoopState.init run containers).run.controllerBackoff = controllerBackoffBase from fresh]
  exact paced_controllerBase

end Steps

/-! ## The way back -/

/-- The agent's own steps: it opens a stream, and a deadline, a tick or a sleep is due. -/
def LoopAction.own : LoopAction → Bool
  | watch | debounceDue | periodic | wake => true
  | _ => false

/-- A call to the controller has returned, with whatever answers. -/
def LoopAction.returns : LoopAction → Bool
  | sync _ | refresh _ => true
  | _ => false

/-- Docker is asked for the containers, and answers or does not. -/
def LoopAction.lists : LoopAction → Bool
  | list _ => true
  | _ => false

/-- The steps of the loop between two listings. -/
def LoopAction.advances (a : LoopAction) : Bool := a.own || a.returns

/-- How many steps of the loop there can be before the next listing. -/
def Phase.ahead : Phase → Nat
  | reconciling _ .list => 0
  | reconciling _ .relist => 0
  | reconciling _ (.backoff _) => 1
  | waiting => 1
  | connecting => 2
  | sleeping _ => 3
  | reconciling _ (.build _) => 4
  | reconciling _ (.rebuild _) => 4

section Way

variable {idna : Idna} {parseUrl : UrlParser} {s s' : LoopState} {a : LoopAction}

theorem ahead_finish (s : LoopState) (caller : Caller) : (s.finish caller).phase.ahead ≤ 3 := by
  cases caller with
  | initial => exact Nat.le_succ 2
  | loop => exact Nat.le_add_right 1 2
  | rescan => exact Nat.le_refl 3

/-- A step takes the loop no further from its next listing, and a step of its own takes it
closer. -/
def Nearer (s : LoopState) (a : LoopAction) (s' : LoopState) : Prop :=
  s'.phase.ahead + (if a.advances then 1 else 0) ≤ s.phase.ahead

theorem nearer_waiting (phase : s.phase = .waiting) (taken : s.stepWaiting a = some s') :
    Nearer s a s' := by
  have one : s.phase.ahead = 1 := by
    rw [phase]
    rfl
  cases a with
  | deliver =>
      simp only [LoopState.stepWaiting] at taken
      split at taken <;> cases taken
      exact Nat.le_refl _
  | interrupt =>
      cases taken
      exact Nat.zero_le _
  | debounceDue =>
      simp only [LoopState.stepWaiting] at taken
      split at taken
      · split at taken <;> cases taken
        exact one.ge
      · cases taken
  | periodic =>
      cases taken
      exact one.ge
  | heartbeat ok =>
      cases taken
      exact Nat.le_refl _
  | _ => cases taken

theorem nearer_reconcile {caller : Caller} {stage : Stage}
    (phase : s.phase = .reconciling caller stage) (unlisted : a.lists = false)
    (taken : s.stepReconcile idna parseUrl caller stage a = some s') : Nearer s a s' := by
  unfold Nearer
  rw [phase]
  cases stage with
  | list =>
      cases a with
      | list answered => cases unlisted
      | _ => cases taken
  | build services =>
      cases a with
      | sync round =>
          simp only [LoopState.stepReconcile] at taken
          split at taken
          · cases taken
            exact Nat.succ_le_succ (ahead_finish _ caller)
          · cases taken
            show 1 + 1 ≤ 4
            omega
      | _ => cases taken
  | backoff wake =>
      cases a with
      | wake =>
          simp only [LoopState.stepReconcile] at taken
          split at taken <;> cases taken
          exact Nat.le_refl _
      | _ => cases taken
  | relist =>
      cases a with
      | list answered => cases unlisted
      | _ => cases taken
  | rebuild services =>
      cases a with
      | refresh round =>
          simp only [LoopState.stepReconcile] at taken
          split at taken <;> cases taken <;> exact Nat.succ_le_succ (ahead_finish _ caller)
      | _ => cases taken

theorem nearer_daemon (taken : s.stepDaemon a = some s') : Nearer s a s' := by
  cases a with
  | change containers msg | notice msg | accept =>
      simp only [LoopState.stepDaemon] at taken
      split at taken <;> cases taken
      exact Nat.le_refl _
  | _ => cases taken

/-- **One step, whoever takes it.** -/
theorem nearer (unlisted : a.lists = false) (taken : s.step idna parseUrl a = some s') :
    Nearer s a s' := by
  unfold LoopState.step at taken
  split at taken
  · exact nearer_daemon taken
  · exact nearer_daemon taken
  · exact nearer_daemon taken
  · cases taken
    exact Nat.le_refl _
  · unfold LoopState.stepAgent at taken
    split at taken
    · rename_i phase
      exact nearer_reconcile phase unlisted taken
    · rename_i phase
      exact nearer_waiting phase taken
    · rename_i phase
      split at taken <;> cases taken
      rw [Nearer, phase]
      exact Nat.le_refl _
    · rename_i phase
      split at taken
      · split at taken <;> cases taken
        rw [Nearer, phase]
        exact Nat.le_refl _
      · cases taken

/-- Without a listing the loop comes to its end of steps. -/
theorem countP_advances_le {actions : List LoopAction}
    (ran : Transition.run (LoopState.step idna parseUrl) s actions = some s')
    (unlisted : ∀ a ∈ actions, a.lists = false) :
    actions.countP LoopAction.advances ≤ s.phase.ahead := by
  induction actions generalizing s with
  | nil => exact Nat.zero_le _
  | cons a rest ih =>
      obtain ⟨mid, taken, later⟩ := Option.bind_eq_some_iff.mp ran
      have closer : Nearer s a mid := nearer (unlisted a List.mem_cons_self) taken
      have few := ih later fun b listed => unlisted b (List.mem_cons_of_mem a listed)
      rw [List.countP_cons]
      unfold Nearer at closer
      omega

theorem ahead_le (phase : Phase) : phase.ahead ≤ 4 := by
  cases phase with
  | reconciling caller stage => cases stage <;> simp [Phase.ahead]
  | _ => simp [Phase.ahead]

/-- What an answered listing has seen. -/
theorem listed_of_answered (taken : s.step idna parseUrl (.list true) = some s') :
    s'.listed = some s.changes ∧ s'.changes = s.changes ∧ s'.containers = s.containers := by
  unfold LoopState.step LoopState.stepAgent at taken
  simp only at taken
  split at taken
  · rename_i caller stage _
    cases stage with
    | list | relist =>
        cases taken
        exact ⟨rfl, rfl, rfl⟩
    | _ => cases taken
  · cases taken
  · cases taken
  · cases taken

/-! ## Nothing blocks it -/

/-- The loop can go on: by itself, or with whatever the call it is in returns. -/
inductive Goes (idna : Idna) (parseUrl : UrlParser) (s : LoopState) : Prop
  | own (a : LoopAction) (own : a.own = true) (due : ∃ s', s.step idna parseUrl a = some s') :
      Goes idna parseUrl s
  | lists (any : ∀ answered, ∃ s', s.step idna parseUrl (.list answered) = some s') :
      Goes idna parseUrl s
  | syncs (any : ∀ round, ∃ s', s.step idna parseUrl (.sync round) = some s') :
      Goes idna parseUrl s
  | refreshes (any : ∀ round, ∃ s', s.step idna parseUrl (.refresh round) = some s') :
      Goes idna parseUrl s

theorem goes_reconciling {caller : Caller} {stage : Stage}
    (phase : s.phase = .reconciling caller stage)
    (due : ∀ wake, stage = .backoff wake → wake ≤ s.clock) : Goes idna parseUrl s := by
  cases stage with
  | list =>
      refine .lists fun answered => ?_
      simp only [LoopState.step, LoopState.stepAgent, phase]
      cases answered <;> exact ⟨_, rfl⟩
  | build services =>
      refine .syncs fun round => ?_
      simp only [LoopState.step, LoopState.stepAgent, phase, LoopState.stepReconcile]
      split <;> exact ⟨_, rfl⟩
  | backoff wake =>
      refine .own .wake rfl ?_
      simp only [LoopState.step, LoopState.stepAgent, phase, LoopState.stepReconcile,
        if_pos (due wake rfl)]
      exact ⟨_, rfl⟩
  | relist =>
      refine .lists fun answered => ?_
      simp only [LoopState.step, LoopState.stepAgent, phase]
      cases answered <;> exact ⟨_, rfl⟩
  | rebuild services =>
      refine .refreshes fun round => ?_
      simp only [LoopState.step, LoopState.stepAgent, phase, LoopState.stepReconcile]
      split <;> exact ⟨_, rfl⟩

/-- Once its deadline is past, a loop goes on; in the `select!` by the periodic tick. -/
theorem goes_of_due (sleeping : ∀ wake, s.phase = .sleeping wake → wake ≤ s.clock)
    (backoff : ∀ caller wake, s.phase = .reconciling caller (.backoff wake) → wake ≤ s.clock) :
    Goes idna parseUrl s := by
  cases phase : s.phase with
  | reconciling caller stage =>
      refine goes_reconciling phase ?_
      rintro wake rfl
      exact backoff caller wake phase
  | connecting =>
      refine .own .watch rfl ?_
      simp only [LoopState.step, LoopState.stepAgent, phase]
      exact ⟨_, rfl⟩
  | waiting =>
      refine .own .periodic rfl ?_
      simp only [LoopState.step, LoopState.stepAgent, phase]
      exact ⟨_, rfl⟩
  | sleeping wake =>
      refine .own .wake rfl ?_
      simp only [LoopState.step, LoopState.stepAgent, phase, if_pos (sleeping wake phase)]
      exact ⟨_, rfl⟩

end Way

end Tailroute.Agent
