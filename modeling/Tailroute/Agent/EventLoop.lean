/-
# Agent.EventLoop — following container changes over an event stream

`loop_forever` reconciles once, opens Docker's event stream and waits in a `select!`
for an event, a debounce deadline, the periodic tick or the heartbeat tick. When
the stream ends it reconciles, sleeps and opens the next stream, in this order.
The daemon delivers an event only to a stream that is connected: a change after
the listing of that reconcile and before the connection is seen by neither
(`change_during_reconnect_missed`).

The daemon and the agent are one transition system. A reconcile is several steps,
since containers may change between its listing and its end. `Caught` is the
invariant of the inner loop: the last listing is current, or something is on its
way that leads to another. `quiet_upToDate` derives that a loop with nothing to do
serves the current containers, if no change falls in the gap.
-/
import Tailroute.Agent.RouteOrder
import Tailroute.Theory.Transition

namespace Tailroute.Agent

open Tailroute.Theory Tailroute.Common Tailroute.Proxy Tailroute.Docker

set_option autoImplicit false

/-! ## Docker's events -/

/-- What is read of an `EventMessage`. -/
structure EventMessage where
  action : Option Text
deriving DecidableEq

def isRelevantEvent (msg : EventMessage) : Bool :=
  let action := msg.action.getD []
  ["start", "stop", "die", "destroy", "rename", "connect", "disconnect", "health_status",
      "health_status: healthy", "health_status: unhealthy"].any (fun a => action == a.toList) ||
    "health_status".toList.isPrefixOf action

/-- The current event stream. Its request is sent when it is first polled, and the
daemon delivers what happens after it has accepted the request. -/
inductive EventStream where
  | closed
  | requested
  | connected (undelivered : List EventMessage)
deriving DecidableEq

namespace EventStream

def undelivered : EventStream → List EventMessage
  | connected msgs => msgs
  | _ => []

def isConnected : EventStream → Bool
  | connected _ => true
  | _ => false

/-- The daemon emits an event. -/
def emit (stream : EventStream) (msg : EventMessage) : EventStream :=
  match stream with
  | connected msgs => connected (msgs ++ [msg])
  | other => other

end EventStream

/-! ## The loop -/

/-- `RECONCILE_DEBOUNCE`, in milliseconds. -/
def reconcileDebounce : Nat := 400

/-- `EVENT_RECONNECT_BASE`, in milliseconds. -/
def eventReconnectBase : Nat := 1000

/-- `EVENT_RECONNECT_MAX`, in milliseconds. -/
def eventReconnectMax : Nat := 30000

/-- The three calls of `reconcile_with_backoff`. -/
inductive Caller where
  | initial
  | loop
  | rescan
deriving DecidableEq

/-- Where a `reconcile_with_backoff` is: before the listing of `reconcile_once` and
after it, in the sleep after a failure, and before and after the listing of
`refresh_local_routes`. -/
inductive Stage where
  | list
  | build (services : List DiscoveredService)
  | backoff (wake : Nat)
  | relist
  | rebuild (services : List DiscoveredService)

inductive Phase where
  | reconciling (caller : Caller) (stage : Stage)
  | connecting
  | waiting
  | sleeping (wake : Nat)

namespace Phase

def isWaiting : Phase → Bool
  | waiting => true
  | _ => false

/-- Inside the inner loop, where a stream exists. -/
def inLoop : Phase → Bool
  | waiting => true
  | reconciling .loop _ => true
  | _ => false

/-- The services of a listing that has not reached the routes yet. -/
def carried : Phase → Option (List DiscoveredService)
  | reconciling _ (.build services) => some services
  | reconciling _ (.rebuild services) => some services
  | _ => none

/-- The reconcile in progress has a listing to come. -/
def listingDue : Phase → Bool
  | reconciling _ .list => true
  | reconciling _ (.backoff _) => true
  | reconciling _ .relist => true
  | _ => false

end Phase

/-- The agent's loop and the daemon. `changes` counts the relevant changes of the
containers, `listed` is its value at the last listing that succeeded. -/
structure LoopState where
  run : AgentRun
  phase : Phase
  debounce : Option Nat
  sawEvent : Bool
  reconnectDelay : Nat
  clock : Nat
  containers : List ListedContainer
  changes : Nat
  stream : EventStream
  listed : Option Nat

/-- `change` and `notice` are the daemon's, `accept` its answer to a stream's request;
the others are the agent's. `answered` says whether a listing succeeds, `ok` whether
a heartbeat does. -/
inductive LoopAction where
  | change (containers : List ListedContainer) (msg : EventMessage)
  | notice (msg : EventMessage)
  | accept
  | pass (ms : Nat)
  | watch
  | deliver
  | interrupt
  | debounceDue
  | periodic
  | heartbeat (ok : Bool)
  | list (answered : Bool)
  | sync (round : Round)
  | refresh (round : Round)
  | wake

namespace LoopState

/-- The agent starts with its initial scan. -/
def init (run : AgentRun) (containers : List ListedContainer) : LoopState where
  run
  phase := .reconciling .initial .list
  debounce := none
  sawEvent := false
  reconnectDelay := eventReconnectBase
  clock := 0
  containers
  changes := 0
  stream := .closed
  listed := none

/-- What follows a reconcile. -/
def finish (s : LoopState) (caller : Caller) : LoopState :=
  { s with
    phase :=
      match caller with
      | .initial => .connecting
      | .loop => .waiting
      | .rescan => .sleeping (s.clock + s.reconnectDelay) }

section Step

variable (idna : Idna) (parseUrl : UrlParser)

def stepDaemon (s : LoopState) : LoopAction → Option LoopState
  | .change containers msg =>
      if isRelevantEvent msg then
        some { s with containers, changes := s.changes + 1, stream := s.stream.emit msg }
      else none
  | .notice msg =>
      if isRelevantEvent msg then none else some { s with stream := s.stream.emit msg }
  | .accept =>
      match s.stream with
      | .requested => some { s with stream := .connected [] }
      | _ => none
  | _ => none

/-- The branches of the `select!`. -/
def stepWaiting (s : LoopState) : LoopAction → Option LoopState
  | .deliver =>
      match s.stream with
      | .connected (msg :: rest) => some
          { s with
            stream := .connected rest
            sawEvent := true
            debounce :=
              if isRelevantEvent msg then some (s.clock + reconcileDebounce) else s.debounce }
      | _ => none
  | .interrupt => some
      { s with
        stream := .closed
        reconnectDelay := if s.sawEvent then eventReconnectBase else s.reconnectDelay
        phase := .reconciling .rescan .list }
  | .debounceDue =>
      match s.debounce with
      | some deadline =>
          if deadline ≤ s.clock then
            some { s with debounce := none, phase := .reconciling .loop .list }
          else none
      | none => none
  | .periodic => some { s with phase := .reconciling .loop .list }
  | .heartbeat ok => some
      { s with
        run :=
          if ok then { s.run with controllerBackoff := controllerBackoffBase }
          else s.run.bumpControllerBackoff }
  | _ => none

/-- The steps of a `reconcile_with_backoff`. -/
def stepReconcile (s : LoopState) (caller : Caller) : Stage → LoopAction → Option LoopState
  | .list, .list true => some
      { s with
        listed := some s.changes
        phase := .reconciling caller (.build (listServices idna parseUrl s.containers)) }
  | .list, .list false =>
      some { s with phase := .reconciling caller (.backoff (s.clock + s.run.controllerBackoff)) }
  | .build services, .sync round =>
      match reconcileOnce idna parseUrl s.run { round with services := .ok services } with
      | (.ok _, run, _) =>
          some ({ s with run := { run with controllerBackoff := controllerBackoffBase } }.finish
            caller)
      | (.error _, run, _) => some
          { s with
            run
            phase := .reconciling caller (.backoff (s.clock + run.controllerBackoff)) }
  | .backoff wake, .wake =>
      if wake ≤ s.clock then
        some { s with run := s.run.bumpControllerBackoff, phase := .reconciling caller .relist }
      else none
  | .relist, .list true => some
      { s with
        listed := some s.changes
        phase := .reconciling caller (.rebuild (listServices idna parseUrl s.containers)) }
  -- the second failure is only logged
  | .relist, .list false => some (s.finish caller)
  | .rebuild services, .refresh round =>
      match refreshLocalRoutes idna parseUrl s.run { round with servicesAgain := .ok services } with
      | .ok run => some ({ s with run }.finish caller)
      | .error _ => some (s.finish caller)
  | _, _ => none

def stepAgent (s : LoopState) (a : LoopAction) : Option LoopState :=
  match s.phase with
  | .reconciling caller stage => s.stepReconcile idna parseUrl caller stage a
  | .waiting => s.stepWaiting a
  | .connecting =>
      match a with
      | .watch => some
          { s with stream := .requested, debounce := none, sawEvent := false, phase := .waiting }
      | _ => none
  | .sleeping wake =>
      match a with
      | .wake =>
          if wake ≤ s.clock then some
            { s with
              reconnectDelay := min (s.reconnectDelay * 2) eventReconnectMax
              phase := .connecting }
          else none
      | _ => none

def step (s : LoopState) (a : LoopAction) : Option LoopState :=
  match a with
  | .change _ _ | .notice _ | .accept => s.stepDaemon a
  | .pass ms => some { s with clock := s.clock + ms }
  | _ => s.stepAgent idna parseUrl a

end Step

/-! ## Quiet states -/

/-- The agent waits in the inner loop, with no deadline armed and no event undelivered. -/
def Quiet (s : LoopState) : Prop :=
  s.phase.isWaiting = true ∧ s.debounce = none ∧ s.stream.undelivered = []

instance (s : LoopState) : Decidable s.Quiet := inferInstanceAs (Decidable (_ ∧ _ ∧ _))

/-- The condition on each step: in the inner loop containers change only while the
stream is connected, a stream is opened only if nothing changed since the last
listing, and so does the fallback listing of a reconcile in the loop fail. -/
def Tracked (s : LoopState) : LoopAction → Prop
  | .change _ _ => s.phase.inLoop = true → s.stream.isConnected = true
  | .watch => s.listed = some s.changes
  | .list false =>
      match s.phase with
      | .reconciling .loop .relist => s.listed = some s.changes
      | _ => True
  | _ => True

instance (s : LoopState) (a : LoopAction) : Decidable (s.Tracked a) := by
  unfold Tracked
  split
  · infer_instance
  · infer_instance
  · split <;> infer_instance
  · infer_instance

end LoopState

abbrev LoopRun (idna : Idna) (parseUrl : UrlParser) (ok : LoopState → LoopAction → Prop)
    (run : AgentRun) (containers : List ListedContainer) : LoopState → Prop :=
  Transition.Reach (LoopState.step idna parseUrl) ok (LoopState.init run containers)

section Invariant

variable (idna : Idna) (parseUrl : UrlParser)

/-- The routes are those of the containers, under some intents. -/
def Reflects (run : AgentRun) (containers : List ListedContainer) : Prop :=
  ∃ desired, run.routes = Table.empty.writeAll
    (routeWrites parseUrl (listServices idna parseUrl containers) desired
      (run.prepared idna parseUrl))

/-- The last listing came after the last change, and the routes are those of the
current containers. -/
structure UpToDate (s : LoopState) : Prop where
  listed : s.listed = some s.changes
  routes : Reflects idna parseUrl s.run s.containers

/-- No change is lost: the last listing is current, or a deadline, an undelivered event
or the reconcile in progress leads to another listing. -/
def Caught (s : LoopState) : Prop :=
  s.listed = some s.changes ∨ s.debounce ≠ none ∨
    (∃ msg ∈ s.stream.undelivered, isRelevantEvent msg = true) ∨ s.phase.listingDue = true

/-- The last listing is in the routes, or in the hands of the reconcile in progress. -/
def Shown (s : LoopState) : Prop :=
  match s.phase.carried with
  | some services => services = listServices idna parseUrl s.containers
  | none => Reflects idna parseUrl s.run s.containers

structure LoopInv (s : LoopState) : Prop where
  bounded : ∀ n, s.listed = some n → n ≤ s.changes
  caught : s.phase.inLoop = true → Caught s
  shown : s.listed = some s.changes → Shown idna parseUrl s

theorem loopInv_init (run : AgentRun) (containers : List ListedContainer) :
    LoopInv idna parseUrl (LoopState.init run containers) := by
  refine ⟨?_, ?_, ?_⟩
  · intro n listed
    cases listed
  · intro inside
    cases inside
  · intro listed
    cases listed

variable {idna parseUrl} {s s' : LoopState} {a : LoopAction}

theorem LoopInv.routes (inv : LoopInv idna parseUrl s) (nothing : s.phase.carried = none)
    (listed : s.listed = some s.changes) : Reflects idna parseUrl s.run s.containers := by
  have shown := inv.shown listed
  rw [Shown, nothing] at shown
  exact shown

/-! ## What each step keeps -/

theorem undelivered_emit_of_connected {stream : EventStream} (connected : stream.isConnected = true)
    (msg : EventMessage) : msg ∈ (stream.emit msg).undelivered := by
  cases stream with
  | connected msgs => exact List.mem_append_right msgs List.mem_cons_self
  | closed => cases connected
  | requested => cases connected

theorem undelivered_emit {stream : EventStream} {msg other : EventMessage}
    (member : other ∈ stream.undelivered) : other ∈ (stream.emit msg).undelivered := by
  cases stream with
  | connected msgs => exact List.mem_append_left _ member
  | closed => cases member
  | requested => cases member

theorem Caught.mono (caught : Caught s) {stream : EventStream}
    (kept : ∀ msg ∈ s.stream.undelivered, msg ∈ stream.undelivered) :
    Caught { s with stream := stream } := by
  rcases caught with current | armed | ⟨msg, member, relevant⟩ | due
  · exact Or.inl current
  · exact Or.inr (Or.inl armed)
  · exact Or.inr (Or.inr (Or.inl ⟨msg, kept msg member, relevant⟩))
  · exact Or.inr (Or.inr (Or.inr due))

/-- A delivered event arms the deadline if it is relevant; if not, no change hung on it. -/
theorem Caught.deliver (caught : Caught s) {msg : EventMessage} {rest : List EventMessage}
    (queue : s.stream = .connected (msg :: rest)) (deadline : Nat) (saw : Bool) :
    Caught { s with
      stream := .connected rest
      sawEvent := saw
      debounce := if isRelevantEvent msg then some deadline else s.debounce } := by
  by_cases relevant : isRelevantEvent msg = true
  · refine Or.inr (Or.inl ?_)
    rw [if_pos relevant]
    exact Option.some_ne_none deadline
  · rcases caught with current | armed | ⟨other, member, wanted⟩ | due
    · exact Or.inl current
    · refine Or.inr (Or.inl ?_)
      rw [if_neg relevant]
      exact armed
    · rw [queue] at member
      rcases List.mem_cons.mp member with rfl | later
      · exact absurd wanted relevant
      · exact Or.inr (Or.inr (Or.inl ⟨other, later, wanted⟩))
    · exact Or.inr (Or.inr (Or.inr due))

/-- The daemon: a change makes the last listing stale, and its event is caught. -/
theorem loopInv_daemon (inv : LoopInv idna parseUrl s) (tracked : s.Tracked a)
    (taken : s.stepDaemon a = some s') : LoopInv idna parseUrl s' := by
  cases a with
  | change containers msg =>
      simp only [LoopState.stepDaemon] at taken
      split at taken
      · rename_i relevant
        cases taken
        refine ⟨?_, ?_, ?_⟩
        · intro n listed
          exact (inv.bounded n listed).trans (Nat.le_succ _)
        · intro inside
          exact Or.inr (Or.inr (Or.inl
            ⟨msg, undelivered_emit_of_connected (tracked inside) msg, relevant⟩))
        · intro listed
          have before := inv.bounded _ listed
          exact absurd before (Nat.not_succ_le_self _)
      · cases taken
  | notice msg =>
      simp only [LoopState.stepDaemon] at taken
      split at taken
      · cases taken
      · cases taken
        refine ⟨inv.bounded, ?_, inv.shown⟩
        intro inside
        exact (inv.caught inside).mono fun other member => undelivered_emit member
  | accept =>
      simp only [LoopState.stepDaemon] at taken
      split at taken
      · rename_i requested
        cases taken
        refine ⟨inv.bounded, ?_, inv.shown⟩
        intro inside
        refine (inv.caught inside).mono fun other member => ?_
        rw [requested] at member
        cases member
      · cases taken
  | _ => cases taken

/-- The inner loop: a delivered change arms the deadline, and a deadline starts a
reconcile. -/
theorem loopInv_waiting (inv : LoopInv idna parseUrl s) (waiting : s.phase = .waiting)
    (taken : s.stepWaiting a = some s') : LoopInv idna parseUrl s' := by
  have shown := inv.routes (by rw [waiting]; rfl)
  cases a with
  | deliver =>
      simp only [LoopState.stepWaiting] at taken
      split at taken
      · rename_i msg rest queue
        cases taken
        exact ⟨inv.bounded, fun inside => (inv.caught inside).deliver queue _ _, inv.shown⟩
      · cases taken
  | interrupt =>
      cases taken
      refine ⟨inv.bounded, ?_, shown⟩
      intro inside
      cases inside
  | debounceDue =>
      simp only [LoopState.stepWaiting] at taken
      split at taken
      · split at taken
        · cases taken
          exact ⟨inv.bounded, fun _ => Or.inr (Or.inr (Or.inr rfl)), shown⟩
        · cases taken
      · cases taken
  | periodic =>
      cases taken
      exact ⟨inv.bounded, fun _ => Or.inr (Or.inr (Or.inr rfl)), shown⟩
  | heartbeat ok =>
      cases taken
      refine ⟨inv.bounded, inv.caught, ?_⟩
      intro listed
      rw [Shown, waiting]
      cases ok <;> exact shown listed
  | _ => cases taken

/-- A reconcile ends: nothing is carried any more, and in the loop the change that
came last is listed or on its way. -/
theorem loopInv_finish {caller : Caller} (bounded : ∀ n, s.listed = some n → n ≤ s.changes)
    (caught : caller = .loop → s.listed = some s.changes ∨ s.debounce ≠ none ∨
      ∃ msg ∈ s.stream.undelivered, isRelevantEvent msg = true)
    (shown : s.listed = some s.changes → Reflects idna parseUrl s.run s.containers) :
    LoopInv idna parseUrl (s.finish caller) := by
  cases caller with
  | initial =>
      refine ⟨bounded, ?_, shown⟩
      intro inside
      cases inside
  | rescan =>
      refine ⟨bounded, ?_, shown⟩
      intro inside
      cases inside
  | loop =>
      refine ⟨bounded, ?_, shown⟩
      intro _
      rcases caught rfl with current | armed | queued
      · exact Or.inl current
      · exact Or.inr (Or.inl armed)
      · exact Or.inr (Or.inr (Or.inl queued))

/-- The routes of a listing are those of its services. -/
theorem reflects_of_sync {round : Round} {run : AgentRun} {containers : List ListedContainer} :
    Reflects idna parseUrl
      { run with
        routes :=
          (round.draft idna parseUrl run (listServices idna parseUrl containers)).localRoutes }
      containers :=
  ⟨round.intents, draft_localRoutes⟩

theorem reflects_of_refresh {run : AgentRun} {containers : List ListedContainer} :
    Reflects idna parseUrl
      { run with
        routes := Table.empty.writeAll
          (labelWrites (listServices idna parseUrl containers) ++
            staticWrites (run.prepared idna parseUrl)) }
      containers := by
  refine ⟨[], ?_⟩
  show Table.empty.writeAll _ = Table.empty.writeAll
    (labelWrites _ ++ intentWrites parseUrl [] ++ staticWrites _)
  rw [show intentWrites parseUrl [] = [] from rfl, List.append_nil]
  rfl

/-- In the loop, a reconcile that is past its listing has listed the last change or
will hear of it. -/
theorem LoopInv.pending (inv : LoopInv idna parseUrl s) {stage : Stage}
    (here : s.phase = .reconciling .loop stage) (undue : s.phase.listingDue = false) :
    s.listed = some s.changes ∨ s.debounce ≠ none ∨
      ∃ msg ∈ s.stream.undelivered, isRelevantEvent msg = true := by
  rcases inv.caught (by rw [here]; rfl) with current | armed | queued | due
  · exact Or.inl current
  · exact Or.inr (Or.inl armed)
  · exact Or.inr (Or.inr queued)
  · rw [undue] at due
    cases due

/-- A listing is current when it is made. -/
theorem loopInv_of_listed (current : s.listed = some s.changes) (shown : Shown idna parseUrl s) :
    LoopInv idna parseUrl s := by
  refine ⟨?_, fun _ => Or.inl current, fun _ => shown⟩
  intro n listed
  rw [current] at listed
  exact (Option.some.inj listed).ge

/-- A reconcile: its listings are current when they are made, and what changes after
them is queued. -/
theorem loopInv_reconcile (inv : LoopInv idna parseUrl s) (tracked : s.Tracked a) {caller : Caller}
    {stage : Stage} (here : s.phase = .reconciling caller stage)
    (taken : s.stepReconcile idna parseUrl caller stage a = some s') :
    LoopInv idna parseUrl s' := by
  unfold LoopState.stepReconcile at taken
  split at taken
  · -- the first listing
    cases taken
    exact loopInv_of_listed rfl rfl
  · cases taken
    exact ⟨inv.bounded, fun _ => Or.inr (Or.inr (Or.inr rfl)),
      fun listed => inv.routes (by rw [here]; rfl) listed⟩
  · -- the routes are replaced before the PUT, whatever becomes of it
    rename_i services round
    rw [reconcileOnce_eq rfl] at taken
    have shown : s.listed = some s.changes →
        services = listServices idna parseUrl s.containers := by
      intro listed
      have carried := inv.shown listed
      rw [Shown, here] at carried
      exact carried
    cases put : round.putRoutes with
    | ok response =>
        simp only [put] at taken
        cases taken
        refine loopInv_finish inv.bounded ?_ ?_
        · rintro rfl
          exact inv.pending here (by rw [here]; rfl)
        · intro listed
          rw [shown listed]
          exact reflects_of_sync
    | error e =>
        simp only [put] at taken
        cases taken
        refine ⟨inv.bounded, fun _ => Or.inr (Or.inr (Or.inr rfl)), ?_⟩
        intro listed
        rw [shown listed]
        exact reflects_of_sync
  · split at taken
    · cases taken
      exact ⟨inv.bounded, fun _ => Or.inr (Or.inr (Or.inr rfl)),
        fun listed => inv.routes (by rw [here]; rfl) listed⟩
    · cases taken
  · -- the listing of the fallback
    cases taken
    exact loopInv_of_listed rfl rfl
  · cases taken
    refine loopInv_finish inv.bounded ?_ ?_
    · intro loop
      subst loop
      left
      simpa only [LoopState.Tracked, here] using tracked
    · intro listed
      exact inv.routes (by rw [here]; rfl) listed
  · rename_i services round
    rw [refreshLocalRoutes_eq rfl] at taken
    cases taken
    refine loopInv_finish inv.bounded ?_ ?_
    · rintro rfl
      exact inv.pending here (by rw [here]; rfl)
    · intro listed
      have shown := inv.shown listed
      rw [Shown, here] at shown
      simp only [Phase.carried] at shown
      subst shown
      exact reflects_of_refresh
  · cases taken

/-- **One step keeps the invariant.** -/
theorem loopInv_step (inv : LoopInv idna parseUrl s) (tracked : s.Tracked a)
    (taken : s.step idna parseUrl a = some s') : LoopInv idna parseUrl s' := by
  have agent : s.stepAgent idna parseUrl a = some s' → LoopInv idna parseUrl s' := by
    intro taken
    unfold LoopState.stepAgent at taken
    split at taken
    · rename_i caller stage here
      exact loopInv_reconcile inv tracked here taken
    · rename_i here
      exact loopInv_waiting inv here taken
    · rename_i here
      split at taken
      · cases taken
        exact ⟨inv.bounded, fun _ => Or.inl tracked,
          fun listed => inv.routes (by rw [here]; rfl) listed⟩
      · cases taken
    · rename_i wake here
      split at taken
      · split at taken
        · cases taken
          refine ⟨inv.bounded, ?_, fun listed => inv.routes (by rw [here]; rfl) listed⟩
          intro inside
          cases inside
        · cases taken
      · cases taken
  unfold LoopState.step at taken
  split at taken
  · exact loopInv_daemon inv tracked taken
  · exact loopInv_daemon inv tracked taken
  · exact loopInv_daemon inv tracked taken
  · cases taken
    exact ⟨inv.bounded, inv.caught, inv.shown⟩
  · exact agent taken

/-- **A quiet loop is up to date.** In every run in which no change falls between a
listing and the connection of the next stream, the agent that waits with nothing to
do has listed the containers since they last changed and serves them. -/
theorem quiet_upToDate {run : AgentRun} {containers : List ListedContainer}
    (reached : LoopRun idna parseUrl LoopState.Tracked run containers s) (quiet : s.Quiet) :
    UpToDate idna parseUrl s := by
  have inv : LoopInv idna parseUrl s := by
    refine reached.invariant (I := LoopInv idna parseUrl) (loopInv_init idna parseUrl _ _) ?_
    intro s a s' _ inv tracked taken
    exact loopInv_step inv tracked taken
  obtain ⟨waits, unarmed, delivered⟩ := quiet
  have phase : s.phase = .waiting := by
    cases here : s.phase with
    | waiting => rfl
    | _ =>
        rw [here] at waits
        cases waits
  have listed : s.listed = some s.changes := by
    rcases inv.caught (by rw [phase]; rfl) with current | armed | ⟨msg, member, -⟩ | due
    · exact current
    · exact absurd unarmed armed
    · rw [delivered] at member
      cases member
    · rw [phase] at due
      cases due
  exact ⟨listed, inv.routes (by rw [phase]; rfl) listed⟩

end Invariant

/-! ## A change in the gap -/

def bareAgent : AgentRun := ⟨[], .empty, [], controllerBackoffBase⟩

/-- Everything is answered. -/
def goodRound : Round := ⟨.error [], .ok (), .ok [], .ok [], .ok ⟨[], []⟩, .ok (), .ok []⟩

def started : LoopAction :=
  .change [listedPlain "c1".toList "172.18.0.2".toList (webLabels "80".toList)]
    ⟨some "start".toList⟩

/-- Start with no containers and connect to the event stream. -/
def connectFirst : List LoopAction := [.list true, .sync goodRound, .watch, .accept]

def startedWhileConnected : List LoopAction :=
  connectFirst ++ [started, .deliver, .pass 400, .debounceDue, .list true, .sync goodRound]

/-- The stream ends, the agent rescans and sleeps, and the container starts before the
next stream. -/
def startedWhileAsleep : List LoopAction :=
  connectFirst ++ [.interrupt, .list true, .sync goodRound, started, .pass 1000, .wake, .watch,
    .accept]

/-- A container that starts while the stream is connected is served. -/
theorem quiet_upToDate_started :
    ∃ s, LoopRun asciiIdna httpUrl LoopState.Tracked bareAgent [] s ∧ s.Quiet ∧
      s.changes = 1 ∧ (s.run.routes.find? "web".toList).isSome = true ∧
      UpToDate asciiIdna httpUrl s := by
  obtain ⟨s, reached, quiet, changed, served⟩ :
      ∃ s, LoopRun asciiIdna httpUrl LoopState.Tracked bareAgent [] s ∧ s.Quiet ∧
        s.changes = 1 ∧ (s.run.routes.find? "web".toList).isSome = true :=
    Transition.exists_reach_of_run _ startedWhileConnected (by decide +kernel)
  exact ⟨s, reached, quiet, changed, served, quiet_upToDate reached quiet⟩

/-- **A container that starts between the rescan and the next stream is missed**: the
loop is quiet, the last listing is older than the change and the hostname is not
served. -/
theorem change_during_reconnect_missed :
    ∃ s, LoopRun asciiIdna httpUrl (fun _ _ => True) bareAgent [] s ∧ s.Quiet ∧
      s.stream.isConnected = true ∧ s.changes = 1 ∧ s.listed = some 0 ∧
      (listServices asciiIdna httpUrl s.containers).length = 1 ∧
      s.run.routes.find? "web".toList = none ∧ ¬UpToDate asciiIdna httpUrl s := by
  obtain ⟨s, reached, quiet, connected, changed, listed, running, unserved⟩ :
      ∃ s, LoopRun asciiIdna httpUrl (fun _ _ => True) bareAgent [] s ∧ s.Quiet ∧
        s.stream.isConnected = true ∧ s.changes = 1 ∧ s.listed = some 0 ∧
        (listServices asciiIdna httpUrl s.containers).length = 1 ∧
        s.run.routes.find? "web".toList = none :=
    Transition.exists_reach_of_run _ startedWhileAsleep (by decide +kernel)
  refine ⟨s, reached, quiet, connected, changed, listed, running, unserved, ?_⟩
  intro upToDate
  have current := upToDate.listed
  rw [listed, changed] at current
  cases current

end Tailroute.Agent
