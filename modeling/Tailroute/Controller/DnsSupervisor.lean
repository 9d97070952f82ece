/-
# Controller.DnsSupervisor — the DNS server is restarted, and readiness reports it

The supervisor task of the controller creates a server, stores `true` in `dns_up` and
then runs the server: it binds the UDP and the TCP socket, spawns the UDP loop as a
task of its own and stays in the TCP loop. When the run returns, it stores `false`,
sleeps and starts over. `ready` reads `dns_up` at any moment in between.

The flag is stored before anything is bound, nobody watches the UDP loop, and the flag
is cleared one step after the run has returned. `ready_serves_iff` says in which states
readiness means that DNS is served, and that a run avoids the other states only if it
never starts a server.
-/
import Mathlib.Data.List.Infix
import Tailroute.Theory.Transition
import Tailroute.Storage.Store

namespace Tailroute.Controller.DnsSupervisor

open Tailroute.Theory Tailroute.Common Tailroute.Storage

set_option autoImplicit false

/-! ## The supervisor -/

/-- What the current server holds and runs. -/
structure Server where
  udpBound : Bool
  tcpBound : Bool
  udpServing : Bool
  tcpServing : Bool
deriving DecidableEq

/-- A server as `DnsServer::new` returns it. -/
def Server.new : Server := ⟨false, false, false, false⟩

/-- Where the supervisor task stands. -/
inductive Phase where
  /-- Before `DnsServer::new`. -/
  | creating
  /-- The server exists; before `dns_up.store(true)`. -/
  | created
  | bindingUdp
  | bindingTcp
  /-- Both sockets are bound; before the UDP loop is spawned. -/
  | spawning
  | serving
  /-- `run` has returned; before `dns_up.store(false)`. -/
  | exited
  /-- `DnsServer::new` has failed; before `dns_up.store(false)`. -/
  | failed
  | sleeping
deriving DecidableEq

/-- `orphans` counts the UDP loops of earlier servers that still run; `backoff` is in
seconds. -/
structure State where
  phase : Phase
  dnsUp : Bool
  backoff : Nat
  server : Server
  orphans : Nat
deriving DecidableEq

def State.init : State := ⟨.creating, false, 1, .new, 0⟩

/-- The steps of the supervisor and of the UDP loops. A `Bool` is the outcome of a call
that may fail. -/
inductive Action where
  | create (ok : Bool)
  | storeUp
  | bindUdp (ok : Bool)
  | bindTcp (ok : Bool)
  | spawnLoops
  /-- `accept` of the TCP loop fails, and `run` returns. -/
  | acceptFails
  /-- `recv_from` of the current server's UDP loop fails, and the task ends. -/
  | recvFails
  /-- The same for a loop that an earlier server left behind. -/
  | orphanRecvFails
  | storeDown
  | wake
deriving DecidableEq

def step (s : State) : Action → Option State
  | .create ok =>
      if s.phase = .creating then
        if ok then
          -- the detached UDP loop of the previous server is not stopped
          some { s with
            phase := .created
            server := .new
            orphans := s.orphans + s.server.udpServing.toNat }
        else some { s with phase := .failed }
      else none
  | .storeUp =>
      if s.phase = .created then some { s with phase := .bindingUdp, dnsUp := true, backoff := 1 }
      else none
  | .bindUdp ok =>
      if s.phase = .bindingUdp then
        if ok then some { s with phase := .bindingTcp, server.udpBound := true }
        else some { s with phase := .exited }
      else none
  | .bindTcp ok =>
      if s.phase = .bindingTcp then
        if ok then some { s with phase := .spawning, server.tcpBound := true }
        -- the UDP socket is dropped with the run
        else some { s with phase := .exited, server.udpBound := false }
      else none
  | .spawnLoops =>
      if s.phase = .spawning then
        some { s with phase := .serving, server.udpServing := true, server.tcpServing := true }
      else none
  | .acceptFails =>
      if s.phase = .serving then
        some { s with phase := .exited, server.tcpServing := false, server.tcpBound := false }
      else none
  | .recvFails =>
      if s.server.udpServing then
        some { s with server.udpServing := false, server.udpBound := false }
      else none
  | .orphanRecvFails => if 0 < s.orphans then some { s with orphans := s.orphans - 1 } else none
  | .storeDown =>
      if s.phase = .exited ∨ s.phase = .failed then
        some { s with phase := .sleeping, dnsUp := false }
      else none
  | .wake =>
      if s.phase = .sleeping then
        some { s with phase := .creating, backoff := min (s.backoff * 2) 60 }
      else none

inductive StatusCode where
  | serviceUnavailable
deriving DecidableEq

/-- The ready handler, given what `list_agents` returned. -/
def ready {α : Type} (agents : Except StorageError α) (dnsUp : Bool) : Except StatusCode Text :=
  match agents with
  | .error _ => .error .serviceUnavailable
  | .ok _ => if dnsUp then .ok "ready".toList else .error .serviceUnavailable

theorem ready_iff {α : Type} {agents : Except StorageError α} {dnsUp : Bool} :
    ready agents dnsUp = .ok "ready".toList ↔ (∃ a, agents = .ok a) ∧ dnsUp = true := by
  cases agents <;> cases dnsUp <;> simp [ready]

/-! ## What a run keeps -/

/-- Whether `recv_from` has failed since the loops were last spawned. -/
def noteRecv (failed : Bool) : Action → Bool
  | .spawnLoops => false
  | .recvFails => true
  | _ => failed

def recvFailed (actions : List Action) : Bool := actions.foldl noteRecv false

/-- What the flag and the server are at each point of the supervisor. -/
def Consistent (failed : Bool) (s : State) : Prop :=
  match s.phase with
  | .creating | .failed | .sleeping => s.dnsUp = false
  | .created => s.dnsUp = false ∧ s.server = .new
  | .bindingUdp | .bindingTcp | .spawning =>
      s.dnsUp = true ∧ s.server.udpServing = false ∧ s.server.tcpServing = false ∧
        (s.phase = .bindingTcp ∨ s.phase = .spawning → s.server.udpBound = true) ∧
        (s.phase = .spawning → s.server.tcpBound = true)
  | .serving => s.dnsUp = true ∧ s.server = ⟨!failed, true, !failed, true⟩
  | .exited => s.dnsUp = true ∧ s.server.tcpServing = false

theorem Consistent.step {failed : Bool} {s s' : State} {a : Action} (fits : Consistent failed s)
    (taken : step s a = some s') : Consistent (noteRecv failed a) s' := by
  cases a with
  | create ok =>
      obtain ⟨phase, taken⟩ := Option.ite_none_right_eq_some.mp taken
      cases ok <;> cases taken <;> simp_all [Consistent]
  | storeUp =>
      obtain ⟨phase, taken⟩ := Option.ite_none_right_eq_some.mp taken
      cases taken
      simp_all [Consistent, Server.new]
  | bindUdp ok =>
      obtain ⟨phase, taken⟩ := Option.ite_none_right_eq_some.mp taken
      cases ok <;> cases taken <;> simp_all [Consistent]
  | bindTcp ok =>
      obtain ⟨phase, taken⟩ := Option.ite_none_right_eq_some.mp taken
      cases ok <;> cases taken <;> simp_all [Consistent]
  | spawnLoops =>
      obtain ⟨phase, taken⟩ := Option.ite_none_right_eq_some.mp taken
      cases taken
      simp_all [Consistent, noteRecv]
  | acceptFails =>
      obtain ⟨phase, taken⟩ := Option.ite_none_right_eq_some.mp taken
      cases taken
      simp_all [Consistent]
  | recvFails =>
      obtain ⟨running, taken⟩ := Option.ite_none_right_eq_some.mp taken
      cases taken
      cases phase : s.phase <;> simp_all [Consistent, noteRecv, Server.new]
  | orphanRecvFails =>
      obtain ⟨-, taken⟩ := Option.ite_none_right_eq_some.mp taken
      cases taken
      exact fits
  | storeDown =>
      obtain ⟨-, taken⟩ := Option.ite_none_right_eq_some.mp taken
      cases taken
      rfl
  | wake =>
      obtain ⟨phase, taken⟩ := Option.ite_none_right_eq_some.mp taken
      cases taken
      simp_all [Consistent]

theorem Consistent.run {failed : Bool} {s s' : State} {actions : List Action}
    (fits : Consistent failed s) (ran : Transition.run DnsSupervisor.step s actions = some s') :
    Consistent (actions.foldl noteRecv failed) s' :=
  Transition.run_fold_invariant (I := Consistent) fits (fun _ _ _ _ fits taken => fits.step taken)
    ran

/-! ## When readiness means that DNS is served -/

/-- Both sockets are bound and both loops run. -/
structure Server.Serves (server : Server) : Prop where
  udpBound : server.udpBound = true
  tcpBound : server.tcpBound = true
  udpServing : server.udpServing = true
  tcpServing : server.tcpServing = true

/-- Whatever the database answers, readiness is reported only while DNS is served. -/
def ReadyServes (s : State) : Prop :=
  ∀ agents : Except StorageError (List Text),
    ready agents s.dnsUp = .ok "ready".toList → s.server.Serves

theorem readyServes_iff {s : State} : ReadyServes s ↔ (s.dnsUp = true → s.server.Serves) := by
  constructor
  · intro serves up
    exact serves (.ok []) (ready_iff.mpr ⟨⟨[], rfl⟩, up⟩)
  · intro serves agents answered
    exact serves (ready_iff.mp answered).2

/-- The points at which the flag is set and DNS is not served. -/
inductive Unserved (failed : Bool) : Phase → Prop
  /-- The flag is stored, and the sockets are still to be bound and the loops spawned. -/
  | bindingUdp : Unserved failed .bindingUdp
  | bindingTcp : Unserved failed .bindingTcp
  | spawning : Unserved failed .spawning
  /-- The UDP loop has ended, and the TCP loop goes on. -/
  | deaf (ended : failed = true) : Unserved failed .serving
  /-- The run has returned, and the flag is still to be cleared. -/
  | exited : Unserved failed .exited

theorem readyServes_of_down {s : State} (down : s.dnsUp = false) : ReadyServes s := by
  rw [readyServes_iff, down]
  intro up
  cases up

theorem not_readyServes {s : State} (up : s.dnsUp = true)
    (silent : s.server.udpServing = false ∨ s.server.tcpServing = false) : ¬ReadyServes s := by
  rw [readyServes_iff]
  intro serves
  rcases silent with silent | silent
  · exact absurd (silent.symm.trans (serves up).udpServing) Bool.false_ne_true
  · exact absurd (silent.symm.trans (serves up).tcpServing) Bool.false_ne_true

theorem Consistent.readyServes_iff {failed : Bool} {s : State} (fits : Consistent failed s) :
    ReadyServes s ↔ ¬Unserved failed s.phase := by
  rw [Consistent] at fits
  cases phase : s.phase with
  | creating | failed | sleeping =>
      rw [phase] at fits
      exact iff_of_true (readyServes_of_down fits) nofun
  | created =>
      rw [phase] at fits
      exact iff_of_true (readyServes_of_down fits.1) nofun
  | bindingUdp =>
      rw [phase] at fits
      exact iff_of_false (not_readyServes fits.1 (Or.inl fits.2.1)) fun served => served .bindingUdp
  | bindingTcp =>
      rw [phase] at fits
      exact iff_of_false (not_readyServes fits.1 (Or.inl fits.2.1)) fun served => served .bindingTcp
  | spawning =>
      rw [phase] at fits
      exact iff_of_false (not_readyServes fits.1 (Or.inl fits.2.1)) fun served => served .spawning
  | exited =>
      rw [phase] at fits
      exact iff_of_false (not_readyServes fits.1 (Or.inr fits.2)) fun served => served .exited
  | serving =>
      rw [phase] at fits
      obtain ⟨up, server⟩ := fits
      cases failed with
      | false =>
          refine iff_of_true (DnsSupervisor.readyServes_iff.mpr fun _ => ?_) nofun
          rw [server]
          exact ⟨rfl, rfl, rfl, rfl⟩
      | true =>
          refine iff_of_false (not_readyServes up (Or.inl ?_)) fun served => served (.deaf rfl)
          rw [server]
          rfl

/-- The flag stays down until it is stored. -/
theorem down_of_no_storeUp {s : State} {actions : List Action} (never : .storeUp ∉ actions)
    (ran : Transition.run step .init actions = some s) : s.dnsUp = false := by
  refine Transition.run_invariant (I := fun s => s.dnsUp = false) rfl ?_ ran
  intro s a listed s' down taken
  cases a with
  | storeUp => exact absurd listed never
  | create ok | bindUdp ok | bindTcp ok =>
      obtain ⟨-, taken⟩ := Option.ite_none_right_eq_some.mp taken
      cases ok <;> cases taken <;> exact down
  | storeDown =>
      obtain ⟨-, taken⟩ := Option.ite_none_right_eq_some.mp taken
      cases taken
      rfl
  | spawnLoops | acceptFails | recvFails | orphanRecvFails | wake =>
      obtain ⟨-, taken⟩ := Option.ite_none_right_eq_some.mp taken
      cases taken
      exact down

/-- Readiness is wrong right after the flag is stored. -/
theorem not_readyServes_after_storeUp {failed : Bool} {s s' : State} (fits : Consistent failed s)
    (taken : step s .storeUp = some s') : ¬ReadyServes s' := by
  rw [(fits.step taken).readyServes_iff]
  obtain ⟨-, taken⟩ := Option.ite_none_right_eq_some.mp taken
  cases taken
  exact fun served => served .bindingUdp

/-- **When readiness means that DNS is served.** A state that a run reaches is in order
unless the supervisor is between storing the flag and spawning the loops, has returned
from the run, or serves with a UDP loop that has ended. All states of a run are in order
exactly if it never stores the flag. -/
theorem ready_serves_iff (actions : List Action) (s : State)
    (ran : Transition.run step .init actions = some s) :
    (ReadyServes s ↔ ¬Unserved (recvFailed actions) s.phase) ∧
    ((∀ past s', past <+: actions → Transition.run step .init past = some s' → ReadyServes s') ↔
      .storeUp ∉ actions) := by
  have start : Consistent false State.init := rfl
  refine ⟨(start.run ran).readyServes_iff, ?_, ?_⟩
  · intro always stored
    obtain ⟨before, after, rfl⟩ := List.append_of_mem stored
    rw [Transition.run_append, Option.bind_eq_some_iff] at ran
    obtain ⟨mid, reached, ran⟩ := ran
    obtain ⟨s', taken, -⟩ := Option.bind_eq_some_iff.mp ran
    refine not_readyServes_after_storeUp (start.run reached) taken ?_
    refine always (before ++ [.storeUp]) s' ⟨after, by rw [List.append_assoc]; rfl⟩ ?_
    rw [Transition.run_append, reached, Option.bind_some, Transition.run_cons taken]
    rfl
  · intro never past s' earlier reached
    exact readyServes_of_down (down_of_no_storeUp (fun stored => never (earlier.subset stored)) reached)

/-- While both loops run, readiness is right. -/
theorem ready_serves_iff_serving :
    ∃ s, Transition.run step .init
        [.create true, .storeUp, .bindUdp true, .bindTcp true, .spawnLoops] = some s ∧
      s.dnsUp = true ∧ ReadyServes s := by
  refine ⟨⟨.serving, true, 1, ⟨true, true, true, true⟩, 0⟩, rfl, rfl, ?_⟩
  refine (ready_serves_iff
    [.create true, .storeUp, .bindUdp true, .bindTcp true, .spawnLoops] _ rfl).1.mpr ?_
  intro unserved
  cases unserved with
  | deaf ended => cases ended

/-- **Ready with nothing bound, and ready without UDP.** -/
theorem ready_without_dns :
    (∃ s, Transition.run step .init [.create true, .storeUp] = some s ∧
      ready (.ok ([] : List Text)) s.dnsUp = .ok "ready".toList ∧
      s.server.udpBound = false ∧ s.server.tcpBound = false) ∧
    ∃ s, Transition.run step .init
        [.create true, .storeUp, .bindUdp true, .bindTcp true, .spawnLoops, .recvFails] = some s ∧
      ready (.ok ([] : List Text)) s.dnsUp = .ok "ready".toList ∧
      s.server.udpServing = false ∧ s.phase = .serving :=
  ⟨⟨_, rfl, rfl, rfl, rfl⟩, _, rfl, rfl, rfl, rfl⟩

end Tailroute.Controller.DnsSupervisor
