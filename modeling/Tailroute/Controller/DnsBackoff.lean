/-
# Controller.DnsBackoff — how long the supervisor waits

The supervisor of the DNS server sleeps before each new attempt and doubles the sleep, up
to a minute. It goes back to one second as soon as `DnsServer::new` has succeeded, and
that is before the sockets are bound: they are bound by `run`. So only failures of `new`
add up, and `new` as it is written returns no error. A server that exits, an address in use
among the reasons, is followed by a sleep of one second however often that happens
(`dns_retries_every_second`).
-/
import Tailroute.Controller.DnsSupervisor
import Tailroute.Theory.Backoff

namespace Tailroute.Controller.DnsSupervisor

open Tailroute.Theory

set_option autoImplicit false

/-- The server has been created and `run` is under way or has returned. -/
def Phase.running : Phase → Bool
  | bindingUdp | bindingTcp | spawning | serving | exited => true
  | _ => false

/-- Whether the last call of `new` succeeded. -/
def noteCreate (created : Bool) : Action → Bool
  | .create ok => ok
  | _ => created

def lastCreated (actions : List Action) : Bool := actions.foldl noteCreate false

/-- The sleep at each point of the supervisor, by the last result of `new`. -/
structure Paced (created : Bool) (s : State) : Prop where
  paced : Backoff.Paced 1 60 s.backoff
  reset : s.phase.running = true → s.backoff = 1
  succeeded : created = true → s.phase ≠ .failed
  asleep : created = true → s.phase = .sleeping → s.backoff = 1

theorem paced_init (created : Bool) : Paced created .init :=
  ⟨Backoff.paced_base (by decide), by rintro ⟨⟩, by rintro _ ⟨⟩, by rintro _ ⟨⟩⟩

/-- While a server is created or runs, only the first two matter. -/
theorem Paced.awake {created : Bool} {s : State} (paced : Backoff.Paced 1 60 s.backoff)
    (reset : s.phase.running = true → s.backoff = 1) (up : s.phase ≠ .failed)
    (awake : s.phase ≠ .sleeping) : Paced created s :=
  ⟨paced, reset, fun _ => up, fun _ asleep => absurd asleep awake⟩

theorem Paced.step {created : Bool} {s s' : State} {a : Action} (holds : Paced created s)
    (taken : step s a = some s') : Paced (noteCreate created a) s' := by
  cases a with
  | create ok =>
      obtain ⟨-, taken⟩ := Option.ite_none_right_eq_some.mp taken
      cases ok with
      | true =>
          cases taken
          exact .awake holds.paced (by rintro ⟨⟩) (by rintro ⟨⟩) (by rintro ⟨⟩)
      | false =>
          cases taken
          exact ⟨holds.paced, by rintro ⟨⟩, by rintro ⟨⟩, by rintro ⟨⟩⟩
  | storeUp =>
      obtain ⟨-, taken⟩ := Option.ite_none_right_eq_some.mp taken
      cases taken
      exact .awake (Backoff.paced_base (by decide)) (fun _ => rfl) (by rintro ⟨⟩) (by rintro ⟨⟩)
  | bindUdp ok | bindTcp ok =>
      obtain ⟨phase, taken⟩ := Option.ite_none_right_eq_some.mp taken
      have reset := holds.reset (by rw [phase]; rfl)
      cases ok <;> cases taken <;>
        exact .awake holds.paced (fun _ => reset) (by rintro ⟨⟩) (by rintro ⟨⟩)
  | spawnLoops | acceptFails =>
      obtain ⟨phase, taken⟩ := Option.ite_none_right_eq_some.mp taken
      have reset := holds.reset (by rw [phase]; rfl)
      cases taken
      exact .awake holds.paced (fun _ => reset) (by rintro ⟨⟩) (by rintro ⟨⟩)
  | recvFails | orphanRecvFails =>
      obtain ⟨-, taken⟩ := Option.ite_none_right_eq_some.mp taken
      cases taken
      exact ⟨holds.paced, holds.reset, holds.succeeded, holds.asleep⟩
  | storeDown =>
      obtain ⟨phase, taken⟩ := Option.ite_none_right_eq_some.mp taken
      cases taken
      refine ⟨holds.paced, by rintro ⟨⟩, by rintro _ ⟨⟩, fun succeeded _ => ?_⟩
      have exited := phase.resolve_right (holds.succeeded succeeded)
      exact holds.reset (by rw [exited]; rfl)
  | wake =>
      obtain ⟨-, taken⟩ := Option.ite_none_right_eq_some.mp taken
      cases taken
      exact .awake holds.paced.double (by rintro ⟨⟩) (by rintro ⟨⟩) (by rintro ⟨⟩)

theorem paced_of_run {actions : List Action} {s : State} (created : Bool)
    (ran : Transition.run DnsSupervisor.step .init actions = some s) :
    Paced (actions.foldl noteCreate created) s :=
  Transition.run_fold_invariant (I := Paced) (paced_init created)
    (fun _ _ _ _ holds taken => holds.step taken) ran

theorem foldl_noteCreate {actions : List Action} (creates : .create false ∉ actions) :
    actions.foldl noteCreate true = true := by
  induction actions with
  | nil => rfl
  | cons a rest ih =>
      rw [List.mem_cons, not_or] at creates
      have noted : noteCreate true a = true := by
        cases a with
        | create ok =>
            cases ok with
            | true => rfl
            | false => exact absurd rfl creates.1
        | _ => rfl
      rw [List.foldl_cons, noted]
      exact ih creates.2

/-- **Only failures to create a server are backed off from.** In every run the sleep is a
doubling of one second and at most a minute, and it is one second after a server that was
created, whatever ended it. As long as `new` does not fail the supervisor never sleeps
longer: an address that stays in use is tried every second. -/
theorem dns_retries_every_second {actions : List Action} {s : State}
    (ran : Transition.run DnsSupervisor.step .init actions = some s) :
    Backoff.Paced 1 60 s.backoff ∧
      (lastCreated actions = true → s.phase = .sleeping → s.backoff = 1) ∧
      (.create false ∉ actions → s.phase = .sleeping → s.backoff = 1) := by
  have holds := paced_of_run false ran
  refine ⟨holds.paced, holds.asleep, fun creates => ?_⟩
  exact (paced_of_run true ran).asleep (foldl_noteCreate creates)

/-- The address is in use twice in a row. -/
def addressInUse : List Action :=
  [.create true, .storeUp, .bindUdp false, .storeDown, .wake, .create true, .storeUp,
    .bindUdp false, .storeDown]

theorem dns_retries_every_second_in_use :
    ∃ s, Transition.run DnsSupervisor.step .init addressInUse = some s ∧ s.phase = .sleeping ∧
      s.backoff = 1 := by
  have ran : Transition.run DnsSupervisor.step .init addressInUse =
      some ⟨.sleeping, false, 1, .new, 0⟩ := by decide
  exact ⟨_, ran, rfl, (dns_retries_every_second ran).2.2 (by decide) rfl⟩

end Tailroute.Controller.DnsSupervisor
