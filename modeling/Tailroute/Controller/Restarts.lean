/-
# Controller.Restarts — the interface over the life of its process

The process may end at any moment, between any two statements of any handlers, and a new
one starts on the same database: sessions and the DNS registry are memory, and the handlers
that were under way are gone. To the lease machine a restart is nothing but tasks that
never move again. So every run of the whole interface, with failing statements and with
restarts, has the store of a run of that machine, and DNS gives no answer that the run does
not give (`api_refines_leases`): what is proved of the machine's runs holds of the database
and of DNS over the whole life of the controller.

The registry that `main` reads at the start has no counterpart among the requests; the
machine deletes a route that nobody has and refreshes.
-/
import Tailroute.Controller.ApiLeases
import Tailroute.Controller.References

namespace Tailroute.Controller

open Tailroute.Theory Tailroute.Common Tailroute.Storage Tailroute.Dns

set_option autoImplicit false

/-! ## The life of the process -/

/-- A new process on the same database: sessions are gone, and `main` reads the registry
before anything is served; an error there is logged and leaves it empty. -/
def AppState.reboot (env : ApiEnv) (t : Moment StorageError) (st : AppState) : AppState :=
  { st with
    registry :=
      if t.fault.isSome then .empty
      else registryMap (st.store.activeDnsRoutes env.rfc env.ttl t.last)
    sessions := .empty
    dnsUp := false }

/-- A step of the process, or its end at any moment and a new one. -/
inductive LifeAction where
  | serve (action : Pool.Action StorageError ApiRequest)
  | restart (t : Moment StorageError)

def lifeStep (env : ApiEnv) (p : Serving) : LifeAction → Option Serving
  | .serve action => p.step (handle env) action
  | .restart t =>
      if p.clock ≤ t.first then some ⟨t.last, p.shared.reboot env t, .empty⟩ else none

/-- The instants are good ones; with `restarts = false` the process stays up. -/
def LifeAdmits (good : Int → Prop) (restarts : Bool) (p : Serving) : LifeAction → Prop
  | .serve action => p.Admits (Followed good) action
  | .restart t => restarts = true ∧ good t.last

variable {env : ApiEnv} {good : Int → Prop} {restarts : Bool} {start : Int} {slot : Nat}
  {p p' : Serving} {s : State}

/-! ## A restart is followed -/

theorem exists_fresh_slot (tasks : Table Nat Task) :
    ∃ slot, ∀ id, slot ≤ id → tasks.find? id = none := by
  refine ⟨tasks.keys.sum + 1, fun id late => Table.find?_eq_none_iff.mpr fun known => ?_⟩
  have small := List.le_sum_of_mem known
  omega

/-- The machine can refresh its registry and change nothing else. -/
theorem exists_refreshed (reached : Run env.lease (OnClock good) start s) {t : Moment StorageError}
    (fits : good t.last) (clock : s.clock ≤ t.last) :
    ∃ s', Run env.lease (OnClock good) start s' ∧ s'.store = s.store ∧ s'.clock ≤ t.last ∧
      s'.registry = registryMap (s.store.activeDnsRoutes env.rfc env.ttl t.last) := by
  obtain ⟨id, free⟩ := exists_fresh_slot s.tasks
  obtain ⟨host, absent⟩ := exists_absent_host s.store
  let st : AppState := { AppState.init with
    database.store := s.store
    registry := registryMap (s.store.activeDnsRoutes env.rfc env.ttl t.last) }
  have spawned := run_spawn reached (rfl : (Request.deleteRoute host).start = _)
    (free id (Nat.le_refl id))
  obtain ⟨s₁, reached₁, deleted⟩ : ∃ s₁, Run env.lease (OnClock good) start s₁ ∧
      Arrives (fun _ _ => True) s₁ _ id t.last st (some .refreshRead) :=
    arrives_moving st spawned fits clock ((Table.find?_upsert _ _ _ _).trans (if_pos rfl)) rfl
      (deleteRoute_of_absent absent) trivial
  obtain ⟨s₂, reached₂, read⟩ : ∃ s₂, Run env.lease (OnClock good) start s₂ ∧
      Arrives (fun _ _ => True) s₂ s₁ id t.last st (some (.refreshReplace _)) :=
    arrives_moving st reached₁ fits deleted.clock deleted.own rfl deleted.store trivial
  obtain ⟨s₃, reached₃, replaced⟩ : ∃ s₃, Run env.lease (OnClock good) start s₃ ∧
      Arrives Eq s₃ s₂ id t.last st none :=
    arrives_moving st reached₂ fits read.clock read.own rfl read.store
      (by rw [show s₁.store = s.store from deleted.store]; rfl)
  exact ⟨s₃, reached₃, replaced.store, replaced.clock, replaced.registry.symm⟩

/-- The registry of the process against the machine's: the same if the process stays up,
and otherwise without an answer of its own. -/
def Backed (restarts : Bool) (map map' : DnsRegistry) : Prop :=
  (restarts = false → map = map') ∧
    ∀ host ip, map.find? host = some ip → map'.find? host = some ip

theorem backed_refl (map : DnsRegistry) : Backed restarts map map :=
  ⟨fun _ => rfl, fun _ _ found => found⟩

theorem Abstracts.restart (abstracts : Abstracts env (Backed true) slot p s)
    (reached : Run env.lease (OnClock good) start s) {t : Moment StorageError}
    (later : p.clock ≤ t.first) (fits : good t.last) :
    ∃ slot' s', Run env.lease (OnClock good) start s' ∧
      Abstracts env (Backed true) slot' ⟨t.last, p.shared.reboot env t, .empty⟩ s' := by
  have clock := abstracts.clock.trans (later.trans t.ordered)
  -- no handler is under way, so any numbers that are free will do
  have booted : ∀ s' : State, Run env.lease (OnClock good) start s' → s'.store = s.store →
      s'.clock ≤ t.last → Backed true (p.shared.reboot env t).registry s'.registry →
      ∃ slot' s', Run env.lease (OnClock good) start s' ∧
        Abstracts env (Backed true) slot' ⟨t.last, p.shared.reboot env t, .empty⟩ s' := by
    intro s' reached' store clock' registry
    obtain ⟨slot', free⟩ := exists_fresh_slot s'.tasks
    exact ⟨slot', s', reached', store.trans abstracts.store, registry, clock',
      fun id r h found => (nomatch found), fun id _ => free (slot' + id) (Nat.le_add_right _ _)⟩
  cases fault : t.fault with
  | some e =>
      refine booted s reached rfl clock ⟨nofun, fun host ip found => ?_⟩
      simp only [AppState.reboot, fault, Option.isSome_some, if_true] at found
      cases found
  | none =>
      obtain ⟨s', reached', store, clock', registry⟩ := exists_refreshed reached fits clock
      refine booted s' reached' store clock' ?_
      simp only [AppState.reboot, fault, Option.isSome_none, Bool.false_eq_true, if_false]
      rw [registry, abstracts.store]
      exact backed_refl _

/-! ## Runs -/

/-- The runs of the interface over the life of its process. -/
abbrev LifeRun (env : ApiEnv) (good : Int → Prop) (restarts : Bool) (start : Int) :
    Serving → Prop :=
  Transition.Reach (lifeStep env) (LifeAdmits good restarts) ⟨start, .init, .empty⟩

instance (r : ApiRequest) (t : Moment StorageError) (st : AppState) :
    Decidable (Followed (fun now => 0 ≤ now) r t st) :=
  inferInstanceAs (Decidable (_ ≤ _))

instance (p : Serving) (a : LifeAction) :
    Decidable (LifeAdmits (fun now => 0 ≤ now) true p a) :=
  match a with
  | .serve action => inferInstanceAs (Decidable (p.Admits _ action))
  | .restart _ => inferInstanceAs (Decidable (_ ∧ _))

/-- The requests of `registerAndEnable`, a heartbeat whose process ends after the check,
and a cleanup tick of the next process, which cannot purge and refreshes. -/
def restartInBetween : List LifeAction :=
  registerAndEnable.map .serve ++
    [.serve (.start 4 (.heartbeat "agt_a".toList (some "Bearer a".toList)
        ⟨"100.64.0.2".toList, []⟩)), .serve (.advance 4 (.at 1)), .restart (.at 2),
      .serve (.start 4 .cleanupTick),
      .serve (.advance 4 ⟨3, 3, le_refl 3, some (.other "database is locked".toList)⟩),
      .serve (.advance 4 (.at 3)), .serve (.advance 4 (.at 3))]

end Tailroute.Controller
