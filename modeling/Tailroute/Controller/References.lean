/-
# Controller.References — every row refers to an enrolled agent

Routes, discovery snapshots and enable intents name an agent. `References.change` goes
through the writes of `Controller.Access` once; `references_hold` is about every
interleaving of the whole interface.
-/
import Tailroute.Controller.Access

namespace Tailroute.Controller

open Tailroute.Theory Tailroute.Common Tailroute.Storage Tailroute.Dns

set_option autoImplicit false

variable {env : ApiEnv} {start : Int} {st₀ : AppState} {p : Serving}

/-- Every row that names an agent names an enrolled one, and hostnames are lowercase. -/
structure References (st : AppState) : Prop where
  routes : ∀ host agentId, st.store.owner host = some agentId → agentId ∈ st.store.agents.keys
  snapshots : ∀ agentId row, st.database.discoverySnapshots.find? agentId = some row →
    agentId ∈ st.store.agents.keys
  enabled : ∀ pair row, st.database.enabledServices.rows.find? pair = some row →
    pair.1 ∈ st.store.agents.keys
  lowercase : st.store.LowercaseHosts

theorem References.stored {t : Moment StorageError} {st : AppState} (refs : References st)
    (s : Statement)
    (known : ∀ ttl agentId entries, s = .transactRoutes ttl agentId entries →
      agentId ∈ st.store.agents.keys) (grows : ∀ agentId ∈ st.store.agents.keys,
        agentId ∈ (s.exec env.rfc st.store t.last).agents.keys) :
    References (st.setStore (s.exec env.rfc st.store t.last)) where
  routes := by
    intro host agentId owned
    have change := s.ownerChange_exec env.rfc st.store t.last host
    generalize held : (s.exec env.rfc st.store t.last).owner host = after at change
    have owned : after = some agentId := held.symm.trans owned
    cases change with
    | kept => exact grows _ (refs.routes host agentId owned)
    | claimed ttl agent entries named free =>
        cases owned
        exact grows _ (known ttl _ entries rfl)
    | withdrawn => cases owned
    | deleted => cases owned
    | cleared => cases owned
    | purged => cases owned
  snapshots := fun agentId row found => grows agentId (refs.snapshots agentId row found)
  enabled := fun pair row found => grows pair.1 (refs.enabled pair row found)
  lowercase := refs.lowercase.exec env.rfc t.last s

theorem References.change {t : Moment StorageError} {st st' : AppState} {access : Access}
    (refs : References st) (change : Change env t st access st') : References st' := by
  have grows := fun agentId (known : agentId ∈ st.store.agents.keys) => change.keys known
  cases change with
  | stored s _ known => exact refs.stored s known grows
  | reported agentId payloadJson db ran =>
      obtain ⟨enrolled, rfl⟩ := Database.of_putDiscoverySnapshot ran
      refine ⟨refs.routes, ?_, refs.enabled, refs.lowercase⟩
      intro agent row found
      simp only [Table.find?_upsert] at found
      split at found
      · rename_i same
        rw [same]
        refine enrolled.elim ?_ id
        intro reportedBefore
        obtain ⟨old, found⟩ := Table.mem_keys_iff.mp reportedBefore
        exact refs.snapshots agentId old found
      · exact refs.snapshots agent row found
  | enabled token body intent checked services ran =>
      refine ⟨refs.routes, refs.snapshots, ?_, refs.lowercase⟩
      intro pair row found
      by_cases same : pair = (body.agentId, body.identityKey)
      · unfold EnabledServices.upsertEnabledService at ran
        split at ran
        · rename_i old stored
          exact same ▸ refs.enabled _ old stored
        · split at ran
          · cases ran
          · split at ran
            · rename_i known
              rw [same]
              exact of_decide_eq_true known
            · cases ran
      · have others := (EnabledServices.find?_upsertEnabledService ran).2 pair same
        rw [show (st.setEnabled services).database.enabledServices = services from rfl,
          others] at found
        exact refs.enabled pair row found
  | disabled id services ran =>
      refine ⟨refs.routes, refs.snapshots, ?_, refs.lowercase⟩
      intro pair row found
      have flagged := EnabledServices.find?_setEnabledService ran pair
      rw [show (st.setEnabled services).database.enabledServices = services from rfl,
        flagged] at found
      obtain ⟨old, stored, -⟩ := Option.map_eq_some_iff.mp found
      exact refs.enabled pair old stored
  | audited => exact ⟨refs.routes, refs.snapshots, refs.enabled, refs.lowercase⟩
  | refreshed => exact ⟨refs.routes, refs.snapshots, refs.enabled, refs.lowercase⟩

/-- **Every row refers to an enrolled agent**, whatever requests are interleaved and
whatever fails. -/
theorem references_hold (refs : References st₀)
    (reached : ApiRun env (fun _ => True) start st₀ p) : References p.shared := by
  refine reached.invariant (I := fun _ st => References st) refs ?_ ?_ ?_
  · exact fun _ _ _ _ refs => refs
  · exact fun _ _ _ refs => ⟨refs.routes, refs.snapshots, refs.enabled, refs.lowercase⟩
  · exact fun _ _ _ _ _ _ _ refs change => refs.change change

/-- An admin makes a token, an agent enrolls with it and registers `web`, and the admin
enables a service there. -/
def registerAndEnable : List (Pool.Action StorageError ApiRequest) :=
  [.start 0 (.adminCreateEnrollmentToken (some "Bearer pw".toList) [] "t".toList),
    .advance 0 (.at 0), .advance 0 (.at 0),
    .start 1 (.enroll (some "Bearer t".toList)
      ⟨"agt_a".toList, [], "a".toList, ⟨"a".toList, "100.64.0.1".toList, "e".toList⟩⟩),
    .advance 1 (.at 0), .advance 1 (.at 0), .advance 1 (.at 0),
    .start 2 (.putRoutes "agt_a".toList (some "Bearer a".toList)
      [⟨"web".toList, "http://10.0.0.1:80".toList, none, none⟩]),
    .start 3 (.adminEnableService (some "Bearer pw".toList) "1".toList
      (enableWeb "app.internal".toList)),
    .advance 2 (.at 0), .advance 3 (.at 0), .advance 2 (.at 0), .advance 3 (.at 0),
    .advance 2 (.at 0)]

theorem references_hold_registered :
    ∃ p, ApiRun plainApi (fun _ => True) 0 .init p ∧
      p.shared.store.owner "web".toList = some "agt_a".toList ∧
      (p.shared.database.enabledServices.rows.find?
        ("agt_a".toList, "compose:web".toList)).isSome = true ∧ References p.shared := by
  have reached : ApiRun plainApi (fun _ => True) 0 .init _ :=
    Transition.reach_of_run registerAndEnable rfl
  refine ⟨_, reached, by decide +kernel, by decide +kernel, references_hold ?_ reached⟩
  exact ⟨by simp [AppState.init, Store.owner, Store.empty], by simp [AppState.init],
    by simp [AppState.init, EnabledServices.empty], by simp [AppState.init, Store.LowercaseHosts,
      Store.owner, Store.empty]⟩

end Tailroute.Controller
