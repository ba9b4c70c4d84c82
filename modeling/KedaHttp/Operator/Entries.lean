import KedaHttp.Operator.System

/-!
# What all routes have in common

Every route is registered by the Reconcile of a live object that `sanitizeHosts` accepts, with a
host of that object that had no route. Whatever holds of these registrations thus holds of every
route the operator has in memory or has published, in all runs, with faults, clean-ups, panics
and restarts. Which property it is does not matter to the argument.
-/

namespace KedaHttp.Operator

open KedaHttp.Foundation
open KedaHttp.Routing

/-- A property of all routes in memory and of all published ones. -/
structure EveryRoute (Entry : String → Target → Prop) (state : State) : Prop where
  healthy : state.Healthy
  memory : state.routingTable.Every Entry
  published : ∀ table, state.published = some table → table.Every Entry

/-- A Reconcile only registers hosts that have the property with the target they get. -/
def RegistersOnly (config : Config) (Entry : String → Target → Prop) (state : State)
    (key : ObjectKey) : Prop :=
  ∀ httpso hosts, state.cluster.httpScaledObjects.lookup key = some httpso →
    httpso.live = true → httpso.sanitizedHosts config.client = some hosts →
    ∀ host ∈ hosts, host ∉ state.routingTable.m → Entry host (targetOf config httpso)

namespace EveryRoute

variable {config : Config} {faults cleanupFaults : Faults} {Entry : String → Target → Prop}
  {state after : State} {httpso : HTTPScaledObject} {key : ObjectKey}
  {result : Except Failure Unit}

theorem initial : EveryRoute Entry State.initial where
  healthy := State.initial_healthy
  memory := Table.every_newTable
  published := by
    rintro table ⟨⟩
    exact Table.every_newTable

/-- A change of the table in memory that has not been published. -/
theorem with_table (every : EveryRoute Entry state)
    (configMap : after.cluster.routingConfigMap = state.cluster.routingConfigMap)
    (memory : after.routingTable.Every Entry) : EveryRoute Entry after where
  healthy := every.healthy.of_configMap configMap
  memory := memory
  published := by
    rw [State.published, configMap]
    exact every.published

theorem of_sameResources (every : EveryRoute Entry state) (same : SameResources state after) :
    EveryRoute Entry after := by
  apply every.with_table same.routingConfigMap
  rw [same.routingTable]
  exact every.memory

theorem publish (every : EveryRoute Entry state) : EveryRoute Entry state.publish := by
  rcases SameResources.published_of_publish every.healthy ⟨rfl, rfl, rfl⟩ with
    ⟨published, healthy⟩
  refine ⟨healthy, every.memory, ?_⟩
  intro table present
  rw [published, Option.some.injEq] at present
  exact present ▸ every.memory

theorem takesDown (every : EveryRoute Entry state)
    (takesDown : TakesDown faults state httpso after result) : EveryRoute Entry after := by
  have without : EveryRoute Entry (withoutRoutes faults state httpso) :=
    every.with_table rfl (every.memory.removeTargets httpso.hosts)
  cases takesDown with
  | stopped _ same => exact every.of_sameResources same.toSameResources
  | unpublished _ _ same => exact without.of_sameResources same.toSameResources
  | removed _ _ same => exact without.publish.of_sameResources same.toSameResources

theorem accepts (every : EveryRoute Entry state)
    (registers : ∀ host ∈ httpso.hosts, host ∉ state.routingTable.m →
      Entry host (targetOf config httpso))
    (accepts : Accepts config faults cleanupFaults state httpso after result) :
    EveryRoute Entry after := by
  have routed : ∀ scaledObject, EveryRoute Entry (withRoutes config state httpso scaledObject) :=
    fun _ => every.with_table rfl (every.memory.addTargets registers)
  cases accepts with
  | created scaledObject _ _ same =>
      exact (routed scaledObject).publish.of_sameResources same.toSameResources
  | panicked scaledObject _ _ _ same =>
      exact (routed scaledObject).of_sameResources same.toSameResources
  | @cleanedUp failed _ _ _ _ fails takesDown _ =>
      have failedEvery : EveryRoute Entry failed := by
        cases fails with
        | unscaled _ same => exact every.of_sameResources same.toSameResources
        | unpublished scaledObject _ _ same =>
            exact (routed scaledObject).of_sameResources same.toSameResources
      exact failedEvery.takesDown takesDown

theorem reconciles (every : EveryRoute Entry state)
    (registers : RegistersOnly config Entry state key)
    (reconciles : Reconciles config faults cleanupFaults state key after result) :
    EveryRoute Entry after := by
  cases reconciles with
  | unread _ _ => exact every
  | retained _ _ takesDown => exact every.takesDown takesDown
  | finalized _ _ takesDown _ =>
      exact (every.takesDown takesDown).of_sameResources (finalizeScaledObject_resources _ _ _)
  | refused _ _ _ => exact every.of_sameResources (ensureFinalizer_resources _ _ _ _)
  | @accepted httpso sanitized _ _ got live admits accepts =>
      have same := ensureFinalizer_resources config.client faults state httpso
      have hosts := sanitizedHosts_admitted (ensured_of_admitted admits)
      rw [admits] at hosts
      apply (every.of_sameResources same).accepts _ accepts
      rw [same.routingTable, (sanitized_of_admitted admits).target config]
      exact registers httpso sanitized.hosts (lookup_of_get got) live hosts

theorem survive (every : EveryRoute Entry state) (result : Except Failure Unit) :
    EveryRoute Entry (state.survive result) := by
  simp only [State.survive]
  split
  · exact every.with_table rfl Table.every_newTable
  · exact every

/-- A step keeps what all routes have in common, provided its registrations have it. -/
theorem preserved {system next : System} {event : Event}
    (every : EveryRoute Entry system.operator)
    (registers : ∀ key faults cleanupFaults, event = .reconcile key faults cleanupFaults →
      RegistersOnly config Entry system.operator key)
    (stepped : step config system event = some next) : EveryRoute Entry next.operator := by
  cases event with
  | change change =>
      rcases Option.map_eq_some_iff.mp stepped with ⟨cluster, changes, rfl⟩
      exact every.with_table (Cluster.resources_change changes).2 every.memory
  | restart =>
      rw [← Option.some.inj stepped]
      exact every.with_table rfl Table.every_newTable
  | reconcile key faults cleanupFaults =>
      rw [← Option.some.inj stepped]
      have reconciled := every.reconciles (registers key faults cleanupFaults rfl)
        (reconcile_reconciles config faults cleanupFaults system.operator key)
      exact reconciled.survive _

end EveryRoute

/-- Objects stay stored under their names in all runs. -/
theorem State.WellKeyed.preserved {config : Config} {system next : System} {event : Event}
    (wellKeyed : system.operator.WellKeyed) (stepped : step config system event = some next) :
    next.operator.WellKeyed := by
  cases event with
  | change change =>
      rcases Option.map_eq_some_iff.mp stepped with ⟨cluster, changes, rfl⟩
      exact wellKeyed.change changes
  | restart =>
      rw [← Option.some.inj stepped]
      exact wellKeyed
  | reconcile key faults cleanupFaults =>
      rw [← Option.some.inj stepped]
      have others := (reconcile_reconciles config faults cleanupFaults system.operator key).others
        wellKeyed
      rw [State.WellKeyed, State.cluster_survive]
      exact others.1

theorem State.WellKeyed.of_reachable {config : Config} {system : System}
    (reachable : Reachable (StepOf (step config)) System.initial system) :
    system.operator.WellKeyed := by
  refine @Reachable.invariant _ _ _ _ (fun system : System => system.operator.WellKeyed)
    State.initial_wellKeyed ?_ _ reachable
  intro source event target wellKeyed stepped
  exact wellKeyed.preserved stepped

/-- A Reconcile without faults publishes the routes it registers. -/
theorem registersOnly_of_published {config : Config} {Entry : String → Target → Prop}
    {state : State} (healthy : state.Healthy) (wellKeyed : state.WellKeyed) {key : ObjectKey}
    (every : ∀ table, (reconcile config noFaults noFaults state key).1.published = some table →
      table.Every Entry) : RegistersOnly config Entry state key := by
  intro httpso hosts stored live accepts host member unregistered
  have routed := (settles_of_noFaults config healthy wellKeyed key).routed_of_accepted stored live
    accepts
  apply every _ routed.published
  rw [routed.routes, Table.lookup_addTargets, Finmap.lookup_eq_none.mpr unregistered,
    Option.none_or, if_pos member]

end KedaHttp.Operator
