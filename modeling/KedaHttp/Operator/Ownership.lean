import KedaHttp.Operator.System

/-!
# Who takes a route down

The routing table does not record which HTTPScaledObject a host was registered for, and
`RemoveTarget` removes a host from it by name alone. A Reconcile thus takes down precisely the
routes for the hosts it removes, whoever registered them (`takenDownHosts`). It removes hosts in
two places: when an object is under deletion, with the hosts of the object as it is stored, and
in the clean-up after a failed creation, with the hosts that the object in memory has after its
status was saved. A Reconcile that panics (`panicsReconciling`) ends the process and takes every
route down with it.
-/

namespace KedaHttp.Operator

open KedaHttp.Foundation
open KedaHttp.Routing

/-- The hosts that the Reconcile of an object removes from the table. -/
def takenDownHosts (client : Client) (faults cleanupFaults : Faults) (state : State)
    (key : ObjectKey) : List String :=
  match state.cluster.getHTTPScaledObject faults key with
  | .error _ => []
  | .ok httpso =>
      if httpso.live then
        match admitted client faults state httpso with
        | none => []
        | some sanitized =>
            if creationFails faults state.cluster sanitized ∧
                deletionError cleanupFaults = none then
              cleanupHosts client (faults .saveCreationStatus) httpso sanitized
            else []
      else if deletionError faults = none then httpso.hosts
      else []

variable {config : Config} {faults cleanupFaults : Faults} {state after : State}
  {key : ObjectKey} {host : String} {target : Target}

theorem lookup_addTargets_of_registered
    (registered : state.routingTable.m.lookup host = some target) (hosts : List String)
    (added : Target) :
    (state.routingTable.addTargets hosts added).m.lookup host = some target := by
  rw [Table.lookup_addTargets, registered, Option.some_or]

/-- Removing hosts takes down the routes for these hosts and no others. -/
theorem TakesDown.lookup_iff {httpso : HTTPScaledObject} {result : Except Failure Unit}
    (takesDown : TakesDown faults state httpso after result)
    (registered : state.routingTable.m.lookup host = some target) :
    after.routingTable.m.lookup host = some target ↔
      host ∉ if deletionError faults = none then httpso.hosts else [] := by
  rw [takesDown.routingTable]
  cases deletionError faults with
  | some err => simp [registered]
  | none =>
      simp only [Option.isNone_none, if_true, Table.lookup_removeTargets]
      by_cases member : host ∈ httpso.hosts <;> simp [member, registered]

theorem FailsCreation.lookup {httpso : HTTPScaledObject} {failed : State}
    (fails : FailsCreation config faults state httpso failed)
    (registered : state.routingTable.m.lookup host = some target) :
    failed.routingTable.m.lookup host = some target := by
  cases fails with
  | unscaled _ same =>
      rw [same.routingTable]
      exact registered
  | unpublished _ _ _ same =>
      rw [same.routingTable]
      exact lookup_addTargets_of_registered registered _ _

theorem Accepts.lookup_iff {httpso : HTTPScaledObject} {result : Except Failure Unit}
    (accepts : Accepts config faults cleanupFaults state httpso after result)
    (registered : state.routingTable.m.lookup host = some target) :
    after.routingTable.m.lookup host = some target ↔
      host ∉ if creationFails faults state.cluster httpso ∧ deletionError cleanupFaults = none then
        (httpso.afterSave config.client (faults .saveCreationStatus) state.cluster).hosts
        else [] := by
  cases accepts with
  | created scaledObject created published same =>
      have succeeds : creationFails faults state.cluster httpso = false := by
        simp [creationFails, created, published]
      have kept : (withRoutes config state httpso scaledObject).routingTable.m.lookup host =
          some target := lookup_addTargets_of_registered registered _ _
      simp [succeeds, same.routingTable, State.publish, kept]
  | panicked scaledObject _ created panics same =>
      have succeeds : creationFails faults state.cluster httpso = false := by
        simp [creationFails, created, panics]
      have kept : (withRoutes config state httpso scaledObject).routingTable.m.lookup host =
          some target := lookup_addTargets_of_registered registered _ _
      simp [succeeds, same.routingTable, kept]
  | cleanedUp _ fails takesDown _ =>
      rw [takesDown.lookup_iff (fails.lookup registered)]
      simp only [fails.creationFails, true_and]

/-- What a Reconcile takes out of the table of a process that has not ended. -/
theorem Reconciles.lookup_iff {result : Except Failure Unit}
    (reconciles : Reconciles config faults cleanupFaults state key after result)
    (wellKeyed : state.WellKeyed)
    (registered : state.routingTable.m.lookup host = some target) :
    after.routingTable.m.lookup host = some target ↔
      host ∉ takenDownHosts config.client faults cleanupFaults state key := by
  cases reconciles with
  | unread got _ => simp [takenDownHosts, got, registered]
  | retained got terminating takesDown =>
      rw [takesDown.lookup_iff registered]
      simp [takenDownHosts, got, terminating]
  | finalized got terminating takesDown _ =>
      rw [(finalizeScaledObject_resources _ _ _).routingTable, takesDown.lookup_iff registered]
      simp [takenDownHosts, got, terminating]
  | @refused httpso _ got live unadmitted =>
      rw [(ensureFinalizer_resources config.client faults state httpso).routingTable]
      simp [takenDownHosts, got, live, unadmitted, registered]
  | @accepted httpso sanitized _ _ got live admits accepts =>
      have same := ensureFinalizer_resources config.client faults state httpso
      have registeredStill : (ensureFinalizer config.client faults state
          httpso).state.routingTable.m.lookup host = some target := by
        rw [same.routingTable]
        exact registered
      have stored : state.cluster.httpScaledObjects.lookup httpso.key = some httpso := by
        rw [wellKeyed key httpso (lookup_of_get got)]
        exact lookup_of_get got
      rw [accepts.lookup_iff registeredStill, same.creationFails,
        hosts_afterSave stored live admits]
      simp [takenDownHosts, got, live, admits]

theorem State.lookup_survive_iff (after : State) (result : Except Failure Unit) :
    (after.survive result).routingTable.m.lookup host = some target ↔
      after.routingTable.m.lookup host = some target ∧ panicked result = false := by
  rcases result with (_ | _) | _ <;> simp [State.survive, panicked, isPanic, newTable]

/--
A registered route survives the Reconcile of any object precisely if its host is not among those
that the Reconcile takes down, and the Reconcile does not panic.
-/
theorem lookup_reconcile_iff (config : Config) (faults cleanupFaults : Faults) {state : State}
    (wellKeyed : state.WellKeyed) (key : ObjectKey) {host : String} {target : Target}
    (registered : state.routingTable.m.lookup host = some target) :
    let reconciled := reconcile config faults cleanupFaults state key
    (reconciled.1.survive reconciled.2.result).routingTable.m.lookup host = some target ↔
      host ∉ takenDownHosts config.client faults cleanupFaults state key ∧
        panicsReconciling config.client faults cleanupFaults state key = false := by
  have reconciles := reconcile_reconciles config faults cleanupFaults state key
  simp only [State.lookup_survive_iff, reconciles.lookup_iff wellKeyed registered,
    reconciles.panicked (wellKeyed key)]

/-- The operator has a route for the host of one object when another object names it too. -/
def sampleOverlap : State where
  cluster :=
    { httpScaledObjects := (∅ : GoMap ObjectKey HTTPScaledObject).insert ⟨"dp-b", "x"⟩
        (sampleObject "dp-b" "x" (sampleSpec "other" ["a", "b"]))
      scaledObjects := ∅
      routingConfigMap := some shippedConfigMap }
  routingTable := newTable.addTargets ["a"]
    (targetOf sampleConfig (sampleObject "dp-a" "y" (sampleSpec "app" ["a"])))

theorem sampleOverlap_wellKeyed : sampleOverlap.WellKeyed := by
  intro key httpso found
  simp only [sampleOverlap, GoMap.lookup_insert_ite] at found
  split at found
  · next own =>
      rw [← Option.some.inj found, own]
      rfl
  · simp at found

/-- The creation of the second object leaves the route alone. -/
theorem lookup_reconcile_iff_overlap :
    let reconciled := reconcile sampleConfig noFaults noFaults sampleOverlap ⟨"dp-b", "x"⟩
    (reconciled.1.survive reconciled.2.result).routingTable.m.lookup "a" =
      some (targetOf sampleConfig (sampleObject "dp-a" "y" (sampleSpec "app" ["a"]))) :=
  (lookup_reconcile_iff sampleConfig noFaults noFaults sampleOverlap_wellKeyed ⟨"dp-b", "x"⟩
    (by decide)).mpr (by decide)

/-- An object that both `host` and `hosts` are given for, so that it is never accepted. -/
def sampleRejected : HTTPScaledObject :=
  sampleObject "dp-b" "x" { sampleSpec "other" ["a"] with host := some "b" }

/--
An object that `sanitizeHosts` rejects names the host of another object. Its deletion takes down
the other object's route.
-/
theorem not_lookup_reconcile_of_rejected :
    ¬∀ (config : Config) (system : System),
      Reachable (StepOf (step config)) System.initial system →
        ∀ (key owner : ObjectKey) (httpso : HTTPScaledObject) (host : String)
          (faults cleanupFaults : Faults), key ≠ owner →
          system.operator.cluster.httpScaledObjects.lookup owner = some httpso →
          httpso.live = true → owner ∈ system.reconciled → host ∈ httpso.hosts →
          system.operator.routingTable.m.lookup host = some (targetOf config httpso) →
          (reconcile config faults cleanupFaults system.operator key).1.routingTable.m.lookup host =
            some (targetOf config httpso) := by
  intro owned
  rcases Reachable.exists_of_record (step sampleConfig) System.initial
    [.change (.create (sampleObject "dp-a" "y" (sampleSpec "app" ["a"]))),
      .reconcile ⟨"dp-a", "y"⟩ noFaults noFaults, .change (.create sampleRejected),
      .reconcile ⟨"dp-b", "x"⟩ noFaults noFaults, .change (.delete ⟨"dp-b", "x"⟩)]
    (fun system =>
      decide ((⟨"dp-a", "y"⟩ : ObjectKey) ∈ system.reconciled) &&
      ((system.operator.cluster.httpScaledObjects.lookup
        (⟨"dp-a", "y"⟩ : ObjectKey)).any fun httpso : HTTPScaledObject =>
        httpso.live && decide ("a" ∈ httpso.hosts) &&
        decide (system.operator.routingTable.m.lookup "a" =
          some (targetOf sampleConfig httpso))) &&
      decide ((reconcile sampleConfig noFaults noFaults system.operator
        ⟨"dp-b", "x"⟩).1.routingTable.m.lookup "a" = none))
    (by decide) with ⟨system, reachable, passed⟩
  simp only [Bool.and_eq_true, decide_eq_true_eq, Option.any_eq_true] at passed
  rcases passed with ⟨⟨recorded, httpso, found, ⟨live, member⟩, registered⟩, removed⟩
  have kept := owned sampleConfig system reachable ⟨"dp-b", "x"⟩ ⟨"dp-a", "y"⟩ httpso "a" noFaults
    noFaults (by decide) found live recorded member registered
  simp [removed] at kept

end KedaHttp.Operator
