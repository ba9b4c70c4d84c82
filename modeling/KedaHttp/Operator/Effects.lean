import KedaHttp.Operator.Reconcile

/-!
# What each part of a Reconcile does

One lemma for each function `reconcile` calls. The result of a function depends on the faults
and on the cluster, never on the routing table in memory, so that each failure has a
definition of its own (`publishFailure`, `deletionError`, `creationError`).

Conditions, finalizers and the omission of an empty list of hosts do not matter to the routes that
an object asks for. An object up to these is its `essence`. They do matter to whether an object is
accepted, which is decided by what the client decodes from the answer to the finalizer's update
(`ensuredSpec`).
-/

namespace KedaHttp.Operator

open KedaHttp.Foundation
open KedaHttp.Routing

@[simp]
theorem HTTPScaledObjectSpec.marshaled_marshaled (spec : HTTPScaledObjectSpec) :
    spec.marshaled.marshaled = spec.marshaled := by
  cases given : spec.hosts with
  | none => simp [marshaled, given]
  | some list => by_cases empty : list = [] <;> simp [marshaled, given, empty, Option.filter]

namespace HTTPScaledObject

def essence (httpso : HTTPScaledObject) : HTTPScaledObject :=
  { httpso with finalizers := [], conditions := [], spec := httpso.spec.marshaled }

@[simp]
theorem hosts_essence (httpso : HTTPScaledObject) : httpso.essence.hosts = httpso.hosts := by
  cases given : httpso.spec.hosts with
  | none => simp [hosts, essence, HTTPScaledObjectSpec.marshaled, given]
  | some list =>
      by_cases empty : list = []
      · simp [hosts, essence, HTTPScaledObjectSpec.marshaled, given, empty, Option.filter]
      · simp [hosts, essence, HTTPScaledObjectSpec.marshaled, given, empty, Option.filter]

@[simp]
theorem live_essence (httpso : HTTPScaledObject) : httpso.essence.live = httpso.live := rfl

/-- The specification that `sanitizeHosts` works on. -/
def ensuredSpec (client : Client) (httpso : HTTPScaledObject) : HTTPScaledObjectSpec :=
  if httpScaledObjectFinalizer ∈ httpso.finalizers then httpso.spec
  else client.decode httpso.spec httpso.spec.marshaled

/-- The specification that is stored when `sanitizeHosts` is called. -/
def storedSpec (httpso : HTTPScaledObject) : HTTPScaledObjectSpec :=
  if httpScaledObjectFinalizer ∈ httpso.finalizers then httpso.spec else httpso.spec.marshaled

/-- The specification that `SaveStatus` leaves in an object. -/
def specAfterSave (client : Client) (fault : Option ApiError) (cluster : Cluster)
    (httpso : HTTPScaledObject) : HTTPScaledObjectSpec :=
  match fault, cluster.httpScaledObjects.lookup httpso.key with
  | none, some stored => client.decode httpso.spec stored.spec
  | _, _ => httpso.spec

theorem specAfterSave_congr {before after : Cluster} {httpso : HTTPScaledObject}
    (same : after.httpScaledObjects = before.httpScaledObjects) (client : Client)
    (fault : Option ApiError) :
    httpso.specAfterSave client fault after = httpso.specAfterSave client fault before := by
  simp only [specAfterSave, same]

/-- The object that `SaveStatus` leaves behind. -/
def afterSave (client : Client) (fault : Option ApiError) (cluster : Cluster)
    (httpso : HTTPScaledObject) : HTTPScaledObject :=
  { httpso with spec := httpso.specAfterSave client fault cluster }

/-- The status of an object that is stored as it is leaves its specification alone. -/
theorem specAfterSave_of_stored {cluster : Cluster} {httpso stored : HTTPScaledObject}
    (found : cluster.httpScaledObjects.lookup httpso.key = some stored)
    (same : stored.spec = httpso.spec) (client : Client) (fault : Option ApiError) :
    httpso.specAfterSave client fault cluster = httpso.spec := by
  simp only [specAfterSave, found]
  cases fault with
  | some err => rfl
  | none => simp [same]

/-- What the client decodes differs from what was read in an empty list of hosts at most. -/
theorem exists_ensuredSpec (client : Client) (httpso : HTTPScaledObject) :
    ∃ hosts, httpso.ensuredSpec client = { httpso.spec with hosts := hosts } ∧
      (hosts = httpso.spec.hosts ∨ hosts = none ∧ httpso.spec.hosts = some []) := by
  simp only [ensuredSpec]
  split
  · exact ⟨httpso.spec.hosts, rfl, .inl rfl⟩
  · rw [Client.decode_marshaled]
    refine ⟨_, rfl, ?_⟩
    split
    · exact .inl rfl
    · cases httpso.spec.hosts with
      | none => exact .inl rfl
      | some hosts => by_cases empty : hosts = [] <;> simp [Option.filter, empty]

/-- What is stored differs from what the client decodes in an empty list of hosts at most. -/
theorem hosts_storedSpec (client : Client) (httpso : HTTPScaledObject) :
    httpso.storedSpec.hosts = (httpso.ensuredSpec client).hosts ∨
      httpso.storedSpec.hosts = none ∧ (httpso.ensuredSpec client).hosts = some [] := by
  simp only [storedSpec, ensuredSpec]
  split
  · exact .inl rfl
  · rw [Client.decode_marshaled]
    simp only [HTTPScaledObjectSpec.marshaled]
    split
    · cases httpso.spec.hosts with
      | none => exact .inl rfl
      | some hosts => by_cases empty : hosts = [] <;> simp [Option.filter, empty]
    · exact .inl rfl

@[simp]
theorem scaleTargetRef_storedSpec (httpso : HTTPScaledObject) :
    httpso.storedSpec.scaleTargetRef = httpso.spec.scaleTargetRef := by
  simp only [storedSpec]
  split <;> rfl

@[simp]
theorem host_storedSpec (httpso : HTTPScaledObject) :
    httpso.storedSpec.host = httpso.spec.host := by
  simp only [storedSpec]
  split <;> rfl

@[simp]
theorem targetOf_essence (config : Config) (httpso : HTTPScaledObject) :
    targetOf config httpso.essence = targetOf config httpso := rfl

end HTTPScaledObject

namespace State

/-- The stored object under a key, up to what does not matter to routing. -/
def object (state : State) (key : ObjectKey) : Option HTTPScaledObject :=
  (state.cluster.httpScaledObjects.lookup key).map HTTPScaledObject.essence

def finalizers (state : State) (key : ObjectKey) : Option (List String) :=
  (state.cluster.httpScaledObjects.lookup key).map HTTPScaledObject.finalizers

/-- The routing table that an interceptor decodes from the ConfigMap. -/
def published (state : State) : Option Table :=
  state.cluster.routingConfigMap.bind fun configMap =>
    (fetchTableFromConfigMap configMap).toOption

/-- Objects are stored under their own names. -/
def WellKeyed (state : State) : Prop :=
  ∀ key httpso, state.cluster.httpScaledObjects.lookup key = some httpso → httpso.key = key

/-- The ConfigMap of the routing table exists and has data. -/
def Healthy (state : State) : Prop :=
  ∃ data, state.cluster.routingConfigMap = some ⟨some data⟩

theorem object_of_lookup {state : State} {key : ObjectKey} {httpso : HTTPScaledObject}
    (stored : state.cluster.httpScaledObjects.lookup key = some httpso) :
    state.object key = some httpso.essence :=
  congrArg (Option.map HTTPScaledObject.essence) stored

theorem Healthy.of_configMap {before after : State} (healthy : before.Healthy)
    (same : after.cluster.routingConfigMap = before.cluster.routingConfigMap) :
    after.Healthy := by
  rcases healthy with ⟨data, present⟩
  exact ⟨data, same.trans present⟩

end State

/-- Two states with the same routes and the same ScaledObjects. -/
structure SameResources (before after : State) : Prop where
  routingTable : after.routingTable = before.routingTable
  scaledObjects : after.cluster.scaledObjects = before.cluster.scaledObjects
  routingConfigMap : after.cluster.routingConfigMap = before.cluster.routingConfigMap

theorem SameResources.trans {before between after : State} (first : SameResources before between)
    (second : SameResources between after) : SameResources before after where
  routingTable := second.routingTable.trans first.routingTable
  scaledObjects := second.scaledObjects.trans first.scaledObjects
  routingConfigMap := second.routingConfigMap.trans first.routingConfigMap

/-- Two states that differ in the conditions of HTTPScaledObjects at most. -/
structure SameButConditions (before after : State) : Prop extends SameResources before after where
  object : after.object = before.object
  finalizers : after.finalizers = before.finalizers
  wellKeyed : before.WellKeyed → after.WellKeyed

namespace SameButConditions

variable {before between after : State}

theorem refl (state : State) : SameButConditions state state :=
  ⟨⟨rfl, rfl, rfl⟩, rfl, rfl, id⟩

theorem trans (first : SameButConditions before between)
    (second : SameButConditions between after) : SameButConditions before after where
  toSameResources := first.toSameResources.trans second.toSameResources
  object := second.object.trans first.object
  finalizers := second.finalizers.trans first.finalizers
  wellKeyed := second.wellKeyed ∘ first.wellKeyed

theorem of_saveStatus (client : Client) (fault : Option ApiError) (state : State)
    (httpso : HTTPScaledObject) :
    SameButConditions state (saveStatus client fault state httpso).1 := by
  simp only [saveStatus, Cluster.updateStatus, Cluster.attempt]
  cases fault with
  | some err => exact refl state
  | none =>
      cases found : state.cluster.httpScaledObjects.lookup httpso.key with
      | none => exact refl state
      | some stored =>
          refine ⟨⟨rfl, rfl, rfl⟩, ?_, ?_, ?_⟩
          · funext key
            simp only [State.object, GoMap.lookup_insert_ite]
            split
            · next same => rw [same, found]; rfl
            · rfl
          · funext key
            simp only [State.finalizers, GoMap.lookup_insert_ite]
            split
            · next same => rw [same, found]; rfl
            · rfl
          · intro wellKeyed key other
            simp only [GoMap.lookup_insert_ite]
            split
            · next same =>
                rintro ⟨⟩
                rw [same]
                exact wellKeyed httpso.key stored found
            · exact wellKeyed key other

end SameButConditions

theorem saveStatus_httpso (client : Client) (fault : Option ApiError) (state : State)
    (httpso : HTTPScaledObject) :
    (saveStatus client fault state httpso).2 = httpso.afterSave client fault state.cluster := by
  simp only [saveStatus, Cluster.updateStatus, Cluster.attempt, HTTPScaledObject.afterSave,
    HTTPScaledObject.specAfterSave]
  cases fault with
  | some err => rfl
  | none => cases state.cluster.httpScaledObjects.lookup httpso.key <;> rfl

section Panics

def isPanic : Failure → Bool
  | .panic _ => true
  | .error _ => false

/-- A function has not returned, but panicked. -/
def panicked {Answer : Type} : Except Failure Answer → Bool
  | .error failure => isPanic failure
  | .ok _ => false

theorem panicked_iff {Answer : Type} (result : Except Failure Answer) :
    panicked result = true ↔ ∃ value, result = .error (.panic value) := by
  rcases result with (_ | _) | _ <;> simp [panicked, isPanic]

@[simp]
theorem panicked_cleanupResult (err : String) (cleanup : Except Failure Unit) :
    panicked (cleanupResult err cleanup) = panicked cleanup := by
  rcases cleanup with (_ | _) | _ <;> rfl

end Panics

section Publishing

/-- Why `updateRoutingMap` fails, if it does. -/
def publishFailure (faults : Faults) (cluster : Cluster) : Option Failure :=
  match cluster.getConfigMap faults with
  | .error err => some (.error ("routing table ConfigMap fetch error: " ++ err.message))
  | .ok configMap =>
      match configMap.data with
      | none => some (.panic "assignment to entry in nil map")
      | some _ =>
          (faults .patchConfigMap).map fun err =>
            .error ("saving routing table ConfigMap to Kubernetes: " ++ err.message)

def publishPanics (faults : Faults) (cluster : Cluster) : Bool :=
  (publishFailure faults cluster).any isPanic

def Cluster.publish (cluster : Cluster) (table : Table) : Cluster :=
  { cluster with
    routingConfigMap := cluster.routingConfigMap.map fun configMap =>
      ⟨configMap.data.map fun data => data.insert configMapRoutingTableKey table.marshalJSON⟩ }

/-- What is published is the table in memory. -/
def State.publish (state : State) : State :=
  { state with cluster := state.cluster.publish state.routingTable }

theorem updateRoutingMap_eq (faults : Faults) (state : State) :
    updateRoutingMap faults state =
      match publishFailure faults state.cluster with
      | some failure => (state, .error failure)
      | none => (state.publish, .ok ()) := by
  simp only [updateRoutingMap, publishFailure]
  cases got : state.cluster.getConfigMap faults with
  | error err => rfl
  | ok configMap =>
      have stored : state.cluster.routingConfigMap = some configMap := by
        rcases Cluster.attempt_eq_ok_iff.mp got with ⟨_, answers⟩
        split at answers
        · next found => rw [found, Except.ok.inj answers]
        · simp at answers
      rcases configMap with ⟨data⟩
      cases data with
      | none => rfl
      | some data =>
          cases refused : faults .patchConfigMap with
          | some err =>
              simp [saveTableToConfigMap, Cluster.patchConfigMap, Cluster.attempt, refused]
          | none =>
              simp [saveTableToConfigMap, Cluster.patchConfigMap, Cluster.attempt, refused,
                stored, State.publish, Cluster.publish, MergePatch.apply_mergeFrom]

/-- Publishing touches nothing but the ConfigMap. -/
theorem exists_updateRoutingMap (faults : Faults) (state : State) :
    ∃ configMap, (updateRoutingMap faults state).1 =
      { state with cluster := { state.cluster with routingConfigMap := configMap } } := by
  rw [updateRoutingMap_eq]
  split
  · exact ⟨_, rfl⟩
  · exact ⟨_, rfl⟩

theorem published_publish {state : State} (healthy : state.Healthy) (table other : Table) :
    State.published ⟨state.cluster.publish table, other⟩ = some table := by
  rcases healthy with ⟨data, stored⟩
  simp [State.published, Cluster.publish, stored, fetchTableFromConfigMap, Table.marshalJSON,
    Table.unmarshalJSON, Except.toOption]

/-- After a successful update the published table is the one in memory. -/
theorem SameResources.published_of_publish {state after : State} (healthy : state.Healthy)
    (same : SameResources state.publish after) :
    after.published = some after.routingTable ∧ after.Healthy := by
  constructor
  · have publishes : state.publish.published = some state.routingTable :=
      published_publish healthy _ _
    rw [same.routingTable, State.published, same.routingConfigMap]
    exact publishes
  · rcases healthy with ⟨data, stored⟩
    refine ⟨data.insert configMapRoutingTableKey state.routingTable.marshalJSON, ?_⟩
    rw [same.routingConfigMap]
    simp only [State.publish, Cluster.publish, stored, Option.map_some]

theorem publishFailure_noFaults {state : State} (healthy : state.Healthy) :
    publishFailure noFaults state.cluster = none := by
  rcases healthy with ⟨data, stored⟩
  simp [publishFailure, Cluster.getConfigMap, Cluster.attempt, noFaults, stored]

end Publishing

section Removal

/-- The error that stops `removeApplicationResources` before it touches the routing table. -/
def deletionError (faults : Faults) : Option ApiError :=
  (faults .deleteScaledObject).filter fun err => !err.isNotFound

/-- The ScaledObjects that remain when the call to delete the one of an object is through. -/
def remainingScaledObjects (faults : Faults) (cluster : Cluster) (httpso : HTTPScaledObject) :
    GoMap ObjectKey ScaledObject :=
  match faults .deleteScaledObject with
  | none => cluster.scaledObjects.erase ⟨httpso.ns, appScaledObjectName httpso⟩
  | some _ => cluster.scaledObjects

/-- The state in which `removeAndUpdateRoutingTable` goes on to publish. -/
def withoutRoutes (faults : Faults) (state : State) (httpso : HTTPScaledObject) : State where
  cluster := { state.cluster with
    scaledObjects := remainingScaledObjects faults state.cluster httpso }
  routingTable := state.routingTable.removeTargets httpso.hosts

theorem deleteAppScaledObject_eq (faults : Faults) (cluster : Cluster)
    (httpso : HTTPScaledObject) :
    deleteAppScaledObject faults cluster httpso =
      match deletionError faults with
      | some err => .error err
      | none => .ok { cluster with
          scaledObjects := remainingScaledObjects faults cluster httpso } := by
  unfold deleteAppScaledObject Cluster.deleteScaledObject Cluster.attempt deletionError
    remainingScaledObjects
  cases fault : faults .deleteScaledObject with
  | some err => cases missing : err.isNotFound <;> simp [missing, Option.filter]
  | none =>
      by_cases present : ⟨httpso.ns, appScaledObjectName httpso⟩ ∈ cluster.scaledObjects
      · simp [present]
      · have same : cluster.scaledObjects.erase ⟨httpso.ns, appScaledObjectName httpso⟩ =
            cluster.scaledObjects := by
          apply Finmap.ext_lookup
          intro key
          rw [GoMap.lookup_erase_ite]
          split
          · next same => rw [same, Finmap.lookup_eq_none.mpr present]
          · rfl
        simp [present, same, ApiError.newNotFound, ApiError.isNotFound]

theorem removeApplicationResources_of_error {faults : Faults} {err : ApiError}
    (stopped : deletionError faults = some err) (client : Client) (state : State)
    (httpso : HTTPScaledObject) :
    SameButConditions state (removeApplicationResources client faults state httpso).state ∧
      (removeApplicationResources client faults state httpso).result =
        .error (.error err.message) := by
  simp only [removeApplicationResources]
  simp only [deleteAppScaledObject_eq, stopped, Progress.saveStatus]
  exact ⟨.of_saveStatus _ _ _ _, trivial⟩

theorem removeApplicationResources_of_none {faults : Faults}
    (through : deletionError faults = none) (client : Client) (state : State)
    (httpso : HTTPScaledObject) :
    let removed := removeApplicationResources client faults state httpso
    let updated := updateRoutingMap faults (withoutRoutes faults state httpso)
    SameButConditions updated.1 removed.state ∧ removed.result = updated.2 := by
  simp only [removeApplicationResources]
  simp only [deleteAppScaledObject_eq, through, Progress.saveStatus]
  exact ⟨.of_saveStatus _ _ _ _, rfl⟩

/-- The object that a removal works on is the stored one, and stays so but for its conditions. -/
theorem removeApplicationResources_httpso {state : State} {httpso : HTTPScaledObject}
    (stored : state.cluster.httpScaledObjects.lookup httpso.key = some httpso) (client : Client)
    (faults : Faults) :
    ∃ conditions, (removeApplicationResources client faults state httpso).httpso =
      { httpso with conditions := conditions } := by
  have kept : ∀ (after : State) (conditions : List HTTPScaledObjectCondition),
      after.cluster.httpScaledObjects = state.cluster.httpScaledObjects →
      (saveStatus client (faults .saveRemovalStatus) after
        { httpso with conditions := conditions }).2 = { httpso with conditions := conditions } := by
    intro after conditions same
    have found : after.cluster.httpScaledObjects.lookup
        ({ httpso with conditions := conditions } : HTTPScaledObject).key = some httpso :=
      same ▸ stored
    rw [saveStatus_httpso, HTTPScaledObject.afterSave,
      HTTPScaledObject.specAfterSave_of_stored found rfl]
  simp only [removeApplicationResources, deleteAppScaledObject_eq, Progress.saveStatus]
  cases deletionError faults with
  | some err => exact ⟨_, kept state _ rfl⟩
  | none =>
      rcases exists_updateRoutingMap faults (withoutRoutes faults state httpso) with
        ⟨configMap, updated⟩
      exact ⟨_, kept _ _ (congrArg (fun after => after.cluster.httpScaledObjects) updated)⟩

/-- What `removeApplicationResources` does, by the state and the result it leads to. -/
inductive TakesDown (faults : Faults) (state : State) (httpso : HTTPScaledObject) :
    State → Except Failure Unit → Prop where
  | stopped {err : ApiError} {after : State} (refused : deletionError faults = some err)
      (same : SameButConditions state after) :
      TakesDown faults state httpso after (.error (.error err.message))
  | unpublished {failure : Failure} {after : State} (through : deletionError faults = none)
      (refused : publishFailure faults state.cluster = some failure)
      (same : SameButConditions (withoutRoutes faults state httpso) after) :
      TakesDown faults state httpso after (.error failure)
  | removed {after : State} (through : deletionError faults = none)
      (published : publishFailure faults state.cluster = none)
      (same : SameButConditions (withoutRoutes faults state httpso).publish after) :
      TakesDown faults state httpso after (.ok ())

theorem removeApplicationResources_takesDown (client : Client) (faults : Faults) (state : State)
    (httpso : HTTPScaledObject) :
    TakesDown faults state httpso (removeApplicationResources client faults state httpso).state
      (removeApplicationResources client faults state httpso).result := by
  cases stopped : deletionError faults with
  | some err =>
      rcases removeApplicationResources_of_error stopped client state httpso with ⟨same, result⟩
      rw [result]
      exact .stopped stopped same
  | none =>
      rcases removeApplicationResources_of_none stopped client state httpso with ⟨same, result⟩
      have unscaled : publishFailure faults (withoutRoutes faults state httpso).cluster =
          publishFailure faults state.cluster := rfl
      rw [updateRoutingMap_eq, unscaled] at same result
      cases refused : publishFailure faults state.cluster with
      | some failure =>
          simp only [refused] at same result
          rw [result]
          exact .unpublished stopped refused same
      | none =>
          simp only [refused] at same result
          rw [result]
          exact .removed stopped refused same

namespace TakesDown

variable {faults : Faults} {state after : State} {httpso : HTTPScaledObject}
  {result : Except Failure Unit}

/-- A removal depends on the namespace and the specification of its object only. -/
theorem congr {other : HTTPScaledObject} (takesDown : TakesDown faults state httpso after result)
    (ns : httpso.ns = other.ns) (spec : httpso.spec = other.spec) :
    TakesDown faults state other after result := by
  have without : withoutRoutes faults state httpso = withoutRoutes faults state other := by
    simp only [withoutRoutes, remainingScaledObjects, appScaledObjectName, HTTPScaledObject.hosts,
      ns, spec]
  cases takesDown with
  | stopped refused same => exact .stopped refused same
  | unpublished through refused same => exact .unpublished through refused (without ▸ same)
  | removed through published same => exact .removed through published (without ▸ same)

theorem routingTable (takesDown : TakesDown faults state httpso after result) :
    after.routingTable =
      if (deletionError faults).isNone then state.routingTable.removeTargets httpso.hosts
      else state.routingTable := by
  cases takesDown with
  | stopped refused same => simpa [refused] using same.routingTable
  | unpublished through _ same =>
      simp only [through, Option.isNone_none, if_true]
      exact same.routingTable
  | removed through _ same =>
      simp only [through, Option.isNone_none, if_true]
      exact same.routingTable

theorem scaledObjects (takesDown : TakesDown faults state httpso after result) :
    after.cluster.scaledObjects =
      if (deletionError faults).isNone then remainingScaledObjects faults state.cluster httpso
      else state.cluster.scaledObjects := by
  cases takesDown with
  | stopped refused same => simpa [refused] using same.scaledObjects
  | unpublished through _ same =>
      simp only [through, Option.isNone_none, if_true]
      exact same.scaledObjects
  | removed through _ same =>
      simp only [through, Option.isNone_none, if_true]
      exact same.scaledObjects

theorem panicked (takesDown : TakesDown faults state httpso after result) :
    panicked result = ((deletionError faults).isNone && publishPanics faults state.cluster) := by
  cases takesDown with
  | stopped refused _ => simp [Operator.panicked, isPanic, refused]
  | unpublished through refused _ => simp [Operator.panicked, publishPanics, through, refused]
  | removed through published _ => simp [Operator.panicked, publishPanics, through, published]

theorem object (takesDown : TakesDown faults state httpso after result) :
    after.object = state.object ∧ after.finalizers = state.finalizers ∧
      (state.WellKeyed → after.WellKeyed) := by
  cases takesDown with
  | stopped refused same => exact ⟨same.object, same.finalizers, same.wellKeyed⟩
  | unpublished through _ same => exact ⟨same.object, same.finalizers, same.wellKeyed⟩
  | removed through _ same => exact ⟨same.object, same.finalizers, same.wellKeyed⟩

end TakesDown

end Removal

section Creation

/-- Why an existing ScaledObject cannot be patched. -/
def patchError (faults : Faults) (cluster : Cluster) (key : ObjectKey) : Option ApiError :=
  match cluster.getScaledObject faults key with
  | .error err => some err
  | .ok _ => faults .patchScaledObject

/-- Why `createOrUpdateScaledObject` fails, if it does. -/
def creationError (faults : Faults) (cluster : Cluster) (httpso : HTTPScaledObject) :
    Option ApiError :=
  let key : ObjectKey := ⟨httpso.ns, createdScaledObjectName httpso⟩
  match faults .createScaledObject with
  | some err => if err.isAlreadyExists then patchError faults cluster key else some err
  | none => if key ∈ cluster.scaledObjects then patchError faults cluster key else none

/-- The cluster with a ScaledObject in the place of the one created for an object. -/
def Cluster.withScaledObject (cluster : Cluster) (httpso : HTTPScaledObject)
    (scaledObject : ScaledObject) : Cluster :=
  { cluster with
    scaledObjects := cluster.scaledObjects.insert ⟨httpso.ns, createdScaledObjectName httpso⟩
      scaledObject }

/-- What a function does to the ScaledObject of an HTTPScaledObject. -/
structure CreatesScaledObject (faults : Faults) (state : State) (httpso : HTTPScaledObject)
    (progress : Progress) : Prop where
  conditions : ∃ conditions, progress.httpso = { httpso with conditions := conditions }
  failed : ∀ err, creationError faults state.cluster httpso = some err →
    progress.state = state ∧ progress.result = .error (.error err.message)
  succeeded : creationError faults state.cluster httpso = none →
    progress.result = .ok () ∧ ∃ scaledObject,
      progress.state =
        { state with cluster := state.cluster.withScaledObject httpso scaledObject }

theorem patchExistingScaledObject_of_error {faults : Faults} {cluster : Cluster}
    {scaledObject : ScaledObject} {err : ApiError}
    (refused : patchError faults cluster ⟨scaledObject.ns, scaledObject.name⟩ = some err) :
    patchExistingScaledObject faults cluster scaledObject = .error err := by
  cases got : cluster.getScaledObject faults ⟨scaledObject.ns, scaledObject.name⟩ with
  | error missing =>
      simp only [patchError, got, Option.some.injEq] at refused
      simp only [patchExistingScaledObject, got, refused]
  | ok stored =>
      simp only [patchError, got] at refused
      simp [patchExistingScaledObject, got, Cluster.patchScaledObject, Cluster.attempt, refused]

theorem patchExistingScaledObject_of_none {faults : Faults} {cluster : Cluster}
    (scaledObject : ScaledObject)
    (accepted : patchError faults cluster ⟨scaledObject.ns, scaledObject.name⟩ = none) :
    ∃ stored, cluster.scaledObjects.lookup ⟨scaledObject.ns, scaledObject.name⟩ = some stored ∧
      patchExistingScaledObject faults cluster scaledObject =
        .ok { cluster with
          scaledObjects := cluster.scaledObjects.insert ⟨scaledObject.ns, scaledObject.name⟩
            (Cluster.mergeScaledObject stored scaledObject) } := by
  cases got : cluster.getScaledObject faults ⟨scaledObject.ns, scaledObject.name⟩ with
  | error missing => simp [patchError, got] at accepted
  | ok stored =>
      simp only [patchError, got] at accepted
      have present : cluster.scaledObjects.lookup ⟨scaledObject.ns, scaledObject.name⟩ =
          some stored := by
        rcases Cluster.attempt_eq_ok_iff.mp got with ⟨_, answers⟩
        split at answers
        · next present => rw [present, Except.ok.inj answers]
        · simp at answers
      refine ⟨stored, present, ?_⟩
      simp [patchExistingScaledObject, got, Cluster.patchScaledObject, Cluster.attempt, accepted,
        present]

/-- The first answer of the server decides how the creation of a ScaledObject goes on. -/
theorem createScaledObject_ok {faults : Faults} {cluster next : Cluster} {address : String}
    {httpso : HTTPScaledObject}
    (created : cluster.createScaledObject faults (appScaledObject address httpso) = .ok next) :
    creationError faults cluster httpso = none ∧
      ⟨httpso.ns, createdScaledObjectName httpso⟩ ∉ cluster.scaledObjects ∧
      next = cluster.withScaledObject httpso (appScaledObject address httpso) := by
  rcases Cluster.attempt_eq_ok_iff.mp created with ⟨fault, answers⟩
  split at answers
  · simp at answers
  · next absent =>
      refine ⟨?_, absent, (Except.ok.inj answers).symm⟩
      simp only [creationError]
      rw [fault]
      exact if_neg absent

theorem createScaledObject_error {faults : Faults} {cluster : Cluster} {address : String}
    {httpso : HTTPScaledObject} {err : ApiError}
    (refused : cluster.createScaledObject faults (appScaledObject address httpso) = .error err) :
    creationError faults cluster httpso =
      if err.isAlreadyExists then
        patchError faults cluster ⟨httpso.ns, createdScaledObjectName httpso⟩
      else some err := by
  simp only [Cluster.createScaledObject, Cluster.attempt] at refused
  cases fault : faults .createScaledObject with
  | some given =>
      simp only [fault, Except.error.injEq] at refused
      simp only [creationError, fault, refused]
  | none =>
      simp only [fault] at refused
      split at refused
      · next present =>
          rw [← Except.error.inj refused]
          simp only [creationError, fault]
          exact if_pos present
      · simp at refused

theorem createOrUpdateScaledObject_spec (faults : Faults) (state : State) (address : String)
    (httpso : HTTPScaledObject) :
    CreatesScaledObject faults state httpso
      (createOrUpdateScaledObject faults state address httpso) := by
  simp only [createOrUpdateScaledObject]
  cases created : state.cluster.createScaledObject faults (appScaledObject address httpso) with
  | ok cluster =>
      rcases createScaledObject_ok created with ⟨noError, _, rfl⟩
      simp only
      exact ⟨⟨_, rfl⟩, by simp [noError], fun _ => ⟨rfl, _, rfl⟩⟩
  | error err =>
      have errors := createScaledObject_error created
      simp only
      by_cases existing : err.isAlreadyExists = true
      · rw [if_pos existing] at errors ⊢
        cases patched : patchError faults state.cluster
            ⟨httpso.ns, createdScaledObjectName httpso⟩ with
        | some refused =>
            rw [patched] at errors
            rw [patchExistingScaledObject_of_error patched]
            refine ⟨⟨_, rfl⟩, ?_, by simp [errors]⟩
            simp [errors]
        | none =>
            rw [patched] at errors
            rcases patchExistingScaledObject_of_none (appScaledObject address httpso) patched with
              ⟨stored, present, accepted⟩
            rw [accepted]
            exact ⟨⟨_, rfl⟩, by simp [errors], fun _ => ⟨rfl, _, rfl⟩⟩
      · rw [if_neg existing] at errors ⊢
        refine ⟨⟨_, rfl⟩, ?_, by simp [errors]⟩
        simp [errors]

/-- The state in which `addAndUpdateRoutingTable` goes on to publish. -/
def withRoutes (config : Config) (state : State) (httpso : HTTPScaledObject)
    (scaledObject : ScaledObject) : State where
  cluster := state.cluster.withScaledObject httpso scaledObject
  routingTable := state.routingTable.addTargets httpso.hosts (targetOf config httpso)

/-- A creation that has failed stays so, whatever becomes of its clean-up. -/
theorem exists_cleanupResult (err : String) (cleanup : Except Failure Unit) :
    ∃ failure, cleanupResult err cleanup = .error failure := by
  rcases cleanup with (_ | value) | _
  · exact ⟨_, rfl⟩
  · exact ⟨_, rfl⟩
  · exact ⟨_, rfl⟩

/-- A failed creation, by the state it leaves to the clean-up. -/
inductive FailsCreation (config : Config) (faults : Faults) (state : State)
    (httpso : HTTPScaledObject) : State → Prop where
  | unscaled {err : ApiError} {failed : State}
      (refused : creationError faults state.cluster httpso = some err)
      (same : SameButConditions state failed) :
      FailsCreation config faults state httpso failed
  | unpublished {err : String} {failed : State} (scaledObject : ScaledObject)
      (created : creationError faults state.cluster httpso = none)
      (refused : publishFailure faults state.cluster = some (.error err))
      (same : SameButConditions (withRoutes config state httpso scaledObject) failed) :
      FailsCreation config faults state httpso failed

/--
What happens to an accepted object, by the state and the result it leads to. A clean-up works on
the object that the deferred `SaveStatus` of the creation leaves behind.
-/
inductive Accepts (config : Config) (faults cleanupFaults : Faults) (state : State)
    (httpso : HTTPScaledObject) : State → Except Failure Unit → Prop where
  | created {after : State} (scaledObject : ScaledObject)
      (created : creationError faults state.cluster httpso = none)
      (published : publishFailure faults state.cluster = none)
      (same : SameButConditions (withRoutes config state httpso scaledObject).publish after) :
      Accepts config faults cleanupFaults state httpso after (.ok ())
  | panicked {after : State} (scaledObject : ScaledObject) (value : String)
      (created : creationError faults state.cluster httpso = none)
      (panics : publishFailure faults state.cluster = some (.panic value))
      (same : SameButConditions (withRoutes config state httpso scaledObject) after) :
      Accepts config faults cleanupFaults state httpso after (.error (.panic value))
  | cleanedUp {failed after : State} {cleanup result : Except Failure Unit} (err : String)
      (fails : FailsCreation config faults state httpso failed)
      (takesDown : TakesDown cleanupFaults failed
        (httpso.afterSave config.client (faults .saveCreationStatus) state.cluster) after cleanup)
      (returns : result = cleanupResult err cleanup) :
      Accepts config faults cleanupFaults state httpso after result

namespace CreatesScaledObject

variable {config : Config} {faults : Faults} {state : State} {httpso : HTTPScaledObject}
  {created : Progress}

theorem of_addCondition {condition : HTTPScaledObjectCondition}
    (creates : CreatesScaledObject faults state (addCondition httpso condition) created) :
    CreatesScaledObject faults state httpso created where
  conditions := creates.conditions
  failed := creates.failed
  succeeded := creates.succeeded

theorem addRoutes_of_error (creates : CreatesScaledObject faults state httpso created)
    {err : ApiError} (refused : creationError faults state.cluster httpso = some err)
    (client : Client) (fault : Option ApiError) :
    let progress := (addRoutes config faults created).saveStatus client fault
    SameButConditions state progress.state ∧ progress.result = .error (.error err.message) ∧
      progress.httpso.ns = httpso.ns ∧
      progress.httpso.spec = httpso.specAfterSave client fault state.cluster := by
  rcases creates.failed err refused with ⟨sameState, failed⟩
  rcases creates.conditions with ⟨conditions, sameObject⟩
  simp only [addRoutes, failed, Progress.saveStatus, sameState, sameObject, saveStatus_httpso]
  exact ⟨.of_saveStatus _ _ _ _, trivial, rfl, rfl⟩

theorem addRoutes_of_none (creates : CreatesScaledObject faults state httpso created)
    (accepted : creationError faults state.cluster httpso = none) (client : Client)
    (fault : Option ApiError) :
    let progress := (addRoutes config faults created).saveStatus client fault
    ∃ scaledObject,
      let updated := updateRoutingMap faults (withRoutes config state httpso scaledObject)
      SameButConditions updated.1 progress.state ∧ progress.result = updated.2 ∧
        progress.httpso.ns = httpso.ns ∧
        progress.httpso.spec = httpso.specAfterSave client fault state.cluster := by
  rcases creates.succeeded accepted with ⟨succeeded, scaledObject, nextState⟩
  rcases creates.conditions with ⟨conditions, sameObject⟩
  rcases exists_updateRoutingMap faults (withRoutes config state httpso scaledObject) with
    ⟨configMap, updated⟩
  refine ⟨scaledObject, ?_⟩
  simp only [addRoutes, succeeded, nextState, sameObject, Progress.saveStatus, saveStatus_httpso]
  refine ⟨.of_saveStatus _ _ _ _, rfl, rfl, ?_⟩
  have sameObjects : (updateRoutingMap faults (withRoutes config state httpso
      scaledObject)).1.cluster.httpScaledObjects = state.cluster.httpScaledObjects := by
    rw [updated]
    rfl
  exact HTTPScaledObject.specAfterSave_congr sameObjects client fault

end CreatesScaledObject

section

variable (config : Config) {faults : Faults} {state : State} {httpso : HTTPScaledObject}

open CreatesScaledObject in
theorem createOrUpdateApplicationResources_of_error {err : ApiError}
    (refused : creationError faults state.cluster httpso = some err) :
    let progress := createOrUpdateApplicationResources config faults state httpso
    SameButConditions state progress.state ∧ progress.result = .error (.error err.message) ∧
      progress.httpso.ns = httpso.ns ∧
      progress.httpso.spec =
        httpso.specAfterSave config.client (faults .saveCreationStatus) state.cluster := by
  simp only [createOrUpdateApplicationResources]
  apply addRoutes_of_error _ refused
  exact (createOrUpdateScaledObject_spec faults state _ _).of_addCondition

open CreatesScaledObject in
theorem createOrUpdateApplicationResources_of_none
    (accepted : creationError faults state.cluster httpso = none) :
    let progress := createOrUpdateApplicationResources config faults state httpso
    ∃ scaledObject,
      let updated := updateRoutingMap faults (withRoutes config state httpso scaledObject)
      SameButConditions updated.1 progress.state ∧ progress.result = updated.2 ∧
        progress.httpso.ns = httpso.ns ∧
        progress.httpso.spec =
          httpso.specAfterSave config.client (faults .saveCreationStatus) state.cluster := by
  simp only [createOrUpdateApplicationResources]
  apply addRoutes_of_none _ accepted
  exact (createOrUpdateScaledObject_spec faults state _ _).of_addCondition

end

/-- The clean-up of a failed creation, from the object that the creation leaves behind. -/
theorem Accepts.of_cleanup {config : Config} {faults : Faults} (cleanupFaults : Faults)
    {state failed : State} {httpso left : HTTPScaledObject} (err : String)
    (fails : FailsCreation config faults state httpso failed) (ns : left.ns = httpso.ns)
    (spec : left.spec =
      httpso.specAfterSave config.client (faults .saveCreationStatus) state.cluster) :
    Accepts config faults cleanupFaults state httpso
      (removeApplicationResources config.client cleanupFaults failed left).state
      (cleanupResult err
        (removeApplicationResources config.client cleanupFaults failed left).result) := by
  have takesDown := removeApplicationResources_takesDown config.client cleanupFaults failed left
  exact .cleanedUp err fails (takesDown.congr ns spec) rfl

theorem reconcileAccepted_accepts (config : Config) (faults cleanupFaults : Faults)
    (state : State) (httpso : HTTPScaledObject) :
    Accepts config faults cleanupFaults state httpso
      (reconcileAccepted config faults cleanupFaults state httpso).1
      (reconcileAccepted config faults cleanupFaults state httpso).2.result := by
  simp only [reconcileAccepted]
  cases stopped : creationError faults state.cluster httpso with
  | some err =>
      rcases createOrUpdateApplicationResources_of_error config stopped with
        ⟨same, failed, ns, spec⟩
      simp only [failed]
      exact .of_cleanup cleanupFaults err.message (.unscaled stopped same) ns spec
  | none =>
      rcases createOrUpdateApplicationResources_of_none config stopped with
        ⟨scaledObject, same, result, ns, spec⟩
      rw [updateRoutingMap_eq] at same result
      have unscaled : publishFailure faults (withRoutes config state httpso scaledObject).cluster =
          publishFailure faults state.cluster := rfl
      rw [unscaled] at same result
      cases refused : publishFailure faults state.cluster with
      | none =>
          simp only [refused] at same result
          simp only [result]
          exact .created scaledObject stopped refused (same.trans (.of_saveStatus _ _ _ _))
      | some failure =>
          cases failure with
          | panic value =>
              simp only [refused] at same result
              simp only [result]
              exact .panicked scaledObject value stopped refused same
          | error err =>
              simp only [refused] at same result
              simp only [result]
              exact .of_cleanup cleanupFaults err (.unpublished scaledObject stopped refused same)
                ns spec

/-- A creation fails when the ScaledObject cannot be made or the table not be published. -/
def creationFails (faults : Faults) (cluster : Cluster) (httpso : HTTPScaledObject) : Bool :=
  (creationError faults cluster httpso).isSome ||
    match publishFailure faults cluster with
    | some (.error _) => true
    | _ => false

theorem SameResources.creationError {before after : State}
    (same : SameResources before after) (faults : Faults)
    (httpso : HTTPScaledObject) :
    Operator.creationError faults after.cluster httpso =
      Operator.creationError faults before.cluster httpso := by
  simp only [Operator.creationError, patchError, Cluster.getScaledObject]
  rw [same.scaledObjects]

theorem SameResources.publishFailure {before after : State}
    (same : SameResources before after) (faults : Faults) :
    Operator.publishFailure faults after.cluster =
      Operator.publishFailure faults before.cluster := by
  simp only [Operator.publishFailure, Cluster.getConfigMap]
  rw [same.routingConfigMap]

theorem SameResources.creationFails {before after : State}
    (same : SameResources before after) (faults : Faults)
    (httpso : HTTPScaledObject) :
    Operator.creationFails faults after.cluster httpso =
      Operator.creationFails faults before.cluster httpso := by
  simp only [Operator.creationFails]
  rw [same.creationError, same.publishFailure]

theorem FailsCreation.creationFails {config : Config} {faults : Faults} {state failed : State}
    {httpso : HTTPScaledObject}
    (fails : FailsCreation config faults state httpso failed) :
    Operator.creationFails faults state.cluster httpso = true := by
  cases fails with
  | unscaled refused _ => simp [Operator.creationFails, refused]
  | unpublished _ _ refused _ => simp [Operator.creationFails, refused]

theorem FailsCreation.publishPanics {config : Config} {faults : Faults} {state failed : State}
    {httpso : HTTPScaledObject} (fails : FailsCreation config faults state httpso failed)
    (cleanupFaults : Faults) :
    Operator.publishPanics cleanupFaults failed.cluster =
      Operator.publishPanics cleanupFaults state.cluster := by
  simp only [Operator.publishPanics]
  cases fails with
  | unscaled _ same => rw [same.publishFailure]
  | unpublished _ _ _ same =>
      rw [same.publishFailure]
      rfl

/-- The creation of an accepted object panics in its own publication, or in that of the clean-up. -/
theorem Accepts.panicked_eq {config : Config} {faults cleanupFaults : Faults} {state after : State}
    {httpso : HTTPScaledObject} {result : Except Failure Unit}
    (accepts : Accepts config faults cleanupFaults state httpso after result) :
    Operator.panicked result =
      if creationFails faults state.cluster httpso then
        (deletionError cleanupFaults).isNone && publishPanics cleanupFaults state.cluster
      else publishPanics faults state.cluster := by
  cases accepts with
  | created _ created published _ =>
      simp [Operator.panicked, Operator.creationFails, publishPanics, created, published]
  | panicked _ _ created panics _ =>
      simp [Operator.panicked, Operator.creationFails, publishPanics, isPanic, created, panics]
  | cleanedUp _ fails takesDown returns =>
      rw [returns, panicked_cleanupResult, takesDown.panicked, if_pos fails.creationFails,
        fails.publishPanics]

/-- The creation of what belongs to an object does not touch the HTTPScaledObjects. -/
theorem Accepts.object {config : Config} {faults cleanupFaults : Faults} {state after : State}
    {httpso : HTTPScaledObject} {result : Except Failure Unit}
    (accepts : Accepts config faults cleanupFaults state httpso after result) :
    after.object = state.object ∧ after.finalizers = state.finalizers ∧
      (state.WellKeyed → after.WellKeyed) := by
  cases accepts with
  | created _ _ _ same => exact ⟨same.object, same.finalizers, same.wellKeyed⟩
  | panicked _ _ _ _ same => exact ⟨same.object, same.finalizers, same.wellKeyed⟩
  | cleanedUp _ fails takesDown _ =>
      rcases takesDown.object with ⟨object, finalizers, wellKeyed⟩
      cases fails with
      | unscaled _ same =>
          exact ⟨object.trans same.object, finalizers.trans same.finalizers,
            wellKeyed ∘ same.wellKeyed⟩
      | unpublished _ _ _ same =>
          exact ⟨object.trans same.object, finalizers.trans same.finalizers,
            wellKeyed ∘ same.wellKeyed⟩

end Creation

section Finalizers

/-- Two states that differ at one HTTPScaledObject, whose essence can only disappear. -/
structure SameButObject (key : ObjectKey) (before after : State) : Prop
    extends SameResources before after where
  object : ∀ other, other ≠ key → after.object other = before.object other
  finalizers : ∀ other, other ≠ key → after.finalizers other = before.finalizers other
  touched : after.object key = before.object key ∨ after.object key = none
  wellKeyed : before.WellKeyed → after.WellKeyed

theorem SameButConditions.sameButObject {before after : State}
    (same : SameButConditions before after) (key : ObjectKey) :
    SameButObject key before after where
  toSameResources := same.toSameResources
  object := fun other _ => congrFun same.object other
  finalizers := fun other _ => congrFun same.finalizers other
  touched := .inl (congrFun same.object key)
  wellKeyed := same.wellKeyed

/-- The essence of a stored object survives an update that does not finish its deletion. -/
theorem essence_storeUpdate {stored httpso updated : HTTPScaledObject}
    (same : stored.essence = httpso.essence)
    (update : Cluster.storeUpdate stored httpso = some updated) :
    updated.essence = httpso.essence ∧ updated.finalizers = httpso.finalizers ∧
      updated.key = stored.key := by
  simp only [Cluster.storeUpdate] at update
  split at update
  · simp at update
  · simp only [Option.some.injEq] at update
    subst update
    refine ⟨?_, rfl, rfl⟩
    simp only [HTTPScaledObject.essence, HTTPScaledObject.mk.injEq] at same ⊢
    simp only [HTTPScaledObjectSpec.marshaled_marshaled, same.1, same.2.1, same.2.2.2.1, and_self]

theorem sameButObject_of_update {faults : Faults} {state : State} {httpso : HTTPScaledObject}
    {updated : Cluster}
    (update : state.cluster.updateHTTPScaledObject faults httpso = .ok updated)
    (object : state.object httpso.key = some httpso.essence) :
    SameButObject httpso.key state { state with cluster := updated } ∧
      (httpso.live = true →
        ({ state with cluster := updated } : State).object httpso.key = some httpso.essence ∧
        ({ state with cluster := updated } : State).finalizers httpso.key =
          some httpso.finalizers) := by
  rcases Cluster.exists_of_update update with ⟨stored, found, rfl⟩
  have same : stored.essence = httpso.essence := by
    simpa [State.object, found] using object
  cases stores : Cluster.storeUpdate stored httpso with
  | some next =>
      rcases essence_storeUpdate same stores with ⟨sameEssence, sameFinalizers, sameKey⟩
      refine ⟨⟨⟨rfl, rfl, rfl⟩, ?_, ?_, ?_, ?_⟩, ?_⟩
      · intro other differs
        simp [State.object, differs]
      · intro other differs
        simp [State.finalizers, differs]
      · left
        simp [State.object, found, same, sameEssence]
      · intro wellKeyed key other
        simp only [GoMap.lookup_insert_ite]
        split
        · next there =>
            rintro ⟨⟩
            rw [there, sameKey]
            exact wellKeyed httpso.key stored found
        · exact wellKeyed key other
      · simp [State.object, State.finalizers, sameEssence, sameFinalizers]
  | none =>
      refine ⟨⟨⟨rfl, rfl, rfl⟩, ?_, ?_, ?_, ?_⟩, ?_⟩
      · intro other differs
        simp [State.object, differs]
      · intro other differs
        simp [State.finalizers, differs]
      · right
        simp [State.object]
      · intro wellKeyed key other
        simp only [GoMap.lookup_erase_ite]
        split
        · simp
        · exact wellKeyed key other
      · intro live
        have marked : stored.deletionTimestamp = httpso.deletionTimestamp := by
          simp only [HTTPScaledObject.essence, HTTPScaledObject.mk.injEq] at same
          exact same.2.2.2.1
        simp only [HTTPScaledObject.live, Bool.not_eq_eq_eq_not, Bool.not_true] at live
        simp [Cluster.storeUpdate, marked, live] at stores

theorem sameResources_of_update {faults : Faults} {state : State} {httpso : HTTPScaledObject}
    {updated : Cluster}
    (update : state.cluster.updateHTTPScaledObject faults httpso = .ok updated) :
    SameResources state { state with cluster := updated } := by
  rcases Cluster.exists_of_update update with ⟨stored, _, rfl⟩
  exact ⟨rfl, rfl, rfl⟩

section EnsureFinalizer

variable {client : Client} {faults : Faults} {state : State} {httpso : HTTPScaledObject}

theorem ensureFinalizer_resources (client : Client) (faults : Faults) (state : State)
    (httpso : HTTPScaledObject) :
    SameResources state (ensureFinalizer client faults state httpso).state := by
  unfold ensureFinalizer
  split
  · exact ⟨rfl, rfl, rfl⟩
  · dsimp only
    split
    · next update => exact sameResources_of_update update
    · exact ⟨rfl, rfl, rfl⟩

theorem ensureFinalizer_httpso
    (ensured : (ensureFinalizer client faults state httpso).result = .ok ()) :
    ∃ finalizers, (ensureFinalizer client faults state httpso).httpso =
      { httpso with finalizers := finalizers, spec := httpso.ensuredSpec client } := by
  unfold ensureFinalizer HTTPScaledObject.ensuredSpec at *
  split
  · exact ⟨_, rfl⟩
  · next absent =>
      rw [if_neg absent] at ensured
      cases update : state.cluster.updateHTTPScaledObject faults
          { httpso with finalizers := httpso.finalizers ++ [httpScaledObjectFinalizer] } with
      | ok updated =>
          simp only [update]
          exact ⟨_, rfl⟩
      | error err => simp [update] at ensured

theorem ensureFinalizer_error {failure : Failure}
    (failed : (ensureFinalizer client faults state httpso).result = .error failure) :
    (∃ err, failure = .error err) ∧ (ensureFinalizer client faults state httpso).state = state := by
  unfold ensureFinalizer at failed ⊢
  split at failed
  · simp at failed
  · next absent =>
      rw [if_neg absent]
      dsimp only at failed ⊢
      split at failed
      · simp at failed
      · exact ⟨⟨_, (Except.error.inj failed).symm⟩, rfl⟩

section Live

variable (stored : state.cluster.httpScaledObjects.lookup httpso.key = some httpso)
  (live : httpso.live = true)

include stored live

theorem ensureFinalizer_of_live :
    SameButObject httpso.key state (ensureFinalizer client faults state httpso).state ∧
      (ensureFinalizer client faults state httpso).state.object = state.object ∧
      ((ensureFinalizer client faults state httpso).result = .ok () →
        ∃ finalizers, finalizers ≠ [] ∧
          (ensureFinalizer client faults state httpso).state.finalizers httpso.key =
            some finalizers) := by
  have object := State.object_of_lookup stored
  unfold ensureFinalizer
  split
  · next present =>
      refine ⟨(SameButConditions.refl state).sameButObject _, rfl, fun _ => ?_⟩
      refine ⟨httpso.finalizers, List.ne_nil_of_mem present, ?_⟩
      rw [State.finalizers, stored]
      rfl
  · dsimp only
    split
    · next updated update =>
        rcases sameButObject_of_update update object with ⟨same, kept⟩
        rcases kept live with ⟨sameObject, finalizers⟩
        refine ⟨same, ?_, fun _ => ⟨_, by simp, finalizers⟩⟩
        funext other
        by_cases own : other = httpso.key
        · rw [own, object]
          exact sameObject
        · exact same.object other own
    · exact ⟨(SameButConditions.refl state).sameButObject _, rfl, by simp⟩

/-- The object that is stored when an object has its finalizer. -/
theorem lookup_ensureFinalizer
    (ensured : (ensureFinalizer client faults state httpso).result = .ok ()) :
    ∃ kept, (ensureFinalizer client faults state httpso).state.cluster.httpScaledObjects.lookup
        httpso.key = some kept ∧
      kept.spec = httpso.storedSpec ∧ httpScaledObjectFinalizer ∈ kept.finalizers := by
  unfold ensureFinalizer HTTPScaledObject.storedSpec at *
  split
  · next present => exact ⟨httpso, stored, rfl, present⟩
  · next absent =>
      rw [if_neg absent] at ensured
      cases update : state.cluster.updateHTTPScaledObject faults
          { httpso with finalizers := httpso.finalizers ++ [httpScaledObjectFinalizer] } with
      | error err => simp [update] at ensured
      | ok updated =>
          simp only [update]
          rcases Cluster.exists_of_update update with ⟨found, there, rfl⟩
          have own : found = httpso := Option.some.inj (there.symm.trans stored)
          subst own
          have unmarked : found.deletionTimestamp = false := by
            simpa [HTTPScaledObject.live] using live
          simp [Cluster.storeUpdate, unmarked, HTTPScaledObject.key]

end Live

end EnsureFinalizer

theorem finalizeScaledObject_same {faults : Faults} {state : State} {httpso : HTTPScaledObject}
    (object : state.object httpso.key = some httpso.essence) :
    SameButObject httpso.key state (finalizeScaledObject faults state httpso).1 := by
  simp only [finalizeScaledObject]
  split
  · split
    · exact (SameButConditions.refl state).sameButObject _
    · split
      · next update => exact (sameButObject_of_update update object).1
      · exact (SameButConditions.refl state).sameButObject _
  · exact (SameButConditions.refl state).sameButObject _

/-- Taking the finalizer off an object panics, which can happen if it is listed twice. -/
def HTTPScaledObject.panicsFinalizing (httpso : HTTPScaledObject) : Bool :=
  httpScaledObjectFinalizer ∈ httpso.finalizers &&
    panicked (remove httpso.finalizers httpScaledObjectFinalizer)

theorem panicked_finalizeScaledObject (faults : Faults) (state : State)
    (httpso : HTTPScaledObject) :
    panicked (finalizeScaledObject faults state httpso).2 = httpso.panicsFinalizing := by
  simp only [finalizeScaledObject, HTTPScaledObject.panicsFinalizing]
  by_cases present : httpScaledObjectFinalizer ∈ httpso.finalizers
  · simp only [present, if_true, decide_true, Bool.true_and]
    cases remove httpso.finalizers httpScaledObjectFinalizer with
    | error failure => rfl
    | ok finalizers =>
        simp only
        split <;> rfl
  · simp [present, panicked]

theorem finalizeScaledObject_resources (faults : Faults) (state : State)
    (httpso : HTTPScaledObject) :
    SameResources state (finalizeScaledObject faults state httpso).1 := by
  simp only [finalizeScaledObject]
  split
  · split
    · exact ⟨rfl, rfl, rfl⟩
    · split
      · next update => exact sameResources_of_update update
      · exact ⟨rfl, rfl, rfl⟩
  · exact ⟨rfl, rfl, rfl⟩

end Finalizers

end KedaHttp.Operator
