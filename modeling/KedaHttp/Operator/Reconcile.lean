import KedaHttp.Operator.Cluster

/-!
# Reconciling an HTTPScaledObject

The functions of `operator/controllers/http`, down from `Reconcile`. The state of the operator
is the cluster and its routing table in memory. A function that works on an HTTPScaledObject
through a pointer returns the object it leaves behind, into which the client has decoded the
answers to the updates on the way. Failures do not roll anything back.

The calls of a clean-up after a failed creation meet faults of their own, so that a call that is
made twice can succeed once and fail once.
-/

namespace KedaHttp.Operator

open KedaHttp.Foundation
open KedaHttp.Routing

structure ExternalScaler where
  serviceName : String
  port : Int32
  deriving DecidableEq, Repr

/--
The parts of `HTTPScaledObjectReconciler` that reconciling depends on, from its `BaseConfig` and
`ExternalScalerConfig`, and its client.
-/
structure Config where
  targetPendingRequests : Int32
  currentNamespace : String
  externalScaler : ExternalScaler
  client : Client
  deriving DecidableEq, Repr

def ExternalScaler.hostName (e : ExternalScaler) (ns : String) : String :=
  e.serviceName ++ "." ++ ns ++ ":" ++ toString e.port

structure State where
  cluster : Cluster
  routingTable : Table
  deriving DecidableEq

/-- What a function working on an HTTPScaledObject leaves behind. -/
structure Progress where
  state : State
  httpso : HTTPScaledObject
  result : Except Failure Unit

section Conditions

def addCondition (httpso : HTTPScaledObject) (condition : HTTPScaledObjectCondition) :
    HTTPScaledObject :=
  { httpso with conditions := httpso.conditions ++ [condition] }

/--
A status that cannot be saved is only logged. Otherwise the object holds the specification that
comes with the answer, in the place of the one that `sanitizeHosts` has left.
-/
def saveStatus (client : Client) (fault : Option ApiError) (state : State)
    (httpso : HTTPScaledObject) : State × HTTPScaledObject :=
  match state.cluster.updateStatus fault httpso with
  | .ok (updated, stored) =>
      ({ state with cluster := updated },
        { httpso with spec := client.decode httpso.spec stored.spec })
  | .error _ => (state, httpso)

/-- A deferred `SaveStatus` runs on the way out, whatever the result. -/
def Progress.saveStatus (progress : Progress) (client : Client) (fault : Option ApiError) :
    Progress :=
  let saved := Operator.saveStatus client fault progress.state progress.httpso
  ⟨saved.1, saved.2, progress.result⟩

end Conditions

section Finalizers

def httpScaledObjectFinalizer : String := "httpscaledobject.http.keda.sh"

def ensureFinalizer (client : Client) (faults : Faults) (state : State)
    (httpso : HTTPScaledObject) : Progress :=
  if httpScaledObjectFinalizer ∈ httpso.finalizers then ⟨state, httpso, .ok ()⟩
  else
    let httpso := { httpso with finalizers := httpso.finalizers ++ [httpScaledObjectFinalizer] }
    match state.cluster.updateHTTPScaledObject faults httpso with
    | .ok updated =>
        -- The server answers with the specification that the update has put in place.
        ⟨{ state with cluster := updated },
          { httpso with spec := client.decode httpso.spec httpso.spec.marshaled }, .ok ()⟩
    | .error err => ⟨state, httpso, .error (.error err.message)⟩

/-- The array behind the slices of `remove`, and the length of the slice `list`. -/
structure Backing where
  array : List String
  length : ℕ
  deriving DecidableEq, Repr

/--
`list = append(list[:i], list[i+1:]...)`: the elements behind position `i` move down by one, and
the array keeps its old element at the position that the shortened slice no longer covers.
-/
def Backing.deleteAt (backing : Backing) (i : ℕ) : Except Failure Backing :=
  if i + 1 ≤ backing.length then
    .ok ⟨backing.array.take i ++ (backing.array.take backing.length).drop (i + 1) ++
      backing.array.drop (backing.length - 1), backing.length - 1⟩
  else .error (.panic "slice bounds out of range")

/-- The loop of `remove` visits the positions of the original slice, in the shared array. -/
def removeFrom (s : String) (backing : Backing) : List ℕ → Except Failure Backing
  | [] => .ok backing
  | i :: rest =>
      if backing.array[i]? = some s then
        match backing.deleteAt i with
        | .ok shortened => removeFrom s shortened rest
        | .error failure => .error failure
      else removeFrom s backing rest

def remove (list : List String) (s : String) : Except Failure (List String) :=
  match removeFrom s ⟨list, list.length⟩ (List.range list.length) with
  | .ok backing => .ok (backing.array.take backing.length)
  | .error failure => .error failure

def finalizeScaledObject (faults : Faults) (state : State) (httpso : HTTPScaledObject) :
    State × Except Failure Unit :=
  if httpScaledObjectFinalizer ∈ httpso.finalizers then
    match remove httpso.finalizers httpScaledObjectFinalizer with
    | .error failure => (state, .error failure)
    | .ok finalizers =>
        match state.cluster.updateHTTPScaledObject faults
            { httpso with finalizers := finalizers } with
        | .ok updated => ({ state with cluster := updated }, .ok ())
        | .error err => (state, .error (.error err.message))
  else (state, .ok ())

end Finalizers

section RoutingTable

def updateRoutingMap (faults : Faults) (state : State) : State × Except Failure Unit :=
  match state.cluster.getConfigMap faults with
  | .error err =>
      (state, .error (.error ("routing table ConfigMap fetch error: " ++ err.message)))
  | .ok routingConfigMap =>
      match saveTableToConfigMap state.routingTable routingConfigMap with
      | .error failure => (state, .error (failure.wrap "ConfigMap save error"))
      | .ok newCM =>
          match state.cluster.patchConfigMap faults routingConfigMap newCM with
          | .error err =>
              (state, .error (.error ("saving routing table ConfigMap to Kubernetes: " ++
                err.message)))
          | .ok cluster => ({ state with cluster := cluster }, .ok ())

def removeAndUpdateRoutingTable (faults : Faults) (state : State) (hosts : List String) :
    State × Except Failure Unit :=
  updateRoutingMap faults { state with routingTable := state.routingTable.removeTargets hosts }

def addAndUpdateRoutingTable (faults : Faults) (state : State) (hosts : List String)
    (target : Target) : State × Except Failure Unit :=
  updateRoutingMap faults
    { state with routingTable := state.routingTable.addTargets hosts target }

end RoutingTable

section ScaledObjects

def soPollingInterval : Int32 := 1

def newScaledObject (ns name deploymentName scalerAddress : String) (hosts : List String)
    (minReplicas maxReplicas cooldownPeriod : Option Int32) : ScaledObject where
  ns := ns
  name := name
  scaleTargetName := deploymentName
  pollingInterval := some soPollingInterval
  cooldownPeriod := cooldownPeriod
  minReplicaCount := minReplicas
  maxReplicaCount := maxReplicas
  restoreToOriginalReplicaCount := true
  triggers := [{
    type := "external-push"
    metadata := ((∅ : GoMap String String).insert "scalerAddress" scalerAddress).insert "hosts"
      (",".intercalate hosts) }]

/-- `config.AppScaledObjectName`, which `removeApplicationResources` uses. -/
def appScaledObjectName (httpso : HTTPScaledObject) : String :=
  httpso.spec.scaleTargetRef.deployment ++ "-app"

/-- The name `createOrUpdateScaledObject` uses. -/
def createdScaledObjectName (httpso : HTTPScaledObject) : String :=
  httpso.name ++ "-app"

def appScaledObject (externalScalerHostName : String) (httpso : HTTPScaledObject) :
    ScaledObject :=
  newScaledObject httpso.ns (createdScaledObjectName httpso)
    httpso.spec.scaleTargetRef.deployment externalScalerHostName httpso.hosts
    (httpso.spec.replicas.bind ReplicaStruct.min) (httpso.spec.replicas.bind ReplicaStruct.max)
    httpso.spec.cooldownPeriod

/-- The branch of `createOrUpdateScaledObject` for a ScaledObject that exists already. -/
def patchExistingScaledObject (faults : Faults) (cluster : Cluster)
    (scaledObject : ScaledObject) : Except ApiError Cluster :=
  match cluster.getScaledObject faults ⟨scaledObject.ns, scaledObject.name⟩ with
  | .error err => .error err
  | .ok _ => cluster.patchScaledObject faults scaledObject

def createOrUpdateScaledObject (faults : Faults) (state : State)
    (externalScalerHostName : String) (httpso : HTTPScaledObject) : Progress :=
  let scaledObject := appScaledObject externalScalerHostName httpso
  let created := addCondition httpso
    ⟨.created, .conditionTrue, .appScaledObjectCreated, "App ScaledObject created"⟩
  match state.cluster.createScaledObject faults scaledObject with
  | .ok cluster => ⟨{ state with cluster := cluster }, created, .ok ()⟩
  | .error err =>
      if err.isAlreadyExists then
        match patchExistingScaledObject faults state.cluster scaledObject with
        | .error err => ⟨state, httpso, .error (.error err.message)⟩
        | .ok cluster => ⟨{ state with cluster := cluster }, created, .ok ()⟩
      else
        ⟨state, addCondition httpso
          ⟨.error, .conditionFalse, .errorCreatingAppScaledObject, err.message⟩,
          .error (.error err.message)⟩

end ScaledObjects

section ApplicationResources

/-- The deletion of an object that does not exist counts as done. -/
def deleteAppScaledObject (faults : Faults) (cluster : Cluster) (httpso : HTTPScaledObject) :
    Except ApiError Cluster :=
  match cluster.deleteScaledObject faults ⟨httpso.ns, appScaledObjectName httpso⟩ with
  | .ok deleted => .ok deleted
  | .error err => if err.isNotFound then .ok cluster else .error err

def removeApplicationResources (client : Client) (faults : Faults) (state : State)
    (httpso : HTTPScaledObject) : Progress :=
  let httpso := addCondition httpso
    ⟨.terminating, .conditionUnknown, .terminatingResources, "Received termination signal"⟩
  let progress : Progress :=
    match deleteAppScaledObject faults state.cluster httpso with
    | .error err =>
        ⟨state, addCondition httpso
          ⟨.error, .conditionFalse, .appScaledObjectTerminationError, err.message⟩,
          .error (.error err.message)⟩
    | .ok cluster =>
        let updated :=
          removeAndUpdateRoutingTable faults { state with cluster := cluster } httpso.hosts
        ⟨updated.1, addCondition httpso
          ⟨.terminated, .conditionTrue, .appScaledObjectTerminated, ""⟩, updated.2⟩
  progress.saveStatus client (faults .saveRemovalStatus)

/-- The target that the hosts of an object are routed to. -/
def targetOf (config : Config) (httpso : HTTPScaledObject) : Target :=
  newTarget httpso.ns httpso.spec.scaleTargetRef.service httpso.spec.scaleTargetRef.port.toInt
    httpso.spec.scaleTargetRef.deployment
    (httpso.spec.targetPendingRequests.getD config.targetPendingRequests)

/-- The rest of `createOrUpdateApplicationResources` after `createOrUpdateScaledObject`. -/
def addRoutes (config : Config) (faults : Faults) (created : Progress) : Progress :=
  match created.result with
  | .error _ => created
  | .ok () =>
      let updated := addAndUpdateRoutingTable faults created.state created.httpso.hosts
        (targetOf config created.httpso)
      ⟨updated.1, created.httpso, updated.2⟩

def createOrUpdateApplicationResources (config : Config) (faults : Faults) (state : State)
    (httpso : HTTPScaledObject) : Progress :=
  let httpso := addCondition httpso
    ⟨.pending, .conditionUnknown, .pendingCreation,
      "Identified HTTPScaledObject creation signal"⟩
  let created := createOrUpdateScaledObject faults state
    (config.externalScaler.hostName config.currentNamespace) httpso
  (addRoutes config faults created).saveStatus config.client (faults .saveCreationStatus)

end ApplicationResources

/-- Exactly one of `host` and `hosts` must be given, and `host` becomes a list of hosts. -/
def sanitizeHosts (httpso : HTTPScaledObject) : Except String HTTPScaledObject :=
  match httpso.spec.hosts, httpso.spec.host with
  | some _, some _ => .error "mutually exclusive fields Error"
  | none, none => .error "no host specified Error"
  | none, some host =>
      .ok { httpso with spec := { httpso.spec with hosts := some [host], host := none } }
  | some _, none => .ok httpso

/-- The requeue delay in milliseconds, and the error that `Reconcile` returns. -/
structure Outcome where
  requeueAfter : ℕ
  result : Except Failure Unit

/-- The deletion of an HTTPScaledObject with all that belongs to it. -/
def reconcileDeleted (client : Client) (faults : Faults) (state : State)
    (httpso : HTTPScaledObject) : State × Outcome :=
  let removed := removeApplicationResources client faults state httpso
  match removed.result with
  | .error failure => (removed.state, ⟨1000, .error failure⟩)
  | .ok () =>
      let finalized := finalizeScaledObject faults removed.state removed.httpso
      (finalized.1, ⟨0, finalized.2⟩)

/-- What is returned after a clean-up, whose errors are only logged. A panic ends the process. -/
def cleanupResult (err : String) : Except Failure Unit → Except Failure Unit
  | .error (.panic value) => .error (.panic value)
  | .error (.error _) | .ok () => .error (.error err)

/-- The creation of what belongs to an accepted HTTPScaledObject, with the clean-up if it fails. -/
def reconcileAccepted (config : Config) (faults cleanupFaults : Faults) (state : State)
    (httpso : HTTPScaledObject) : State × Outcome :=
  let created := createOrUpdateApplicationResources config faults state httpso
  match created.result with
  | .error (.panic value) => (created.state, ⟨0, .error (.panic value)⟩)
  | .error (.error err) =>
      let removed :=
        removeApplicationResources config.client cleanupFaults created.state created.httpso
      (removed.state, ⟨0, cleanupResult err removed.result⟩)
  | .ok () =>
      let httpso := addCondition created.httpso
        ⟨.ready, .conditionTrue, .httpScaledObjectIsReady, "Finished object creation"⟩
      ((saveStatus config.client (faults .saveReadyStatus) created.state httpso).1, ⟨0, .ok ()⟩)

def reconcile (config : Config) (faults cleanupFaults : Faults) (state : State)
    (key : ObjectKey) : State × Outcome :=
  match state.cluster.getHTTPScaledObject faults key with
  | .error err =>
      if err.isNotFound then (state, ⟨0, .ok ()⟩)
      else (state, ⟨500, .error (.error err.message)⟩)
  | .ok httpso =>
      if httpso.deletionTimestamp then reconcileDeleted config.client faults state httpso
      else
        let ensured := ensureFinalizer config.client faults state httpso
        match ensured.result with
        | .error failure => (ensured.state, ⟨0, .error failure⟩)
        | .ok () =>
            match sanitizeHosts ensured.httpso with
            | .error err => (ensured.state, ⟨0, .error (.error err)⟩)
            | .ok httpso => reconcileAccepted config faults cleanupFaults ensured.state httpso

end KedaHttp.Operator
