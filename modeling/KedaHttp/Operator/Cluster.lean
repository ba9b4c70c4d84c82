import KedaHttp.Routing.Table

/-!
# The cluster as the operator sees it

The objects the operator reads and writes, and the answers of the API server to its calls. Any
call may fail, with any error, and then changes nothing. The routing table's ConfigMap has one
slot, since the operator asks for it under a fixed name in its own namespace.

Three conventions of Kubernetes matter to the operator. An object under deletion disappears with
the last of its finalizers. An update of an object leaves its status alone, and an update of its
status leaves the rest alone. An empty list of hosts is omitted from the text of an update, so
that the stored object has no list of hosts afterwards.

The server answers an update with the object as it is stored then, and the client decodes the
answer into the object of the call. What becomes of the fields that the answer omits is up to the
client, and left open (`Client`).
-/

namespace KedaHttp.Operator

open KedaHttp.Foundation
open KedaHttp.Routing

structure ObjectKey where
  ns : String
  name : String
  deriving DecidableEq, Repr

section Types

structure ScaleTargetRef where
  deployment : String
  service : String
  port : Int32
  deriving DecidableEq, Repr

structure ReplicaStruct where
  min : Option Int32
  max : Option Int32
  deriving DecidableEq, Repr

structure HTTPScaledObjectSpec where
  host : Option String
  hosts : Option (List String)
  scaleTargetRef : ScaleTargetRef
  replicas : Option ReplicaStruct
  targetPendingRequests : Option Int32
  cooldownPeriod : Option Int32
  deriving DecidableEq, Repr

inductive HTTPScaledObjectCreationStatus where
  | created
  | terminated
  | error
  | pending
  | terminating
  | unknown
  | ready
  deriving DecidableEq, Repr

inductive ConditionStatus where
  | conditionTrue
  | conditionFalse
  | conditionUnknown
  deriving DecidableEq, Repr

inductive HTTPScaledObjectConditionReason where
  | errorCreatingAppScaledObject
  | appScaledObjectCreated
  | terminatingResources
  | appScaledObjectTerminated
  | appScaledObjectTerminationError
  | pendingCreation
  | httpScaledObjectIsReady
  deriving DecidableEq, Repr

/-- A condition without its timestamp. -/
structure HTTPScaledObjectCondition where
  type : HTTPScaledObjectCreationStatus
  status : ConditionStatus
  reason : HTTPScaledObjectConditionReason
  message : String
  deriving DecidableEq, Repr

structure HTTPScaledObject where
  ns : String
  name : String
  finalizers : List String
  /-- Whether the deletion timestamp is set. -/
  deletionTimestamp : Bool
  spec : HTTPScaledObjectSpec
  conditions : List HTTPScaledObjectCondition
  deriving DecidableEq, Repr

structure ScaleTriggers where
  type : String
  metadata : GoMap String String
  deriving DecidableEq

/-- KEDA's own scaled objects. -/
structure ScaledObject where
  ns : String
  name : String
  scaleTargetName : String
  pollingInterval : Option Int32
  cooldownPeriod : Option Int32
  minReplicaCount : Option Int32
  maxReplicaCount : Option Int32
  restoreToOriginalReplicaCount : Bool
  triggers : List ScaleTriggers
  deriving DecidableEq

end Types

namespace HTTPScaledObject

def key (httpso : HTTPScaledObject) : ObjectKey := ⟨httpso.ns, httpso.name⟩

/-- What a loop over `Spec.Hosts` visits. A nil list is visited like an empty one. -/
def hosts (httpso : HTTPScaledObject) : List String := httpso.spec.hosts.getD []

def live (httpso : HTTPScaledObject) : Bool := !httpso.deletionTimestamp

end HTTPScaledObject

/-- The specification that the JSON text of an update carries. -/
def HTTPScaledObjectSpec.marshaled (spec : HTTPScaledObjectSpec) : HTTPScaledObjectSpec :=
  { spec with hosts := spec.hosts.filter (· ≠ []) }

section Decoding

/--
What is open about the client. A field that an answer omits keeps the value that it has in the
object of the call, as `encoding/json` leaves it, or is reset, as in an object that is emptied
before it is decoded into.
-/
structure Client where
  keepsOmitted : Bool
  deriving DecidableEq, Repr

def ReplicaStruct.decodeOnto (held answered : ReplicaStruct) : ReplicaStruct :=
  ⟨answered.min.or held.min, answered.max.or held.max⟩

/-- The deployment, the service and the port are in every answer. -/
def HTTPScaledObjectSpec.decodeOnto (held answered : HTTPScaledObjectSpec) :
    HTTPScaledObjectSpec where
  host := answered.host.or held.host
  hosts := answered.hosts.or held.hosts
  scaleTargetRef := answered.scaleTargetRef
  replicas := Option.merge (fun answered held => held.decodeOnto answered)
    answered.replicas held.replicas
  targetPendingRequests := answered.targetPendingRequests.or held.targetPendingRequests
  cooldownPeriod := answered.cooldownPeriod.or held.cooldownPeriod

/-- The specification in the object of a call, from the one that it held and the one answered. -/
def Client.decode (client : Client) (held answered : HTTPScaledObjectSpec) :
    HTTPScaledObjectSpec :=
  if client.keepsOmitted then held.decodeOnto answered else answered

variable (client : Client) (spec : HTTPScaledObjectSpec)

@[simp]
theorem Client.decode_self : client.decode spec spec = spec := by
  have replicas : Option.merge (fun answered held : ReplicaStruct => held.decodeOnto answered)
      spec.replicas spec.replicas = spec.replicas := by
    cases spec.replicas with
    | none => rfl
    | some replicas => simp [ReplicaStruct.decodeOnto]
  simp [decode, HTTPScaledObjectSpec.decodeOnto, replicas]

/-- The only field that an update may lose is an empty list of hosts. -/
theorem Client.decode_marshaled :
    client.decode spec spec.marshaled =
      { spec with
        hosts := if client.keepsOmitted then spec.hosts else spec.hosts.filter (· ≠ []) } := by
  cases kept : client.keepsOmitted with
  | false => simp [decode, kept, HTTPScaledObjectSpec.marshaled]
  | true =>
      have same := client.decode_self spec
      simp only [decode, kept, if_true, HTTPScaledObjectSpec.decodeOnto,
        HTTPScaledObjectSpec.marshaled] at same ⊢
      rw [HTTPScaledObjectSpec.mk.injEq]
      have fields := congrArg HTTPScaledObjectSpec.replicas same
      refine ⟨Option.or_self, ?_, rfl, fields, Option.or_self, Option.or_self⟩
      cases spec.hosts with
      | none => rfl
      | some hosts => by_cases empty : hosts = [] <;> simp [Option.filter, empty]

@[simp]
theorem Client.scaleTargetRef_decode (held : HTTPScaledObjectSpec) :
    (client.decode held spec).scaleTargetRef = spec.scaleTargetRef := by
  simp only [decode]
  split <;> rfl

end Decoding

inductive StatusReason where
  | notFound
  | alreadyExists
  | other
  deriving DecidableEq, Repr

structure ApiError where
  reason : StatusReason
  message : String
  deriving DecidableEq, Repr

namespace ApiError

def isNotFound (err : ApiError) : Bool := err.reason = .notFound

def isAlreadyExists (err : ApiError) : Bool := err.reason = .alreadyExists

def newNotFound (resource name : String) : ApiError :=
  ⟨.notFound, resource ++ " " ++ name.quote ++ " not found"⟩

def newAlreadyExists (resource name : String) : ApiError :=
  ⟨.alreadyExists, resource ++ " " ++ name.quote ++ " already exists"⟩

end ApiError

structure Cluster where
  httpScaledObjects : GoMap ObjectKey HTTPScaledObject
  scaledObjects : GoMap ObjectKey ScaledObject
  routingConfigMap : Option ConfigMap
  deriving DecidableEq

/-- The calls of the operator, apart by the place they are made from. -/
inductive Call where
  | getHTTPScaledObject
  | updateHTTPScaledObject
  | createScaledObject
  | getScaledObject
  | patchScaledObject
  | deleteScaledObject
  | getConfigMap
  | patchConfigMap
  | saveCreationStatus
  | saveRemovalStatus
  | saveReadyStatus
  deriving DecidableEq, Repr

/-- The errors that calls meet beside those the server answers by itself. -/
abbrev Faults := Call → Option ApiError

def noFaults : Faults := fun _ => none

namespace Cluster

def attempt {Answer : Type} (fault : Option ApiError) (answer : Except ApiError Answer) :
    Except ApiError Answer :=
  match fault with
  | some err => .error err
  | none => answer

def httpScaledObjectsResource : String := "httpscaledobjects.http.keda.sh"

def scaledObjectsResource : String := "scaledobjects.keda.sh"

def getHTTPScaledObject (faults : Faults) (cluster : Cluster) (key : ObjectKey) :
    Except ApiError HTTPScaledObject :=
  attempt (faults .getHTTPScaledObject) <|
    match cluster.httpScaledObjects.lookup key with
    | some httpso => .ok httpso
    | none => .error (.newNotFound httpScaledObjectsResource key.name)

/-- What becomes of a stored object when an update arrives. -/
def storeUpdate (stored httpso : HTTPScaledObject) : Option HTTPScaledObject :=
  if stored.deletionTimestamp = true ∧ httpso.finalizers = [] then none
  else some { stored with finalizers := httpso.finalizers, spec := httpso.spec.marshaled }

def updateHTTPScaledObject (faults : Faults) (cluster : Cluster) (httpso : HTTPScaledObject) :
    Except ApiError Cluster :=
  attempt (faults .updateHTTPScaledObject) <|
    match cluster.httpScaledObjects.lookup httpso.key with
    | none => .error (.newNotFound httpScaledObjectsResource httpso.name)
    | some stored =>
        match storeUpdate stored httpso with
        | some updated =>
            .ok { cluster with
              httpScaledObjects := cluster.httpScaledObjects.insert httpso.key updated }
        | none =>
            .ok { cluster with httpScaledObjects := cluster.httpScaledObjects.erase httpso.key }

/-- The answer of the server is the stored object. -/
def updateStatus (fault : Option ApiError) (cluster : Cluster) (httpso : HTTPScaledObject) :
    Except ApiError (Cluster × HTTPScaledObject) :=
  attempt fault <|
    match cluster.httpScaledObjects.lookup httpso.key with
    | none => .error (.newNotFound httpScaledObjectsResource httpso.name)
    | some stored =>
        let updated := { stored with conditions := httpso.conditions }
        .ok ({ cluster with
          httpScaledObjects := cluster.httpScaledObjects.insert httpso.key updated }, updated)

def createScaledObject (faults : Faults) (cluster : Cluster) (scaledObject : ScaledObject) :
    Except ApiError Cluster :=
  attempt (faults .createScaledObject) <|
    if ⟨scaledObject.ns, scaledObject.name⟩ ∈ cluster.scaledObjects then
      .error (.newAlreadyExists scaledObjectsResource scaledObject.name)
    else
      .ok { cluster with
        scaledObjects :=
          cluster.scaledObjects.insert ⟨scaledObject.ns, scaledObject.name⟩ scaledObject }

def getScaledObject (faults : Faults) (cluster : Cluster) (key : ObjectKey) :
    Except ApiError ScaledObject :=
  attempt (faults .getScaledObject) <|
    match cluster.scaledObjects.lookup key with
    | some scaledObject => .ok scaledObject
    | none => .error (.newNotFound scaledObjectsResource key.name)

/-- A merge patch made of a whole object leaves the fields alone that the object omits. -/
def mergeScaledObject (stored patch : ScaledObject) : ScaledObject :=
  { patch with
    pollingInterval := patch.pollingInterval.or stored.pollingInterval
    cooldownPeriod := patch.cooldownPeriod.or stored.cooldownPeriod
    minReplicaCount := patch.minReplicaCount.or stored.minReplicaCount
    maxReplicaCount := patch.maxReplicaCount.or stored.maxReplicaCount }

def patchScaledObject (faults : Faults) (cluster : Cluster) (patch : ScaledObject) :
    Except ApiError Cluster :=
  attempt (faults .patchScaledObject) <|
    match cluster.scaledObjects.lookup ⟨patch.ns, patch.name⟩ with
    | none => .error (.newNotFound scaledObjectsResource patch.name)
    | some stored =>
        .ok { cluster with
          scaledObjects := cluster.scaledObjects.insert ⟨patch.ns, patch.name⟩
            (mergeScaledObject stored patch) }

def deleteScaledObject (faults : Faults) (cluster : Cluster) (key : ObjectKey) :
    Except ApiError Cluster :=
  attempt (faults .deleteScaledObject) <|
    if key ∈ cluster.scaledObjects then
      .ok { cluster with scaledObjects := cluster.scaledObjects.erase key }
    else .error (.newNotFound scaledObjectsResource key.name)

/-- `k8s.GetConfigMap` for the routing table. -/
def getConfigMap (faults : Faults) (cluster : Cluster) : Except ApiError ConfigMap :=
  attempt (faults .getConfigMap) <|
    match cluster.routingConfigMap with
    | some configMap => .ok configMap
    | none => .error (.newNotFound "configmaps" configMapRoutingTableName)

/-- `k8s.PatchConfigMap`: what is sent is the difference to the original. -/
def patchConfigMap (faults : Faults) (cluster : Cluster) (original patch : ConfigMap) :
    Except ApiError Cluster :=
  attempt (faults .patchConfigMap) <|
    match cluster.routingConfigMap with
    | none => .error (.newNotFound "configmaps" configMapRoutingTableName)
    | some stored =>
        .ok { cluster with
          routingConfigMap := some ⟨some
            ((MergePatch.mergeFrom (original.data.getD ∅) (patch.data.getD ∅)).apply
              (stored.data.getD ∅))⟩ }

theorem attempt_eq_ok_iff {Answer : Type} {fault : Option ApiError}
    {answer : Except ApiError Answer} {value : Answer} :
    attempt fault answer = .ok value ↔ fault = none ∧ answer = .ok value := by
  cases fault <;> simp [attempt]

/-- A successful update replaces the stored object, or removes it with its last finalizer. -/
theorem exists_of_update {faults : Faults} {cluster updated : Cluster} {httpso : HTTPScaledObject}
    (update : cluster.updateHTTPScaledObject faults httpso = .ok updated) :
    ∃ stored, cluster.httpScaledObjects.lookup httpso.key = some stored ∧
      updated = { cluster with
        httpScaledObjects := match storeUpdate stored httpso with
          | some next => cluster.httpScaledObjects.insert httpso.key next
          | none => cluster.httpScaledObjects.erase httpso.key } := by
  rcases attempt_eq_ok_iff.mp update with ⟨_, answers⟩
  cases found : cluster.httpScaledObjects.lookup httpso.key with
  | none => simp [found] at answers
  | some stored =>
      refine ⟨stored, rfl, ?_⟩
      cases stores : storeUpdate stored httpso with
      | some next =>
          simp only [found, stores, Except.ok.injEq] at answers
          exact answers.symm
      | none =>
          simp only [found, stores, Except.ok.injEq] at answers
          exact answers.symm

end Cluster

end KedaHttp.Operator
