import KedaHttp.Foundation.Transition
import KedaHttp.Operator.Outcomes

/-!
# The operator and the users of its cluster

Users create, update and delete HTTPScaledObjects, the operator reconciles them in any order,
and its process may restart at any time, which empties the routing table in memory and leaves
the cluster as it is. A panic ends the process as well. The controller runs one Reconcile at a
time, so that a Reconcile is one step.

A Reconcile in which every call succeeds has four outcomes (`Settles`), which the results about
undisturbed operation start from.
-/

namespace KedaHttp.Operator

open KedaHttp.Foundation
open KedaHttp.Routing

section Changes

/-- What users do to HTTPScaledObjects. -/
inductive Change where
  | create (httpso : HTTPScaledObject)
  | update (key : ObjectKey) (spec : HTTPScaledObjectSpec)
  | delete (key : ObjectKey)
  deriving DecidableEq, Repr

def Change.key : Change → ObjectKey
  | create httpso => httpso.key
  | update key _ | delete key => key

/-- The deletion of an object with finalizers only marks it. -/
def HTTPScaledObject.delete (httpso : HTTPScaledObject) : Option HTTPScaledObject :=
  if httpso.finalizers = [] then none else some { httpso with deletionTimestamp := true }

def Cluster.change (cluster : Cluster) : Change → Option Cluster
  | .create httpso =>
      if httpso.key ∈ cluster.httpScaledObjects ∨ httpso.deletionTimestamp = true then none
      else
        some { cluster with
          httpScaledObjects :=
            cluster.httpScaledObjects.insert httpso.key { httpso with conditions := [] } }
  | .update key spec =>
      (cluster.httpScaledObjects.lookup key).map fun stored =>
        { cluster with
          httpScaledObjects := cluster.httpScaledObjects.insert key { stored with spec := spec } }
  | .delete key =>
      (cluster.httpScaledObjects.lookup key).map fun stored =>
        match stored.delete with
        | some marked =>
            { cluster with httpScaledObjects := cluster.httpScaledObjects.insert key marked }
        | none => { cluster with httpScaledObjects := cluster.httpScaledObjects.erase key }

/-- What a change leaves in the place of the object it is about. -/
def Change.outcome (change : Change) (stored : Option HTTPScaledObject) :
    Option HTTPScaledObject :=
  match change with
  | create httpso => some { httpso with conditions := [] }
  | update _ spec => stored.map fun httpso => { httpso with spec := spec }
  | delete _ => stored.bind HTTPScaledObject.delete

/-- A change puts its outcome in the place of the object, and touches nothing else. -/
theorem Cluster.eq_of_change {cluster next : Cluster} {change : Change}
    (changes : cluster.change change = some next) :
    next = { cluster with
      httpScaledObjects :=
        match change.outcome (cluster.httpScaledObjects.lookup change.key) with
        | some httpso => cluster.httpScaledObjects.insert change.key httpso
        | none => cluster.httpScaledObjects.erase change.key } := by
  cases change with
  | create httpso =>
      simp only [Cluster.change] at changes
      split at changes
      · simp at changes
      · exact (Option.some.inj changes).symm
  | update own spec =>
      simp only [Cluster.change, Option.map_eq_some_iff] at changes
      rcases changes with ⟨stored, found, rfl⟩
      simp only [Change.key, Change.outcome, found, Option.map_some]
  | delete own =>
      simp only [Cluster.change, Option.map_eq_some_iff] at changes
      rcases changes with ⟨stored, found, rfl⟩
      simp only [Change.key, Change.outcome, found, Option.bind_some]
      cases stored.delete <;> rfl

theorem Cluster.lookup_change {cluster next : Cluster} {change : Change}
    (changes : cluster.change change = some next) (key : ObjectKey) :
    next.httpScaledObjects.lookup key =
      if key = change.key then
        change.outcome (cluster.httpScaledObjects.lookup change.key)
      else cluster.httpScaledObjects.lookup key := by
  rw [Cluster.eq_of_change changes]
  cases change.outcome (cluster.httpScaledObjects.lookup change.key) with
  | some httpso => exact GoMap.lookup_insert_ite _ _ _ _
  | none => exact GoMap.lookup_erase_ite _ _ _

/-- Only objects that exist can be updated or deleted. -/
theorem Cluster.exists_of_change {cluster next : Cluster} {change : Change}
    (changes : cluster.change change = some next) :
    (∃ httpso, change = .create httpso ∧ httpso.live = true ∧
      cluster.httpScaledObjects.lookup change.key = none) ∨
    ∃ stored, cluster.httpScaledObjects.lookup change.key = some stored ∧
      ((∃ key spec, change = .update key spec) ∨ ∃ key, change = .delete key) := by
  cases change with
  | create httpso =>
      simp only [Cluster.change] at changes
      split at changes
      · simp at changes
      · next absent =>
          rw [not_or] at absent
          refine .inl ⟨httpso, rfl, ?_, Finmap.lookup_eq_none.mpr absent.1⟩
          simpa [HTTPScaledObject.live] using absent.2
  | update own spec =>
      simp only [Cluster.change, Option.map_eq_some_iff] at changes
      rcases changes with ⟨stored, found, _⟩
      exact .inr ⟨stored, found, .inl ⟨own, spec, rfl⟩⟩
  | delete own =>
      simp only [Cluster.change, Option.map_eq_some_iff] at changes
      rcases changes with ⟨stored, found, _⟩
      exact .inr ⟨stored, found, .inr ⟨own, rfl⟩⟩

theorem Cluster.resources_change {cluster next : Cluster} {change : Change}
    (changes : cluster.change change = some next) :
    next.scaledObjects = cluster.scaledObjects ∧
      next.routingConfigMap = cluster.routingConfigMap := by
  rw [Cluster.eq_of_change changes]
  exact ⟨rfl, rfl⟩

def HTTPScaledObjectSpec.usesHosts (spec : HTTPScaledObjectSpec) : Bool :=
  spec.hosts.isSome && spec.host.isNone

namespace HTTPScaledObject

/-- The hosts an object names in either of the two fields. -/
def namedHosts (httpso : HTTPScaledObject) : List String :=
  httpso.hosts ++ httpso.spec.host.toList

@[simp]
theorem namedHosts_essence (httpso : HTTPScaledObject) :
    httpso.essence.namedHosts = httpso.namedHosts := by
  simp only [namedHosts, hosts_essence]
  rfl

end HTTPScaledObject

namespace Cluster

def namedHosts (cluster : Cluster) (key : ObjectKey) : List String :=
  ((cluster.httpScaledObjects.lookup key).map HTTPScaledObject.namedHosts).getD []

/-- No host is named by two HTTPScaledObjects. -/
def DisjointHosts (cluster : Cluster) : Prop :=
  ∀ key ∈ cluster.httpScaledObjects.keys, ∀ other ∈ cluster.httpScaledObjects.keys, key ≠ other →
    ∀ host ∈ cluster.namedHosts key, host ∉ cluster.namedHosts other

instance (cluster : Cluster) : Decidable cluster.DisjointHosts :=
  inferInstanceAs (Decidable (∀ _ ∈ _, ∀ _ ∈ _, _ → ∀ _ ∈ _, _ ∉ _))

theorem DisjointHosts.notMem {state : State} (disjoint : state.cluster.DisjointHosts)
    {key other : ObjectKey} (differ : key ≠ other) {left right : HTTPScaledObject}
    (leftObject : state.object key = some left) (rightObject : state.object other = some right)
    {host : String} (member : host ∈ left.namedHosts) : host ∉ right.namedHosts := by
  rcases Option.map_eq_some_iff.mp leftObject with ⟨leftStored, leftFound, rfl⟩
  rcases Option.map_eq_some_iff.mp rightObject with ⟨rightStored, rightFound, rfl⟩
  have leftPresent := Finmap.mem_keys.mpr (Finmap.mem_of_lookup_eq_some leftFound)
  have rightPresent := Finmap.mem_keys.mpr (Finmap.mem_of_lookup_eq_some rightFound)
  have separated := disjoint key leftPresent other rightPresent differ host
  simp only [namedHosts, leftFound, rightFound, Option.map_some, Option.getD_some] at separated
  simp only [HTTPScaledObject.namedHosts_essence] at member ⊢
  exact separated member

/-- Objects that disappear do not disturb the others. -/
theorem DisjointHosts.of_object (state : State) {next : State}
    (disjoint : state.cluster.DisjointHosts)
    (same : ∀ key, next.object key = state.object key ∨ next.object key = none) :
    next.cluster.DisjointHosts := by
  have stays : ∀ {key httpso}, next.object key = some httpso → state.object key = some httpso := by
    intro key httpso object
    rcases same key with kept | gone
    · exact kept ▸ object
    · simp [gone] at object
  intro key keyPresent other otherPresent differ host member memberThere
  rcases Finmap.mem_iff.mp (Finmap.mem_keys.mp keyPresent) with ⟨left, leftFound⟩
  rcases Finmap.mem_iff.mp (Finmap.mem_keys.mp otherPresent) with ⟨right, rightFound⟩
  have leftObject : state.object key = some left.essence :=
    stays (State.object_of_lookup leftFound)
  have rightObject : state.object other = some right.essence :=
    stays (State.object_of_lookup rightFound)
  simp only [namedHosts, leftFound, rightFound, Option.map_some, Option.getD_some]
    at member memberThere
  exact disjoint.notMem differ leftObject rightObject (by simpa using member)
    (by simpa using memberThere)

end Cluster

/-- An operator that has just been installed. -/
def State.initial : State where
  cluster := ⟨∅, ∅, some shippedConfigMap⟩
  routingTable := newTable

theorem State.initial_wellKeyed : State.initial.WellKeyed := by
  intro key httpso found
  simp [State.initial] at found

theorem State.initial_healthy : State.initial.Healthy := ⟨_, rfl⟩

theorem State.WellKeyed.change {state : State} (wellKeyed : state.WellKeyed) {change : Change}
    {cluster : Cluster} (changes : state.cluster.change change = some cluster) :
    ({ state with cluster := cluster } : State).WellKeyed := by
  intro key httpso found
  simp only [Cluster.lookup_change changes] at found
  split at found
  · next own =>
      subst own
      cases change with
      | create created =>
          rw [← Option.some.inj found]
          rfl
      | update own spec =>
          rcases Option.map_eq_some_iff.mp found with ⟨stored, wasFound, rfl⟩
          exact wellKeyed _ stored wasFound
      | delete own =>
          rcases Option.bind_eq_some_iff.mp found with ⟨stored, wasFound, deletes⟩
          simp only [HTTPScaledObject.delete] at deletes
          split at deletes
          · simp at deletes
          · rw [← Option.some.inj deletes]
            exact wellKeyed _ stored wasFound
  · exact wellKeyed key httpso found

theorem State.object_change {state : State} {change : Change} {cluster : Cluster}
    (changes : state.cluster.change change = some cluster) {key : ObjectKey}
    (differs : key ≠ change.key) :
    ({ state with cluster := cluster } : State).object key = state.object key ∧
      ({ state with cluster := cluster } : State).finalizers key = state.finalizers key := by
  simp [State.object, State.finalizers, Cluster.lookup_change changes, differs]

theorem State.Healthy.change {state : State} (healthy : state.Healthy) {change : Change}
    {cluster : Cluster} (changes : state.cluster.change change = some cluster) :
    ({ state with cluster := cluster } : State).Healthy :=
  healthy.of_configMap (Cluster.resources_change changes).2

end Changes

section Undisturbed

namespace HTTPScaledObject

/--
The hosts that `sanitizeHosts` leaves an object with, if it accepts the object as the client has
decoded it.
-/
def sanitizedHosts (client : Client) (httpso : HTTPScaledObject) : Option (List String) :=
  match (httpso.ensuredSpec client).hosts, (httpso.ensuredSpec client).host with
  | some hosts, none => some hosts
  | none, some host => some [host]
  | _, _ => none

theorem mem_namedHosts_of_sanitized {client : Client} {httpso : HTTPScaledObject}
    {hosts : List String} (accepts : httpso.sanitizedHosts client = some hosts) {host : String}
    (member : host ∈ hosts) : host ∈ httpso.namedHosts := by
  rcases httpso.exists_ensuredSpec client with ⟨decoded, spec, same⟩
  simp only [sanitizedHosts, spec] at accepts
  simp only [namedHosts, HTTPScaledObject.hosts]
  rcases same with rfl | ⟨rfl, _⟩
  · cases given : httpso.spec.hosts <;> cases single : httpso.spec.host <;> simp_all
  · cases single : httpso.spec.host <;> simp_all

/-- An object whose hosts are given through `hosts`. -/
def UsesHosts (httpso : HTTPScaledObject) : Prop :=
  httpso.spec.usesHosts = true

instance (httpso : HTTPScaledObject) : Decidable httpso.UsesHosts :=
  inferInstanceAs (Decidable (_ = _))

/-- Without the deprecated field an object is accepted with its hosts, if it is accepted. -/
theorem sanitizedHosts_of_single {httpso : HTTPScaledObject} (single : httpso.spec.host = none)
    (client : Client) :
    httpso.sanitizedHosts client = some httpso.hosts ∨
      httpso.sanitizedHosts client = none ∧ httpso.hosts = [] := by
  rcases httpso.exists_ensuredSpec client with ⟨decoded, spec, same⟩
  simp only [sanitizedHosts, hosts, spec, single]
  rcases same with rfl | ⟨rfl, empty⟩
  · cases hosts : httpso.spec.hosts <;> simp
  · simp [empty]

theorem UsesHosts.single {httpso : HTTPScaledObject} (uses : httpso.UsesHosts) :
    httpso.spec.host = none := by
  simp only [UsesHosts, HTTPScaledObjectSpec.usesHosts, Bool.and_eq_true,
    Option.isNone_iff_eq_none] at uses
  exact uses.2

/-- A Reconcile publishes if it finds an object under deletion or one it accepts. -/
def publishes (client : Client) (httpso : HTTPScaledObject) : Bool :=
  !httpso.live || (httpso.sanitizedHosts client).isSome

end HTTPScaledObject

/-- What the Reconcile of an object under deletion leaves behind when every call succeeds. -/
structure Retired (state : State) (key : ObjectKey) (httpso : HTTPScaledObject) (after : State) :
    Prop where
  routes : after.routingTable = state.routingTable.removeTargets httpso.hosts
  published : after.published = some after.routingTable
  healthy : after.Healthy
  wellKeyed : after.WellKeyed
  object : ∀ other, other ≠ key → after.object other = state.object other
  finalizers : ∀ other, other ≠ key → after.finalizers other = state.finalizers other
  touched : after.object key = state.object key ∨ after.object key = none

/-- What the Reconcile of an accepted object leaves behind when every call succeeds. -/
structure Routed (config : Config) (state : State) (key : ObjectKey) (httpso : HTTPScaledObject)
    (hosts : List String) (after : State) : Prop where
  routes : after.routingTable = state.routingTable.addTargets hosts (targetOf config httpso)
  published : after.published = some after.routingTable
  healthy : after.Healthy
  wellKeyed : after.WellKeyed
  object : after.object = state.object
  finalizers : ∀ other, other ≠ key → after.finalizers other = state.finalizers other
  kept : ∃ finalizers, finalizers ≠ [] ∧ after.finalizers key = some finalizers

/-- What a Reconcile does when every call succeeds. -/
inductive Settles (config : Config) (state : State) (key : ObjectKey) :
    State → Except Failure Unit → Prop where
  | absent {result : Except Failure Unit}
      (missing : state.cluster.httpScaledObjects.lookup key = none)
      (returns : ∀ value, result ≠ .error (.panic value)) :
      Settles config state key state result
  | retired {httpso : HTTPScaledObject} {after : State} {result : Except Failure Unit}
      (stored : state.cluster.httpScaledObjects.lookup key = some httpso)
      (terminating : httpso.live = false) (retired : Retired state key httpso after) :
      Settles config state key after result
  | rejected {httpso : HTTPScaledObject} {after : State} {err : String}
      (stored : state.cluster.httpScaledObjects.lookup key = some httpso)
      (live : httpso.live = true) (rejects : httpso.sanitizedHosts config.client = none)
      (same : SameButObject key state after) (object : after.object = state.object)
      (left : ∃ kept, after.cluster.httpScaledObjects.lookup key = some kept ∧
        kept.spec = httpso.storedSpec ∧ httpScaledObjectFinalizer ∈ kept.finalizers) :
      Settles config state key after (.error (.error err))
  | accepted {httpso : HTTPScaledObject} {hosts : List String} {after : State}
      (stored : state.cluster.httpScaledObjects.lookup key = some httpso)
      (live : httpso.live = true) (accepts : httpso.sanitizedHosts config.client = some hosts)
      (routed : Routed config state key httpso hosts after) :
      Settles config state key after (.ok ())

namespace Settles

variable {config : Config} {state after : State} {key : ObjectKey} {httpso : HTTPScaledObject}
  {result : Except Failure Unit}

theorem retired_of_terminating (settles : Settles config state key after result)
    (stored : state.cluster.httpScaledObjects.lookup key = some httpso)
    (terminating : httpso.live = false) : Retired state key httpso after := by
  cases settles with
  | absent missing _ => simp [missing] at stored
  | retired found _ retired =>
      rw [stored, Option.some.injEq] at found
      exact found ▸ retired
  | rejected found live _ _ _ _ =>
      rw [stored, Option.some.injEq] at found
      simp [found, live] at terminating
  | accepted found live _ _ =>
      rw [stored, Option.some.injEq] at found
      simp [found, live] at terminating

theorem routed_of_accepted (settles : Settles config state key after result)
    (stored : state.cluster.httpScaledObjects.lookup key = some httpso)
    (live : httpso.live = true) {hosts : List String}
    (accepts : httpso.sanitizedHosts config.client = some hosts) :
    Routed config state key httpso hosts after := by
  cases settles with
  | absent missing _ => simp [missing] at stored
  | retired found terminating _ =>
      rw [stored, Option.some.injEq] at found
      simp [found, terminating] at live
  | rejected found _ rejects _ _ _ =>
      rw [stored, Option.some.injEq] at found
      simp [found, rejects] at accepts
  | accepted found _ acceptsThere routed =>
      rw [stored, Option.some.injEq] at found
      subst found
      rw [accepts, Option.some.injEq] at acceptsThere
      exact acceptsThere ▸ routed

/--
A live object without the deprecated field adds its hosts, whether or not it is accepted: it is
refused only if it has none.
-/
theorem routes_of_live (settles : Settles config state key after result)
    (stored : state.cluster.httpScaledObjects.lookup key = some httpso)
    (live : httpso.live = true) (single : httpso.spec.host = none) :
    after.routingTable = state.routingTable.addTargets httpso.hosts (targetOf config httpso) ∧
      after.object = state.object := by
  rcases HTTPScaledObject.sanitizedHosts_of_single single config.client with
    accepts | ⟨rejects, empty⟩
  · have routed := settles.routed_of_accepted stored live accepts
    exact ⟨routed.routes, routed.object⟩
  · cases settles with
    | absent missing _ => simp [missing] at stored
    | retired found terminating _ =>
        rw [stored, Option.some.injEq] at found
        simp [found, terminating] at live
    | rejected _ _ _ same object _ =>
        rw [empty]
        exact ⟨same.routingTable, object⟩
    | accepted found _ accepts _ =>
        rw [stored, Option.some.injEq] at found
        subst found
        simp [rejects] at accepts

theorem eq_of_absent (settles : Settles config state key after result)
    (missing : state.cluster.httpScaledObjects.lookup key = none) : after = state := by
  cases settles with
  | absent _ _ => rfl
  | retired found _ _ => simp [missing] at found
  | rejected found _ _ _ _ _ => simp [missing] at found
  | accepted found _ _ _ => simp [missing] at found

/-- What the four outcomes have in common. -/
structure Tidy (state : State) (key : ObjectKey) (after : State) : Prop where
  healthy : after.Healthy
  wellKeyed : after.WellKeyed
  object : ∀ other, other ≠ key → after.object other = state.object other
  finalizers : ∀ other, other ≠ key → after.finalizers other = state.finalizers other
  touched : after.object key = state.object key ∨ after.object key = none
  kept : ∀ httpso, after.object key = some httpso → httpso.live = true →
    ∃ finalizers, finalizers ≠ [] ∧ after.finalizers key = some finalizers

theorem tidy (settles : Settles config state key after result) (healthy : state.Healthy)
    (wellKeyed : state.WellKeyed) : Tidy state key after := by
  cases settles with
  | absent missing _ =>
      refine ⟨healthy, wellKeyed, fun _ _ => rfl, fun _ _ => rfl, .inl rfl, ?_⟩
      intro httpso object
      simp [State.object, missing] at object
  | retired stored terminating retired =>
      refine ⟨retired.healthy, retired.wellKeyed, retired.object, retired.finalizers,
        retired.touched, ?_⟩
      intro httpso object live
      rcases retired.touched with same | missing
      · rw [same, State.object, stored, Option.map_some, Option.some.injEq] at object
        rw [← object, HTTPScaledObject.live_essence, terminating] at live
        simp at live
      · simp [missing] at object
  | rejected stored live rejects same object left =>
      rcases left with ⟨kept, found, _, present⟩
      refine ⟨healthy.of_configMap same.routingConfigMap, same.wellKeyed wellKeyed,
        fun other _ => congrFun object other, same.finalizers, .inl (congrFun object key), ?_⟩
      intro _ _ _
      exact ⟨kept.finalizers, List.ne_nil_of_mem present, by rw [State.finalizers, found]; rfl⟩
  | accepted stored live accepts routed =>
      exact ⟨routed.healthy, routed.wellKeyed, fun other _ => congrFun routed.object other,
        routed.finalizers, .inl (congrFun routed.object key), fun _ _ _ => routed.kept⟩

namespace Tidy

variable (tidy : Tidy state key after)

include tidy in
theorem disjointHosts (disjoint : state.cluster.DisjointHosts) :
    after.cluster.DisjointHosts := by
  apply disjoint.of_object
  intro other
  by_cases there : other = key
  · exact there ▸ tidy.touched
  · exact .inl (tidy.object other there)

end Tidy

end Settles

theorem getHTTPScaledObject_noFaults {cluster : Cluster} {key : ObjectKey} :
    cluster.getHTTPScaledObject noFaults key =
      match cluster.httpScaledObjects.lookup key with
      | some httpso => .ok httpso
      | none => .error (.newNotFound Cluster.httpScaledObjectsResource key.name) := rfl

theorem creationError_noFaults (cluster : Cluster) (httpso : HTTPScaledObject) :
    creationError noFaults cluster httpso = none := by
  simp only [creationError, noFaults]
  split
  · next present =>
      rcases Finmap.mem_iff.mp present with ⟨scaledObject, found⟩
      simp [patchError, Cluster.getScaledObject, Cluster.attempt, noFaults, found]
  · rfl

theorem ensureFinalizer_noFaults (client : Client) {state : State} {httpso : HTTPScaledObject}
    (stored : state.cluster.httpScaledObjects.lookup httpso.key = some httpso) :
    (ensureFinalizer client noFaults state httpso).result = .ok () := by
  simp only [ensureFinalizer]
  split
  · rfl
  · have found : state.cluster.httpScaledObjects.lookup
        ({ httpso with finalizers := httpso.finalizers ++ [httpScaledObjectFinalizer] } :
          HTTPScaledObject).key = some httpso := stored
    simp only [Cluster.updateHTTPScaledObject, Cluster.attempt, noFaults, found]
    split
    · rfl
    · next failed =>
        split at failed <;> simp at failed

theorem sanitizedHosts_admitted {client : Client} {faults : Faults} {state : State}
    {httpso : HTTPScaledObject}
    (ensured : (ensureFinalizer client faults state httpso).result = .ok ()) :
    httpso.sanitizedHosts client =
      (admitted client faults state httpso).map HTTPScaledObject.hosts := by
  rcases ensureFinalizer_httpso ensured with ⟨finalizers, object⟩
  rcases httpso.exists_ensuredSpec client with ⟨hosts, spec, _⟩
  simp only [admitted, ensured, object, sanitizeHosts, HTTPScaledObject.sanitizedHosts, spec]
  cases hosts <;> cases httpso.spec.host <;> rfl

theorem retired_of_takesDown {state removed : State} {httpso : HTTPScaledObject}
    (healthy : state.Healthy) (wellKeyed : state.WellKeyed)
    (stored : state.cluster.httpScaledObjects.lookup httpso.key = some httpso)
    (takesDown : TakesDown noFaults state httpso removed (.ok ()))
    (conditions : List HTTPScaledObjectCondition) :
    Retired state httpso.key httpso
      (finalizeScaledObject noFaults removed { httpso with conditions := conditions }).1 := by
  cases takesDown with
  | removed _ _ same =>
      have object : removed.object httpso.key = some httpso.essence := by
        rw [same.object]
        exact State.object_of_lookup stored
      have finalizes : SameButObject httpso.key removed
          (finalizeScaledObject noFaults removed { httpso with conditions := conditions }).1 :=
        finalizeScaledObject_same object
      have resources := same.toSameResources.trans finalizes.toSameResources
      have wasHealthy : (withoutRoutes noFaults state httpso).Healthy := healthy
      rcases resources.published_of_publish wasHealthy with ⟨publishes, stillHealthy⟩
      refine ⟨resources.routingTable, publishes, stillHealthy,
        finalizes.wellKeyed (same.wellKeyed wellKeyed), ?_, ?_, ?_⟩
      · intro other differs
        rw [finalizes.object other differs, same.object]
        rfl
      · intro other differs
        rw [finalizes.finalizers other differs, same.finalizers]
        rfl
      · have touched := finalizes.touched
        rw [same.object] at touched
        exact touched

/-- What a successful creation does, whatever state it starts from. -/
structure Creates (config : Config) (state : State) (httpso : HTTPScaledObject)
    (hosts : List String) (after : State) : Prop where
  routes : after.routingTable = state.routingTable.addTargets hosts (targetOf config httpso)
  published : state.Healthy → after.published = some after.routingTable ∧ after.Healthy
  wellKeyed : state.WellKeyed → after.WellKeyed
  object : after.object = state.object
  finalizers : ∀ other, other ≠ httpso.key → after.finalizers other = state.finalizers other
  kept : ∃ finalizers, finalizers ≠ [] ∧ after.finalizers httpso.key = some finalizers

theorem creates_of_accepts {config : Config} {faults cleanupFaults : Faults} {state after : State}
    {httpso sanitized : HTTPScaledObject}
    (stored : state.cluster.httpScaledObjects.lookup httpso.key = some httpso)
    (live : httpso.live = true)
    (admits : admitted config.client faults state httpso = some sanitized)
    (accepts : Accepts config faults cleanupFaults
      (ensureFinalizer config.client faults state httpso).state sanitized after (.ok ())) :
    Creates config state httpso sanitized.hosts after := by
  have ensured := ensured_of_admitted admits
  have target := (sanitized_of_admitted admits).target config
  rcases ensureFinalizer_of_live stored live with ⟨same, object, kept⟩
  cases accepts with
  | created scaledObject _ _ created =>
      refine ⟨?_, ?_, created.wellKeyed ∘ same.wellKeyed, ?_, ?_, ?_⟩
      · rw [created.routingTable, ← target, ← same.routingTable]
        rfl
      · intro healthy
        have routedHealthy : (withRoutes config
            (ensureFinalizer config.client faults state httpso).state sanitized
            scaledObject).Healthy := healthy.of_configMap same.routingConfigMap
        exact created.toSameResources.published_of_publish routedHealthy
      · rw [← object]
        exact created.object
      · intro other differs
        rw [← same.finalizers other differs]
        exact congrFun created.finalizers other
      · rcases kept ensured with ⟨finalizers, nonempty, found⟩
        refine ⟨finalizers, nonempty, ?_⟩
        rw [← found]
        exact congrFun created.finalizers httpso.key
  | @cleanedUp _ _ cleanup _ err _ _ returns =>
      rcases exists_cleanupResult err cleanup with ⟨failure, failed⟩
      simp [failed] at returns

/-- A creation fails only if a call does. -/
theorem Accepts.result_of_noFaults {config : Config} {state after : State}
    {sanitized : HTTPScaledObject} {result : Except Failure Unit} (healthy : state.Healthy)
    (accepts : Accepts config noFaults noFaults state sanitized after result) :
    result = .ok () := by
  cases accepts with
  | created => rfl
  | panicked _ _ _ panics _ => simp [publishFailure_noFaults healthy] at panics
  | cleanedUp _ fails _ _ =>
      cases fails with
      | unscaled refused _ => simp [creationError_noFaults] at refused
      | unpublished _ _ refused _ => simp [publishFailure_noFaults healthy] at refused

theorem settles_of_noFaults (config : Config) {state : State} (healthy : state.Healthy)
    (wellKeyed : state.WellKeyed) (key : ObjectKey) :
    Settles config state key (reconcile config noFaults noFaults state key).1
      (reconcile config noFaults noFaults state key).2.result := by
  have reconciles := reconcile_reconciles config noFaults noFaults state key
  generalize (reconcile config noFaults noFaults state key).1 = after at reconciles ⊢
  generalize (reconcile config noFaults noFaults state key).2.result = result at reconciles ⊢
  cases reconciles with
  | unread got returns =>
      refine .absent ?_ returns
      rw [getHTTPScaledObject_noFaults] at got
      split at got
      · simp at got
      · assumption
  | retained got terminating takesDown =>
      cases takesDown with
      | stopped refused same => simp [deletionError, noFaults] at refused
      | unpublished through refused same => simp [publishFailure_noFaults healthy] at refused
  | @finalized httpso left removed got terminating takesDown kept =>
      have stored := lookup_of_get got
      have own := wellKeyed key httpso stored
      rcases kept own with ⟨conditions, rfl⟩
      subst own
      exact .retired stored terminating
        (retired_of_takesDown healthy wellKeyed stored takesDown conditions)
  | @refused httpso err got live unadmitted =>
      have stored := lookup_of_get got
      have own := wellKeyed key httpso stored
      subst own
      have ensured := ensureFinalizer_noFaults config.client stored
      have rejects := sanitizedHosts_admitted ensured
      rw [unadmitted] at rejects
      rcases ensureFinalizer_of_live stored live with ⟨same, object, kept⟩
      exact .rejected stored live rejects same object (lookup_ensureFinalizer stored live ensured)
  | @accepted httpso sanitized after result got live admits accepts =>
      have stored := lookup_of_get got
      have own := wellKeyed key httpso stored
      subst own
      have ensured := ensureFinalizer_noFaults config.client stored
      have hosts := sanitizedHosts_admitted ensured
      rw [admits] at hosts
      have ensuredHealthy : (ensureFinalizer config.client noFaults state httpso).state.Healthy :=
        healthy.of_configMap (ensureFinalizer_resources _ _ _ _).routingConfigMap
      have succeeds := accepts.result_of_noFaults ensuredHealthy
      subst succeeds
      have creates := creates_of_accepts stored live admits accepts
      rcases creates.published healthy with ⟨publishes, stillHealthy⟩
      exact .accepted stored live hosts ⟨creates.routes, publishes, stillHealthy,
        creates.wellKeyed wellKeyed, creates.object, creates.finalizers, creates.kept⟩

end Undisturbed

section Runs

inductive Event where
  | change (change : Change)
  | reconcile (key : ObjectKey) (faults cleanupFaults : Faults)
  | restart

/-- The operator together with a record of the objects whose last creation succeeded. -/
structure System where
  operator : State
  reconciled : Finset ObjectKey
  deriving DecidableEq

def System.initial : System := ⟨.initial, ∅⟩

/-- A panic ends the process, which starts again with an empty table. -/
def State.survive (after : State) : Except Failure Unit → State
  | .error (.panic _) => { after with routingTable := newTable }
  | _ => after

/--
A successful creation enters an object into the record. A failed one, which is cleaned up, and a
successful deletion take it out.
-/
def System.recordAfter (client : Client) (system : System) (faults : Faults) (key : ObjectKey)
    (result : Except Failure Unit) : Finset ObjectKey :=
  match system.operator.cluster.getHTTPScaledObject faults key with
  | .error _ => system.reconciled
  | .ok httpso =>
      if httpso.live then
        match admitted client faults system.operator httpso, result with
        | none, _ => system.reconciled
        | some _, .ok () => insert key system.reconciled
        | some _, .error _ => system.reconciled.erase key
      else
        match result with
        | .ok () => system.reconciled.erase key
        | .error _ => system.reconciled

def System.recordChange (system : System) : Change → Finset ObjectKey
  | .create httpso => system.reconciled.erase httpso.key
  | .update _ _ | .delete _ => system.reconciled

def step (config : Config) (system : System) : Event → Option System
  | .change change =>
      (system.operator.cluster.change change).map fun cluster =>
        ⟨{ system.operator with cluster := cluster }, system.recordChange change⟩
  | .reconcile key faults cleanupFaults =>
      let reconciled := reconcile config faults cleanupFaults system.operator key
      some ⟨reconciled.1.survive reconciled.2.result,
        system.recordAfter config.client faults key reconciled.2.result⟩
  | .restart => some { system with operator := { system.operator with routingTable := newTable } }

theorem System.mem_recordAfter_of_ne {client : Client} {system : System} {key other : ObjectKey}
    (differs : other ≠ key) (faults : Faults) (result : Except Failure Unit) :
    other ∈ system.recordAfter client faults key result ↔ other ∈ system.reconciled := by
  simp only [System.recordAfter]
  split
  · exact Iff.rfl
  · split
    · split <;> simp [differs]
    · split <;> simp [differs]

/-- The events of a system in which every call succeeds. -/
inductive CalmEvent where
  | change (change : Change)
  | reconcile (key : ObjectKey)
  | restart
  deriving DecidableEq, Repr

def calmStep (config : Config) (system : System) : CalmEvent → Option System
  | .change change => step config system (.change change)
  | .reconcile key => step config system (.reconcile key noFaults noFaults)
  | .restart => step config system .restart

theorem State.survive_of_returned (after : State) {result : Except Failure Unit}
    (returns : ∀ value, result ≠ .error (.panic value)) : after.survive result = after := by
  unfold State.survive
  split
  · next value => exact absurd rfl (returns value)
  · rfl

@[simp]
theorem State.cluster_survive (after : State) (result : Except Failure Unit) :
    (after.survive result).cluster = after.cluster := by
  simp only [State.survive]
  split <;> rfl

end Runs

section Samples

def sampleConfig : Config := ⟨100, "keda", ⟨"external-scaler", 9090⟩, ⟨false⟩⟩

def sampleSpec (deployment : String) (hosts : List String) : HTTPScaledObjectSpec where
  host := none
  hosts := some hosts
  scaleTargetRef := ⟨deployment, "svc", 8080⟩
  replicas := none
  targetPendingRequests := none
  cooldownPeriod := none

def sampleObject (ns name : String) (spec : HTTPScaledObjectSpec) : HTTPScaledObject where
  ns := ns
  name := name
  finalizers := []
  deletionTimestamp := false
  spec := spec
  conditions := []

end Samples

end KedaHttp.Operator
