import KedaHttp.EndToEnd
import KedaHttp.HostList
import KedaHttp.Interceptor.Gateway
import KedaHttp.Operator.Patching
import KedaHttp.Operator.Removal
import KedaHttp.Operator.ScaledObjects
import KedaHttp.ScaleToZero

/-!
# A request for a deployment without replicas

The add-on is there for this case. A request comes in for a deployment that is scaled to zero, the
interceptor holds it back and waits for the deployment, the scaler tells KEDA that the deployment
is needed, KEDA scales it up, and the interceptor forwards the request. The parts meet in two
places. The operator has to give the same deployment to the interceptors, in the routing table, and
to KEDA, in the ScaledObject. And the scaler has to see the request while it waits.

The middleware and the handler ask the resolver for the key of a request one after the other. What
is counted belongs to the first answer, and the deployment that is waited for to the second one.

Interceptors do not postpone resizes here, for otherwise a request in flight may have lost its
count. KEDA itself is not modelled, but what it is told is.
-/

namespace KedaHttp.ColdStart

open KedaHttp.Foundation
open KedaHttp.Interceptor
open KedaHttp.Operator
open KedaHttp.Queue
open KedaHttp.Routing
open KedaHttp.Scaler
open KedaHttp.ScaleToZero (Sighting)

section Operator

variable {config : Config} {faults cleanupFaults : Faults} {state : Operator.State}
  {httpso : HTTPScaledObject}

theorem lookup_createOrUpdateApplicationResources
    (succeeds : (createOrUpdateApplicationResources config faults state httpso).result = .ok ()) :
    (createOrUpdateApplicationResources config faults state
        httpso).state.cluster.scaledObjects.lookup ⟨httpso.ns, httpso.name ++ "-app"⟩ =
      some (updatedScaledObject
        (state.cluster.scaledObjects.lookup ⟨httpso.ns, httpso.name ++ "-app"⟩)
        (appScaledObject (config.externalScaler.hostName config.currentNamespace) httpso)) := by
  simp only [createOrUpdateApplicationResources, Progress.saveStatus] at succeeds ⊢
  rw [(SameButConditions.of_saveStatus _ _ _ _).scaledObjects]
  simp only [addRoutes] at succeeds ⊢
  split
  · next failed => simp [failed] at succeeds
  · next created =>
      rw [addAndUpdateRoutingTable]
      rcases exists_updateRoutingMap faults _ with ⟨configMap, updated⟩
      rw [updated]
      exact lookup_createOrUpdateScaledObject created

theorem lookup_reconcileAccepted
    (succeeds : (reconcileAccepted config faults cleanupFaults state httpso).2.result = .ok ()) :
    (reconcileAccepted config faults cleanupFaults state httpso).1.cluster.scaledObjects.lookup
        ⟨httpso.ns, httpso.name ++ "-app"⟩ =
      some (updatedScaledObject
        (state.cluster.scaledObjects.lookup ⟨httpso.ns, httpso.name ++ "-app"⟩)
        (appScaledObject (config.externalScaler.hostName config.currentNamespace) httpso)) := by
  simp only [reconcileAccepted] at succeeds ⊢
  split at succeeds
  · simp at succeeds
  · next err _ =>
      rcases exists_cleanupResult err (removeApplicationResources config.client cleanupFaults
        (createOrUpdateApplicationResources config faults state httpso).state
        (createOrUpdateApplicationResources config faults state httpso).httpso).result with
        ⟨failure, failed⟩
      simp [failed] at succeeds
  · next created =>
      rw [(SameButConditions.of_saveStatus _ _ _ _).scaledObjects]
      exact lookup_createOrUpdateApplicationResources created

/-- A Reconcile of an object that was read and is not being deleted, if it succeeds. -/
theorem reconcile_of_live {key : ObjectKey}
    (got : state.cluster.getHTTPScaledObject faults key = .ok httpso) (live : httpso.live = true)
    (succeeds : (reconcile config faults cleanupFaults state key).2.result = .ok ()) :
    ∃ sanitized, admitted config.client faults state httpso = some sanitized ∧
      reconcile config faults cleanupFaults state key =
        reconcileAccepted config faults cleanupFaults
          (ensureFinalizer config.client faults state httpso).state sanitized := by
  have unmarked : httpso.deletionTimestamp = false := by simpa [HTTPScaledObject.live] using live
  simp only [reconcile, got, unmarked, Bool.false_eq_true, if_false] at succeeds ⊢
  cases ensured : (ensureFinalizer config.client faults state httpso).result with
  | error failure => simp [ensured] at succeeds
  | ok =>
      cases sanitizes :
          sanitizeHosts (ensureFinalizer config.client faults state httpso).httpso with
      | error err => simp [ensured, sanitizes] at succeeds
      | ok sanitized =>
          exact ⟨sanitized, by simp [admitted, ensured, sanitizes, Except.toOption], rfl⟩

/-- What a Reconcile that succeeds leaves for the interceptors and for KEDA. -/
structure Provides (config : Config) (state : Operator.State) (httpso : HTTPScaledObject)
    (hosts : List String) (after : Operator.State) : Prop where
  published : after.published = some after.routingTable
  routes : after.routingTable = state.routingTable.addTargets hosts (targetOf config httpso)
  scaledObject : ∃ scaledObject,
    after.cluster.scaledObjects.lookup ⟨httpso.ns, httpso.name ++ "-app"⟩ = some scaledObject ∧
      (scaledObject.ns, scaledObject.scaleTargetName) =
        (httpso.ns, httpso.spec.scaleTargetRef.deployment) ∧
      HostList.triggerHosts scaledObject = [.ok (split ',' (",".intercalate hosts))]

theorem triggerHosts_updatedScaledObject (before : Option ScaledObject) (address : String)
    (httpso : HTTPScaledObject) :
    HostList.triggerHosts (updatedScaledObject before (appScaledObject address httpso)) =
      [.ok (split ',' (",".intercalate httpso.hosts))] := by
  have sameTriggers : (updatedScaledObject before (appScaledObject address httpso)).triggers =
      (appScaledObject address httpso).triggers := by
    cases before <;> rfl
  rw [HostList.triggerHosts, sameTriggers]
  exact HostList.triggerHosts_newScaledObject _ _ _ _ _ _ _ _

theorem target_updatedScaledObject (before : Option ScaledObject) (address : String)
    (httpso : HTTPScaledObject) :
    ((updatedScaledObject before (appScaledObject address httpso)).ns,
        (updatedScaledObject before (appScaledObject address httpso)).scaleTargetName) =
      (httpso.ns, httpso.spec.scaleTargetRef.deployment) := by
  cases before <;> rfl

theorem provides_of_reconcile {key : ObjectKey} {hosts : List String} (healthy : state.Healthy)
    (got : state.cluster.getHTTPScaledObject faults key = .ok httpso) (live : httpso.live = true)
    (accepts : httpso.sanitizedHosts config.client = some hosts)
    (succeeds : (reconcile config faults cleanupFaults state key).2.result = .ok ()) :
    Provides config state httpso hosts (reconcile config faults cleanupFaults state key).1 := by
  rcases reconcile_of_live got live succeeds with ⟨sanitized, admits, same⟩
  rw [same] at succeeds ⊢
  have resources := ensureFinalizer_resources config.client faults state httpso
  have sanitizes := sanitized_of_admitted admits
  have hostsEq : sanitized.hosts = hosts := hosts_of_admitted admits accepts
  have sameKey := sanitizes.key
  simp only [HTTPScaledObject.key, ObjectKey.mk.injEq] at sameKey
  have stored := lookup_reconcileAccepted succeeds
  have accepted := reconcileAccepted_accepts config faults cleanupFaults
    (ensureFinalizer config.client faults state httpso).state sanitized
  generalize (reconcileAccepted config faults cleanupFaults
    (ensureFinalizer config.client faults state httpso).state sanitized).1 = after
    at accepted stored ⊢
  generalize (reconcileAccepted config faults cleanupFaults
    (ensureFinalizer config.client faults state httpso).state sanitized).2.result = result
    at accepted succeeds
  cases accepted with
  | created scaledObject _ _ created =>
      have routedHealthy : (withRoutes config
          (ensureFinalizer config.client faults state httpso).state sanitized
          scaledObject).Healthy := healthy.of_configMap resources.routingConfigMap
      refine ⟨(created.toSameResources.published_of_publish routedHealthy).1, ?_, ?_⟩
      · rw [created.routingTable, ← sanitizes.target, ← hostsEq, ← resources.routingTable]
        rfl
      · rw [sameKey.1, sameKey.2] at stored
        refine ⟨_, stored, ?_, ?_⟩
        · rw [target_updatedScaledObject, sameKey.1, sanitizes.scaleTargetRef]
        · rw [triggerHosts_updatedScaledObject, hostsEq]
  | panicked => simp at succeeds
  | @cleanedUp failed after cleanup result err fails takesDown returns =>
      rcases exists_cleanupResult err cleanup with ⟨failure, failed⟩
      rw [succeeds, failed] at returns
      simp at returns

end Operator

section Scaler

variable {routingTable : Table} {hosts : List String}

/-- The interceptors themselves are always active, once the hosts before them are known. -/
theorem isActiveLoop_of_interceptor {pinger : ℕ → QueuePinger Int}
    (known : ∀ reads, ∀ host ∈ hosts, Known routingTable (pinger reads) host)
    (listed : interceptor ∈ hosts) (reads : ℕ) (totalHostCount : Int) :
    isActiveLoop routingTable pinger hosts reads totalHostCount = .ok true := by
  induction hosts generalizing reads totalHostCount with
  | nil => simp at listed
  | cons host hosts ih =>
      rw [isActiveLoop]
      split
      · rfl
      · next differs =>
          have rest : interceptor ∈ hosts := by
            rcases List.mem_cons.mp listed with same | rest
            · exact absurd same.symm differs
            · exact rest
          rw [(known reads host List.mem_cons_self).getHostCount_eq]
          exact ih (fun reads host member => known reads host (List.mem_cons_of_mem _ member))
            rest _ _

/-- The interceptors of a sighting have come to their states without postponing resizes. -/
def Counted (sighting : Sighting) : Prop :=
  ∀ endpoint, ∃ postponeDuration,
    Reachable (StepOf Counting.step) (.initial postponeDuration false)
      (sighting.interceptors endpoint)

/-- The counts of a fetch are the requests that were in flight. -/
theorem Counted.total_eq {sighting : Sighting} (counted : Counted sighting)
    {pinger : QueuePinger Int} (saved : sighting.Saved pinger) (hosts : List String) :
    pinger.total hosts = (hosts.map fun host =>
      ∑ endpoint, ((sighting.interceptors endpoint).inFlight host : Int)).sum := by
  apply congrArg List.sum
  apply List.map_congr_left
  intro host _
  rw [saved.counts.2]
  apply Finset.sum_congr rfl
  intro endpoint _
  rcases counted endpoint with ⟨postponeDuration, reachable⟩
  exact (Counting.Exact.of_reachable reachable).counts host

theorem isActive_of_inFlight {sor : ScaledObjectRef} {sighting : Sighting}
    {pinger : QueuePinger Int} {host : String}
    (listed : getHostsFromScaledObjectRef sor = .ok hosts)
    (registered : ∀ host ∈ hosts, routingTable.hasHost host = true) (member : host ∈ hosts)
    (counted : Counted sighting) (saved : sighting.Saved pinger) {endpoint : Fin sighting.size}
    (inFlight : 0 < (sighting.interceptors endpoint).inFlight host) :
    isActive routingTable (fun _ => pinger) sor = .ok true := by
  have known : ∀ _ : ℕ, ∀ host ∈ hosts, Known routingTable pinger host :=
    fun _ host member => .inr (registered host member)
  by_cases itself : interceptor ∈ hosts
  · simp only [isActive, listed]
    exact isActiveLoop_of_interceptor known itself 0 0
  · rw [isActive_of_known listed known itself, readTotal_of_same fun _ _ => rfl,
      counted.total_eq saved]
    exact congrArg Except.ok (decide_eq_true
      (EndToEnd.total_pos_of_inFlight sighting.interceptors member inFlight))

end Scaler

section Interceptors

variable {config : Config} {state : Operator.State} {httpso : HTTPScaledObject}
  {hosts : List String} {host : String} {after : Operator.State} {routingTable : Table}

/-- The routing table has the target for each of the hosts. -/
def Routes (hosts : List String) (target : Target) (routingTable : Table) : Prop :=
  ∀ host ∈ hosts, routingTable.m.lookup host = some target

/-- The hosts of an object lead to its target, unless another object was there before. -/
theorem Provides.routes_of_own (provides : Provides config state httpso hosts after)
    (own : ∀ host ∈ hosts, ∀ found, state.routingTable.m.lookup host = some found →
      found = targetOf config httpso) :
    Routes hosts (targetOf config httpso) after.routingTable := by
  intro host member
  rw [provides.routes, Table.lookup_addTargets, if_pos member]
  cases found : state.routingTable.m.lookup host with
  | none => rfl
  | some existing => rw [own host member existing found, Option.some_or]

theorem Provides.hasHost (provides : Provides config state httpso hosts after)
    (member : host ∈ hosts) : after.routingTable.hasHost host = true := by
  apply decide_eq_true
  rw [Finmap.mem_iff, provides.routes, Table.lookup_addTargets, if_pos member]
  cases state.routingTable.m.lookup host with
  | none => exact ⟨_, rfl⟩
  | some existing => exact ⟨existing, rfl⟩

theorem Routes.target_eq_of_leadsTo {target : Target} (routes : Routes hosts target routingTable)
    (member : host ∈ hosts) {deployment : String × String}
    (leads : Gateway.leadsTo routingTable deployment host = true) :
    deployment = (target.ns, target.deployment) := by
  have looked : routingTable.lookup host = .ok target := by
    simp [Table.lookup, routes host member]
  simp only [Gateway.leadsTo, looked, decide_eq_true_eq] at leads
  exact leads.symm

theorem getHosts_of_trigger {scaledObject : ScaledObject}
    (triggers : HostList.triggerHosts scaledObject = [.ok (split ',' (",".intercalate hosts))])
    (nonempty : hosts ≠ []) (readable : ∀ host ∈ hosts, FreeOf ',' host)
    {trigger : ScaleTriggers} (member : trigger ∈ scaledObject.triggers) :
    getHostsFromScaledObjectRef ⟨trigger.metadata⟩ = .ok hosts := by
  have decoded : getHostsFromScaledObjectRef ⟨trigger.metadata⟩ ∈
      HostList.triggerHosts scaledObject := List.mem_map_of_mem member
  rw [triggers, (split_intercalate_eq_iff (by decide) hosts).mpr ⟨nonempty, readable⟩] at decoded
  exact List.mem_singleton.mp decoded

end Interceptors

section Samples

def sampleHTTPScaledObject : HTTPScaledObject :=
  sampleObject "dp-a" "x" (sampleSpec "web" ["app.dp-a"])

/-- The object has been created, and the operator has not seen it yet. -/
def createdState : Operator.State where
  cluster := ⟨(∅ : GoMap ObjectKey HTTPScaledObject).insert ⟨"dp-a", "x"⟩ sampleHTTPScaledObject,
    ∅, some shippedConfigMap⟩
  routingTable := newTable

def sampleTable : Table :=
  ⟨(∅ : GoMap String Target).insert "app.dp-a" (targetOf sampleConfig sampleHTTPScaledObject)⟩

theorem published_sample :
    (reconcile sampleConfig noFaults noFaults createdState ⟨"dp-a", "x"⟩).1.published =
      some sampleTable := by
  decide +kernel

theorem readable_sample : ∀ host ∈ ["app.dp-a"], FreeOf ',' host := by
  intro host member
  rw [List.mem_singleton.mp member]
  decide

abbrev sampleBcaster : Broadcaster (Fin 1) ForwardWait.WatchEvent :=
  Broadcast.bcaster (Crowd.keep fun _ => ("dp-a", "web"))

def sampleStore : GoMap (String × String) ForwardWait.Deployment :=
  (∅ : GoMap (String × String) ForwardWait.Deployment).insert ("dp-a", "web") ⟨"dp-a", "web", 0⟩

/--
A request waits for the deployment, whose first replica has just got ready. Meanwhile the routing
table has been replaced by one that is the same.
-/
theorem exists_waiting_sample :
    ∃ (history : List (Move (Gateway.State sampleBcaster) (Gateway.Event sampleBcaster)))
      (gateway : Gateway.State sampleBcaster),
      Run (StepOf (Gateway.step fun _ => ("dp-a", "web")))
        (.initial 20 false sampleTable sampleStore []) history gateway ∧
      (∀ move ∈ history, Gateway.Replaces (· = sampleTable) move.event) ∧
      gateway.crowd.phases 0 = .waiting ∧ gateway.keys 0 = some "app.dp-a" ∧
      gateway.counting.requests = [.serving "app.dp-a"] ∧
      gateway.crowd.Ready (fun _ => ("dp-a", "web")) 0 := by
  rcases Run.exists_of_record (Gateway.step fun _ : Fin 1 => ("dp-a", "web"))
    (.initial 20 false sampleTable sampleStore [] : Gateway.State sampleBcaster)
    [.request (.arrive Counting.sampleRequest Counting.sampleLookup),
      .request (.act 0 .increment), .route 0 Counting.sampleLookup, .replace sampleTable,
      .wait (.watch 0 none), .wait (.move .push), .wait (.move .run), .wait (.move (.attach 0)),
      .wait (.get 0), .wait (.put ⟨"dp-a", "web", 1⟩)]
    (fun reached => reached.1.all (fun move => move.event.routingTable?.all
        fun routingTable => decide (routingTable = sampleTable)) &&
      decide (reached.2.crowd.phases 0 = .waiting) &&
      decide (reached.2.keys 0 = some "app.dp-a") &&
      decide (reached.2.counting.requests = [.serving "app.dp-a"]) &&
      (reached.2.crowd.store.lookup ("dp-a", "web")).any ForwardWait.deploymentCanServe)
    (by decide +kernel) with ⟨history, gateway, run, passed⟩
  simp only [Bool.and_eq_true, decide_eq_true_eq, Option.any_eq_true, List.all_eq_true,
    Option.all_eq_true] at passed
  rcases passed with ⟨⟨⟨⟨replaced, waiting⟩, keyed⟩, requests⟩, depl, cached, serves⟩
  exact ⟨history, gateway, run, replaced, waiting, keyed, requests, depl, cached, serves⟩

end Samples

/--
An HTTPScaledObject has been reconciled with success, and the routing table that this publishes is
the one of an interceptor. Later routing tables may differ, as long as they lead the object's hosts
to its target. Then a call of the wait function that has not returned belongs to a request that is
being served, and from which the middleware and the handler have derived a key each, by what the
resolver has answered them.

If the handler's key is one of the object's hosts, the call waits for the deployment that KEDA is
told to scale. If the middleware's key is one of them, every fetch that finds the request waiting
makes the scaler call the ScaledObject active. And from when the deployment can serve, the call
returns without an error in whatever order the goroutines go on, unless it is given up or the
deployment is not ready any more. Other requests may come and be given up meanwhile.
-/
theorem active_while_calling {config : Config} {faults cleanupFaults : Faults}
    {state : Operator.State} {objectKey : ObjectKey} {httpso : HTTPScaledObject}
    {hosts : List String} (healthy : state.Healthy)
    (got : state.cluster.getHTTPScaledObject faults objectKey = .ok httpso)
    (live : httpso.live = true) (accepts : httpso.sanitizedHosts config.client = some hosts)
    (own : ∀ host ∈ hosts, ∀ found, state.routingTable.m.lookup host = some found →
      found = targetOf config httpso)
    (readable : ∀ host ∈ hosts, FreeOf ',' host)
    (succeeds : (reconcile config faults cleanupFaults state objectKey).2.result = .ok ()) :
    let after := (reconcile config faults cleanupFaults state objectKey).1
    ∃ routingTable scaledObject, after.published = some routingTable ∧
      Routes hosts (targetOf config httpso) routingTable ∧
      after.cluster.scaledObjects.lookup ⟨httpso.ns, httpso.name ++ "-app"⟩ = some scaledObject ∧
      ∀ {n : ℕ} {b : Broadcaster (Fin n) ForwardWait.WatchEvent}
        {targets : Fin n → String × String} {postponeDuration : Time}
        {store : GoMap (String × String) ForwardWait.Deployment}
        {notifications : List ForwardWait.WatchEvent}
        {history : List (Move (Gateway.State b) (Gateway.Event b))} {gateway : Gateway.State b},
        Run (StepOf (Gateway.step targets))
          (.initial postponeDuration false routingTable store notifications) history gateway →
        (∀ move ∈ history, Gateway.Replaces (Routes hosts (targetOf config httpso)) move.event) →
        ∀ call, Gateway.underWay (gateway.crowd.phases call) = true →
          ∃ request first second host key, gateway.arrivals[call.val]? = some request ∧
            getHost first request = .ok host ∧ getHost second request = .ok key ∧
            gateway.counting.requests[call.val]? = some (.serving host) ∧
            (key ∈ hosts → targets call = (scaledObject.ns, scaledObject.scaleTargetName)) ∧
            (host ∈ hosts → ∀ (scalerTable : Table) (sighting : Sighting)
              (endpoint : Fin sighting.size) (pinger : QueuePinger Int),
              (∀ host ∈ hosts, scalerTable.hasHost host = true) → Counted sighting →
              sighting.interceptors endpoint = gateway.counting → sighting.Saved pinger →
              ∀ trigger ∈ scaledObject.triggers,
                isActive scalerTable (fun _ => pinger) ⟨trigger.metadata⟩ = .ok true) ∧
            ∀ {delivers : Delivers b (Crowd.keep targets)}, Progresses delivers →
              gateway.crowd.Ready targets call →
              ∀ later, Reachable (Gateway.Spares targets call) gateway.crowd later →
                Inevitable (Crowd.Proceeds targets)
                  (fun final => ∃ replicas, final.phases call = .returned (.ok replicas))
                  later := by
  intro after
  have provides : Provides config state httpso hosts after :=
    provides_of_reconcile healthy got live accepts succeeds
  rcases provides.scaledObject with ⟨scaledObject, stored, target, triggers⟩
  refine ⟨after.routingTable, scaledObject, provides.published, provides.routes_of_own own, stored,
    ?_⟩
  intro n b targets postponeDuration store notifications history gateway run replaces call under
  have held := Gateway.Held.of_run run (provides.routes_of_own own) replaces
  rcases held.served call under with ⟨⟨host, serving⟩, key, keyed⟩
  rcases held.matched.derived call.val _ host serving rfl with ⟨request, first, arrived, counts⟩
  rcases held.routed call key keyed with ⟨⟨same, second, arrivedToo, derives⟩, table, routes, leads⟩
  rw [arrived, Option.some.injEq] at arrivedToo
  subst arrivedToo
  refine ⟨request, first, second, host, key, arrived, counts, derives, serving, ?_, ?_, ?_⟩
  · intro member
    exact (routes.target_eq_of_leadsTo member leads).trans target.symm
  · intro member scalerTable sighting endpoint pinger registered counted found saved trigger
      triggerMember
    have listed := getHosts_of_trigger triggers (List.ne_nil_of_mem member) readable triggerMember
    have inFlight : 0 < (sighting.interceptors endpoint).inFlight host := by
      rw [found]
      exact Gateway.inFlight_pos_of_serving serving
    exact isActive_of_inFlight listed registered member counted saved inFlight
  · intro delivers progresses ready later spared
    have attended : Crowd.Attended delivers gateway.crowd :=
      .of_reachable (Gateway.reachable_crowd run)
    exact Gateway.inevitable_returned progresses attended ready under spared

/-- While the call waits, the scaler tells KEDA to scale, and the call is about to return. -/
theorem active_while_calling_first :
    let after := (reconcile sampleConfig noFaults noFaults createdState ⟨"dp-a", "x"⟩).1
    ∃ routingTable scaledObject, after.published = some routingTable ∧
      after.cluster.scaledObjects.lookup ⟨"dp-a", "x-app"⟩ = some scaledObject ∧
      ∃ (gateway : Gateway.State sampleBcaster) (pinger : QueuePinger Int),
        gateway.crowd.phases 0 = .waiting ∧
        (∀ trigger ∈ scaledObject.triggers,
          isActive routingTable (fun _ => pinger) ⟨trigger.metadata⟩ = .ok true) ∧
        Inevitable (Crowd.Proceeds fun _ => ("dp-a", "web"))
          (fun later => ∃ replicas, later.phases 0 = .returned (.ok replicas)) gateway.crowd := by
  intro after
  rcases @active_while_calling sampleConfig noFaults noFaults createdState ⟨"dp-a", "x"⟩
    sampleHTTPScaledObject ["app.dp-a"] ⟨_, rfl⟩ rfl rfl rfl (by simp [createdState, newTable])
    readable_sample (by decide +kernel) with
    ⟨routingTable, scaledObject, same, routes, stored, wakes⟩
  rw [published_sample, Option.some.injEq] at same
  subst same
  rcases exists_waiting_sample with ⟨history, gateway, run, replaced, waiting, _, requests, ready⟩
  have replaces : ∀ move ∈ history, Gateway.Replaces
      (Routes ["app.dp-a"] (targetOf sampleConfig sampleHTTPScaledObject)) move.event := by
    intro move member routingTable found
    rw [replaced move member routingTable found]
    exact routes
  let sighting : Sighting := ⟨1, fun _ => gateway.counting⟩
  rcases sighting.exists_saved with ⟨pinger, saved⟩
  rcases wakes run replaces 0 (by rw [waiting]; rfl) with
    ⟨request, first, second, host, key, _, _, _, serving, _, active, returns⟩
  have counted : host = "app.dp-a" := by
    rw [requests] at serving
    simpa using serving.symm
  refine ⟨sampleTable, scaledObject, published_sample, stored, gateway, pinger, waiting, ?_,
    returns (Broadcast.progresses _) ready _ .refl⟩
  refine active (by simp [counted]) sampleTable sighting 0 pinger ?_
    (fun _ => ⟨20, Gateway.reachable_counting run⟩) rfl saved
  intro host member
  rw [List.mem_singleton.mp member]
  decide

end KedaHttp.ColdStart
