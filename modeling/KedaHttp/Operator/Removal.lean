import KedaHttp.Operator.System

/-!
# Routes that are removed at the wrong time, and routes that are not removed

The clean-up that undoes a failed creation also runs when a later Reconcile of the object fails, and
then takes down routes that have been there before. A failed Reconcile of an object with registered
hosts leaves the table alone precisely if the clean-up fails as well, is not reached, or finds no
hosts in its object: saving the status may have undone what `sanitizeHosts` did to the object.

`sanitizeHosts` puts the deprecated field `host` into the list of hosts, but only in the object that
a Reconcile has in memory. The Reconcile that deletes the object starts again from the stored one,
whose list of hosts is empty, so that the route stays.
-/

namespace KedaHttp.Operator

open KedaHttp.Foundation
open KedaHttp.Routing

variable {config : Config} {faults cleanupFaults : Faults} {state after : State}
  {key : ObjectKey} {httpso : HTTPScaledObject} {hosts : List String}

theorem getHTTPScaledObject_ok_iff
    (stored : state.cluster.httpScaledObjects.lookup key = some httpso) :
    state.cluster.getHTTPScaledObject faults key = .ok httpso ↔
      faults .getHTTPScaledObject = none := by
  simp only [Cluster.getHTTPScaledObject, Cluster.attempt, stored]
  cases faults .getHTTPScaledObject <;> simp

theorem eq_of_get {read : HTTPScaledObject}
    (stored : state.cluster.httpScaledObjects.lookup key = some httpso)
    (got : state.cluster.getHTTPScaledObject faults key = .ok read) : read = httpso := by
  have found := lookup_of_get got
  rw [stored, Option.some.injEq] at found
  exact found.symm

/-- The ways of a Reconcile through the object it is about, if that is not under deletion. -/
theorem Reconciles.of_live {result : Except Failure Unit}
    (reconciles : Reconciles config faults cleanupFaults state key after result)
    (stored : state.cluster.httpScaledObjects.lookup key = some httpso)
    (live : httpso.live = true) :
    (faults .getHTTPScaledObject ≠ none ∧ after = state) ∨
      (faults .getHTTPScaledObject = none ∧ admitted config.client faults state httpso = none ∧
        after = (ensureFinalizer config.client faults state httpso).state ∧ result ≠ .ok ()) ∨
      (faults .getHTTPScaledObject = none ∧ ∃ sanitized,
        admitted config.client faults state httpso = some sanitized ∧
        Accepts config faults cleanupFaults
          (ensureFinalizer config.client faults state httpso).state sanitized after result) := by
  cases reconciles with
  | unread got _ =>
      refine .inl ⟨?_, rfl⟩
      intro noFault
      rw [(getHTTPScaledObject_ok_iff stored).mpr noFault] at got
      simp at got
  | retained got terminating _ =>
      rw [eq_of_get stored got, live] at terminating
      simp at terminating
  | finalized got terminating _ _ =>
      rw [eq_of_get stored got, live] at terminating
      simp at terminating
  | @refused read _ got _ unadmitted =>
      have same : read = httpso := eq_of_get stored got
      subst same
      exact .inr (.inl ⟨(getHTTPScaledObject_ok_iff stored).mp got, unadmitted, rfl, by simp⟩)
  | @accepted read sanitized _ _ got _ admits accepts =>
      have same : read = httpso := eq_of_get stored got
      subst same
      exact .inr (.inr ⟨(getHTTPScaledObject_ok_iff stored).mp got, sanitized, admits, accepts⟩)

/-- An object that comes to its creation does so with the hosts that `sanitizeHosts` leaves. -/
theorem hosts_of_admitted {sanitized : HTTPScaledObject}
    (admits : admitted config.client faults state httpso = some sanitized)
    (accepts : httpso.sanitizedHosts config.client = some hosts) : sanitized.hosts = hosts := by
  have sanitizes := sanitizedHosts_admitted (ensured_of_admitted admits)
  rw [accepts, admits, Option.map_some, Option.some.injEq] at sanitizes
  exact sanitizes.symm

section FailedReconcile

theorem FailsCreation.routingTable {sanitized : HTTPScaledObject} {failed : State}
    (fails : FailsCreation config faults state sanitized failed)
    (registered : ∀ host ∈ sanitized.hosts, host ∈ state.routingTable.m) :
    failed.routingTable = state.routingTable := by
  cases fails with
  | unscaled _ same => exact same.routingTable
  | unpublished _ _ _ same =>
      rw [same.routingTable]
      exact Table.addTargets_of_registered registered _

/-- The clean-up keeps the table if it stops at the ScaledObject, or has no hosts to remove. -/
theorem Accepts.routingTable_of_error {sanitized : HTTPScaledObject} {err : String}
    (accepts : Accepts config faults cleanupFaults state sanitized after (.error (.error err)))
    (registered : ∀ host ∈ sanitized.hosts, host ∈ state.routingTable.m)
    (saved : ∀ host ∈ (sanitized.afterSave config.client (faults .saveCreationStatus)
      state.cluster).hosts, host ∈ sanitized.hosts) :
    after.routingTable = state.routingTable ↔
      deletionError cleanupFaults ≠ none ∨
        (sanitized.afterSave config.client (faults .saveCreationStatus) state.cluster).hosts =
          [] := by
  cases accepts with
  | cleanedUp _ fails takesDown _ =>
      rw [takesDown.routingTable, fails.routingTable registered]
      cases deletionError cleanupFaults with
      | some stopped => simp
      | none =>
          simp only [Option.isNone_none, if_true, ne_eq, not_true_eq_false, false_or]
          exact Table.removeTargets_eq_self_iff fun host member =>
            registered host (saved host member)

theorem mem_of_mem_cleanupHosts {client : Client} {fault : Option ApiError}
    {sanitized : HTTPScaledObject} {host : String}
    (member : host ∈ cleanupHosts client fault httpso sanitized) : host ∈ sanitized.hosts := by
  simp only [cleanupHosts] at member
  split at member
  · simp at member
  · exact member

theorem cleanupHosts_eq_nil_iff {client : Client} {fault : Option ApiError}
    {sanitized : HTTPScaledObject} :
    cleanupHosts client fault httpso sanitized = [] ↔
      sanitized.hosts = [] ∨
        httpso.spec.host ≠ none ∧ fault = none ∧ client.keepsOmitted = false := by
  simp only [cleanupHosts]
  split
  · next forgets => simp [forgets]
  · next keeps => simp [keeps]

/--
When the Reconcile of an object whose hosts are all registered returns an error, the routing table
is what it was if and only if the Reconcile has failed before the creation, or the clean-up could
not delete the ScaledObject, or there are no hosts, or saving the status has taken the deprecated
host out of the list again.
-/
theorem routingTable_of_failed_iff
    (stored : state.cluster.httpScaledObjects.lookup httpso.key = some httpso)
    (live : httpso.live = true) (accepts : httpso.sanitizedHosts config.client = some hosts)
    (registered : ∀ host ∈ hosts, host ∈ state.routingTable.m) {err : String}
    (failed : (reconcile config faults cleanupFaults state httpso.key).2.result =
      .error (.error err)) :
    (reconcile config faults cleanupFaults state httpso.key).1.routingTable =
        state.routingTable ↔
      faults .getHTTPScaledObject ≠ none ∨
        (ensureFinalizer config.client faults state httpso).result ≠ .ok () ∨
        deletionError cleanupFaults ≠ none ∨ hosts = [] ∨
        httpso.spec.host ≠ none ∧ faults .saveCreationStatus = none ∧
          config.client.keepsOmitted = false := by
  have reconciles := reconcile_reconciles config faults cleanupFaults state httpso.key
  rw [failed] at reconciles
  generalize (reconcile config faults cleanupFaults state httpso.key).1 = after at reconciles ⊢
  have ensuredTable := (ensureFinalizer_resources config.client faults state httpso).routingTable
  rcases reconciles.of_live stored live with
    ⟨faulty, same⟩ | ⟨_, unadmitted, same, _⟩ | ⟨noFault, sanitized, admits, acceptsRead⟩
  · exact iff_of_true (congrArg State.routingTable same) (.inl faulty)
  · have unensured : (ensureFinalizer config.client faults state httpso).result ≠ .ok () := by
      intro ensured
      have rejects := sanitizedHosts_admitted ensured
      simp [unadmitted, accepts] at rejects
    rw [same]
    exact iff_of_true ensuredTable (.inr (.inl unensured))
  · have sameHosts := hosts_of_admitted admits accepts
    have saved := hosts_afterSave stored live admits (faults .saveCreationStatus)
    rw [← sameHosts, ← ensuredTable] at registered
    rw [← ensuredTable, acceptsRead.routingTable_of_error registered, saved,
      cleanupHosts_eq_nil_iff, sameHosts]
    · simp [noFault, ensured_of_admitted admits]
    · rw [saved]
      exact fun host member => mem_of_mem_cleanupHosts member

/-- The call meets an error that is not about the object's existence. -/
def failing (call : Call) : Faults := fun made =>
  if made = call then some ⟨.other, "etcdserver: request timed out"⟩ else none

/-- A new installation with one object, which has not been reconciled yet. -/
def sampleCreated (httpso : HTTPScaledObject) : State :=
  { State.initial with
    cluster := { State.initial.cluster with
      httpScaledObjects := (∅ : GoMap ObjectKey HTTPScaledObject).insert httpso.key httpso } }

def sampleRouted (httpso : HTTPScaledObject) : State :=
  (reconcile sampleConfig noFaults noFaults (sampleCreated httpso) httpso.key).1

/-- A clean-up that cannot delete the ScaledObject leaves the route in place. -/
theorem routingTable_of_failed_iff_stopped :
    let created := sampleObject "dp-a" "y" (sampleSpec "app" ["a"])
    (sampleRouted created).routingTable.hasHost "a" = true ∧
      (reconcile sampleConfig (failing .patchConfigMap) (failing .deleteScaledObject)
        (sampleRouted created) created.key).1.routingTable =
          (sampleRouted created).routingTable := by
  intro created
  have present : ((sampleRouted created).cluster.httpScaledObjects.lookup created.key).any
      (fun httpso : HTTPScaledObject =>
        httpso.live && decide (httpso.sanitizedHosts sampleConfig.client = some ["a"]) &&
          decide (httpso.key = created.key)) = true := by decide
  rw [Option.any_eq_true] at present
  rcases present with ⟨httpso, stored, accepted⟩
  simp only [Bool.and_eq_true, decide_eq_true_eq] at accepted
  rcases accepted with ⟨⟨live, accepts⟩, keyed⟩
  have failed : (reconcile sampleConfig (failing .patchConfigMap) (failing .deleteScaledObject)
      (sampleRouted created) created.key).2.result = .error (.error
        "saving routing table ConfigMap to Kubernetes: etcdserver: request timed out") := by decide
  refine ⟨by decide, ?_⟩
  rw [← keyed] at stored failed ⊢
  exact (routingTable_of_failed_iff stored live accepts (by decide) failed).mpr
    (.inr (.inr (.inl (by decide))))

/-- A ScaledObject that cannot be patched costs a working application its route. -/
theorem not_routingTable_of_failed_patch :
    ¬∀ (config : Config) (system : System),
      Reachable (StepOf (step config)) System.initial system →
        ∀ (key : ObjectKey) (httpso : HTTPScaledObject) (hosts : List String)
          (faults cleanupFaults : Faults) (err : String), key ∈ system.reconciled →
          system.operator.cluster.httpScaledObjects.lookup key = some httpso →
          httpso.live = true → httpso.sanitizedHosts config.client = some hosts →
          (∀ host ∈ hosts, host ∈ system.operator.routingTable.m) →
          (reconcile config faults cleanupFaults system.operator key).2.result =
            .error (.error err) →
          (reconcile config faults cleanupFaults system.operator key).1.routingTable =
            system.operator.routingTable := by
  intro kept
  rcases Reachable.exists_of_record (step sampleConfig) System.initial
    [.change (.create (sampleObject "dp-a" "y" (sampleSpec "app" ["a"]))),
      .reconcile ⟨"dp-a", "y"⟩ noFaults noFaults]
    (fun system =>
      decide ((⟨"dp-a", "y"⟩ : ObjectKey) ∈ system.reconciled) &&
      decide ("a" ∈ system.operator.routingTable.m) &&
      ((system.operator.cluster.httpScaledObjects.lookup
        (⟨"dp-a", "y"⟩ : ObjectKey)).any fun httpso : HTTPScaledObject =>
        httpso.live && decide (httpso.sanitizedHosts sampleConfig.client = some ["a"])) &&
      decide ((reconcile sampleConfig (failing .patchScaledObject) noFaults system.operator
        ⟨"dp-a", "y"⟩).2.result = .error (.error "etcdserver: request timed out")) &&
      decide ((reconcile sampleConfig (failing .patchScaledObject) noFaults system.operator
        ⟨"dp-a", "y"⟩).1.routingTable = newTable))
    (by decide) with ⟨system, reachable, passed⟩
  simp only [Bool.and_eq_true, decide_eq_true_eq, Option.any_eq_true] at passed
  rcases passed with ⟨⟨⟨⟨recorded, registered⟩, httpso, stored, live, accepts⟩, failed⟩, emptied⟩
  have same := kept sampleConfig system reachable ⟨"dp-a", "y"⟩ httpso ["a"]
    (failing .patchScaledObject) noFaults _ recorded stored live accepts (by simpa using registered)
    failed
  rw [emptied] at same
  rw [← same] at registered
  exact absurd registered (by decide)

end FailedReconcile

section Lifecycle

theorem creates_of_reconcile
    (stored : state.cluster.httpScaledObjects.lookup httpso.key = some httpso)
    (live : httpso.live = true) (accepts : httpso.sanitizedHosts config.client = some hosts)
    (read : faults .getHTTPScaledObject = none)
    (created : (reconcile config faults cleanupFaults state httpso.key).2.result = .ok ()) :
    Creates config state httpso hosts
      (reconcile config faults cleanupFaults state httpso.key).1 := by
  have reconciles := reconcile_reconciles config faults cleanupFaults state httpso.key
  rw [created] at reconciles
  rcases reconciles.of_live stored live with
    ⟨faulty, _⟩ | ⟨_, _, _, failed⟩ | ⟨_, sanitized, admits, acceptsRead⟩
  · exact absurd read faulty
  · exact absurd rfl failed
  · rw [← hosts_of_admitted admits accepts]
    exact creates_of_accepts stored live admits acceptsRead

/-- A successful deletion removes the hosts that the stored object lists. -/
theorem removeTargets_of_reconcile
    (stored : state.cluster.httpScaledObjects.lookup key = some httpso)
    (terminating : httpso.live = false) (read : faults .getHTTPScaledObject = none)
    (removed : (reconcile config faults cleanupFaults state key).2.result = .ok ()) :
    (reconcile config faults cleanupFaults state key).1.routingTable =
      state.routingTable.removeTargets httpso.hosts := by
  have reconciles := reconcile_reconciles config faults cleanupFaults state key
  generalize (reconcile config faults cleanupFaults state key).1 = after at reconciles ⊢
  generalize (reconcile config faults cleanupFaults state key).2.result = result
    at reconciles removed
  cases reconciles with
  | unread got _ =>
      rw [(getHTTPScaledObject_ok_iff stored).mpr read] at got
      simp at got
  | retained => simp at removed
  | @finalized found _ _ got _ takesDown _ =>
      have same : found = httpso := eq_of_get stored got
      subst same
      rw [(finalizeScaledObject_resources _ _ _).routingTable]
      cases takesDown with
      | removed _ _ same => exact same.routingTable
  | refused got live _ =>
      rw [eq_of_get stored got, terminating] at live
      simp at live
  | accepted got live _ _ =>
      rw [eq_of_get stored got, terminating] at live
      simp at live

/-- An object with a finalizer is only marked by its deletion, and keeps its hosts. -/
theorem lookup_of_deleted {cluster : Cluster} {finalizers : List String}
    (object : state.object httpso.key = some httpso.essence)
    (kept : state.finalizers httpso.key = some finalizers) (nonempty : finalizers ≠ [])
    (deletes : state.cluster.change (.delete httpso.key) = some cluster) :
    ∃ marked, cluster.httpScaledObjects.lookup httpso.key = some marked ∧ marked.live = false ∧
      marked.hosts = httpso.hosts := by
  rcases Option.map_eq_some_iff.mp object with ⟨stored, found, same⟩
  have sameFinalizers : stored.finalizers = finalizers := by
    simpa [State.finalizers, found] using kept
  refine ⟨{ stored with deletionTimestamp := true }, ?_, rfl, ?_⟩
  · rw [Cluster.lookup_change deletes]
    simp [Change.key, Change.outcome, found, HTTPScaledObject.delete, sameFinalizers, nonempty]
  · have sameHosts := congrArg HTTPScaledObject.hosts same
    rw [HTTPScaledObject.hosts_essence, HTTPScaledObject.hosts_essence] at sameHosts
    exact sameHosts

/-- The stored list of hosts is the sanitized one, unless the host is given in the other field. -/
theorem HTTPScaledObject.hosts_of_sanitized {client : Client}
    (accepts : httpso.sanitizedHosts client = some hosts) :
    (httpso.spec.host = none ∧ httpso.hosts = hosts) ∨
      ∃ host, httpso.spec.host = some host ∧ hosts = [host] ∧ httpso.hosts = [] := by
  rcases httpso.exists_ensuredSpec client with ⟨decoded, spec, same⟩
  simp only [sanitizedHosts, spec] at accepts
  simp only [HTTPScaledObject.hosts]
  rcases same with rfl | ⟨rfl, empty⟩
  · cases given : httpso.spec.hosts <;> cases single : httpso.spec.host <;> simp_all
  · cases single : httpso.spec.host <;> simp_all

/--
After the successful creation and the successful deletion of an object, both on the object as it is
stored, none of its hosts is in the table and the other entries are what they were, if and only if
the object does not use the deprecated field.
-/
theorem removed_iff_not_deprecated {deletionFaults deletionCleanupFaults : Faults}
    {cluster : Cluster} (stored : state.cluster.httpScaledObjects.lookup httpso.key = some httpso)
    (live : httpso.live = true) (accepts : httpso.sanitizedHosts config.client = some hosts)
    (absent : ∀ host ∈ hosts, host ∉ state.routingTable.m)
    (read : faults .getHTTPScaledObject = none)
    (created : (reconcile config faults cleanupFaults state httpso.key).2.result = .ok ())
    (deletes : (reconcile config faults cleanupFaults state httpso.key).1.cluster.change
      (.delete httpso.key) = some cluster)
    (readAgain : deletionFaults .getHTTPScaledObject = none)
    (removed : (reconcile config deletionFaults deletionCleanupFaults
      { (reconcile config faults cleanupFaults state httpso.key).1 with cluster }
      httpso.key).2.result = .ok ()) :
    let final := (reconcile config deletionFaults deletionCleanupFaults
      { (reconcile config faults cleanupFaults state httpso.key).1 with cluster } httpso.key).1
    ((∀ host ∈ hosts, host ∉ final.routingTable.m) ∧
        ∀ host, host ∉ hosts →
          final.routingTable.m.lookup host = state.routingTable.m.lookup host) ↔
      httpso.spec.host = none := by
  have creates := creates_of_reconcile stored live accepts read created
  have object := congrFun creates.object httpso.key
  rw [State.object_of_lookup stored] at object
  rcases creates.kept with ⟨finalizers, nonempty, kept⟩
  rcases lookup_of_deleted object kept nonempty deletes with
    ⟨marked, markedStored, terminating, sameHosts⟩
  intro final
  have table : final.routingTable =
      (state.routingTable.addTargets hosts (targetOf config httpso)).removeTargets
        httpso.hosts := by
    rw [← sameHosts, ← creates.routes]
    exact removeTargets_of_reconcile markedStored terminating readAgain removed
  rw [table]
  rcases HTTPScaledObject.hosts_of_sanitized accepts with
    ⟨unused, listed⟩ | ⟨host, deprecated, single, unlisted⟩
  · rw [listed, Table.removeTargets_addTargets absent]
    exact iff_of_true ⟨absent, fun _ _ => rfl⟩ unused
  · -- the stored object lists no host, so that the deletion removes none
    refine iff_of_false ?_ (by simp [deprecated])
    rintro ⟨gone, _⟩
    have member : host ∈ hosts := by simp [single]
    have removedHost := Finmap.lookup_eq_none.mpr (gone host member)
    rw [unlisted, Table.lookup_removeTargets, Table.lookup_addTargets,
      Finmap.lookup_eq_none.mpr (absent host member), if_pos member] at removedHost
    simp at removedHost

/-- A host of the list is gone after the object's deletion. -/
theorem removed_iff_not_deprecated_listed :
    let httpso := sampleObject "dp-a" "y" (sampleSpec "app" ["a"])
    ∃ cluster, (sampleRouted httpso).cluster.change (.delete httpso.key) = some cluster ∧
      "a" ∉ (reconcile sampleConfig noFaults noFaults { sampleRouted httpso with cluster }
        httpso.key).1.routingTable.m := by
  intro httpso
  have deletable : ((sampleRouted httpso).cluster.change (.delete httpso.key)).any
      (fun cluster : Cluster => decide ((reconcile sampleConfig noFaults noFaults
        { sampleRouted httpso with cluster } httpso.key).2.result = .ok ())) = true := by decide
  rw [Option.any_eq_true] at deletable
  rcases deletable with ⟨cluster, deletes, removed⟩
  rw [decide_eq_true_eq] at removed
  refine ⟨cluster, deletes, ?_⟩
  have restored := (removed_iff_not_deprecated (show (sampleCreated
    httpso).cluster.httpScaledObjects.lookup httpso.key = some httpso by decide) (by decide)
    (show httpso.sanitizedHosts sampleConfig.client = some ["a"] by decide) (by decide) rfl
    (by decide) deletes rfl removed).mpr rfl
  exact restored.1 "a" (by decide)

/-- A host in the deprecated field keeps its route for ever. -/
theorem not_removed_of_deprecated :
    ¬∀ (config : Config) (state : State) (httpso : HTTPScaledObject) (hosts : List String)
        (faults cleanupFaults deletionFaults deletionCleanupFaults : Faults) (cluster : Cluster),
      state.cluster.httpScaledObjects.lookup httpso.key = some httpso → httpso.live = true →
      httpso.sanitizedHosts config.client = some hosts →
      (∀ host ∈ hosts, host ∉ state.routingTable.m) →
      faults .getHTTPScaledObject = none →
      (reconcile config faults cleanupFaults state httpso.key).2.result = .ok () →
      (reconcile config faults cleanupFaults state httpso.key).1.cluster.change
        (.delete httpso.key) = some cluster →
      deletionFaults .getHTTPScaledObject = none →
      (reconcile config deletionFaults deletionCleanupFaults
        { (reconcile config faults cleanupFaults state httpso.key).1 with cluster }
        httpso.key).2.result = .ok () →
      ∀ host ∈ hosts, host ∉ (reconcile config deletionFaults deletionCleanupFaults
        { (reconcile config faults cleanupFaults state httpso.key).1 with cluster }
        httpso.key).1.routingTable.m := by
  intro always
  let httpso := sampleObject "dp-a" "y"
    { sampleSpec "app" [] with host := some "a", hosts := none }
  have stays : ((sampleRouted httpso).cluster.change (.delete httpso.key)).any
      (fun cluster : Cluster => decide ((reconcile sampleConfig noFaults noFaults
          { sampleRouted httpso with cluster } httpso.key).2.result = .ok ()) &&
        decide ("a" ∈ (reconcile sampleConfig noFaults noFaults
          { sampleRouted httpso with cluster } httpso.key).1.routingTable.m)) = true := by decide
  rw [Option.any_eq_true] at stays
  rcases stays with ⟨cluster, deletes, passed⟩
  simp only [Bool.and_eq_true, decide_eq_true_eq] at passed
  exact always sampleConfig (sampleCreated httpso) httpso ["a"] noFaults noFaults noFaults noFaults
    cluster (by decide) (by decide) (by decide) (by decide) rfl (by decide) deletes rfl passed.1 "a"
    (by decide) passed.2

end Lifecycle

end KedaHttp.Operator
