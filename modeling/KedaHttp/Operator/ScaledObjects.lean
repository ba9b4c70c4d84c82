import KedaHttp.Operator.System

/-!
# The ScaledObjects the operator makes

`createOrUpdateScaledObject` names the ScaledObject of an HTTPScaledObject after the object, and
`removeApplicationResources` deletes a ScaledObject named after the object's deployment. The two
agree for objects that are named like their deployment. For any other object a removal leaves
its own ScaledObject behind and takes that of another object away, if there is one by that name.

A removal happens when an object under deletion is reconciled and when a failed creation is
cleaned up. The runs considered here are those in which removals succeed.
-/

namespace KedaHttp.Operator

open KedaHttp.Foundation
open KedaHttp.Routing

section Names

/-- The ScaledObject that is created for an HTTPScaledObject. -/
def scaledObjectKey (owner : ObjectKey) : ObjectKey := ⟨owner.ns, owner.name ++ "-app"⟩

theorem scaledObjectKey_injective : Function.Injective scaledObjectKey := by
  intro left right same
  rcases left with ⟨leftNs, leftName⟩
  rcases right with ⟨rightNs, rightName⟩
  simp only [scaledObjectKey, ObjectKey.mk.injEq] at same ⊢
  refine ⟨same.1, ?_⟩
  have chars := congrArg String.toList same.2
  rw [String.toList_append, String.toList_append, List.append_left_inj] at chars
  exact String.toList_inj.mp chars

/-- There is one ScaledObject for each of the owners, and no other. -/
def Matches (scaledObjects : GoMap ObjectKey ScaledObject) (owners : Finset ObjectKey) : Prop :=
  ∀ key, key ∈ scaledObjects ↔ ∃ owner ∈ owners, key = scaledObjectKey owner

/-- Removing the ScaledObject of `named` in the place of the one of `owner` does no harm. -/
def Spares (owners : Finset ObjectKey) (owner named : ObjectKey) : Prop :=
  named = owner ∨ owner ∉ owners ∧ named ∉ owners

variable {scaledObjects : GoMap ObjectKey ScaledObject} {owners : Finset ObjectKey}

theorem Matches.insert (correct : Matches scaledObjects owners) (owner : ObjectKey)
    (scaledObject : ScaledObject) :
    Matches (scaledObjects.insert (scaledObjectKey owner) scaledObject)
      (Insert.insert owner owners) := by
  intro key
  rw [Finmap.mem_insert, correct key]
  simp only [Finset.mem_insert, exists_eq_or_imp]

theorem Matches.erase_iff (correct : Matches scaledObjects owners) (owner named : ObjectKey) :
    Matches (scaledObjects.erase (scaledObjectKey named)) (owners.erase owner) ↔
      Spares owners owner named := by
  have member : ∀ other, scaledObjectKey other ∈ scaledObjects.erase (scaledObjectKey named) ↔
      other ≠ named ∧ other ∈ owners := by
    intro other
    rw [Finmap.mem_erase, correct, scaledObjectKey_injective.ne_iff]
    constructor
    · rintro ⟨differs, found, present, same⟩
      exact ⟨differs, scaledObjectKey_injective same ▸ present⟩
    · rintro ⟨differs, present⟩
      exact ⟨differs, other, present, rfl⟩
  constructor
  · intro matched
    by_cases own : named = owner
    · exact .inl own
    · right
      constructor
      · intro present
        rcases (matched (scaledObjectKey owner)).mp
          ((member owner).mpr ⟨Ne.symm own, present⟩) with ⟨other, erased, same⟩
        rw [← scaledObjectKey_injective same] at erased
        simp at erased
      · intro present
        have kept := (matched (scaledObjectKey named)).mpr
          ⟨named, Finset.mem_erase.mpr ⟨own, present⟩, rfl⟩
        exact ((member named).mp kept).1 rfl
  · intro spares key
    have same : ∀ other ∈ owners, other ≠ named ↔ other ≠ owner := by
      intro other present
      rcases spares with rfl | ⟨ownerAbsent, namedAbsent⟩
      · exact Iff.rfl
      · constructor
        · rintro _ rfl
          exact ownerAbsent present
        · rintro _ rfl
          exact namedAbsent present
    constructor
    · intro present
      rw [Finmap.mem_erase, correct] at present
      rcases present with ⟨differs, other, found, rfl⟩
      rw [scaledObjectKey_injective.ne_iff, same other found] at differs
      exact ⟨other, Finset.mem_erase.mpr ⟨differs, found⟩, rfl⟩
    · rintro ⟨other, erased, rfl⟩
      rcases Finset.mem_erase.mp erased with ⟨differs, found⟩
      exact (member other).mpr ⟨(same other found).mpr differs, found⟩

end Names

section Runs

/-- The object whose name the deletion of a ScaledObject goes by. -/
def HTTPScaledObject.deploymentKey (httpso : HTTPScaledObject) : ObjectKey :=
  ⟨httpso.ns, httpso.spec.scaleTargetRef.deployment⟩

def underDeletion (faults : Faults) (cluster : Cluster) (key : ObjectKey) : Bool :=
  match cluster.getHTTPScaledObject faults key with
  | .ok httpso => !httpso.live
  | .error _ => false

/-- A Reconcile that fails in no removal. Creations may fail at any call. -/
def orderly (config : Config) (system : System) : Event → Bool
  | .change _ | .restart => true
  | .reconcile key faults cleanupFaults =>
      (faults .deleteScaledObject).isNone && (cleanupFaults .deleteScaledObject).isNone &&
        match (reconcile config faults cleanupFaults system.operator key).2.result with
        | .ok () => true
        | .error (.error _) => !underDeletion faults system.operator.cluster key
        | .error (.panic _) => false

def orderlyStep (config : Config) (system : System) (event : Event) : Option System :=
  if orderly config system event then step config system event else none

def System.Matched (system : System) : Prop :=
  Matches system.operator.cluster.scaledObjects system.reconciled

/-- The objects that have a ScaledObject when a failed creation is cleaned up. -/
def System.ownersAtCleanup (system : System) (faults : Faults) (httpso : HTTPScaledObject) :
    Finset ObjectKey :=
  if creationError faults system.operator.cluster httpso = none then
    insert httpso.key system.reconciled
  else system.reconciled

/-- A removal only happens for an object whose deployment has its name, or in no one's way. -/
def RemovesOwn (client : Client) (source : System) : Event → Prop
  | .change _ | .restart => True
  | .reconcile key faults _ =>
      match source.operator.cluster.getHTTPScaledObject faults key with
      | .error _ => True
      | .ok httpso =>
          if httpso.live then
            match admitted client faults source.operator httpso with
            | none => True
            | some sanitized =>
                creationFails faults source.operator.cluster sanitized = true →
                  Spares (source.ownersAtCleanup faults sanitized) key httpso.deploymentKey
          else Spares source.reconciled key httpso.deploymentKey

structure Tracked (system : System) : Prop where
  correct : system.Matched
  wellKeyed : system.operator.WellKeyed
  finalizers : ∀ key ∈ system.reconciled,
    ∃ finalizers, finalizers ≠ [] ∧ system.operator.finalizers key = some finalizers

/-- A clean-up looks for the ScaledObject of the same deployment as the object that was read. -/
theorem deploymentKey_afterSave {client : Client} {faults : Faults} {state : State}
    {httpso sanitized : HTTPScaledObject}
    (stored : state.cluster.httpScaledObjects.lookup httpso.key = some httpso)
    (live : httpso.live = true)
    (admits : admitted client faults state httpso = some sanitized) (fault : Option ApiError) :
    (sanitized.afterSave client fault
      (ensureFinalizer client faults state httpso).state.cluster).deploymentKey =
        httpso.deploymentKey := by
  have ns := congrArg ObjectKey.ns (sanitized_of_admitted admits).key
  have scaleTargetRef := scaleTargetRef_afterSave stored live admits fault
  simp only [HTTPScaledObject.deploymentKey, scaleTargetRef, ObjectKey.mk.injEq, and_true]
  exact ns

theorem remainingScaledObjects_of_none {faults : Faults}
    (deletes : faults .deleteScaledObject = none) (cluster : Cluster) (httpso : HTTPScaledObject) :
    remainingScaledObjects faults cluster httpso =
      cluster.scaledObjects.erase (scaledObjectKey httpso.deploymentKey) := by
  simp only [remainingScaledObjects]
  rw [deletes]
  rfl

/-- The ScaledObjects after a removal that is let through. -/
theorem TakesDown.scaledObjects_of_none {faults : Faults} {state after : State}
    {httpso : HTTPScaledObject} {result : Except Failure Unit}
    (takesDown : TakesDown faults state httpso after result)
    (deletes : faults .deleteScaledObject = none) :
    after.cluster.scaledObjects =
      state.cluster.scaledObjects.erase (scaledObjectKey httpso.deploymentKey) := by
  rw [takesDown.scaledObjects, remainingScaledObjects_of_none deletes]
  simp [deletionError, deletes]

namespace Tracked

variable {config : Config} {system next : System}

theorem initial : Tracked System.initial where
  correct := by
    intro key
    simp [System.initial, State.initial, Finmap.notMem_empty]
  wellKeyed := State.initial_wellKeyed
  finalizers := by simp [System.initial]

/-- What is known of a Reconcile in an orderly run. -/
theorem reconcile_inv {key : ObjectKey} {faults cleanupFaults : Faults}
    (stepped : orderlyStep config system (.reconcile key faults cleanupFaults) = some next) :
    ∃ after result, Reconciles config faults cleanupFaults system.operator key after result ∧
      next = ⟨after.survive result, system.recordAfter config.client faults key result⟩ ∧
      faults .deleteScaledObject = none ∧ cleanupFaults .deleteScaledObject = none ∧
      (∀ value, result ≠ .error (.panic value)) ∧
      (underDeletion faults system.operator.cluster key = true → result = .ok ()) := by
  simp only [orderlyStep] at stepped
  split at stepped
  · next allowed =>
      simp only [orderly, Bool.and_eq_true, Option.isNone_iff_eq_none] at allowed
      rcases allowed with ⟨⟨deletes, cleanupDeletes⟩, returns⟩
      refine ⟨_, _, reconcile_reconciles config faults cleanupFaults system.operator key,
        (Option.some.inj stepped).symm, deletes, cleanupDeletes, ?_, ?_⟩
      · intro value panics
        simp [panics] at returns
      · intro deleted
        cases result : (reconcile config faults cleanupFaults system.operator key).2.result with
        | ok => rfl
        | error failure =>
            rw [result] at returns
            cases failure with
            | error err => simp [deleted] at returns
            | panic value => simp at returns
  · simp at stepped

/-- When a clean-up begins, the ScaledObjects still match. -/
theorem matches_of_failsCreation (tracked : Tracked system) {faults : Faults} {state failed : State}
    {httpso : HTTPScaledObject} (same : SameResources system.operator state)
    (fails : FailsCreation config faults state httpso failed) :
    Matches failed.cluster.scaledObjects (system.ownersAtCleanup faults httpso) := by
  have correct := tracked.correct
  simp only [System.Matched] at correct
  rw [← same.scaledObjects] at correct
  simp only [System.ownersAtCleanup]
  rw [← same.creationError]
  cases fails with
  | unscaled refused unchanged =>
      rw [refused, if_neg (by simp), unchanged.scaledObjects]
      exact correct
  | unpublished scaledObject created _ routed =>
      rw [created, if_pos rfl, routed.scaledObjects]
      exact correct.insert httpso.key scaledObject

theorem erase_ownersAtCleanup {faults : Faults} {httpso : HTTPScaledObject} {key : ObjectKey}
    (own : httpso.key = key) :
    (system.ownersAtCleanup faults httpso).erase key = system.reconciled.erase key := by
  simp only [System.ownersAtCleanup]
  split
  · rw [own, Finset.erase_insert_eq_erase]
  · rfl

/-- A Reconcile keeps the match precisely if it removes nothing but what it should. -/
theorem matched_iff_of_reconcile (tracked : Tracked system) {key : ObjectKey}
    {faults cleanupFaults : Faults}
    (stepped : orderlyStep config system (.reconcile key faults cleanupFaults) = some next) :
    next.Matched ↔ RemovesOwn config.client system (.reconcile key faults cleanupFaults) := by
  rcases reconcile_inv stepped with
    ⟨after, result, reconciles, rfl, deletes, cleanupDeletes, returns, finishes⟩
  have correct := tracked.correct
  simp only [System.Matched] at correct ⊢
  simp only [State.cluster_survive]
  cases reconciles with
  | unread got _ =>
      simp only [System.recordAfter, RemovesOwn, got, iff_true]
      exact correct
  | retained got terminating takesDown =>
      have deleted : underDeletion faults system.operator.cluster key = true := by
        simp [underDeletion, got, terminating]
      simp at finishes
      simp [deleted] at finishes
  | @finalized httpso left removed got terminating takesDown _ =>
      have deleted : underDeletion faults system.operator.cluster key = true := by
        simp [underDeletion, got, terminating]
      rw [finishes deleted]
      simp only [System.recordAfter, RemovesOwn, got, terminating, Bool.false_eq_true, if_false]
      rw [(finalizeScaledObject_resources _ _ _).scaledObjects,
        takesDown.scaledObjects_of_none deletes]
      exact correct.erase_iff key httpso.deploymentKey
  | @refused httpso err got live unadmitted =>
      simp only [System.recordAfter, RemovesOwn, got, live, unadmitted, if_true, iff_true]
      rw [(ensureFinalizer_resources config.client faults system.operator httpso).scaledObjects]
      exact correct
  | @accepted httpso sanitized _ _ got live admits accepts =>
      have stored := lookup_of_get got
      have own := tracked.wellKeyed key httpso stored
      have sameKey := (sanitized_of_admitted admits).key
      have same := ensureFinalizer_resources config.client faults system.operator httpso
      simp only [System.recordAfter, RemovesOwn, got, live, admits, if_true]
      cases accepts with
      | created scaledObject created published routed =>
          have succeeds : creationFails faults system.operator.cluster sanitized = false := by
            rw [← same.creationFails]
            simp [creationFails, created, published]
          simp only [succeeds, Bool.false_eq_true, false_imp_iff, iff_true]
          rw [routed.scaledObjects, ← own, ← sameKey]
          have inserted := correct.insert sanitized.key scaledObject
          rw [← same.scaledObjects] at inserted
          exact inserted
      | panicked _ value _ _ _ => exact absurd rfl (returns value)
      | @cleanedUp _ _ cleanup _ err fails takesDown returned =>
          have fails' : creationFails faults system.operator.cluster sanitized = true := by
            rw [← same.creationFails]
            exact fails.creationFails
          rw [takesDown.scaledObjects_of_none cleanupDeletes]
          simp only [fails', forall_const]
          rw [← (tracked.matches_of_failsCreation same fails).erase_iff,
            ← deploymentKey_afterSave (own ▸ stored) live admits (faults .saveCreationStatus),
            erase_ownersAtCleanup (sameKey.trans own), returned]
          rcases exists_cleanupResult err cleanup with ⟨failure, failed⟩
          rw [failed]

theorem notMem_of_create (tracked : Tracked system) {httpso : HTTPScaledObject}
    (absent : system.operator.cluster.httpScaledObjects.lookup httpso.key = none) :
    httpso.key ∉ system.reconciled := by
  intro recorded
  rcases tracked.finalizers httpso.key recorded with ⟨finalizers, _, held⟩
  simp [State.finalizers, absent] at held

theorem recordChange_eq (tracked : Tracked system) {change : Change} {cluster : Cluster}
    (changes : system.operator.cluster.change change = some cluster) :
    system.recordChange change = system.reconciled := by
  rcases Cluster.exists_of_change changes with
    ⟨httpso, rfl, _, absent⟩ | ⟨_, _, ⟨key, spec, rfl⟩ | ⟨key, rfl⟩⟩
  · exact Finset.erase_eq_of_notMem (tracked.notMem_of_create absent)
  · rfl
  · rfl

theorem matched_iff (tracked : Tracked system) {event : Event}
    (stepped : orderlyStep config system event = some next) :
    next.Matched ↔ RemovesOwn config.client system event := by
  cases event with
  | change change =>
      rcases Option.map_eq_some_iff.mp (by simpa [orderlyStep, orderly, step] using stepped) with
        ⟨cluster, changes, rfl⟩
      simp only [System.Matched, RemovesOwn, iff_true]
      rw [(Cluster.resources_change changes).1, tracked.recordChange_eq changes]
      exact tracked.correct
  | restart =>
      simp only [orderlyStep, orderly, step, if_true, Option.some.injEq] at stepped
      subst stepped
      simp only [RemovesOwn, iff_true]
      exact tracked.correct
  | reconcile key faults cleanupFaults => exact tracked.matched_iff_of_reconcile stepped

/-- An object on record keeps a finalizer through a change. -/
theorem finalizers_of_change (tracked : Tracked system) {change : Change} {cluster : Cluster}
    (changes : system.operator.cluster.change change = some cluster) {key : ObjectKey}
    (recorded : key ∈ system.recordChange change) :
    ∃ finalizers, finalizers ≠ [] ∧
      ({ system.operator with cluster := cluster } : State).finalizers key = some finalizers := by
  rw [tracked.recordChange_eq changes] at recorded
  rcases tracked.finalizers key recorded with ⟨finalizers, nonempty, held⟩
  refine ⟨finalizers, nonempty, ?_⟩
  by_cases own : key = change.key
  · subst own
    simp only [State.finalizers, Cluster.lookup_change changes, if_true]
    rcases Cluster.exists_of_change changes with
      ⟨httpso, rfl, _, absent⟩ | ⟨stored, found, ⟨key, spec, rfl⟩ | ⟨key, rfl⟩⟩
    · exact absurd recorded (tracked.notMem_of_create absent)
    · simpa [State.finalizers, found, Change.outcome] using held
    · simp only [State.finalizers, found, Option.map_some, Option.some.injEq] at held
      simp [found, Change.outcome, HTTPScaledObject.delete, held, nonempty]
  · rw [(State.object_change changes own).2]
    exact held

theorem finalizers_of_reconcile (tracked : Tracked system) {key : ObjectKey}
    {faults cleanupFaults : Faults} {after : State} {result : Except Failure Unit}
    (reconciles : Reconciles config faults cleanupFaults system.operator key after result)
    (finishes : underDeletion faults system.operator.cluster key = true → result = .ok ())
    (recorded : key ∈ system.recordAfter config.client faults key result) :
    ∃ finalizers, finalizers ≠ [] ∧ after.finalizers key = some finalizers := by
  cases reconciles with
  | unread got _ =>
      simp only [System.recordAfter, got] at recorded
      exact tracked.finalizers key recorded
  | retained got terminating takesDown =>
      have deleted : underDeletion faults system.operator.cluster key = true := by
        simp [underDeletion, got, terminating]
      simp [deleted] at finishes
  | finalized got terminating takesDown _ =>
      have deleted : underDeletion faults system.operator.cluster key = true := by
        simp [underDeletion, got, terminating]
      rw [finishes deleted] at recorded
      simp [System.recordAfter, got, terminating] at recorded
  | @refused httpso err got live unadmitted =>
      simp only [System.recordAfter, got, live, unadmitted, if_true] at recorded
      have stored := lookup_of_get got
      have own := tracked.wellKeyed key httpso stored
      cases ensured : (ensureFinalizer config.client faults system.operator httpso).result with
      | error failure =>
          rw [(ensureFinalizer_error ensured).2]
          exact tracked.finalizers key recorded
      | ok =>
          rcases ensureFinalizer_of_live (own ▸ stored) live with ⟨_, _, kept⟩
          exact own ▸ kept ensured
  | @accepted httpso sanitized _ _ got live admits accepts =>
      have stored := lookup_of_get got
      have own := tracked.wellKeyed key httpso stored
      rcases ensureFinalizer_of_live (own ▸ stored) live with ⟨_, _, kept⟩
      rw [accepts.object.2.1]
      exact own ▸ kept (ensured_of_admitted admits)

theorem preserved (tracked : Tracked system) {event : Event}
    (removesOwn : RemovesOwn config.client system event)
    (stepped : orderlyStep config system event = some next) : Tracked next := by
  have correct := (tracked.matched_iff stepped).mpr removesOwn
  cases event with
  | change change =>
      rcases Option.map_eq_some_iff.mp (by simpa [orderlyStep, orderly, step] using stepped) with
        ⟨cluster, changes, rfl⟩
      exact ⟨correct, tracked.wellKeyed.change changes,
        fun key recorded => tracked.finalizers_of_change changes recorded⟩
  | restart =>
      simp only [orderlyStep, orderly, step, if_true, Option.some.injEq] at stepped
      subst stepped
      exact ⟨correct, tracked.wellKeyed, tracked.finalizers⟩
  | reconcile key faults cleanupFaults =>
      rcases reconcile_inv stepped with ⟨after, result, reconciles, rfl, _, _, returns, finishes⟩
      rcases reconciles.others tracked.wellKeyed with ⟨wellKeyed, others⟩
      rw [State.survive_of_returned after returns] at correct ⊢
      refine ⟨correct, wellKeyed, ?_⟩
      intro other recorded
      by_cases own : other = key
      · subst own
        exact tracked.finalizers_of_reconcile reconciles finishes recorded
      · rw [others other own]
        exact tracked.finalizers other ((System.mem_recordAfter_of_ne own _ _).mp recorded)

end Tracked

/--
In every run in which removals succeed: there is one ScaledObject for each reconciled object and
no other, if and only if every removal is of an object whose deployment has the object's name,
or one that neither leaves a ScaledObject behind nor takes one of another object.
-/
theorem matched_iff_removesOwn {config : Config} {history : List (Move System Event)}
    {system : System} (run : Run (StepOf (orderlyStep config)) System.initial history system) :
    (∀ move ∈ history, move.target.Matched) ↔
      ∀ move ∈ history, RemovesOwn config.client move.source move.event :=
  run.forall_iff (fun move => move.target.Matched) (RemovesOwn config.client) Tracked.initial
    (fun _ _ _ tracked removesOwn stepped => tracked.preserved removesOwn stepped)
    (fun _ _ _ tracked stepped => tracked.matched_iff stepped)

/-- An object that is named like its deployment is removed without harm. -/
theorem removesOwn_of_named {client : Client} {source : System} {key : ObjectKey}
    {faults cleanupFaults : Faults}
    (named : ∀ httpso ∈ source.operator.cluster.httpScaledObjects.lookup key,
      httpso.deploymentKey = key) :
    RemovesOwn client source (.reconcile key faults cleanupFaults) := by
  unfold RemovesOwn
  dsimp only
  split
  · trivial
  · next httpso got =>
      have own := named httpso (lookup_of_get got)
      split
      · split
        · trivial
        · exact fun _ => .inl own
      · exact .inl own

def refusedPatch : Faults
  | .patchConfigMap => some ⟨.other, "conflict"⟩
  | _ => none

/-- One object is created and deleted, and a failed creation of another is cleaned up. -/
theorem matched_iff_removesOwn_named : ∃ history system,
    Run (StepOf (orderlyStep sampleConfig)) System.initial history system ∧
      history.length = 6 ∧ ∀ move ∈ history, move.target.Matched := by
  rcases Run.exists_of_record (orderlyStep sampleConfig) System.initial
    [.change (.create (sampleObject "dp-a" "x" (sampleSpec "x" ["a"]))),
      .reconcile ⟨"dp-a", "x"⟩ noFaults noFaults,
      .change (.create (sampleObject "dp-a" "y" (sampleSpec "y" ["b"]))),
      .reconcile ⟨"dp-a", "y"⟩ refusedPatch noFaults,
      .change (.delete ⟨"dp-a", "x"⟩), .reconcile ⟨"dp-a", "x"⟩ noFaults noFaults]
    (fun made => made.1.length = 6 &&
      made.1.all fun move =>
        match move.event with
        | .reconcile key _ _ =>
            decide (∀ httpso ∈ move.source.operator.cluster.httpScaledObjects.lookup key,
              httpso.deploymentKey = key)
        | _ => true) (by decide)
    with ⟨history, system, run, passed⟩
  simp only [Bool.and_eq_true, List.all_eq_true, decide_eq_true_eq] at passed
  refine ⟨history, system, run, passed.1, (matched_iff_removesOwn run).mpr ?_⟩
  intro move member
  have named := passed.2 move member
  cases event : move.event with
  | change | restart => trivial
  | reconcile key faults cleanupFaults =>
      rw [event] at named
      exact removesOwn_of_named (of_decide_eq_true named)

/--
An object whose deployment has the name of a second object is deleted. Its own ScaledObject stays,
and the one of the second object is gone.
-/
theorem not_matched_of_deleted :
    ¬∀ (config : Config) (system : System),
      Reachable (StepOf (orderlyStep config)) System.initial system → system.Matched := by
  intro matched
  rcases Reachable.exists_of_record (orderlyStep sampleConfig) System.initial
    [.change (.create (sampleObject "dp-a" "x" (sampleSpec "y" ["a"]))),
      .reconcile ⟨"dp-a", "x"⟩ noFaults noFaults,
      .change (.create (sampleObject "dp-a" "y" (sampleSpec "app" ["b"]))),
      .reconcile ⟨"dp-a", "y"⟩ noFaults noFaults,
      .change (.delete ⟨"dp-a", "x"⟩), .reconcile ⟨"dp-a", "x"⟩ noFaults noFaults]
    (fun system =>
      decide (system.reconciled = {(⟨"dp-a", "y"⟩ : ObjectKey)}) &&
      decide ((⟨"dp-a", "x-app"⟩ : ObjectKey) ∈ system.operator.cluster.scaledObjects) &&
      decide ((⟨"dp-a", "y-app"⟩ : ObjectKey) ∉ system.operator.cluster.scaledObjects))
    (by decide) with ⟨system, reachable, passed⟩
  simp only [Bool.and_eq_true, decide_eq_true_eq] at passed
  rcases passed with ⟨⟨recorded, _⟩, missing⟩
  apply missing
  exact (matched sampleConfig system reachable ⟨"dp-a", "y-app"⟩).mpr
    ⟨⟨"dp-a", "y"⟩, by simp [recorded], by decide⟩

end Runs

end KedaHttp.Operator
