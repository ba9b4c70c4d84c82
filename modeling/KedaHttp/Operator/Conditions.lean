import KedaHttp.Operator.Entries

/-!
# What the conditions of an HTTPScaledObject tell

`AddCondition` from `operator/controllers/http/condition_provider.go` only appends, and the
functions of a Reconcile save what they have appended at several places, where each save may fail by
itself and is then only logged.

The conditions are a record, and it can be relied on in one way: whatever calls fail, an object has
as many `Ready` conditions as Reconciles of it have succeeded and saved that they did, and no move
takes a condition away (`count_ready_eq`). It also means that the list grows with every Reconcile.
The last condition is a worse guide. An object that is refused for its hosts gets no condition at
all, so that it goes on to end in `Ready` if it did before (`last_ready_iff`).
-/

namespace KedaHttp.Operator

open KedaHttp.Foundation
open KedaHttp.Routing

abbrev Conditions := List HTTPScaledObjectCondition

def State.conditions (state : State) (key : ObjectKey) : Option Conditions :=
  (state.cluster.httpScaledObjects.lookup key).map HTTPScaledObject.conditions

theorem State.conditions_of_lookup {state : State} {key : ObjectKey} {httpso : HTTPScaledObject}
    (stored : state.cluster.httpScaledObjects.lookup key = some httpso) :
    state.conditions key = some httpso.conditions :=
  congrArg (Option.map HTTPScaledObject.conditions) stored

/-- None of the conditions says that the object is ready. -/
def Silent (conditions : Conditions) : Prop :=
  ∀ condition ∈ conditions, condition.type ≠ .ready

def readyCondition : HTTPScaledObjectCondition :=
  ⟨.ready, .conditionTrue, .httpScaledObjectIsReady, "Finished object creation"⟩

def countReady (conditions : Conditions) : ℕ :=
  conditions.countP fun condition => condition.type = .ready

theorem Silent.append {left right : Conditions} (leftSilent : Silent left)
    (rightSilent : Silent right) : Silent (left ++ right) := by
  intro condition member
  rcases List.mem_append.mp member with inLeft | inRight
  · exact leftSilent condition inLeft
  · exact rightSilent condition inRight

theorem countReady_append (left right : Conditions) :
    countReady (left ++ right) = countReady left + countReady right :=
  List.countP_append

theorem Silent.countReady {conditions : Conditions} (silent : Silent conditions) :
    countReady conditions = 0 := by
  apply List.countP_eq_zero.mpr
  intro condition member
  simpa using silent condition member

section Functions

variable {client : Client} {faults : Faults} {state : State} {httpso : HTTPScaledObject}

/-- Only the object under a key may get other conditions. -/
def KeepsOthers (key : ObjectKey) (before after : State) : Prop :=
  ∀ other, other ≠ key → after.conditions other = before.conditions other

theorem conditions_congr {after : State}
    (same : after.cluster.httpScaledObjects = state.cluster.httpScaledObjects) :
    after.conditions = state.conditions := by
  funext key
  rw [State.conditions, State.conditions, same]

theorem keepsOthers_saveStatus (client : Client) (fault : Option ApiError) (state : State)
    (httpso : HTTPScaledObject) :
    KeepsOthers httpso.key state (saveStatus client fault state httpso).1 := by
  intro other differs
  simp only [saveStatus, Cluster.updateStatus, Cluster.attempt]
  cases fault with
  | some err => rfl
  | none =>
      cases found : state.cluster.httpScaledObjects.lookup httpso.key with
      | none => rfl
      | some stored => simp [State.conditions, differs]

theorem conditions_saveStatus (fault : Option ApiError) {conditions : Conditions}
    (stored : state.conditions httpso.key = some conditions) :
    (saveStatus client fault state httpso).1.conditions httpso.key =
      some (if fault.isNone then httpso.conditions else conditions) := by
  rcases Option.map_eq_some_iff.mp stored with ⟨object, found, same⟩
  simp only [saveStatus, Cluster.updateStatus, Cluster.attempt]
  cases fault with
  | some err => simpa using stored
  | none => simp [State.conditions, found]

/--
A function has appended conditions to the object it works on, and has saved them on its way out if
it could.
-/
structure Notes (fault : Option ApiError) (state : State) (httpso : HTTPScaledObject)
    (progress : Progress) (trail : Conditions) : Prop where
  key : progress.httpso.key = httpso.key
  conditions : progress.httpso.conditions = httpso.conditions ++ trail
  nonempty : trail ≠ []
  silent : Silent trail
  others : KeepsOthers httpso.key state progress.state
  stored : ∀ conditions, state.conditions httpso.key = some conditions →
    progress.state.conditions httpso.key =
      some (if fault.isNone then httpso.conditions ++ trail else conditions)

/-- The deferred `SaveStatus` of a function that has not touched the stored objects so far. -/
theorem Notes.of_saveStatus {progress : Progress} {trail : Conditions} (fault : Option ApiError)
    (object : progress.httpso = { httpso with conditions := httpso.conditions ++ trail })
    (nonempty : trail ≠ []) (silent : Silent trail)
    (same : progress.state.cluster.httpScaledObjects = state.cluster.httpScaledObjects) :
    Notes fault state httpso (progress.saveStatus client fault) trail := by
  have key : progress.httpso.key = httpso.key := by rw [object]; rfl
  have conditions := conditions_congr same
  refine ⟨?_, ?_, nonempty, silent, ?_, ?_⟩
  · rw [Progress.saveStatus, saveStatus_httpso]
    exact key
  · rw [Progress.saveStatus, saveStatus_httpso, object]
    rfl
  · intro other differs
    rw [← conditions]
    exact keepsOthers_saveStatus client fault progress.state progress.httpso other (key ▸ differs)
  · intro stored found
    rw [← conditions, ← key] at found
    have saved := @conditions_saveStatus client _ _ fault _ found
    rw [key, object] at saved
    rw [Progress.saveStatus, object]
    exact saved

/-- Two functions after each other append the one's conditions and then the other's. -/
theorem append_conditions (first second : Conditions) {after : HTTPScaledObject}
    (object : after = { httpso with conditions := httpso.conditions ++ first }) :
    { after with conditions := after.conditions ++ second } =
      { httpso with conditions := httpso.conditions ++ (first ++ second) } := by
  rw [object, ← List.append_assoc]

theorem notes_removeApplicationResources (client : Client) (faults : Faults) (state : State)
    (httpso : HTTPScaledObject) :
    ∃ trail, Notes (faults .saveRemovalStatus) state httpso
      (removeApplicationResources client faults state httpso) trail := by
  let terminating : HTTPScaledObjectCondition :=
    ⟨.terminating, .conditionUnknown, .terminatingResources, "Received termination signal"⟩
  simp only [removeApplicationResources, deleteAppScaledObject_eq]
  cases deletionError faults with
  | some err =>
      refine ⟨[terminating] ++
        [⟨.error, .conditionFalse, .appScaledObjectTerminationError, err.message⟩],
        .of_saveStatus _ (append_conditions [terminating] _ rfl) ?_ ?_ rfl⟩
      · simp
      · simp [Silent, terminating]
  | none =>
      refine ⟨[terminating] ++ [⟨.terminated, .conditionTrue, .appScaledObjectTerminated, ""⟩],
        .of_saveStatus _ (append_conditions [terminating] _ rfl) ?_ ?_ ?_⟩
      · simp
      · simp [Silent, terminating]
      · rcases exists_updateRoutingMap faults (withoutRoutes faults state httpso) with
          ⟨configMap, updated⟩
        exact congrArg (fun after => after.cluster.httpScaledObjects) updated

theorem httpScaledObjects_patchExisting {cluster patched : Cluster} {scaledObject : ScaledObject}
    (patches : patchExistingScaledObject faults cluster scaledObject = .ok patched) :
    patched.httpScaledObjects = cluster.httpScaledObjects := by
  cases refused : patchError faults cluster ⟨scaledObject.ns, scaledObject.name⟩ with
  | some err => simp [patchExistingScaledObject_of_error refused] at patches
  | none =>
      rcases patchExistingScaledObject_of_none scaledObject refused with ⟨_, _, accepted⟩
      rw [accepted, Except.ok.injEq] at patches
      rw [← patches]

theorem conditions_createOrUpdateScaledObject (faults : Faults) (state : State) (address : String)
    (httpso : HTTPScaledObject) :
    let created := createOrUpdateScaledObject faults state address httpso
    created.state.cluster.httpScaledObjects = state.cluster.httpScaledObjects ∧
      ∃ trail, Silent trail ∧
        created.httpso = { httpso with conditions := httpso.conditions ++ trail } := by
  let created : HTTPScaledObjectCondition :=
    ⟨.created, .conditionTrue, .appScaledObjectCreated, "App ScaledObject created"⟩
  simp only [createOrUpdateScaledObject]
  cases creates : state.cluster.createScaledObject faults (appScaledObject address httpso) with
  | ok cluster =>
      rcases createScaledObject_ok creates with ⟨_, _, rfl⟩
      exact ⟨rfl, [created], by simp [Silent, created], rfl⟩
  | error err =>
      simp only
      split
      · cases patches : patchExistingScaledObject faults state.cluster
            (appScaledObject address httpso) with
        | error refused => exact ⟨rfl, [], by simp [Silent], by simp⟩
        | ok cluster =>
            exact ⟨httpScaledObjects_patchExisting patches, [created],
              by simp [Silent, created], rfl⟩
      · exact ⟨rfl, [⟨.error, .conditionFalse, .errorCreatingAppScaledObject, err.message⟩],
          by simp [Silent], rfl⟩

theorem notes_createOrUpdateApplicationResources (config : Config) (faults : Faults)
    (state : State) (httpso : HTTPScaledObject) :
    ∃ trail, Notes (faults .saveCreationStatus) state httpso
      (createOrUpdateApplicationResources config faults state httpso) trail := by
  let pending : HTTPScaledObjectCondition :=
    ⟨.pending, .conditionUnknown, .pendingCreation, "Identified HTTPScaledObject creation signal"⟩
  rcases conditions_createOrUpdateScaledObject faults state
    (config.externalScaler.hostName config.currentNamespace) (addCondition httpso pending) with
    ⟨same, trail, silent, object⟩
  simp only [createOrUpdateApplicationResources]
  generalize createOrUpdateScaledObject faults state
    (config.externalScaler.hostName config.currentNamespace) (addCondition httpso pending) =
      created at same object ⊢
  have whole : created.httpso =
      { httpso with conditions := httpso.conditions ++ ([pending] ++ trail) } :=
    object.trans (append_conditions [pending] trail rfl)
  have pendingSilent : Silent [pending] := by simp [Silent, pending]
  refine ⟨[pending] ++ trail, .of_saveStatus _ ?_ (by simp) (pendingSilent.append silent) ?_⟩
  · simp only [addRoutes]
    split
    · exact whole
    · exact whole
  · simp only [addRoutes]
    split
    · exact same
    · rcases exists_updateRoutingMap faults { created.state with
        routingTable := created.state.routingTable.addTargets created.httpso.hosts
          (targetOf config created.httpso) } with ⟨configMap, updated⟩
      exact (congrArg (fun after => after.cluster.httpScaledObjects) updated).trans same

/-- An update of finalizers keeps the conditions, unless it removes an object under deletion. -/
theorem conditions_updateHTTPScaledObject {updated : Cluster}
    (update : state.cluster.updateHTTPScaledObject faults httpso = .ok updated) :
    KeepsOthers httpso.key state { state with cluster := updated } ∧
      ∃ stored, state.cluster.httpScaledObjects.lookup httpso.key = some stored ∧
        (({ state with cluster := updated } : State).conditions httpso.key =
            state.conditions httpso.key ∨
          stored.live = false ∧
            ({ state with cluster := updated } : State).conditions httpso.key = none) := by
  rcases Cluster.exists_of_update update with ⟨stored, found, rfl⟩
  cases stores : Cluster.storeUpdate stored httpso with
  | some next =>
      refine ⟨fun other differs => by simp [State.conditions, differs], stored, found, .inl ?_⟩
      simp only [Cluster.storeUpdate] at stores
      split at stores
      · simp at stores
      · simp [State.conditions, found, ← Option.some.inj stores]
  | none =>
      refine ⟨fun other differs => by simp [State.conditions, differs], stored, found, .inr ?_⟩
      simp only [Cluster.storeUpdate] at stores
      split at stores
      · next marked => exact ⟨by simp [HTTPScaledObject.live, marked.1], by simp [State.conditions]⟩
      · simp at stores

theorem conditions_ensureFinalizer (client : Client) (faults : Faults) (live : httpso.live = true)
    (stored : state.cluster.httpScaledObjects.lookup httpso.key = some httpso) :
    (ensureFinalizer client faults state httpso).state.conditions = state.conditions := by
  unfold ensureFinalizer
  split
  · rfl
  · dsimp only
    split
    · next updated update =>
        rcases conditions_updateHTTPScaledObject update with ⟨others, there, found, own⟩
        have same : there = httpso := Option.some.inj (found.symm.trans stored)
        funext key
        by_cases own_key : key = httpso.key
        · subst own_key
          rcases own with kept | ⟨marked, _⟩
          · exact kept
          · simp [same, live] at marked
        · exact others key own_key
    · rfl

theorem conditions_finalizeScaledObject (faults : Faults) (state : State)
    (httpso : HTTPScaledObject) :
    let finalized := (finalizeScaledObject faults state httpso).1
    KeepsOthers httpso.key state finalized ∧
      (finalized.conditions httpso.key = state.conditions httpso.key ∨
        finalized.conditions httpso.key = none) := by
  simp only [finalizeScaledObject]
  split
  · split
    · exact ⟨fun _ _ => rfl, .inl rfl⟩
    · split
      · next updated update =>
          rcases conditions_updateHTTPScaledObject update with ⟨others, _, _, kept | ⟨_, gone⟩⟩
          · exact ⟨others, .inl kept⟩
          · exact ⟨others, .inr gone⟩
      · exact ⟨fun _ _ => rfl, .inl rfl⟩
  · exact ⟨fun _ _ => rfl, .inl rfl⟩

end Functions

section Reconciling

/-- All of the saves of a Reconcile succeed. -/
structure SavesStatus (faults cleanupFaults : Faults) : Prop where
  creation : faults .saveCreationStatus = none
  ready : faults .saveReadyStatus = none
  cleanup : cleanupFaults .saveRemovalStatus = none

/--
What the Reconcile of an accepted object leaves of its conditions. `reports` tells whether it has
succeeded and saved that it did.
-/
structure Reported (faults cleanupFaults : Faults) (before : Conditions) (reports : Bool)
    (after : Option Conditions) : Prop where
  grown : ∃ trail, after = some (before ++ trail) ∧
    (if reports then ∃ rest, Silent rest ∧ trail = rest ++ [readyCondition] else Silent trail)
  nonempty : SavesStatus faults cleanupFaults → after ≠ some before

/-- The result says that a Reconcile has succeeded. -/
def succeeded : Except Failure Unit → Bool
  | .ok () => true
  | .error _ => false

variable {config : Config} {faults cleanupFaults : Faults} {state : State}
  {httpso : HTTPScaledObject}

/-- The stored conditions after a function, relative to some that it started with. -/
theorem Notes.grown {fault : Option ApiError} {progress : Progress}
    {trail before shown own : Conditions} (notes : Notes fault state httpso progress trail)
    (shownSilent : Silent shown) (ownSilent : Silent own)
    (stored : state.conditions httpso.key = some (before ++ shown))
    (object : httpso.conditions = before ++ own) :
    ∃ next, Silent next ∧ progress.state.conditions httpso.key = some (before ++ next) ∧
      (fault = none → next ≠ []) := by
  have after := notes.stored _ stored
  cases fault with
  | none =>
      refine ⟨own ++ trail, ownSilent.append notes.silent, ?_, ?_⟩
      · simpa [object] using after
      · simp [notes.nonempty]
  | some err => exact ⟨shown, shownSilent, by simpa using after, by simp⟩

/-- The stored conditions after a function that started with the stored ones. -/
theorem Notes.grown_own {fault : Option ApiError} {progress : Progress} {trail : Conditions}
    (notes : Notes fault state httpso progress trail)
    (stored : state.conditions httpso.key = some httpso.conditions) :
    ∃ next, Silent next ∧
      progress.state.conditions httpso.key = some (httpso.conditions ++ next) ∧
      (fault = none → next ≠ []) := by
  have silentNil : Silent [] := by simp [Silent]
  exact notes.grown silentNil silentNil (by simpa using stored) (List.append_nil _).symm

theorem Reported.of_silent {before next : Conditions} {after : Option Conditions}
    (silent : Silent next) (stored : after = some (before ++ next))
    (nonempty : SavesStatus faults cleanupFaults → next ≠ []) :
    Reported faults cleanupFaults before false after where
  grown := ⟨next, stored, by simpa using silent⟩
  nonempty := by
    intro saves same
    rw [stored, Option.some.injEq] at same
    exact nonempty saves (by simpa using same)

/-- The clean-up after a failed creation adds to what the creation has left. -/
theorem reported_cleanup (client : Client) {created : Progress} {trail : Conditions}
    (notes : Notes (faults .saveCreationStatus) state httpso created trail)
    (stored : state.conditions httpso.key = some httpso.conditions) :
    let removed := removeApplicationResources client cleanupFaults created.state created.httpso
    KeepsOthers httpso.key state removed.state ∧
      Reported faults cleanupFaults httpso.conditions false
        (removed.state.conditions httpso.key) := by
  rcases notes.grown_own stored with ⟨shown, shownSilent, afterCreation, _⟩
  rcases notes_removeApplicationResources client cleanupFaults created.state created.httpso with
    ⟨trailRemoval, notesRemoval⟩
  rw [← notes.key] at afterCreation
  rcases notesRemoval.grown shownSilent notes.silent afterCreation notes.conditions with
    ⟨next, silent, afterRemoval, nonempty⟩
  rw [notes.key] at afterRemoval
  refine ⟨?_, .of_silent silent afterRemoval fun saves => nonempty saves.cleanup⟩
  intro other differs
  rw [notesRemoval.others other (notes.key ▸ differs), notes.others other differs]

theorem conditions_reconcileAccepted
    (stored : state.conditions httpso.key = some httpso.conditions) :
    let reconciled := reconcileAccepted config faults cleanupFaults state httpso
    KeepsOthers httpso.key state reconciled.1 ∧
      Reported faults cleanupFaults httpso.conditions
        (succeeded reconciled.2.result && (faults .saveReadyStatus).isNone)
        (reconciled.1.conditions httpso.key) := by
  rcases notes_createOrUpdateApplicationResources config faults state httpso with ⟨trail, notes⟩
  rcases notes.grown_own stored with ⟨shown, shownSilent, afterCreation, nonempty⟩
  simp only [reconcileAccepted]
  generalize createOrUpdateApplicationResources config faults state httpso = created
    at notes afterCreation ⊢
  cases result : created.result with
  | error failure =>
      cases failure with
      | panic value =>
          simp only [succeeded, Bool.false_and]
          exact ⟨notes.others, .of_silent shownSilent afterCreation fun saves =>
            nonempty saves.creation⟩
      | error err =>
          have cleanup := @reported_cleanup faults cleanupFaults state httpso config.client created
            trail notes stored
          have failed : ∀ result, succeeded (cleanupResult err result) = false := by
            intro result
            rcases exists_cleanupResult err result with ⟨failure, same⟩
            rw [same]
            rfl
          simp only [failed, Bool.false_and]
          exact cleanup
  | ok done =>
      have key : (addCondition created.httpso readyCondition).key = httpso.key := notes.key
      have others := keepsOthers_saveStatus config.client (faults .saveReadyStatus) created.state
        (addCondition created.httpso readyCondition)
      have saved := @conditions_saveStatus config.client created.state
        (addCondition created.httpso readyCondition) (faults .saveReadyStatus) _
        (key ▸ afterCreation)
      rw [key] at others saved
      simp only [succeeded, Bool.true_and]
      refine ⟨fun other differs => (others other differs).trans (notes.others other differs), ?_⟩
      cases fault : faults .saveReadyStatus with
      | some err =>
          simp only [fault, Option.isNone_some] at saved ⊢
          exact .of_silent shownSilent saved fun saves => nonempty saves.creation
      | none =>
          simp only [fault, Option.isNone_none, if_true] at saved ⊢
          have whole : (addCondition created.httpso readyCondition).conditions =
              httpso.conditions ++ (trail ++ [readyCondition]) := by
            rw [addCondition, notes.conditions, List.append_assoc]
          rw [whole] at saved
          refine ⟨⟨_, saved, trail, notes.silent, rfl⟩, ?_⟩
          intro _ same
          have unchanged := Option.some.inj (saved.symm.trans same)
          simp at unchanged

theorem sanitizeHosts_same {sanitized : HTTPScaledObject}
    (sanitizes : sanitizeHosts httpso = .ok sanitized) :
    sanitized.key = httpso.key ∧ sanitized.conditions = httpso.conditions := by
  simp only [sanitizeHosts] at sanitizes
  split at sanitizes
  · simp at sanitizes
  · simp at sanitizes
  · rw [← Except.ok.inj sanitizes]
    exact ⟨rfl, rfl⟩
  · rw [← Except.ok.inj sanitizes]
    exact ⟨rfl, rfl⟩

/-- What a Reconcile does to the conditions of the object it is for. -/
inductive Reports (config : Config) (faults cleanupFaults : Faults) (state : State)
    (httpso : HTTPScaledObject) : Option Conditions → Except Failure Unit → Prop where
  | deleted {after : Option Conditions} {result : Except Failure Unit} {trail : Conditions}
      (terminating : httpso.live = false) (silent : Silent trail)
      (kept : after = none ∨ after = some (httpso.conditions ++ trail)) :
      Reports config faults cleanupFaults state httpso after result
  | refused {failure : Failure} (live : httpso.live = true)
      (unadmitted : admitted config.client faults state httpso = none) :
      Reports config faults cleanupFaults state httpso (some httpso.conditions) (.error failure)
  | accepted {after : Option Conditions} {result : Except Failure Unit}
      (live : httpso.live = true) (admits : admitted config.client faults state httpso ≠ none)
      (reported : Reported faults cleanupFaults httpso.conditions
        (succeeded result && (faults .saveReadyStatus).isNone) after) :
      Reports config faults cleanupFaults state httpso after result

theorem conditions_reconcileDeleted
    (stored : state.cluster.httpScaledObjects.lookup httpso.key = some httpso)
    (terminating : httpso.live = false) :
    let reconciled := reconcileDeleted config.client faults state httpso
    KeepsOthers httpso.key state reconciled.1 ∧
      Reports config faults cleanupFaults state httpso (reconciled.1.conditions httpso.key)
        reconciled.2.result := by
  rcases notes_removeApplicationResources config.client faults state httpso with ⟨trail, notes⟩
  rcases notes.grown_own (State.conditions_of_lookup stored) with ⟨shown, silent, after, _⟩
  simp only [reconcileDeleted]
  generalize removeApplicationResources config.client faults state httpso = removed at notes after ⊢
  cases removed.result with
  | error failure => exact ⟨notes.others, .deleted terminating silent (.inr after)⟩
  | ok done =>
      rcases conditions_finalizeScaledObject faults removed.state removed.httpso with ⟨others, own⟩
      rw [notes.key] at others own
      refine ⟨fun other differs => (others other differs).trans (notes.others other differs), ?_⟩
      rcases own with kept | gone
      · exact .deleted terminating silent (.inr (kept.trans after))
      · exact .deleted terminating silent (.inl gone)

theorem conditions_reconcile {key : ObjectKey} (wellKeyed : state.WellKeyed)
    (got : state.cluster.getHTTPScaledObject faults key = .ok httpso) :
    let reconciled := reconcile config faults cleanupFaults state key
    KeepsOthers key state reconciled.1 ∧
      Reports config faults cleanupFaults state httpso (reconciled.1.conditions key)
        reconciled.2.result := by
  have stored := lookup_of_get got
  have own := wellKeyed key httpso stored
  subst own
  have conditions := State.conditions_of_lookup stored
  simp only [reconcile, got]
  split
  · next marked =>
      exact conditions_reconcileDeleted stored (by simp [HTTPScaledObject.live, marked])
  · next unmarked =>
      have live : httpso.live = true := by simpa [HTTPScaledObject.live] using unmarked
      have same := conditions_ensureFinalizer config.client faults live stored
      have others : KeepsOthers httpso.key state
          (ensureFinalizer config.client faults state httpso).state :=
        fun other _ => congrFun same other
      have kept : (ensureFinalizer config.client faults state httpso).state.conditions httpso.key =
          some httpso.conditions := by
        rw [same, conditions]
      cases ensured : (ensureFinalizer config.client faults state httpso).result with
      | error failure =>
          refine ⟨others, ?_⟩
          rw [kept]
          exact .refused live (by simp [admitted, ensured])
      | ok done =>
          rcases ensureFinalizer_httpso ensured with ⟨finalizers, object⟩
          cases sanitizes :
              sanitizeHosts (ensureFinalizer config.client faults state httpso).httpso with
          | error err =>
              refine ⟨others, ?_⟩
              rw [kept]
              exact .refused live (by simp [admitted, ensured, sanitizes, Except.toOption])
          | ok sanitized =>
              rcases sanitizeHosts_same sanitizes with ⟨key, sameConditions⟩
              rw [object] at key sameConditions
              have sameKey : sanitized.key = httpso.key := key
              have accepted := @conditions_reconcileAccepted config faults cleanupFaults
                (ensureFinalizer config.client faults state httpso).state sanitized
                (by rw [sameKey, kept, sameConditions])
              rw [sameKey, sameConditions] at accepted
              refine ⟨fun other differs => (accepted.1 other differs).trans (others other differs),
                .accepted live ?_ accepted.2⟩
              simp [admitted, ensured, sanitizes, Except.toOption]

/-- A Reconcile that does not get an object changes nothing. -/
theorem reconcile_of_error {key : ObjectKey} {err : ApiError}
    (got : state.cluster.getHTTPScaledObject faults key = .error err) :
    (reconcile config faults cleanupFaults state key).1 = state := by
  simp only [reconcile, got]
  split <;> rfl

end Reconciling

/-- The last condition says that the object is ready. -/
def EndsReady (conditions : Conditions) : Prop :=
  ∃ condition, conditions.getLast? = some condition ∧ condition.type = .ready

theorem not_endsReady_append {before trail : Conditions} (silent : Silent trail)
    (nonempty : trail ≠ []) : ¬EndsReady (before ++ trail) := by
  rintro ⟨condition, last, ready⟩
  rw [List.getLast?_append_of_ne_nil before nonempty] at last
  exact silent condition (List.mem_of_getLast? last) ready

/--
After the Reconcile of a live object whose status could be saved, the last condition is `Ready`
exactly if the Reconcile succeeded, or if the object was refused before anything was made for it and
its last condition had been `Ready` already.
-/
theorem last_ready_iff {config : Config} {faults cleanupFaults : Faults} {state : State}
    {key : ObjectKey} {httpso : HTTPScaledObject} {after : Conditions}
    (wellKeyed : state.WellKeyed)
    (got : state.cluster.getHTTPScaledObject faults key = .ok httpso)
    (live : httpso.live = true) (saves : SavesStatus faults cleanupFaults)
    (stored : (reconcile config faults cleanupFaults state key).1.conditions key = some after) :
    EndsReady after ↔ (reconcile config faults cleanupFaults state key).2.result = .ok () ∨
      admitted config.client faults state httpso = none ∧ EndsReady httpso.conditions := by
  have reports := (@conditions_reconcile config faults cleanupFaults state httpso key wellKeyed
    got).2
  rw [stored] at reports
  generalize (reconcile config faults cleanupFaults state key).2.result = result at reports ⊢
  cases reports with
  | deleted terminating => simp [live] at terminating
  | refused _ unadmitted => simp [unadmitted]
  | accepted _ admits reported =>
      have changed := reported.nonempty saves
      rcases reported.grown with ⟨trail, same, ends⟩
      have whole := Option.some.inj same
      subst whole
      simp only [saves.ready, Option.isNone_none, Bool.and_true] at ends
      cases result with
      | ok done =>
          simp only [succeeded, if_true] at ends
          rcases ends with ⟨rest, _, rfl⟩
          refine iff_of_true ⟨readyCondition, ?_, rfl⟩ (.inl rfl)
          rw [← List.append_assoc, List.getLast?_concat]
      | error failure =>
          have nonempty : trail ≠ [] := by
            rintro rfl
            simp at changed
          exact iff_of_false (not_endsReady_append (by simpa [succeeded] using ends) nonempty)
            (by simp [admits])

/-- A user has given both `host` and `hosts` to an object that was ready. -/
def contradictoryObject : HTTPScaledObject :=
  { sampleObject "dp-a" "web" { sampleSpec "web" ["web/dp-a"] with host := some "web/dp-a" } with
    finalizers := [httpScaledObjectFinalizer], conditions := [readyCondition] }

def contradictoryState : State where
  cluster := ⟨(∅ : GoMap ObjectKey HTTPScaledObject).insert ⟨"dp-a", "web"⟩ contradictoryObject, ∅,
    some shippedConfigMap⟩
  routingTable := newTable

theorem contradictoryState_wellKeyed : contradictoryState.WellKeyed := by
  intro key httpso found
  simp only [contradictoryState, GoMap.lookup_insert_ite] at found
  split at found
  · next same =>
      rw [← Option.some.inj found, same]
      rfl
  · simp at found

/-- The Reconcile fails, and the object goes on to end in `Ready`. -/
theorem last_ready_iff_refused : ∃ after,
    (reconcile sampleConfig noFaults noFaults contradictoryState ⟨"dp-a", "web"⟩).2.result ≠
        .ok () ∧
      (reconcile sampleConfig noFaults noFaults contradictoryState ⟨"dp-a", "web"⟩).1.conditions
        ⟨"dp-a", "web"⟩ = some after ∧ EndsReady after := by
  have got : contradictoryState.cluster.getHTTPScaledObject noFaults ⟨"dp-a", "web"⟩ =
      .ok contradictoryObject := rfl
  have stored : (reconcile sampleConfig noFaults noFaults contradictoryState
      ⟨"dp-a", "web"⟩).1.conditions ⟨"dp-a", "web"⟩ = some [readyCondition] := by decide +kernel
  refine ⟨[readyCondition], by decide +kernel, stored, ?_⟩
  refine (last_ready_iff contradictoryState_wellKeyed got rfl ⟨rfl, rfl, rfl⟩ stored).mpr ?_
  exact .inr ⟨by decide +kernel, readyCondition, rfl, rfl⟩

section Runs

variable (config : Config) (key : ObjectKey)

/-- The move is a Reconcile of the object that has succeeded and saved that it did. -/
def reportsReady (move : Move System Event) : Bool :=
  match move.event with
  | .reconcile own faults cleanupFaults =>
      decide (own = key) &&
        (match move.source.operator.cluster.getHTTPScaledObject faults own with
          | .ok httpso => httpso.live
          | .error _ => false) &&
        (succeeded (reconcile config faults cleanupFaults move.source.operator own).2.result &&
          (faults .saveReadyStatus).isNone)
  | .change _ | .restart => false

def createsObject (move : Move System Event) : Bool :=
  match move.event with
  | .change (.create httpso) => httpso.key = key
  | _ => false

/-- The reports in a history since the object was created last. -/
def readyReports : List (Move System Event) → ℕ
  | [] => 0
  | move :: earlier =>
      if createsObject key move then 0
      else readyReports earlier + (reportsReady config key move).toNat

variable {config key}

/-- Changes by users leave conditions as they are, or remove them with their object. -/
theorem conditions_change {state : State} {change : Change} {cluster : Cluster}
    (changes : state.cluster.change change = some cluster)
    (notCreated : ∀ httpso, change = .create httpso → httpso.key ≠ key)
    {conditions : Conditions}
    (stored : ({ state with cluster := cluster } : State).conditions key = some conditions) :
    state.conditions key = some conditions := by
  simp only [State.conditions, Cluster.lookup_change changes] at stored ⊢
  split at stored
  · next own =>
      cases change with
      | create httpso => exact absurd own.symm (notCreated httpso rfl)
      | update changed spec =>
          rw [own]
          simpa [Change.outcome, Function.comp_def] using stored
      | delete changed =>
          rw [own]
          rcases Option.map_eq_some_iff.mp stored with ⟨marked, found, rfl⟩
          rcases Option.bind_eq_some_iff.mp found with ⟨before, wasFound, deletes⟩
          simp only [HTTPScaledObject.delete] at deletes
          split at deletes
          · simp at deletes
          · rw [wasFound, Option.map_some, ← Option.some.inj deletes]
  · exact stored

theorem conditions_of_created {source target : System} {event : Event}
    (stepped : step config source event = some target)
    (created : createsObject key ⟨source, event, target⟩ = true) :
    target.operator.conditions key = some [] := by
  cases event with
  | restart | reconcile => simp [createsObject] at created
  | change change =>
      cases change with
      | update | delete => simp [createsObject] at created
      | create httpso =>
          have own : httpso.key = key := by simpa [createsObject] using created
          rcases Option.map_eq_some_iff.mp stepped with ⟨cluster, changes, rfl⟩
          simp [State.conditions, Cluster.lookup_change changes, Change.key, Change.outcome, own]

/-- The move is a Reconcile of the object. -/
def reconcilesObject (key : ObjectKey) (move : Move System Event) : Bool :=
  match move.event with
  | .reconcile own _ _ => own = key
  | .change _ | .restart => false

/--
A move leaves the conditions of an object as they are, apart from those that a Reconcile of the
object adds at their end.
-/
structure Appends (config : Config) (key : ObjectKey) (move : Move System Event)
    (before after : Conditions) : Prop where
  grown : ∃ trail, after = before ++ trail ∧
    countReady trail = (reportsReady config key move).toNat
  foreign : reconcilesObject key move = false → after = before

theorem Appends.same {move : Move System Event} {conditions : Conditions}
    (unreported : reportsReady config key move = false) :
    Appends config key move conditions conditions where
  grown := ⟨[], (List.append_nil _).symm, by simp [unreported, countReady]⟩
  foreign := fun _ => rfl

theorem Reports.appends {source target : System} {faults cleanupFaults : Faults}
    {httpso : HTTPScaledObject} {after : Conditions}
    (got : source.operator.cluster.getHTTPScaledObject faults key = .ok httpso)
    (reports : Reports config faults cleanupFaults source.operator httpso (some after)
      (reconcile config faults cleanupFaults source.operator key).2.result) :
    Appends config key ⟨source, .reconcile key faults cleanupFaults, target⟩
      httpso.conditions after := by
  refine ⟨?_, by simp [reconcilesObject]⟩
  simp only [reportsReady, decide_true, got, Bool.true_and]
  generalize (reconcile config faults cleanupFaults source.operator key).2.result = result
    at reports ⊢
  cases reports with
  | @deleted _ _ trail terminating silent kept =>
      rcases kept with gone | kept
      · simp at gone
      · exact ⟨trail, Option.some.inj kept, by simp [silent.countReady, terminating]⟩
  | refused live unadmitted => exact ⟨[], by simp, by simp [succeeded, countReady]⟩
  | accepted live admits reported =>
      rcases reported.grown with ⟨trail, whole, ends⟩
      refine ⟨trail, Option.some.inj whole, ?_⟩
      rw [live, Bool.true_and]
      split at ends
      · next reports =>
          rcases ends with ⟨rest, silent, rfl⟩
          rw [countReady_append, silent.countReady, reports]
          rfl
      · next silentReport => simp [Silent.countReady ends, silentReport]

theorem appends_reconcile {source target : System} {own : ObjectKey}
    {faults cleanupFaults : Faults} (wellKeyed : source.operator.WellKeyed) {after : Conditions}
    (stored : (reconcile config faults cleanupFaults source.operator own).1.conditions key =
      some after) :
    ∃ before, source.operator.conditions key = some before ∧
      Appends config key ⟨source, .reconcile own faults cleanupFaults, target⟩ before after := by
  cases got : source.operator.cluster.getHTTPScaledObject faults own with
  | error err =>
      rw [reconcile_of_error got] at stored
      exact ⟨after, stored, .same (by simp [reportsReady, got])⟩
  | ok httpso =>
      rcases @conditions_reconcile config faults cleanupFaults source.operator httpso own wellKeyed
        got with ⟨others, reports⟩
      by_cases same : own = key
      · subst same
        rw [stored] at reports
        exact ⟨httpso.conditions, State.conditions_of_lookup (lookup_of_get got),
          reports.appends got⟩
      · rw [others key (Ne.symm same)] at stored
        exact ⟨after, stored, .same (by simp [reportsReady, same])⟩

/-- What one move does to the conditions of an object that was there before it. -/
theorem appends_of_step {source target : System} {event : Event}
    (wellKeyed : source.operator.WellKeyed) (stepped : step config source event = some target)
    (old : createsObject key ⟨source, event, target⟩ = false) {after : Conditions}
    (stored : target.operator.conditions key = some after) :
    ∃ before, source.operator.conditions key = some before ∧
      Appends config key ⟨source, event, target⟩ before after := by
  cases event with
  | change change =>
      rcases Option.map_eq_some_iff.mp stepped with ⟨cluster, changes, rfl⟩
      refine ⟨after, conditions_change changes ?_ stored, .same rfl⟩
      rintro httpso rfl
      simpa [createsObject] using old
  | restart =>
      rw [← Option.some.inj stepped] at stored
      exact ⟨after, stored, .same rfl⟩
  | reconcile own faults cleanupFaults =>
      rw [← Option.some.inj stepped, State.conditions, State.cluster_survive] at stored
      exact appends_reconcile wellKeyed stored

theorem countReady_of_run {history : List (Move System Event)} {system : System}
    {conditions : Conditions} (run : Run (StepOf (step config)) System.initial history system)
    (stored : system.operator.conditions key = some conditions) :
    countReady conditions = readyReports config key history := by
  induction run generalizing conditions with
  | start => simp [System.initial, State.initial, State.conditions] at stored
  | @move history source target event earlier stepped ih =>
      have wellKeyed : source.operator.WellKeyed := State.WellKeyed.of_reachable ⟨_, earlier⟩
      simp only [readyReports]
      cases created : createsObject key ⟨source, event, target⟩ with
      | true =>
          rw [conditions_of_created stepped created, Option.some.injEq] at stored
          simp [← stored, countReady]
      | false =>
          rcases appends_of_step wellKeyed stepped created stored with ⟨before, found, appends⟩
          rcases appends.grown with ⟨trail, rfl, count⟩
          rw [countReady_append, ih found, count]
          simp

end Runs

/--
Whatever calls fail and however often the operator restarts: an HTTPScaledObject has as many `Ready`
conditions as Reconciles of it have succeeded and saved that they did, since it was created. No
move takes away a condition or changes the order, and none but a Reconcile of the object itself
adds any.
-/
theorem count_ready_eq {config : Config} {key : ObjectKey} {history : List (Move System Event)}
    {system : System} {conditions : Conditions}
    (run : Run (StepOf (step config)) System.initial history system)
    (stored : system.operator.conditions key = some conditions) :
    countReady conditions = readyReports config key history ∧
      ∀ move ∈ history, ∀ after, createsObject key move = false →
        move.target.operator.conditions key = some after →
        ∃ before, move.source.operator.conditions key = some before ∧
          Appends config key move before after := by
  refine ⟨countReady_of_run run stored, ?_⟩
  intro move member after old found
  rcases run.mem_history member with ⟨reachable, stepped⟩
  exact appends_of_step (State.WellKeyed.of_reachable reachable) stepped old found

/-- Three Reconciles succeed, and the second of them cannot save that it did. -/
theorem count_ready_eq_unsaved : ∃ history system conditions,
    Run (StepOf (step sampleConfig)) System.initial history system ∧
      system.operator.conditions ⟨"dp-a", "web"⟩ = some conditions ∧
      readyReports sampleConfig ⟨"dp-a", "web"⟩ history = 2 ∧
      countReady conditions = readyReports sampleConfig ⟨"dp-a", "web"⟩ history := by
  rcases Run.exists_of_record (step sampleConfig) System.initial
    [.change (.create (sampleObject "dp-a" "web" (sampleSpec "web" ["web/dp-a"]))),
      .reconcile ⟨"dp-a", "web"⟩ noFaults noFaults,
      .change (.update ⟨"dp-a", "web"⟩ (sampleSpec "web" ["api/dp-a"])),
      .reconcile ⟨"dp-a", "web"⟩
        (fun call => if call = .saveReadyStatus then some ⟨.other, "conflict"⟩ else none) noFaults,
      .restart,
      .reconcile ⟨"dp-a", "web"⟩ noFaults noFaults]
    (fun reached => (reached.2.operator.conditions ⟨"dp-a", "web"⟩).isSome &&
      decide (readyReports sampleConfig ⟨"dp-a", "web"⟩ reached.1 = 2)) (by decide +kernel)
    with ⟨history, system, run, passed⟩
  simp only [Bool.and_eq_true, decide_eq_true_eq] at passed
  rcases Option.isSome_iff_exists.mp passed.1 with ⟨conditions, stored⟩
  exact ⟨history, system, conditions, run, stored, passed.2, (count_ready_eq run stored).1⟩

end KedaHttp.Operator
