import KedaHttp.Operator.Effects

/-!
# What a Reconcile comes to

The object that is read may be gone, under deletion, refused or accepted. `Reconciles` has one case
for each way through `reconcile`, with the lemmas about the functions on that way put together, and
what is proved about a whole Reconcile is proved from these cases.

An object is accepted by what the client has decoded after its finalizer was set (`admitted`). The
clean-up of a failed creation works on the object that the client has decoded after saving the
status, which may have lost its hosts (`cleanupHosts`).
-/

namespace KedaHttp.Operator

open KedaHttp.Foundation
open KedaHttp.Routing

/-- The object `createOrUpdateApplicationResources` is called with, if `Reconcile` comes to it. -/
def admitted (client : Client) (faults : Faults) (state : State) (httpso : HTTPScaledObject) :
    Option HTTPScaledObject :=
  match (ensureFinalizer client faults state httpso).result with
  | .error _ => none
  | .ok () => (sanitizeHosts (ensureFinalizer client faults state httpso).httpso).toOption

theorem ensured_of_admitted {client : Client} {faults : Faults} {state : State}
    {httpso sanitized : HTTPScaledObject}
    (admits : admitted client faults state httpso = some sanitized) :
    (ensureFinalizer client faults state httpso).result = .ok () := by
  simp only [admitted] at admits
  split at admits
  · simp at admits
  · assumption

/-- The object that comes to its creation, beside the one that was read. -/
structure Sanitized (client : Client) (httpso sanitized : HTTPScaledObject) : Prop where
  key : sanitized.key = httpso.key
  scaleTargetRef : sanitized.spec.scaleTargetRef = httpso.spec.scaleTargetRef
  target : ∀ config, targetOf config sanitized = targetOf config httpso
  given : sanitized.spec.hosts = some sanitized.hosts
  hosts : ((httpso.ensuredSpec client).hosts = some sanitized.hosts ∧ httpso.spec.host = none) ∨
    (httpso.ensuredSpec client).hosts = none ∧
      ∃ host, httpso.spec.host = some host ∧ sanitized.hosts = [host]

theorem sanitizeHosts_of_ensured {client : Client} {httpso ensured sanitized : HTTPScaledObject}
    {finalizers : List String}
    (object : ensured =
      { httpso with finalizers := finalizers, spec := httpso.ensuredSpec client })
    (sanitizes : sanitizeHosts ensured = .ok sanitized) : Sanitized client httpso sanitized := by
  rcases httpso.exists_ensuredSpec client with ⟨hosts, spec, _⟩
  rw [object, spec] at sanitizes
  simp only [sanitizeHosts] at sanitizes
  cases given : hosts <;> cases single : httpso.spec.host <;>
    simp only [given, single, Except.ok.injEq, reduceCtorEq] at sanitizes
  · rw [← sanitizes]
    exact ⟨rfl, rfl, fun _ => rfl, rfl, .inr ⟨by rw [spec, given], _, single, rfl⟩⟩
  · rw [← sanitizes]
    exact ⟨rfl, rfl, fun _ => rfl, rfl, .inl ⟨by rw [spec, given]; rfl, single⟩⟩

theorem sanitized_of_admitted {client : Client} {faults : Faults} {state : State}
    {httpso sanitized : HTTPScaledObject}
    (admits : admitted client faults state httpso = some sanitized) :
    Sanitized client httpso sanitized := by
  have ensured := ensured_of_admitted admits
  rcases ensureFinalizer_httpso ensured with ⟨finalizers, object⟩
  simp only [admitted, ensured] at admits
  cases sanitizes : sanitizeHosts (ensureFinalizer client faults state httpso).httpso with
  | error err => simp [sanitizes, Except.toOption] at admits
  | ok accepted =>
      simp only [sanitizes, Except.toOption, Option.some.injEq] at admits
      exact sanitizeHosts_of_ensured object (admits ▸ sanitizes)

/--
A clean-up finds the sanitised hosts in its object, unless the host was given through the
deprecated field and the saved status has put the stored specification in their place.
-/
def cleanupHosts (client : Client) (fault : Option ApiError)
    (httpso sanitized : HTTPScaledObject) : List String :=
  if httpso.spec.host ≠ none ∧ fault = none ∧ client.keepsOmitted = false then []
  else sanitized.hosts

section CleanUp

variable {client : Client} {faults : Faults} {state : State} {httpso sanitized : HTTPScaledObject}

theorem spec_afterSave
    (stored : state.cluster.httpScaledObjects.lookup httpso.key = some httpso)
    (live : httpso.live = true)
    (admits : admitted client faults state httpso = some sanitized) (fault : Option ApiError) :
    (sanitized.afterSave client fault
      (ensureFinalizer client faults state httpso).state.cluster).spec =
        if fault = none then client.decode sanitized.spec httpso.storedSpec
        else sanitized.spec := by
  rcases lookup_ensureFinalizer stored live (ensured_of_admitted admits) with
    ⟨kept, found, spec, _⟩
  rw [← (sanitized_of_admitted admits).key] at found
  simp only [HTTPScaledObject.afterSave, HTTPScaledObject.specAfterSave, found]
  cases fault with
  | some err => rfl
  | none => simp [spec]

theorem hosts_afterSave
    (stored : state.cluster.httpScaledObjects.lookup httpso.key = some httpso)
    (live : httpso.live = true)
    (admits : admitted client faults state httpso = some sanitized) (fault : Option ApiError) :
    (sanitized.afterSave client fault
      (ensureFinalizer client faults state httpso).state.cluster).hosts =
        cleanupHosts client fault httpso sanitized := by
  have sanitizes := sanitized_of_admitted admits
  rw [HTTPScaledObject.hosts, spec_afterSave stored live admits]
  simp only [cleanupHosts]
  cases fault with
  | some err => simp [sanitizes.given]
  | none =>
      have storedHosts := httpso.hosts_storedSpec client
      rcases sanitizes.hosts with ⟨listed, single⟩ | ⟨unlisted, host, single, hosts⟩
      · have kept : (client.decode sanitized.spec httpso.storedSpec).hosts.getD [] =
            sanitized.hosts := by
          rcases storedHosts with same | ⟨gone, empty⟩
          · rw [listed] at same
            cases kept : client.keepsOmitted <;>
              simp [Client.decode, HTTPScaledObjectSpec.decodeOnto, kept, same]
          · rw [listed, Option.some.injEq] at empty
            cases kept : client.keepsOmitted <;>
              simp [Client.decode, HTTPScaledObjectSpec.decodeOnto, kept, gone, empty,
                sanitizes.given]
        simp [kept, single]
      · have gone : httpso.storedSpec.hosts = none := by
          rcases storedHosts with same | ⟨gone, _⟩
          · exact same.trans unlisted
          · exact gone
        cases kept : client.keepsOmitted <;>
          simp [Client.decode, HTTPScaledObjectSpec.decodeOnto, kept, gone, single,
            sanitizes.given]

theorem scaleTargetRef_afterSave
    (stored : state.cluster.httpScaledObjects.lookup httpso.key = some httpso)
    (live : httpso.live = true)
    (admits : admitted client faults state httpso = some sanitized) (fault : Option ApiError) :
    (sanitized.afterSave client fault
      (ensureFinalizer client faults state httpso).state.cluster).spec.scaleTargetRef =
        httpso.spec.scaleTargetRef := by
  rw [spec_afterSave stored live admits]
  split
  · simp
  · exact (sanitized_of_admitted admits).scaleTargetRef

end CleanUp

theorem lookup_of_get {faults : Faults} {cluster : Cluster} {key : ObjectKey}
    {httpso : HTTPScaledObject} (got : cluster.getHTTPScaledObject faults key = .ok httpso) :
    cluster.httpScaledObjects.lookup key = some httpso := by
  rcases Cluster.attempt_eq_ok_iff.mp got with ⟨_, answers⟩
  split at answers
  · next found => rw [found, Except.ok.inj answers]
  · simp at answers

/-- What `Reconcile` does, by the state and the result it leads to. -/
inductive Reconciles (config : Config) (faults cleanupFaults : Faults) (state : State)
    (key : ObjectKey) : State → Except Failure Unit → Prop where
  | unread {err : ApiError} {result : Except Failure Unit}
      (got : state.cluster.getHTTPScaledObject faults key = .error err)
      (returns : ∀ value, result ≠ .error (.panic value)) :
      Reconciles config faults cleanupFaults state key state result
  | retained {httpso : HTTPScaledObject} {after : State} {failure : Failure}
      (got : state.cluster.getHTTPScaledObject faults key = .ok httpso)
      (terminating : httpso.live = false)
      (takesDown : TakesDown faults state httpso after (.error failure)) :
      Reconciles config faults cleanupFaults state key after (.error failure)
  | finalized {httpso left : HTTPScaledObject} {removed : State}
      (got : state.cluster.getHTTPScaledObject faults key = .ok httpso)
      (terminating : httpso.live = false)
      (takesDown : TakesDown faults state httpso removed (.ok ()))
      (kept : httpso.key = key → ∃ conditions, left = { httpso with conditions := conditions }) :
      Reconciles config faults cleanupFaults state key
        (finalizeScaledObject faults removed left).1 (finalizeScaledObject faults removed left).2
  | refused {httpso : HTTPScaledObject} {err : String}
      (got : state.cluster.getHTTPScaledObject faults key = .ok httpso)
      (live : httpso.live = true) (unadmitted : admitted config.client faults state httpso = none) :
      Reconciles config faults cleanupFaults state key
        (ensureFinalizer config.client faults state httpso).state (.error (.error err))
  | accepted {httpso sanitized : HTTPScaledObject} {after : State}
      {result : Except Failure Unit}
      (got : state.cluster.getHTTPScaledObject faults key = .ok httpso)
      (live : httpso.live = true)
      (admits : admitted config.client faults state httpso = some sanitized)
      (accepts : Accepts config faults cleanupFaults
        (ensureFinalizer config.client faults state httpso).state sanitized after result) :
      Reconciles config faults cleanupFaults state key after result

theorem reconcile_reconciles (config : Config) (faults cleanupFaults : Faults) (state : State)
    (key : ObjectKey) :
    Reconciles config faults cleanupFaults state key
      (reconcile config faults cleanupFaults state key).1
      (reconcile config faults cleanupFaults state key).2.result := by
  simp only [reconcile]
  cases got : state.cluster.getHTTPScaledObject faults key with
  | error err =>
      simp only
      split
      · exact .unread got (by simp)
      · exact .unread got (by simp)
  | ok httpso =>
      simp only
      split
      · next terminating =>
          have terminating : httpso.live = false := by simp [HTTPScaledObject.live, terminating]
          have takesDown := removeApplicationResources_takesDown config.client faults state httpso
          simp only [reconcileDeleted]
          cases result : (removeApplicationResources config.client faults state httpso).result with
          | error failure =>
              rw [result] at takesDown
              simp only
              exact .retained got terminating takesDown
          | ok =>
              rw [result] at takesDown
              simp only
              refine .finalized got terminating takesDown ?_
              intro own
              have stored := lookup_of_get got
              rw [← own] at stored
              exact removeApplicationResources_httpso stored config.client faults
      · next unmarked =>
          have live : httpso.live = true := by simpa [HTTPScaledObject.live] using unmarked
          cases ensured : (ensureFinalizer config.client faults state httpso).result with
          | error failure =>
              rcases (ensureFinalizer_error ensured).1 with ⟨err, rfl⟩
              exact .refused got live (by simp [admitted, ensured])
          | ok =>
              cases sanitizes :
                  sanitizeHosts (ensureFinalizer config.client faults state httpso).httpso with
              | error err =>
                  exact .refused got live (by simp [admitted, ensured, sanitizes, Except.toOption])
              | ok sanitized =>
                  have admits : admitted config.client faults state httpso = some sanitized := by
                    simp [admitted, ensured, sanitizes, Except.toOption]
                  exact .accepted got live admits
                    (reconcileAccepted_accepts config faults cleanupFaults _ sanitized)

/-- Whether a Reconcile panics, by the faults and the state that it starts from. -/
def panicsReconciling (client : Client) (faults cleanupFaults : Faults) (state : State)
    (key : ObjectKey) : Bool :=
  match state.cluster.getHTTPScaledObject faults key with
  | .error _ => false
  | .ok httpso =>
      if httpso.live then
        match admitted client faults state httpso with
        | none => false
        | some sanitized =>
            if creationFails faults state.cluster sanitized then
              (deletionError cleanupFaults).isNone && publishPanics cleanupFaults state.cluster
            else publishPanics faults state.cluster
      else
        (deletionError faults).isNone &&
          (publishPanics faults state.cluster ||
            (publishFailure faults state.cluster).isNone && httpso.panicsFinalizing)

theorem Reconciles.panicked {config : Config} {faults cleanupFaults : Faults}
    {state after : State} {key : ObjectKey} {result : Except Failure Unit}
    (reconciles : Reconciles config faults cleanupFaults state key after result)
    (own : ∀ httpso, state.cluster.httpScaledObjects.lookup key = some httpso →
      httpso.key = key) :
    panicked result = panicsReconciling config.client faults cleanupFaults state key := by
  cases reconciles with
  | unread got returns =>
      simp only [panicsReconciling, got, Bool.eq_false_iff]
      intro panics
      rcases (panicked_iff result).mp panics with ⟨value, same⟩
      exact returns value same
  | retained got terminating takesDown =>
      rw [takesDown.panicked]
      simp only [panicsReconciling, got, terminating, Bool.false_eq_true, if_false]
      cases takesDown with
      | stopped refused _ => simp [refused]
      | unpublished through refused _ => simp [through, refused]
  | finalized got terminating takesDown kept =>
      rcases kept (own _ (lookup_of_get got)) with ⟨conditions, rfl⟩
      rw [panicked_finalizeScaledObject]
      cases takesDown with
      | removed through published _ =>
          simp [panicsReconciling, got, terminating, publishPanics, through, published,
            HTTPScaledObject.panicsFinalizing]
  | refused got live unadmitted =>
      simp [panicsReconciling, got, live, unadmitted, Operator.panicked, isPanic]
  | @accepted httpso _ _ _ got live admits accepts =>
      have same := ensureFinalizer_resources config.client faults state httpso
      rw [accepts.panicked_eq, same.creationFails]
      simp only [publishPanics, same.publishFailure]
      simp [panicsReconciling, got, live, admits, publishPanics]

/-- A Reconcile leaves the other HTTPScaledObjects alone. -/
theorem Reconciles.others {config : Config} {faults cleanupFaults : Faults} {state after : State}
    {key : ObjectKey} {result : Except Failure Unit}
    (reconciles : Reconciles config faults cleanupFaults state key after result)
    (wellKeyed : state.WellKeyed) :
    after.WellKeyed ∧ ∀ other, other ≠ key → after.finalizers other = state.finalizers other := by
  cases reconciles with
  | unread _ _ => exact ⟨wellKeyed, fun _ _ => rfl⟩
  | retained _ _ takesDown =>
      rcases takesDown.object with ⟨_, finalizers, keyed⟩
      exact ⟨keyed wellKeyed, fun other _ => congrFun finalizers other⟩
  | @finalized httpso left removed got _ takesDown kept =>
      have stored := lookup_of_get got
      have own := wellKeyed key httpso stored
      rcases kept own with ⟨conditions, rfl⟩
      rcases takesDown.object with ⟨object, finalizers, keyed⟩
      have present : removed.object httpso.key = some httpso.essence := by
        rw [object, own]
        exact State.object_of_lookup stored
      have finalizes : SameButObject httpso.key removed
          (finalizeScaledObject faults removed { httpso with conditions := conditions }).1 :=
        finalizeScaledObject_same present
      refine ⟨finalizes.wellKeyed (keyed wellKeyed), ?_⟩
      intro other differs
      rw [finalizes.finalizers other (own ▸ differs), finalizers]
  | @refused httpso err got live _ =>
      have stored := lookup_of_get got
      have own := wellKeyed key httpso stored
      rcases ensureFinalizer_of_live (own ▸ stored) live with ⟨same, _, _⟩
      exact ⟨same.wellKeyed wellKeyed, fun other differs => same.finalizers other (own ▸ differs)⟩
  | @accepted httpso _ _ _ got live _ accepts =>
      have stored := lookup_of_get got
      have own := wellKeyed key httpso stored
      rcases ensureFinalizer_of_live (own ▸ stored) live with ⟨same, _, _⟩
      rcases accepts.object with ⟨_, finalizers, keyed⟩
      refine ⟨keyed (same.wellKeyed wellKeyed), ?_⟩
      intro other differs
      rw [finalizers]
      exact same.finalizers other (own ▸ differs)

end KedaHttp.Operator
