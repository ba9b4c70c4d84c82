import KedaHttp.Operator.System

/-!
# Patching a ScaledObject

When the ScaledObject of an HTTPScaledObject exists already, `createOrUpdateScaledObject` sends the
one it has built as a merge patch. The optional numbers that are not set are not part of its JSON
text, so that the patch leaves them as they were. A number that is taken out of the specification
thus stays in the ScaledObject, while everything else follows the specification.
-/

namespace KedaHttp.Operator

open KedaHttp.Foundation

section Marshalling

/-- The values in the JSON text of a ScaledObject that a merge patch does not look into. -/
inductive Field where
  | text (text : String)
  | number (number : Int32)
  | flag (flag : Bool)
  | triggers (triggers : List ScaleTriggers)
  deriving DecidableEq

namespace Field

def text? : Field → Option String
  | text value => some value
  | number _ | flag _ | triggers _ => none

def number? : Field → Option Int32
  | number value => some value
  | text _ | flag _ | triggers _ => none

def flag? : Field → Option Bool
  | flag value => some value
  | text _ | number _ | triggers _ => none

def triggers? : Field → Option (List ScaleTriggers)
  | triggers value => some value
  | text _ | number _ | flag _ => none

theorem bind_number?_map (number : Option Int32) :
    (number.map Field.number).bind number? = number := by
  cases number <;> rfl

theorem bind_number?_or (number : Option Int32) (field : Option Field) :
    ((number.map Field.number).or field).bind number? = number.or (field.bind number?) := by
  cases number <;> rfl

end Field

open Document

/-- The JSON text of a ScaledObject. KEDA's optional numbers are omitted when they are nil. -/
def ScaledObject.marshal (scaledObject : ScaledObject) : Document Field :=
  objectOf [
    ("apiVersion", scalar (.text "keda.sh/v1alpha1")),
    ("kind", scalar (.text "ScaledObject")),
    ("metadata", objectOf [
      ("name", scalar (.text scaledObject.name)),
      ("namespace", scalar (.text scaledObject.ns))]),
    ("spec", objectOf [
      ("scaleTargetRef", objectOf [
        ("apiVersion", scalar (.text "apps/v1")),
        ("kind", scalar (.text "Deployment")),
        ("name", scalar (.text scaledObject.scaleTargetName))]),
      ("pollingInterval", omitEmpty (scaledObject.pollingInterval.map .number)),
      ("cooldownPeriod", omitEmpty (scaledObject.cooldownPeriod.map .number)),
      ("minReplicaCount", omitEmpty (scaledObject.minReplicaCount.map .number)),
      ("maxReplicaCount", omitEmpty (scaledObject.maxReplicaCount.map .number)),
      ("advanced", objectOf [
        ("restoreToOriginalReplicaCount",
          omitEmpty (if scaledObject.restoreToOriginalReplicaCount then some (.flag true)
            else none))]),
      ("triggers", scalar (.triggers scaledObject.triggers))])]

/-- The ScaledObject that a JSON text is read as. Members that are missing get the zero value. -/
def ScaledObject.unmarshal (document : Document Field) : ScaledObject :=
  let metadata := document.member "metadata"
  let spec := document.member "spec"
  let number := fun name => (spec.member name).scalar?.bind Field.number?
  { ns := ((metadata.member "namespace").scalar?.bind Field.text?).getD ""
    name := ((metadata.member "name").scalar?.bind Field.text?).getD ""
    scaleTargetName :=
      (((spec.member "scaleTargetRef").member "name").scalar?.bind Field.text?).getD ""
    pollingInterval := number "pollingInterval"
    cooldownPeriod := number "cooldownPeriod"
    minReplicaCount := number "minReplicaCount"
    maxReplicaCount := number "maxReplicaCount"
    restoreToOriginalReplicaCount :=
      (((spec.member "advanced").member "restoreToOriginalReplicaCount").scalar?.bind
        Field.flag?).getD false
    triggers := ((spec.member "triggers").scalar?.bind Field.triggers?).getD [] }

theorem ScaledObject.unmarshal_marshal (scaledObject : ScaledObject) :
    unmarshal scaledObject.marshal = scaledObject := by
  cases scaledObject with
  | mk ns name target polling cooldown min max restore triggers =>
      simp only [unmarshal, marshal, member_objectOf, List.lookup_cons, String.reduceBEq, BEq.rfl,
        Option.getD_some, scalar?_scalar, Option.bind_some, scalar?_omitEmpty,
        Field.bind_number?_map, mk.injEq, true_and]
      refine ⟨rfl, rfl, rfl, ?_, rfl⟩
      cases restore <;> rfl

/-- What a merge patch makes of a document is what `mergeScaledObject` says it is. -/
theorem ScaledObject.unmarshal_merge_marshal (document : Document Field) {patch : ScaledObject}
    (restores : patch.restoreToOriginalReplicaCount = true) :
    unmarshal (document.merge patch.marshal) =
      Cluster.mergeScaledObject (unmarshal document) patch := by
  simp only [unmarshal, marshal, restores, ↓reduceIte, member_merge_objectOf, List.lookup_cons,
    String.reduceBEq, BEq.rfl, Option.getD_some, merge_scalar, scalar?_scalar, Option.bind_some,
    scalar?_merge_omitEmpty, Field.bind_number?_or, Option.some_or, Cluster.mergeScaledObject,
    mk.injEq, true_and]
  exact ⟨rfl, rfl, rfl, rfl, rfl⟩

end Marshalling

section Outcome

/-- What a successful `createOrUpdateScaledObject` leaves in the place of a ScaledObject. -/
def updatedScaledObject (before : Option ScaledObject) (built : ScaledObject) : ScaledObject :=
  match before with
  | none => built
  | some stored => Cluster.mergeScaledObject stored built

/-- An optional number comes from what was built, or else from what was stored before. -/
theorem updatedScaledObject_numbers (before : Option ScaledObject) (built : ScaledObject) :
    (updatedScaledObject before built).minReplicaCount =
        built.minReplicaCount.or (before.bind ScaledObject.minReplicaCount) ∧
      (updatedScaledObject before built).maxReplicaCount =
        built.maxReplicaCount.or (before.bind ScaledObject.maxReplicaCount) ∧
      (updatedScaledObject before built).cooldownPeriod =
        built.cooldownPeriod.or (before.bind ScaledObject.cooldownPeriod) := by
  cases before <;> simp [updatedScaledObject, Cluster.mergeScaledObject]

variable {faults : Faults} {state : State} {address : String} {httpso : HTTPScaledObject}

theorem lookup_createOrUpdateScaledObject
    (succeeds : (createOrUpdateScaledObject faults state address httpso).result = .ok ()) :
    (createOrUpdateScaledObject faults state address httpso).state.cluster.scaledObjects.lookup
        ⟨httpso.ns, createdScaledObjectName httpso⟩ =
      some (updatedScaledObject
        (state.cluster.scaledObjects.lookup ⟨httpso.ns, createdScaledObjectName httpso⟩)
        (appScaledObject address httpso)) := by
  simp only [createOrUpdateScaledObject] at succeeds ⊢
  cases created : state.cluster.createScaledObject faults (appScaledObject address httpso) with
  | ok cluster =>
      rcases createScaledObject_ok created with ⟨_, absent, rfl⟩
      rw [Finmap.lookup_eq_none.mpr absent]
      exact Finmap.lookup_insert _
  | error err =>
      simp only [created] at succeeds ⊢
      by_cases existing : err.isAlreadyExists = true
      · rw [if_pos existing] at succeeds ⊢
        cases patched : patchError faults state.cluster
            ⟨httpso.ns, createdScaledObjectName httpso⟩ with
        | some refused =>
            rw [patchExistingScaledObject_of_error patched] at succeeds
            simp at succeeds
        | none =>
            rcases patchExistingScaledObject_of_none (appScaledObject address httpso) patched with
              ⟨stored, present, accepted⟩
            rw [accepted]
            refine (Finmap.lookup_insert _).trans ?_
            exact congrArg some (congrArg (updatedScaledObject · _) present.symm)
      · rw [if_neg existing] at succeeds
        simp at succeeds

end Outcome

/-- A ScaledObject has what the specification decides about another one. -/
structure ScaledObject.ConformsTo (stored built : ScaledObject) : Prop where
  scaleTarget : stored.scaleTargetName = built.scaleTargetName
  minReplicaCount : stored.minReplicaCount = built.minReplicaCount
  maxReplicaCount : stored.maxReplicaCount = built.maxReplicaCount
  cooldownPeriod : stored.cooldownPeriod = built.cooldownPeriod
  triggers : stored.triggers = built.triggers

/-- A number that falls back on two older ones comes out as itself unless one of them is needed. -/
theorem or_eq_self_iff {Number : Type} (number earlier before : Option Number) :
    number.or (earlier.or before) = number ↔
      (number = none → earlier = none ∧ before = none) := by
  cases number <;> cases earlier <;> simp

theorem conformsTo_updatedScaledObject_iff (before : Option ScaledObject)
    (earlier current : ScaledObject) :
    (updatedScaledObject (some (updatedScaledObject before earlier)) current).ConformsTo current ↔
      (current.minReplicaCount = none →
        earlier.minReplicaCount = none ∧ before.bind ScaledObject.minReplicaCount = none) ∧
      (current.maxReplicaCount = none →
        earlier.maxReplicaCount = none ∧ before.bind ScaledObject.maxReplicaCount = none) ∧
      (current.cooldownPeriod = none →
        earlier.cooldownPeriod = none ∧ before.bind ScaledObject.cooldownPeriod = none) := by
  rcases updatedScaledObject_numbers before earlier with ⟨firstMin, firstMax, firstCooldown⟩
  rcases updatedScaledObject_numbers (some (updatedScaledObject before earlier)) current with
    ⟨lastMin, lastMax, lastCooldown⟩
  rw [Option.bind_some, firstMin] at lastMin
  rw [Option.bind_some, firstMax] at lastMax
  rw [Option.bind_some, firstCooldown] at lastCooldown
  constructor
  · rintro ⟨_, sameMin, sameMax, sameCooldown, _⟩
    refine ⟨?_, ?_, ?_⟩
    · exact (or_eq_self_iff _ _ _).mp (lastMin ▸ sameMin)
    · exact (or_eq_self_iff _ _ _).mp (lastMax ▸ sameMax)
    · exact (or_eq_self_iff _ _ _).mp (lastCooldown ▸ sameCooldown)
  · rintro ⟨unsetMin, unsetMax, unsetCooldown⟩
    refine ⟨rfl, ?_, ?_, ?_, rfl⟩
    · exact lastMin.trans ((or_eq_self_iff _ _ _).mpr unsetMin)
    · exact lastMax.trans ((or_eq_self_iff _ _ _).mpr unsetMax)
    · exact lastCooldown.trans ((or_eq_self_iff _ _ _).mpr unsetCooldown)

/--
After `createOrUpdateScaledObject` has succeeded for an earlier and then for the current
specification of an object, the stored ScaledObject is as built from the current one alone if and
only if each of the three optional numbers that the current one does not set was not set by the
earlier one and was not stored before.
-/
theorem scaledObject_conformsTo_iff {earlierFaults currentFaults : Faults} {state created : State}
    {earlierAddress currentAddress : String} {earlier current : HTTPScaledObject}
    (sameObject : earlier.key = current.key)
    (first : (createOrUpdateScaledObject earlierFaults state earlierAddress earlier).result =
      .ok ())
    (between : created =
      (createOrUpdateScaledObject earlierFaults state earlierAddress earlier).state)
    (second : (createOrUpdateScaledObject currentFaults created currentAddress current).result =
      .ok ()) :
    let key : ObjectKey := ⟨current.ns, current.name ++ "-app"⟩
    let before := state.cluster.scaledObjects.lookup key
    let after :=
      (createOrUpdateScaledObject currentFaults created currentAddress current).state.cluster
    (∃ stored, after.scaledObjects.lookup key = some stored ∧
        stored.ConformsTo (appScaledObject currentAddress current)) ↔
      (current.spec.replicas.bind ReplicaStruct.min = none →
        earlier.spec.replicas.bind ReplicaStruct.min = none ∧
          before.bind ScaledObject.minReplicaCount = none) ∧
      (current.spec.replicas.bind ReplicaStruct.max = none →
        earlier.spec.replicas.bind ReplicaStruct.max = none ∧
          before.bind ScaledObject.maxReplicaCount = none) ∧
      (current.spec.cooldownPeriod = none →
        earlier.spec.cooldownPeriod = none ∧
          before.bind ScaledObject.cooldownPeriod = none) := by
  intro key before after
  have sameKey : (⟨earlier.ns, createdScaledObjectName earlier⟩ : ObjectKey) = key := by
    simp only [HTTPScaledObject.key, ObjectKey.mk.injEq] at sameObject
    simp only [key, createdScaledObjectName, sameObject.1, sameObject.2]
  have storedFirst := lookup_createOrUpdateScaledObject first
  rw [sameKey, ← between] at storedFirst
  have found : after.scaledObjects.lookup key =
      some (updatedScaledObject (created.cluster.scaledObjects.lookup key)
        (appScaledObject currentAddress current)) :=
    lookup_createOrUpdateScaledObject second
  rw [found, storedFirst]
  have conforms_iff := conformsTo_updatedScaledObject_iff before
    (appScaledObject earlierAddress earlier) (appScaledObject currentAddress current)
  constructor
  · rintro ⟨stored, same, conforms⟩
    rw [← Option.some.inj same] at conforms
    exact conforms_iff.mp conforms
  · intro unset
    exact ⟨_, rfl, conforms_iff.mpr unset⟩

section Samples

/-- An object with the given bounds for its replicas and no cooldown period. -/
def boundedObject (replicas : Option ReplicaStruct) : HTTPScaledObject :=
  sampleObject "dp-a" "x" { sampleSpec "app" ["a"] with replicas := replicas }

/-- Bounds that are raised and stay set are followed. -/
theorem scaledObject_conformsTo_iff_raised :
    let created := (createOrUpdateScaledObject noFaults .initial "scaler"
      (boundedObject (some ⟨some 1, none⟩))).state
    ∃ stored,
      (createOrUpdateScaledObject noFaults created "scaler"
        (boundedObject (some ⟨some 2, some 9⟩))).state.cluster.scaledObjects.lookup
          ⟨"dp-a", "x-app"⟩ = some stored ∧
      stored.minReplicaCount = some 2 ∧ stored.maxReplicaCount = some 9 := by
  intro created
  have first : (createOrUpdateScaledObject noFaults .initial "scaler"
      (boundedObject (some ⟨some 1, none⟩))).result = .ok () := by decide
  have second : (createOrUpdateScaledObject noFaults created "scaler"
      (boundedObject (some ⟨some 2, some 9⟩))).result = .ok () := by decide
  have same : (boundedObject (some ⟨some 1, none⟩)).key =
      (boundedObject (some ⟨some 2, some 9⟩)).key := rfl
  rcases (scaledObject_conformsTo_iff same first rfl second).mpr (by decide) with
    ⟨stored, found, conforms⟩
  exact ⟨stored, found, conforms.minReplicaCount, conforms.maxReplicaCount⟩

/-- A lower bound that is taken out of the specification stays in the ScaledObject. -/
theorem not_scaledObject_conformsTo_unset :
    ¬∀ (earlierFaults currentFaults : Faults) (state : State) (address : String)
        (earlier current : HTTPScaledObject), earlier.key = current.key →
      (createOrUpdateScaledObject earlierFaults state address earlier).result = .ok () →
      (createOrUpdateScaledObject currentFaults
        (createOrUpdateScaledObject earlierFaults state address earlier).state address
          current).result = .ok () →
      ∃ stored,
        (createOrUpdateScaledObject currentFaults
          (createOrUpdateScaledObject earlierFaults state address earlier).state address
            current).state.cluster.scaledObjects.lookup ⟨current.ns, current.name ++ "-app"⟩ =
              some stored ∧
          stored.ConformsTo (appScaledObject address current) := by
  intro converges
  rcases converges noFaults noFaults .initial "scaler" (boundedObject (some ⟨some 5, none⟩))
    (boundedObject none) (by decide) (by decide) (by decide) with ⟨stored, found, conforms⟩
  have kept : ((createOrUpdateScaledObject noFaults
      (createOrUpdateScaledObject noFaults .initial "scaler"
        (boundedObject (some ⟨some 5, none⟩))).state "scaler"
          (boundedObject none)).state.cluster.scaledObjects.lookup ⟨"dp-a", "x-app"⟩).bind
            ScaledObject.minReplicaCount = some 5 := by decide
  rw [show (⟨"dp-a", "x-app"⟩ : ObjectKey) =
    ⟨(boundedObject none).ns, (boundedObject none).name ++ "-app"⟩ by decide, found,
    Option.bind_some, conforms.minReplicaCount] at kept
  exact absurd kept (by decide)

end Samples

end KedaHttp.Operator
