import KedaHttp.Operator.Entries

/-!
# The finalizer as a guard

An object with the operator's finalizer cannot disappear before the operator takes the finalizer
off, which it does at the end of a deletion. Between the two, any call may fail, the process may
restart or panic, and users may go on editing the specification. In all runs the finalizer is
given up by one kind of move only: a Reconcile that finds the object under deletion, and that
leaves none of the hosts it lists in the routing table, neither in memory nor in the ConfigMap.

Users do not edit finalizers here. The hosts are those that the object lists in `hosts` when it is
deleted: a host in the deprecated field `host` is not among them, and keeps its route. The
ScaledObject is the one that the deletion looks for.
-/

namespace KedaHttp.Operator

open KedaHttp.Foundation
open KedaHttp.Routing

/-- The object exists and has the finalizer of the operator. -/
def State.Guarded (state : State) (key : ObjectKey) : Prop :=
  ∃ finalizers, state.finalizers key = some finalizers ∧ httpScaledObjectFinalizer ∈ finalizers

/-- What the deletion of an object takes down is gone, and the other routes are what they were. -/
structure CleanedUp (faults : Faults) (httpso : HTTPScaledObject) (before after : State) :
    Prop where
  routes : ∀ host ∈ httpso.hosts, host ∉ after.routingTable.m
  others : ∀ host, host ∉ httpso.hosts →
    after.routingTable.m.lookup host = before.routingTable.m.lookup host
  published : after.published = some after.routingTable
  scaledObject : faults .deleteScaledObject = none →
    ⟨httpso.ns, appScaledObjectName httpso⟩ ∉ after.cluster.scaledObjects

/-- The move reconciles the object under deletion, and cleans up what belonged to it. -/
def CleansUp (key : ObjectKey) (move : Move System Event) : Prop :=
  ∃ httpso faults cleanupFaults, move.event = .reconcile key faults cleanupFaults ∧
    move.source.operator.cluster.httpScaledObjects.lookup key = some httpso ∧
    httpso.live = false ∧ CleanedUp faults httpso move.source.operator move.target.operator

section Objects

variable {state after : State} {key : ObjectKey}

theorem State.Guarded.of_finalizers (guarded : state.Guarded key)
    (same : after.finalizers key = state.finalizers key) : after.Guarded key := by
  rcases guarded with ⟨finalizers, present, member⟩
  exact ⟨finalizers, same.trans present, member⟩

theorem State.guarded_of_lookup {httpso : HTTPScaledObject}
    (stored : state.cluster.httpScaledObjects.lookup key = some httpso)
    (member : httpScaledObjectFinalizer ∈ httpso.finalizers) : state.Guarded key :=
  ⟨httpso.finalizers, congrArg (Option.map HTTPScaledObject.finalizers) stored, member⟩

theorem State.Guarded.mem_finalizers (guarded : state.Guarded key) {httpso : HTTPScaledObject}
    (stored : state.cluster.httpScaledObjects.lookup key = some httpso) :
    httpScaledObjectFinalizer ∈ httpso.finalizers := by
  rcases guarded with ⟨finalizers, present, member⟩
  simp only [State.finalizers, stored, Option.map_some, Option.some.injEq] at present
  exact present ▸ member

@[simp]
theorem State.guarded_survive (result : Except Failure Unit) :
    (state.survive result).Guarded key ↔ state.Guarded key := by
  simp only [State.Guarded, State.finalizers, State.cluster_survive]

/-- A user who deletes a guarded object only marks it. -/
theorem State.Guarded.change (guarded : state.Guarded key) {change : Change} {cluster : Cluster}
    (changes : state.cluster.change change = some cluster) :
    ({ state with cluster := cluster } : State).Guarded key := by
  by_cases own : key = change.key
  · subst own
    have outcome := Cluster.lookup_change changes change.key
    rw [if_pos rfl] at outcome
    rcases Cluster.exists_of_change changes with
      ⟨httpso, rfl, _, absent⟩ | ⟨stored, found, ⟨_, spec, rfl⟩ | ⟨_, rfl⟩⟩
    · rcases guarded with ⟨finalizers, present, _⟩
      simp [State.finalizers, absent] at present
    · have member := guarded.mem_finalizers found
      rw [found] at outcome
      exact State.guarded_of_lookup outcome member
    · have member := guarded.mem_finalizers found
      have marks : stored.delete = some { stored with deletionTimestamp := true } :=
        if_neg (List.ne_nil_of_mem member)
      rw [found] at outcome
      exact State.guarded_of_lookup (outcome.trans marks) member
  · exact guarded.of_finalizers (State.object_change changes own).2

end Objects

section Reconcile

variable {config : Config} {faults cleanupFaults : Faults} {state after : State}
  {key : ObjectKey} {httpso : HTTPScaledObject} {result : Except Failure Unit}

/-- An object that `Reconcile` goes on with after `ensureFinalizer` has the finalizer. -/
theorem guarded_of_ensured
    (stored : state.cluster.httpScaledObjects.lookup httpso.key = some httpso)
    (live : httpso.live = true)
    (ensured : (ensureFinalizer config.client faults state httpso).result = .ok ()) :
    (ensureFinalizer config.client faults state httpso).state.Guarded httpso.key := by
  rcases lookup_ensureFinalizer stored live ensured with ⟨kept, found, _, present⟩
  exact State.guarded_of_lookup found present

theorem ensureFinalizer_of_guarded
    (stored : state.cluster.httpScaledObjects.lookup key = some httpso)
    (guarded : state.Guarded key) :
    (ensureFinalizer config.client faults state httpso).state = state := by
  rw [ensureFinalizer, if_pos (guarded.mem_finalizers stored)]

theorem finalizeScaledObject_of_error {failure : Failure}
    (failed : (finalizeScaledObject faults state httpso).2 = .error failure) :
    (finalizeScaledObject faults state httpso).1 = state := by
  simp only [finalizeScaledObject] at failed ⊢
  split
  · next present =>
      rw [if_pos present] at failed
      split
      · rfl
      · next removed =>
          simp only [removed] at failed
          split
          · next update => simp [update] at failed
          · rfl
  · rfl

theorem cleanedUp_of_takesDown (healthy : state.Healthy)
    (takesDown : TakesDown faults state httpso after (.ok ())) :
    CleanedUp faults httpso state after := by
  cases takesDown with
  | removed through published same =>
      refine ⟨?_, ?_, ?_, ?_⟩
      · intro host member
        have lookup := Table.lookup_removeTargets state.routingTable httpso.hosts host
        rw [if_pos member] at lookup
        rw [same.routingTable]
        exact Finmap.lookup_eq_none.mp lookup
      · intro host absent
        have lookup := Table.lookup_removeTargets state.routingTable httpso.hosts host
        rw [if_neg absent] at lookup
        rw [same.routingTable]
        exact lookup
      · have withoutHealthy : (withoutRoutes faults state httpso).Healthy := healthy
        exact (same.toSameResources.published_of_publish withoutHealthy).1
      · intro unfailing
        rw [same.scaledObjects]
        simp [State.publish, Cluster.publish, withoutRoutes, remainingScaledObjects, unfailing]

theorem CleanedUp.of_sameResources {final : State} (cleaned : CleanedUp faults httpso state after)
    (same : SameResources after final) : CleanedUp faults httpso state final where
  routes := by
    rw [same.routingTable]
    exact cleaned.routes
  others := by
    rw [same.routingTable]
    exact cleaned.others
  published := by
    rw [same.routingTable, State.published, same.routingConfigMap]
    exact cleaned.published
  scaledObject := by
    rw [same.scaledObjects]
    exact cleaned.scaledObject

/-- A Reconcile keeps a guarded object, unless it deletes it and gets through. -/
theorem Reconciles.guarded_or_cleanedUp (healthy : state.Healthy)
    (reconciles : Reconciles config faults cleanupFaults state key after result)
    (guarded : state.Guarded key) :
    after.Guarded key ∨ result = .ok () ∧ ∃ httpso,
      state.cluster.getHTTPScaledObject faults key = .ok httpso ∧ httpso.live = false ∧
        CleanedUp faults httpso state after := by
  cases reconciles with
  | unread _ _ => exact .inl guarded
  | retained _ _ takesDown =>
      exact .inl (guarded.of_finalizers (congrFun takesDown.object.2.1 key))
  | @finalized httpso left removed got terminating takesDown _ =>
      cases finalized : (finalizeScaledObject faults removed left).2 with
      | error failure =>
          rw [finalizeScaledObject_of_error finalized]
          exact .inl (guarded.of_finalizers (congrFun takesDown.object.2.1 key))
      | ok =>
          refine .inr ⟨rfl, httpso, got, terminating, ?_⟩
          exact (cleanedUp_of_takesDown healthy takesDown).of_sameResources
            (finalizeScaledObject_resources _ _ _)
  | refused got _ _ =>
      rw [ensureFinalizer_of_guarded (lookup_of_get got) guarded]
      exact .inl guarded
  | accepted got _ _ accepts =>
      rw [ensureFinalizer_of_guarded (lookup_of_get got) guarded] at accepts
      exact .inl (guarded.of_finalizers (congrFun accepts.object.2.1 key))

/-- A creation that `Reconcile` comes to is that of a guarded object. -/
theorem Reconciles.guarded_of_admitted (wellKeyed : state.WellKeyed)
    (reconciles : Reconciles config faults cleanupFaults state key after result)
    (got : state.cluster.getHTTPScaledObject faults key = .ok httpso) (live : httpso.live = true)
    {sanitized : HTTPScaledObject}
    (admits : admitted config.client faults state httpso = some sanitized) :
    after.Guarded key := by
  have stored := lookup_of_get got
  have own := wellKeyed key httpso stored
  subst own
  have ensured := guarded_of_ensured stored live (ensured_of_admitted admits)
  cases reconciles with
  | unread failed _ => simp [got] at failed
  | retained gotOther terminating _ =>
      rw [got, Except.ok.injEq] at gotOther
      simp [← gotOther, live] at terminating
  | finalized gotOther terminating _ _ =>
      rw [got, Except.ok.injEq] at gotOther
      simp [← gotOther, live] at terminating
  | refused gotOther _ unadmitted =>
      rw [got, Except.ok.injEq] at gotOther
      simp [← gotOther, admits] at unadmitted
  | accepted gotOther _ admitsOther accepts =>
      rw [got, Except.ok.injEq] at gotOther
      subst gotOther
      exact ensured.of_finalizers (congrFun accepts.object.2.1 _)

end Reconcile

section Runs

variable {config : Config} {system next : System} {event : Event}

/-- What every reachable state of the operator satisfies, whatever fails. -/
structure Registered (system : System) : Prop where
  routes : EveryRoute (fun _ _ => True) system.operator
  wellKeyed : system.operator.WellKeyed
  guarded : ∀ key ∈ system.reconciled, system.operator.Guarded key

theorem Registered.initial : Registered System.initial where
  routes := .initial
  wellKeyed := State.initial_wellKeyed
  guarded := by simp [System.initial]

theorem guarded_reconcile (registered : Registered system) {key other : ObjectKey}
    (guarded : system.operator.Guarded other) {faults cleanupFaults : Faults}
    (stepped : step config system (.reconcile key faults cleanupFaults) = some next) :
    next.operator.Guarded other ∨
      CleansUp other ⟨system, .reconcile key faults cleanupFaults, next⟩ := by
  have reconciles := reconcile_reconciles config faults cleanupFaults system.operator key
  rw [← Option.some.inj stepped]
  by_cases own : other = key
  · subst own
    rcases reconciles.guarded_or_cleanedUp registered.routes.healthy guarded with
      kept | ⟨succeeded, httpso, got, terminating, cleaned⟩
    · exact .inl ((State.guarded_survive _).mpr kept)
    · refine .inr ⟨httpso, faults, cleanupFaults, rfl, lookup_of_get got, terminating, ?_⟩
      rw [succeeded]
      exact cleaned
  · left
    rw [State.guarded_survive]
    exact guarded.of_finalizers ((reconciles.others registered.wellKeyed).2 other own)

/-- A step takes no finalizer off without cleaning up. -/
theorem guarded_or_cleansUp (registered : Registered system) {key : ObjectKey}
    (guarded : system.operator.Guarded key) (stepped : step config system event = some next) :
    next.operator.Guarded key ∨ CleansUp key ⟨system, event, next⟩ := by
  cases event with
  | change change =>
      rcases Option.map_eq_some_iff.mp stepped with ⟨cluster, changes, rfl⟩
      exact .inl (guarded.change changes)
  | restart =>
      rw [← Option.some.inj stepped]
      exact .inl guarded
  | reconcile own faults cleanupFaults => exact guarded_reconcile registered guarded stepped

/-- An object that enters the record of created ones, or stays in it, is guarded. -/
theorem guarded_of_mem_recordAfter (registered : Registered system) {key : ObjectKey}
    {faults cleanupFaults : Faults} {after : State} {result : Except Failure Unit}
    (reconciles : Reconciles config faults cleanupFaults system.operator key after result)
    (recorded : key ∈ system.recordAfter config.client faults key result) :
    after.Guarded key := by
  have kept : key ∈ system.reconciled → after.Guarded key ∨ result = .ok () ∧ ∃ httpso,
      system.operator.cluster.getHTTPScaledObject faults key = .ok httpso ∧
        httpso.live = false ∧ CleanedUp faults httpso system.operator after :=
    fun before => reconciles.guarded_or_cleanedUp registered.routes.healthy
      (registered.guarded key before)
  simp only [System.recordAfter] at recorded
  cases got : system.operator.cluster.getHTTPScaledObject faults key with
  | error err =>
      simp only [got] at recorded
      rcases kept recorded with guarded | ⟨_, httpso, found, _⟩
      · exact guarded
      · simp [got] at found
  | ok httpso =>
      simp only [got] at recorded kept
      by_cases live : httpso.live = true
      · rw [if_pos live] at recorded
        cases admits : admitted config.client faults system.operator httpso with
        | none =>
            simp only [admits] at recorded
            rcases kept recorded with guarded | ⟨_, _, ⟨⟩, terminating, _⟩
            · exact guarded
            · simp [live] at terminating
        | some sanitized =>
            exact reconciles.guarded_of_admitted registered.wellKeyed got live admits
      · rw [if_neg live] at recorded
        cases result with
        | ok => simp at recorded
        | error failure =>
            rcases kept recorded with guarded | ⟨failed, _⟩
            · exact guarded
            · simp at failed

theorem Registered.preserved (registered : Registered system)
    (stepped : step config system event = some next) : Registered next where
  routes := by
    apply registered.routes.preserved _ stepped
    intro key faults cleanupFaults _ httpso hosts _ _ _ host _ _
    trivial
  wellKeyed := registered.wellKeyed.preserved stepped
  guarded := by
    intro key recorded
    cases event with
    | change change =>
        rcases Option.map_eq_some_iff.mp stepped with ⟨cluster, changes, rfl⟩
        have before : key ∈ system.reconciled := by
          cases change with
          | create httpso => exact Finset.mem_of_mem_erase recorded
          | update own spec => exact recorded
          | delete own => exact recorded
        exact (registered.guarded key before).change changes
    | restart =>
        rw [← Option.some.inj stepped] at recorded ⊢
        exact registered.guarded key recorded
    | reconcile own faults cleanupFaults =>
        rw [← Option.some.inj stepped] at recorded ⊢
        have reconciles := reconcile_reconciles config faults cleanupFaults system.operator own
        simp only [State.guarded_survive]
        by_cases same : key = own
        · subst same
          exact guarded_of_mem_recordAfter registered reconciles recorded
        · have before := (System.mem_recordAfter_of_ne same faults _).mp recorded
          exact (registered.guarded key before).of_finalizers
            ((reconciles.others registered.wellKeyed).2 key same)

end Runs

/--
Whatever calls fail, and however often the operator panics or restarts: an object whose last
creation succeeded, and that was not deleted successfully since, is still there with the finalizer.
And a move after which a guarded object has lost the finalizer, or is gone, is a Reconcile of the
object under deletion, after which the hosts it lists have no route in memory and in the ConfigMap,
all other routes are what they were, and the ScaledObject is gone that the deletion looks for.
-/
theorem guarded_until_cleanedUp {config : Config} {history : List (Move System Event)}
    {system : System} (run : Run (StepOf (step config)) System.initial history system) :
    (∀ key ∈ system.reconciled, system.operator.Guarded key) ∧
      ∀ move ∈ history, ∀ key, move.source.operator.Guarded key →
        ¬move.target.operator.Guarded key → CleansUp key move := by
  have registered : ∀ {reached}, Reachable (StepOf (step config)) System.initial reached →
      Registered reached := fun reachable =>
    reachable.invariant .initial fun _ _ _ registered stepped => registered.preserved stepped
  refine ⟨(registered ⟨history, run⟩).guarded, ?_⟩
  intro move member key guarded lost
  rcases run.mem_history member with ⟨reachable, stepped⟩
  exact (guarded_or_cleansUp (registered reachable) guarded stepped).resolve_left lost

/-- A deletion meets a fault first, the operator restarts, and the second attempt gets through. -/
theorem guarded_until_cleanedUp_retried : ∃ history system,
    Run (StepOf (step sampleConfig)) System.initial history system ∧
      ∃ move ∈ history, move.target.operator.object ⟨"dp-a", "web"⟩ = none ∧
        CleansUp ⟨"dp-a", "web"⟩ move := by
  rcases Run.exists_of_record (step sampleConfig) System.initial
    [.change (.create (sampleObject "dp-a" "web" (sampleSpec "web" ["web.dp-a"]))),
      .reconcile ⟨"dp-a", "web"⟩ noFaults noFaults,
      .change (.delete ⟨"dp-a", "web"⟩),
      .reconcile ⟨"dp-a", "web"⟩
        (fun call => if call = .patchConfigMap then some ⟨.other, "timeout"⟩ else none) noFaults,
      .restart,
      .reconcile ⟨"dp-a", "web"⟩ noFaults noFaults]
    (fun reached => reached.1.any fun move =>
      decide (move.source.operator.finalizers ⟨"dp-a", "web"⟩ = some [httpScaledObjectFinalizer]) &&
        decide (move.target.operator.finalizers ⟨"dp-a", "web"⟩ = none)) (by decide +kernel)
    with ⟨history, system, run, passed⟩
  simp only [List.any_eq_true, Bool.and_eq_true, decide_eq_true_eq] at passed
  rcases passed with ⟨move, member, before, gone⟩
  have guarded : move.source.operator.Guarded ⟨"dp-a", "web"⟩ := ⟨_, before, by simp⟩
  have lost : ¬move.target.operator.Guarded ⟨"dp-a", "web"⟩ := by
    rintro ⟨finalizers, present, _⟩
    simp [gone] at present
  refine ⟨history, system, run, move, member, ?_, ?_⟩
  · simpa [State.object, State.finalizers] using gone
  · exact (guarded_until_cleanedUp run).2 move member _ guarded lost

end KedaHttp.Operator
