import KedaHttp.Foundation.Commutation
import KedaHttp.Operator.System

/-!
# Reconciles of different objects

When every call succeeds, a Reconcile changes the routing table at the hosts of its object only,
and what it makes of a host depends on the entry that is there and on the object. Reconciles of
objects without common hosts therefore commute, from any table, and a Reconcile that is repeated
at once finds its work done.

The objects of a sequence are given in the form in which they are stored when their Reconcile
reads them, live or under deletion, with any finalizers and conditions.
-/

namespace KedaHttp.Operator

open KedaHttp.Foundation
open KedaHttp.Routing

/-- The object stands in the cluster in the given form. -/
def State.store (state : State) (httpso : HTTPScaledObject) : State :=
  { state with
    cluster := { state.cluster with
      httpScaledObjects := state.cluster.httpScaledObjects.insert httpso.key httpso } }

/-- The Reconcile of an object as it is stored, if it returns. -/
def reconcileStored (config : Config) (state : State) (httpso : HTTPScaledObject) :
    Option State :=
  let reconciled := reconcile config noFaults noFaults (state.store httpso) httpso.key
  match reconciled.2.result with
  | .error (.panic _) => none
  | _ => some reconciled.1

section Routes

/-- What the Reconcile of an object makes of the table. -/
def routesAfter (config : Config) (table : Table) (httpso : HTTPScaledObject) : Table :=
  if httpso.live then table.addTargets httpso.hosts (targetOf config httpso)
  else table.removeTargets httpso.hosts

/-- What it makes of the entry of one of its hosts. -/
def entryAfter (config : Config) (httpso : HTTPScaledObject) (entry : Option Target) :
    Option Target :=
  if httpso.live then entry.or (some (targetOf config httpso)) else none

theorem lookup_routesAfter (config : Config) (table : Table) (httpso : HTTPScaledObject)
    (host : String) :
    (routesAfter config table httpso).m.lookup host =
      if host ∈ httpso.hosts then entryAfter config httpso (table.m.lookup host)
      else table.m.lookup host := by
  cases live : httpso.live with
  | true =>
      simp only [routesAfter, entryAfter, live, if_true, Table.lookup_addTargets]
      split
      · rfl
      · exact Option.or_none
  | false => simp [routesAfter, entryAfter, live, Table.lookup_removeTargets]

theorem routesAfter_comm (config : Config) {left right : HTTPScaledObject}
    (disjoint : ∀ host ∈ left.hosts, host ∉ right.hosts) (table : Table) :
    routesAfter config (routesAfter config table left) right =
      routesAfter config (routesAfter config table right) left := by
  apply Table.ext_lookup
  intro host
  simp only [lookup_routesAfter]
  by_cases mine : host ∈ left.hosts
  · simp [mine, disjoint host mine]
  · simp [mine]

theorem routesAfter_idem (config : Config) (table : Table) (httpso : HTTPScaledObject) :
    routesAfter config (routesAfter config table httpso) httpso =
      routesAfter config table httpso := by
  apply Table.ext_lookup
  intro host
  simp only [lookup_routesAfter]
  by_cases mine : host ∈ httpso.hosts
  · cases live : httpso.live <;> simp [mine, entryAfter, live]
  · simp [mine]

end Routes

/-- An object that is refused leaves the routes alone, since it has no hosts. -/
theorem routesAfter_of_not_publishes {config : Config} {httpso : HTTPScaledObject}
    (single : httpso.spec.host = none) (quiet : httpso.publishes config.client = false)
    (table : Table) : routesAfter config table httpso = table := by
  simp only [HTTPScaledObject.publishes, Bool.or_eq_false_iff, Bool.not_eq_false'] at quiet
  rcases HTTPScaledObject.sanitizedHosts_of_single single config.client with accepts | ⟨_, empty⟩
  · simp [accepts] at quiet
  · rw [routesAfter, if_pos quiet.1, empty]
    rfl

/-- What a Reconcile does to routes when every call succeeds and `host` is not used. -/
theorem Settles.routes {config : Config} {state after : State} {key : ObjectKey}
    {result : Except Failure Unit} (settles : Settles config state key after result)
    {httpso : HTTPScaledObject}
    (stored : state.cluster.httpScaledObjects.lookup key = some httpso)
    (single : httpso.spec.host = none) :
    after.routingTable = routesAfter config state.routingTable httpso ∧
      after.published =
        if httpso.publishes config.client then some after.routingTable else state.published := by
  cases settles with
  | absent missing _ => simp [missing] at stored
  | retired found terminating retired =>
      rw [stored, Option.some.injEq] at found
      subst found
      rw [routesAfter, if_neg (by simp [terminating]),
        if_pos (by simp [HTTPScaledObject.publishes, terminating])]
      exact ⟨retired.routes, retired.published⟩
  | rejected found live rejects same _ _ =>
      rw [stored, Option.some.injEq] at found
      subst found
      have quiet : httpso.publishes config.client = false := by
        simp [HTTPScaledObject.publishes, live, rejects]
      rw [routesAfter_of_not_publishes single quiet, if_neg (by simp [quiet])]
      refine ⟨same.routingTable, ?_⟩
      simp only [State.published]
      rw [same.routingConfigMap]
  | accepted found live accepts routed =>
      rw [stored, Option.some.injEq] at found
      subst found
      rw [routesAfter, if_pos live, if_pos (by simp [HTTPScaledObject.publishes, accepts])]
      have settled : Settles config state key after (.ok ()) := .accepted stored live accepts routed
      exact ⟨(settled.routes_of_live stored live single).1, routed.published⟩

/-- What is left of an object that was refused is refused again. -/
theorem Settles.again_of_not_publishes {config : Config} {state after : State} {key : ObjectKey}
    {result : Except Failure Unit} (settles : Settles config state key after result)
    {httpso left : HTTPScaledObject}
    (stored : state.cluster.httpScaledObjects.lookup key = some httpso)
    (single : httpso.spec.host = none) (quiet : httpso.publishes config.client = false)
    (found : after.cluster.httpScaledObjects.lookup key = some left) :
    left.publishes config.client = false := by
  simp only [HTTPScaledObject.publishes, Bool.or_eq_false_iff, Bool.not_eq_false',
    Option.isSome_eq_false_iff, Option.isNone_iff_eq_none] at quiet ⊢
  cases settles with
  | absent missing _ => simp [missing] at stored
  | retired there terminating _ =>
      rw [stored, Option.some.injEq] at there
      simp [there, terminating] at quiet
  | accepted there _ accepts _ =>
      rw [stored, Option.some.injEq] at there
      simp [there, accepts] at quiet
  | rejected there live rejects _ object kept =>
      rw [stored, Option.some.injEq] at there
      subst there
      rcases kept with ⟨kept, keptFound, spec, present⟩
      rw [found, Option.some.injEq] at keptFound
      subst keptFound
      have sameLive : left.live = httpso.live := by
        have same := congrFun object key
        rw [State.object_of_lookup found, State.object_of_lookup stored, Option.some.injEq] at same
        rw [← left.live_essence, same, httpso.live_essence]
      refine ⟨sameLive.trans live, ?_⟩
      have unlisted : (httpso.ensuredSpec config.client).hosts = none := by
        rcases httpso.exists_ensuredSpec config.client with ⟨hosts, ensured, _⟩
        simp only [HTTPScaledObject.sanitizedHosts, ensured, single] at rejects
        rw [ensured]
        cases hosts with
        | none => rfl
        | some list => simp at rejects
      have gone : httpso.storedSpec.hosts = none := by
        rcases httpso.hosts_storedSpec config.client with same | ⟨gone, _⟩
        · exact same.trans unlisted
        · exact gone
      simp [HTTPScaledObject.sanitizedHosts, HTTPScaledObject.ensuredSpec, present, gone, spec,
        single]

section Sequences

variable {config : Config} {state after : State} {httpso : HTTPScaledObject}

theorem State.WellKeyed.store (wellKeyed : state.WellKeyed) (httpso : HTTPScaledObject) :
    (state.store httpso).WellKeyed := by
  intro key other found
  simp only [State.store, GoMap.lookup_insert_ite] at found
  split at found
  · next same =>
      rw [← Option.some.inj found]
      exact same.symm
  · exact wellKeyed key other found

/-- The operator after a Reconcile in which every call succeeded. -/
structure Reconciled (config : Config) (state : State) (httpso : HTTPScaledObject)
    (after : State) : Prop where
  routes : after.routingTable = routesAfter config state.routingTable httpso
  published : after.published =
    if httpso.publishes config.client then some after.routingTable else state.published
  healthy : after.Healthy
  wellKeyed : after.WellKeyed
  object : after.object httpso.key = some httpso.essence ∨ after.object httpso.key = none
  refused : httpso.publishes config.client = false →
    ∀ left, after.cluster.httpScaledObjects.lookup httpso.key = some left →
      left.publishes config.client = false

theorem reconciled_of_stored (healthy : state.Healthy) (wellKeyed : state.WellKeyed)
    (uses : httpso.UsesHosts) (reconciles : reconcileStored config state httpso = some after) :
    Reconciled config state httpso after := by
  have storeHealthy : (state.store httpso).Healthy := healthy
  have settles := settles_of_noFaults config storeHealthy (wellKeyed.store httpso) httpso.key
  have same : (reconcile config noFaults noFaults (state.store httpso) httpso.key).1 = after := by
    simp only [reconcileStored] at reconciles
    split at reconciles
    · simp at reconciles
    · exact Option.some.inj reconciles
  rw [same] at settles
  have stored : (state.store httpso).cluster.httpScaledObjects.lookup httpso.key = some httpso :=
    Finmap.lookup_insert _
  have tidy := settles.tidy storeHealthy (wellKeyed.store httpso)
  rcases settles.routes stored uses.single with ⟨routes, published⟩
  refine ⟨routes, published, tidy.healthy, tidy.wellKeyed, ?_, ?_⟩
  · rw [← State.object_of_lookup stored]
    exact tidy.touched
  · intro quiet left found
    exact settles.again_of_not_publishes stored uses.single quiet found

theorem foldl_routesAfter_of_not_publishes {sequence : List HTTPScaledObject}
    (uses : ∀ httpso ∈ sequence, httpso.UsesHosts)
    (quiet : ∀ httpso ∈ sequence, httpso.publishes config.client = false) (table : Table) :
    sequence.foldl (routesAfter config) table = table := by
  induction sequence with
  | nil => rfl
  | cons httpso sequence ih =>
      rw [List.forall_mem_cons] at uses quiet
      rw [List.foldl_cons, routesAfter_of_not_publishes uses.1.single quiet.1]
      exact ih uses.2 quiet.2

/--
A sequence of Reconciles composes what they do to the table, and publishes the outcome unless all
its objects are refused.
-/
theorem routes_of_foldlM {sequence : List HTTPScaledObject}
    (uses : ∀ httpso ∈ sequence, httpso.UsesHosts) (healthy : state.Healthy)
    (wellKeyed : state.WellKeyed)
    (ran : sequence.foldlM (reconcileStored config) state = some after) :
    after.routingTable = sequence.foldl (routesAfter config) state.routingTable ∧
      ((∀ httpso ∈ sequence, httpso.publishes config.client = false) →
        after.published = state.published) ∧
      ((∃ httpso ∈ sequence, httpso.publishes config.client = true) →
        after.published = some after.routingTable) := by
  induction sequence generalizing state with
  | nil =>
      simp only [List.foldlM_nil, Option.pure_def, Option.some.injEq] at ran
      subst ran
      exact ⟨rfl, fun _ => rfl, by simp⟩
  | cons httpso sequence ih =>
      rw [List.forall_mem_cons] at uses
      simp only [List.foldlM_cons, Option.bind_eq_bind, Option.bind_eq_some_iff] at ran
      rcases ran with ⟨between, reconciles, rest⟩
      have first := reconciled_of_stored healthy wellKeyed uses.1 reconciles
      rcases ih uses.2 first.healthy first.wellKeyed rest with ⟨routes, unchanged, published⟩
      have firstPublished := first.published
      refine ⟨by rw [routes, first.routes]; rfl, ?_, ?_⟩
      · intro quiet
        rw [List.forall_mem_cons] at quiet
        rw [if_neg (by simp [quiet.1])] at firstPublished
        rw [unchanged quiet.2, firstPublished]
      · intro publishes
        by_cases last : ∃ other ∈ sequence, other.publishes config.client = true
        · exact published last
        · have quiet : ∀ other ∈ sequence, other.publishes config.client = false := by
            simpa using last
          have own := (List.exists_mem_cons_iff ..).mp publishes |>.resolve_right last
          rw [if_pos own] at firstPublished
          rw [unchanged quiet, firstPublished, routes,
            foldl_routesAfter_of_not_publishes uses.2 quiet]

/-- The Reconcile of the same object, in the form the first one has left it, changes nothing. -/
theorem Reconciled.again (reconciled : Reconciled config state httpso after)
    (uses : httpso.UsesHosts) :
    let again := (reconcile config noFaults noFaults after httpso.key).1
    again.routingTable = after.routingTable ∧ again.published = after.published := by
  have settles := settles_of_noFaults config reconciled.healthy reconciled.wellKeyed httpso.key
  cases found : after.cluster.httpScaledObjects.lookup httpso.key with
  | none =>
      rw [settles.eq_of_absent found]
      exact ⟨rfl, rfl⟩
  | some stored =>
      have essence : stored.essence = httpso.essence := by
        have object := reconciled.object
        rw [State.object_of_lookup found] at object
        simpa using object
      have single : stored.spec.host = none :=
        (congrArg (fun object => object.spec.host) essence).trans uses.single
      have sameRoutes : routesAfter config after.routingTable stored = after.routingTable := by
        rw [reconciled.routes, routesAfter, ← stored.live_essence, ← stored.hosts_essence,
          ← HTTPScaledObject.targetOf_essence config stored, essence]
        simpa [routesAfter] using routesAfter_idem config state.routingTable httpso
      rcases settles.routes found single with ⟨routes, published⟩
      rw [sameRoutes] at routes
      refine ⟨routes, ?_⟩
      rw [published, routes]
      split
      · next publishes =>
          have firstPublished := reconciled.published
          cases own : httpso.publishes config.client with
          | true => simp [firstPublished, own]
          | false => simp [reconciled.refused own stored found] at publishes
      · rfl

end Sequences

section Returning

/-- When every call succeeds, nothing but the finalizers of an object makes a Reconcile panic. -/
theorem reconcile_panicked (config : Config) {state : State} (healthy : state.Healthy)
    {key : ObjectKey} {httpso : HTTPScaledObject} (keyed : httpso.key = key)
    (stored : state.cluster.httpScaledObjects.lookup key = some httpso) :
    panicked (reconcile config noFaults noFaults state key).2.result =
      (!httpso.live && httpso.panicsFinalizing) := by
  have own : ∀ other, state.cluster.httpScaledObjects.lookup key = some other →
      other.key = key := by
    intro other found
    rw [stored, Option.some.injEq] at found
    rw [← found]
    exact keyed
  have published := publishFailure_noFaults healthy
  have through : deletionError noFaults = none := rfl
  rw [(reconcile_reconciles config noFaults noFaults state key).panicked own]
  simp only [panicsReconciling, getHTTPScaledObject_noFaults, stored, publishPanics, published,
    through]
  cases httpso.live with
  | false => simp
  | true => cases admitted config.client noFaults state httpso <;> simp

/-- Whether a Reconcile returns is up to the stored object alone. -/
theorem reconcileStored_isSome_iff (config : Config) {state : State} (healthy : state.Healthy)
    (httpso : HTTPScaledObject) :
    (∃ after, reconcileStored config state httpso = some after) ↔
      (!httpso.live && httpso.panicsFinalizing) = false := by
  have storeHealthy : (state.store httpso).Healthy := healthy
  have stored : (state.store httpso).cluster.httpScaledObjects.lookup httpso.key = some httpso :=
    Finmap.lookup_insert _
  rw [← reconcile_panicked config storeHealthy rfl stored, Bool.eq_false_iff, ne_eq, panicked_iff]
  simp only [reconcileStored]
  split
  · next value panics => simp [panics]
  · next returns =>
      simp only [Option.some.injEq, exists_eq', true_iff, not_exists]
      exact returns

end Returning

/-- A sequence of Reconciles of objects without common hosts. -/
structure Separate (sequence : List HTTPScaledObject) : Prop where
  uses : ∀ httpso ∈ sequence, httpso.UsesHosts
  disjoint : ∀ left ∈ sequence, ∀ right ∈ sequence, left.key ≠ right.key →
    ∀ host ∈ left.hosts, host ∉ right.hosts

/-- A sequence of Reconciles runs to its end if and only if each of its Reconciles returns. -/
theorem exists_foldlM_iff (config : Config) {sequence : List HTTPScaledObject}
    (uses : ∀ httpso ∈ sequence, httpso.UsesHosts) {state : State} (healthy : state.Healthy)
    (wellKeyed : state.WellKeyed) :
    (∃ after, sequence.foldlM (reconcileStored config) state = some after) ↔
      ∀ httpso ∈ sequence, (!httpso.live && httpso.panicsFinalizing) = false := by
  induction sequence generalizing state with
  | nil => simp
  | cons httpso sequence ih =>
      rw [List.forall_mem_cons] at uses ⊢
      rw [← reconcileStored_isSome_iff config healthy httpso]
      simp only [List.foldlM_cons, Option.bind_eq_bind, Option.bind_eq_some_iff]
      constructor
      · rintro ⟨after, between, reconciles, rest⟩
        have first := reconciled_of_stored healthy wellKeyed uses.1 reconciles
        exact ⟨⟨between, reconciles⟩,
          (ih uses.2 first.healthy first.wellKeyed).mp ⟨after, rest⟩⟩
      · rintro ⟨⟨between, reconciles⟩, returns⟩
        have first := reconciled_of_stored healthy wellKeyed uses.1 reconciles
        rcases (ih uses.2 first.healthy first.wellKeyed).mpr returns with ⟨after, rest⟩
        exact ⟨after, between, reconciles, rest⟩

theorem Separate.foldlM_eq {config : Config} {state left : State}
    {first second : List HTTPScaledObject} (healthy : state.Healthy)
    (wellKeyed : state.WellKeyed) (separate : Separate first)
    (same : SameOrder HTTPScaledObject.key first second)
    (ran : first.foldlM (reconcileStored config) state = some left) :
    ∃ right, second.foldlM (reconcileStored config) state = some right ∧
      right.routingTable = left.routingTable ∧ right.published = left.published := by
  have reverse : SameOrder HTTPScaledObject.key second first := fun owner => (same owner).symm
  have uses : ∀ httpso ∈ second, httpso.UsesHosts :=
    fun httpso member => separate.uses httpso (same.mem member)
  have returns := (exists_foldlM_iff config separate.uses healthy wellKeyed).mp ⟨left, ran⟩
  rcases (exists_foldlM_iff config uses healthy wellKeyed).mpr
    (fun httpso member => returns httpso (same.mem member)) with ⟨right, ranSecond⟩
  refine ⟨right, ranSecond, ?_⟩
  rcases routes_of_foldlM separate.uses healthy wellKeyed ran with
    ⟨routes, unchanged, published⟩
  rcases routes_of_foldlM uses healthy wellKeyed ranSecond with
    ⟨routesSecond, unchangedSecond, publishedSecond⟩
  have sameRoutes : right.routingTable = left.routingTable := by
    rw [routes, routesSecond]
    apply (same.foldl_eq (routesAfter config) _ _).symm
    intro one oneMem other otherMem differ table
    exact routesAfter_comm config (separate.disjoint one oneMem other otherMem differ) table
  refine ⟨sameRoutes, ?_⟩
  by_cases loud : ∃ httpso ∈ first, httpso.publishes config.client = true
  · have loudSecond : ∃ httpso ∈ second, httpso.publishes config.client = true := by
      rcases loud with ⟨httpso, member, publishes⟩
      exact ⟨httpso, reverse.mem member, publishes⟩
    rw [published loud, publishedSecond loudSecond, sameRoutes]
  · have quiet : ∀ httpso ∈ first, httpso.publishes config.client = false := by
      simpa using loud
    have quietSecond : ∀ httpso ∈ second, httpso.publishes config.client = false :=
      fun httpso member => quiet httpso (same.mem member)
    rw [unchanged quiet, unchangedSecond quietSecond]

/--
From any table and any ConfigMap, with every call succeeding: two sequences of Reconciles of
objects without common hosts, with the Reconciles of each object in the same order, lead to the
same table in memory and to the same published table. A Reconcile that is repeated at once, of the
object as the first one has left it or in its original form, changes neither.
-/
theorem reconciles_commute (config : Config) {state : State} (healthy : state.Healthy)
    (wellKeyed : state.WellKeyed) :
    (∀ first second left, Separate first → SameOrder HTTPScaledObject.key first second →
      first.foldlM (reconcileStored config) state = some left →
      ∃ right, second.foldlM (reconcileStored config) state = some right ∧
        right.routingTable = left.routingTable ∧ right.published = left.published) ∧
    ∀ httpso after, httpso.UsesHosts → reconcileStored config state httpso = some after →
      ((reconcile config noFaults noFaults after httpso.key).1.routingTable =
          after.routingTable ∧
        (reconcile config noFaults noFaults after httpso.key).1.published = after.published) ∧
      ∃ again, reconcileStored config after httpso = some again ∧
        again.routingTable = after.routingTable ∧ again.published = after.published := by
  constructor
  · intro first second left separate same ran
    exact separate.foldlM_eq healthy wellKeyed same ran
  · intro httpso after uses reconciles
    have reconciled := reconciled_of_stored healthy wellKeyed uses reconciles
    refine ⟨reconciled.again uses, ?_⟩
    have returns := (reconcileStored_isSome_iff config healthy httpso).mp ⟨after, reconciles⟩
    rcases (reconcileStored_isSome_iff config reconciled.healthy httpso).mpr returns with
      ⟨again, repeats⟩
    have repeated := reconciled_of_stored reconciled.healthy reconciled.wellKeyed uses repeats
    have sameRoutes : again.routingTable = after.routingTable := by
      rw [repeated.routes, reconciled.routes, routesAfter_idem]
    refine ⟨again, repeats, sameRoutes, ?_⟩
    rw [repeated.published, sameRoutes]
    split
    · next publishes => rw [reconciled.published, if_pos publishes]
    · rfl

/-- The deletion of an object that lists a host twice, before and after the creation of another. -/
theorem reconciles_commute_deleted :
    let x := sampleObject "dp-a" "x" (sampleSpec "app" ["a", "a"])
    let y := sampleObject "dp-b" "y" (sampleSpec "app" ["b"])
    let deleted := { x with deletionTimestamp := true, finalizers := [httpScaledObjectFinalizer] }
    ∃ left right,
      [x, deleted, y].foldlM (reconcileStored sampleConfig) State.initial = some left ∧
      [x, y, deleted].foldlM (reconcileStored sampleConfig) State.initial = some right ∧
      left.routingTable.hasHost "b" = true ∧ right.routingTable = left.routingTable ∧
      right.published = left.published := by
  intro x y deleted
  have ran : ([x, deleted, y].foldlM (reconcileStored sampleConfig) State.initial).any
      (fun left => left.routingTable.hasHost "b") = true := by decide
  rw [Option.any_eq_true] at ran
  rcases ran with ⟨left, ranFirst, present⟩
  have separate : Separate [x, deleted, y] := ⟨by decide, by decide⟩
  have same : SameOrder HTTPScaledObject.key [x, deleted, y] [x, y, deleted] := by
    intro owner
    by_cases first : (⟨"dp-a", "x"⟩ : ObjectKey) = owner
    · subst first
      decide
    · by_cases second : (⟨"dp-b", "y"⟩ : ObjectKey) = owner <;>
        simp [x, y, deleted, sampleObject, HTTPScaledObject.key, first, second]
  rcases (reconciles_commute sampleConfig State.initial_healthy State.initial_wellKeyed).1
    _ _ left separate same ranFirst with ⟨right, ranSecond, routes, published⟩
  exact ⟨left, right, ranFirst, ranSecond, present, routes, published⟩

end KedaHttp.Operator
