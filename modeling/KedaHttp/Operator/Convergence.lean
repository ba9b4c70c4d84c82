import KedaHttp.Operator.System

/-!
# Convergence of the routing table

Users change HTTPScaledObjects with disjoint lists of hosts, and every change is followed by a
Reconcile of the changed object in which all calls succeed. Ideally the table in memory is then
the union of the routes that the live objects ask for (`Converged`).

`AddTarget` refuses a host that is registered already, and no function of the operator looks for
hosts that an object has given up. An update of a live object therefore converges precisely if
it keeps all hosts and, unless there were none, the target (`KeepsRoutes`).
-/

namespace KedaHttp.Operator

open KedaHttp.Foundation
open KedaHttp.Routing

section Routes

/-- A table holds the given routes and no others. -/
def Represents (table : Table) (routes : String → Target → Prop) : Prop :=
  ∀ host target, table.m.lookup host = some target ↔ routes host target

/-- The routes of one object beside the routes of others. -/
def Beside (hosts : List String) (target : Target) (others : String → Target → Prop) :
    String → Target → Prop :=
  fun host held => host ∈ hosts ∧ held = target ∨ others host held

variable {table : Table} {others : String → Target → Prop}

/-- Removing hosts leaves the routes of the other hosts. -/
theorem Represents.of_removeTargets {routes : String → Target → Prop} {hosts : List String}
    (represents : Represents table routes) (apart : ∀ host ∈ hosts, ∀ held, ¬others host held)
    (same : ∀ host ∉ hosts, ∀ held, routes host held ↔ others host held) :
    Represents (table.removeTargets hosts) others := by
  intro host held
  rw [Table.lookup_removeTargets]
  split
  · next member => simp [apart host member held]
  · next absent => exact (represents host held).trans (same host absent held)

/-- Removing an object's hosts removes its routes, if no other object has routes for them. -/
theorem Represents.removeTargets {hosts : List String} {target : Target}
    (represents : Represents table (Beside hosts target others))
    (apart : ∀ host ∈ hosts, ∀ held, ¬others host held) :
    Represents (table.removeTargets hosts) others := by
  apply represents.of_removeTargets apart
  intro host absent held
  simp [Beside, absent]

/-- Hosts without routes can be removed. -/
theorem Represents.removeTargets_of_apart {hosts : List String}
    (represents : Represents table others) (apart : ∀ host ∈ hosts, ∀ held, ¬others host held) :
    Represents (table.removeTargets hosts) others :=
  represents.of_removeTargets apart fun _ _ _ => Iff.rfl

/--
Adding the routes of an object's new version to a table that holds those of its old version
gives the new routes precisely if no old host is dropped and no old host has another target.
-/
theorem represents_addTargets_iff {old new : List String} {oldTarget newTarget : Target}
    (represents : Represents table (Beside old oldTarget others))
    (oldApart : ∀ host ∈ old, ∀ held, ¬others host held)
    (newApart : ∀ host ∈ new, ∀ held, ¬others host held) :
    Represents (table.addTargets new newTarget) (Beside new newTarget others) ↔
      old ⊆ new ∧ (old = [] ∨ newTarget = oldTarget) := by
  constructor
  · intro represents'
    have kept : ∀ host ∈ old, host ∈ new ∧ oldTarget = newTarget := by
      intro host member
      have held := (represents host oldTarget).mpr (.inl ⟨member, rfl⟩)
      have routed := represents' host oldTarget
      rw [Table.lookup_addTargets, held] at routed
      rcases routed.mp rfl with own | foreign
      · exact own
      · exact absurd foreign (oldApart host member oldTarget)
    refine ⟨fun host member => (kept host member).1, ?_⟩
    rcases List.eq_nil_or_concat old with empty | ⟨rest, last, whole⟩
    · exact .inl empty
    · exact .inr (kept last (by simp [whole])).2.symm
  · rintro ⟨subset, same⟩ host held
    rw [Table.lookup_addTargets]
    cases found : table.m.lookup host with
    | some existing =>
        have routed := (represents host existing).mp found
        rw [Option.some_or, Option.some.injEq]
        rcases routed with ⟨member, rfl⟩ | foreign
        · have newMember := subset member
          rcases same with rfl | rfl
          · simp at member
          · simp only [Beside, newMember, true_and, newApart host newMember held, or_false]
            exact eq_comm
        · have absent : host ∉ new := fun member => newApart host member existing foreign
          simp only [Beside, absent, false_and, false_or]
          constructor
          · rintro rfl
            exact foreign
          · intro other
            have lookup := (represents host held).mpr (.inr other)
            rw [found] at lookup
            exact Option.some.inj lookup
    | none =>
        have unrouted : ∀ held, ¬Beside old oldTarget others host held := by
          intro held routed
          rw [← represents host held, found] at routed
          simp at routed
        have noOthers : ¬others host held := fun other => unrouted held (.inr other)
        rw [Option.none_or]
        by_cases member : host ∈ new
        · simp only [member, if_true, Option.some.injEq, Beside, true_and, noOthers, or_false]
          exact eq_comm
        · simp [member, Beside, noOthers]

end Routes

section Settling

/-- The routes that the live objects of a cluster ask for. -/
def wantedRoutes (config : Config) (cluster : Cluster) (host : String) (target : Target) : Prop :=
  ∃ key httpso, cluster.httpScaledObjects.lookup key = some httpso ∧ httpso.live = true ∧
    host ∈ httpso.hosts ∧ target = targetOf config httpso

/-- The table in memory is the union of the routes of the live objects. -/
def Converged (config : Config) (state : State) : Prop :=
  Represents state.routingTable (wantedRoutes config state.cluster)

/-- The routes of all live objects but one. -/
def otherRoutes (config : Config) (state : State) (key : ObjectKey) (host : String)
    (target : Target) : Prop :=
  ∃ other httpso, other ≠ key ∧ state.object other = some httpso ∧ httpso.live = true ∧
    host ∈ httpso.hosts ∧ target = targetOf config httpso

def Change.usesHosts : Change → Bool
  | create httpso => httpso.spec.usesHosts
  | update _ spec => spec.usesHosts
  | delete _ => true

/--
A change by a user, and the Reconcile that follows it. The objects use the field `hosts`, their
hosts are disjoint, every call succeeds and the Reconcile does not panic.
-/
def settle (config : Config) (state : State) (change : Change) : Option State :=
  match state.cluster.change change with
  | none => none
  | some cluster =>
      if change.usesHosts = true ∧ cluster.DisjointHosts then
        let reconciled :=
          reconcile config noFaults noFaults { state with cluster := cluster } change.key
        match reconciled.2.result with
        | .error (.panic _) => none
        | _ => some reconciled.1
      else none

/-- An update of a live object that drops none of its hosts and redirects none of them. -/
def KeepsRoutes (config : Config) (source : State) : Change → Prop
  | .update key spec => ∀ httpso ∈ source.cluster.httpScaledObjects.lookup key,
      httpso.live = true →
        httpso.hosts ⊆ spec.hosts.getD [] ∧
          (httpso.hosts = [] ∨
            targetOf config { httpso with spec := spec } = targetOf config httpso)
  | .create _ | .delete _ => True

instance (config : Config) (source : State) : DecidablePred (KeepsRoutes config source)
  | .update _ _ => inferInstanceAs (Decidable (∀ _ ∈ _, _ → _))
  | .create _ | .delete _ => inferInstanceAs (Decidable True)

variable {config : Config} {state next : State} {key : ObjectKey}

theorem wantedRoutes_iff (host : String) (target : Target) :
    wantedRoutes config state.cluster host target ↔
      ∃ key httpso, state.object key = some httpso ∧ httpso.live = true ∧
        host ∈ httpso.hosts ∧ target = targetOf config httpso := by
  constructor
  · rintro ⟨key, httpso, found, live, member, target⟩
    refine ⟨key, httpso.essence, ?_, live, by simpa using member, target⟩
    rw [State.object, found]
    rfl
  · rintro ⟨key, _, object, live, member, target⟩
    rcases Option.map_eq_some_iff.mp object with ⟨httpso, found, rfl⟩
    exact ⟨key, httpso, found, live, by simpa using member, target⟩

/-- The routes of a cluster from the point of view of one of its objects. -/
theorem wantedRoutes_eq_beside {httpso : HTTPScaledObject} (object : state.object key = some httpso)
    (live : httpso.live = true) :
    wantedRoutes config state.cluster =
      Beside httpso.hosts (targetOf config httpso) (otherRoutes config state key) := by
  funext host target
  apply propext
  rw [wantedRoutes_iff]
  constructor
  · rintro ⟨other, found, objectThere, isLive, member, same⟩
    by_cases own : other = key
    · subst own
      rw [object, Option.some.injEq] at objectThere
      subst objectThere
      exact .inl ⟨member, same⟩
    · exact .inr ⟨other, found, own, objectThere, isLive, member, same⟩
  · rintro (⟨member, same⟩ | ⟨other, found, _, objectThere, isLive, member, same⟩)
    · exact ⟨key, httpso, object, live, member, same⟩
    · exact ⟨other, found, objectThere, isLive, member, same⟩

/-- An object that is gone or under deletion has no routes. -/
theorem wantedRoutes_eq_otherRoutes
    (gone : ∀ httpso, state.object key = some httpso → httpso.live = false) :
    wantedRoutes config state.cluster = otherRoutes config state key := by
  funext host target
  apply propext
  rw [wantedRoutes_iff]
  constructor
  · rintro ⟨other, found, object, live, member, same⟩
    refine ⟨other, found, ?_, object, live, member, same⟩
    rintro rfl
    simp [gone found object] at live
  · rintro ⟨other, found, _, object, live, member, same⟩
    exact ⟨other, found, object, live, member, same⟩

theorem otherRoutes_congr
    (same : ∀ other, other ≠ key → next.object other = state.object other) :
    otherRoutes config next key = otherRoutes config state key := by
  funext host target
  apply propext
  constructor
  · rintro ⟨other, found, differs, object, rest⟩
    exact ⟨other, found, differs, same other differs ▸ object, rest⟩
  · rintro ⟨other, found, differs, object, rest⟩
    exact ⟨other, found, differs, same other differs ▸ object, rest⟩

theorem otherRoutes_apart (disjoint : state.cluster.DisjointHosts) {httpso : HTTPScaledObject}
    (object : state.object key = some httpso) {host : String} (member : host ∈ httpso.hosts)
    (target : Target) : ¬otherRoutes config state key host target := by
  rintro ⟨other, found, differs, objectThere, _, memberThere, _⟩
  have named : host ∈ httpso.namedHosts := List.mem_append_left _ member
  exact disjoint.notMem (Ne.symm differs) object objectThere named
    (List.mem_append_left _ memberThere)

/-- The states between two changes, as long as the table converges. -/
structure Steady (config : Config) (state : State) : Prop where
  healthy : state.Healthy
  wellKeyed : state.WellKeyed
  disjoint : state.cluster.DisjointHosts
  finalizers : ∀ key httpso, state.object key = some httpso → httpso.live = true →
    ∃ finalizers, finalizers ≠ [] ∧ state.finalizers key = some finalizers
  converged : Converged config state

namespace Steady

theorem initial (config : Config) : Steady config State.initial where
  healthy := State.initial_healthy
  wellKeyed := State.initial_wellKeyed
  disjoint := by
    intro key present
    simp [State.initial] at present
  finalizers := by simp [State.initial, State.object]
  converged := by
    intro host target
    simp [State.initial, newTable, wantedRoutes]

variable {middle : State} {httpso : HTTPScaledObject}

/-- The table after an object under deletion has been reconciled. -/
theorem converged_of_retired (steady : Steady config state)
    (disjoint : middle.cluster.DisjointHosts)
    (others : ∀ other, other ≠ key → middle.object other = state.object other)
    (own : ∀ old, state.object key = some old → old.live = true → old.hosts = httpso.hosts)
    (stored : middle.cluster.httpScaledObjects.lookup key = some httpso)
    (terminating : httpso.live = false) (table : middle.routingTable = state.routingTable)
    (retired : Retired middle key httpso next) : Converged config next := by
  have middleObject : middle.object key = some httpso.essence :=
    State.object_of_lookup stored
  have gone : ∀ left, next.object key = some left → left.live = false := by
    intro left present
    rcases retired.touched with same | missing
    · rw [same, middleObject, Option.some.injEq] at present
      rw [← present]
      exact terminating
    · simp [missing] at present
  have apart : ∀ host ∈ httpso.hosts, ∀ held, ¬otherRoutes config state key host held := by
    intro host member held
    rw [← otherRoutes_congr others]
    exact otherRoutes_apart disjoint middleObject (by simpa using member) held
  simp only [Converged]
  rw [wantedRoutes_eq_otherRoutes gone, otherRoutes_congr retired.object,
    otherRoutes_congr others, retired.routes, table]
  by_cases wasLive : ∃ old, state.object key = some old ∧ old.live = true
  · rcases wasLive with ⟨old, present, live⟩
    have converged := steady.converged
    rw [Converged, wantedRoutes_eq_beside present live, own old present live] at converged
    exact converged.removeTargets apart
  · have wasGone : ∀ old, state.object key = some old → old.live = false := by
      intro old present
      simpa using fun live => wasLive ⟨old, present, live⟩
    have converged := steady.converged
    rw [Converged, wantedRoutes_eq_otherRoutes wasGone] at converged
    exact converged.removeTargets_of_apart apart

/-- The table after a live object has been reconciled. -/
theorem converged_iff_of_live (steady : Steady config state)
    (disjoint : middle.cluster.DisjointHosts)
    (others : ∀ other, other ≠ key → middle.object other = state.object other)
    (stored : middle.cluster.httpScaledObjects.lookup key = some httpso)
    (live : httpso.live = true) (table : middle.routingTable = state.routingTable)
    (routes : next.routingTable =
      middle.routingTable.addTargets httpso.hosts (targetOf config httpso))
    (object : next.object = middle.object) :
    Converged config next ↔
      ∀ old, state.object key = some old → old.live = true →
        old.hosts ⊆ httpso.hosts ∧
          (old.hosts = [] ∨ targetOf config httpso = targetOf config old) := by
  have middleObject : middle.object key = some httpso.essence :=
    State.object_of_lookup stored
  have nextObject : next.object key = some httpso.essence := object ▸ middleObject
  have apart : ∀ host ∈ httpso.hosts, ∀ held, ¬otherRoutes config state key host held := by
    intro host member held
    rw [← otherRoutes_congr others]
    exact otherRoutes_apart disjoint middleObject (by simpa using member) held
  have same : ∀ other, other ≠ key → next.object other = state.object other := by
    intro other differs
    rw [object]
    exact others other differs
  simp only [Converged]
  rw [wantedRoutes_eq_beside nextObject live, otherRoutes_congr same, routes, table]
  simp only [HTTPScaledObject.hosts_essence, HTTPScaledObject.targetOf_essence]
  have converged := steady.converged
  by_cases wasLive : ∃ old, state.object key = some old ∧ old.live = true
  · rcases wasLive with ⟨old, present, oldLive⟩
    rw [Converged, wantedRoutes_eq_beside present oldLive] at converged
    rw [represents_addTargets_iff converged
      (fun host member => otherRoutes_apart steady.disjoint present member) apart]
    constructor
    · intro kept other objectThere _
      rw [present, Option.some.injEq] at objectThere
      exact objectThere ▸ kept
    · intro kept
      exact kept old present oldLive
  · have fresh : Represents state.routingTable
        (Beside [] (targetOf config httpso) (otherRoutes config state key)) := by
      have wasGone : ∀ old, state.object key = some old → old.live = false := by
        intro old present
        simpa using fun live => wasLive ⟨old, present, live⟩
      rw [Converged, wantedRoutes_eq_otherRoutes wasGone] at converged
      intro host held
      simp [converged host held, Beside]
    rw [represents_addTargets_iff fresh (by simp) apart]
    simp only [List.nil_subset, true_or, and_self, true_iff]
    intro old present oldLive
    exact absurd ⟨old, present, oldLive⟩ wasLive

/-- What a change followed by its Reconcile amounts to. -/
theorem settle_inv (healthy : state.Healthy) (wellKeyed : state.WellKeyed) {change : Change}
    (settled : settle config state change = some next) :
    ∃ cluster result, state.cluster.change change = some cluster ∧ change.usesHosts = true ∧
      cluster.DisjointHosts ∧
      Settles config { state with cluster := cluster } change.key next result := by
  unfold settle at settled
  split at settled
  · simp at settled
  · next cluster changes =>
      split at settled
      · next allowed =>
          have settles := settles_of_noFaults config (healthy.change changes)
            (wellKeyed.change changes) change.key
          simp only at settled
          split at settled
          · simp at settled
          · simp only [Option.some.injEq] at settled
            exact ⟨cluster, _, changes, allowed.1, allowed.2, settled ▸ settles⟩
      · simp at settled

theorem live_of_delete {stored marked : HTTPScaledObject} (deletes : stored.delete = some marked) :
    marked.live = false ∧ marked.hosts = stored.hosts := by
  simp only [HTTPScaledObject.delete] at deletes
  split at deletes
  · simp at deletes
  · rw [← Option.some.inj deletes]
    exact ⟨rfl, rfl⟩

/-- A live object is marked by its deletion, and not removed at once. -/
theorem delete_of_live (steady : Steady config state) {stored : HTTPScaledObject}
    (found : state.cluster.httpScaledObjects.lookup key = some stored)
    (live : stored.live = true) : ∃ marked, stored.delete = some marked := by
  have object : state.object key = some stored.essence :=
    State.object_of_lookup found
  rcases steady.finalizers key _ object live with ⟨finalizers, nonempty, held⟩
  rw [State.finalizers, found, Option.map_some, Option.some.injEq] at held
  exact ⟨_, if_neg (held ▸ nonempty)⟩

section Settled

variable {cluster : Cluster} {result : Except Failure Unit} {stored : HTTPScaledObject}

theorem converged_iff_of_update (steady : Steady config state) {spec : HTTPScaledObjectSpec}
    (found : state.cluster.httpScaledObjects.lookup key = some stored)
    (uses : spec.usesHosts = true)
    (changes : state.cluster.change (.update key spec) = some cluster)
    (disjoint : cluster.DisjointHosts)
    (settles : Settles config { state with cluster := cluster } key next result) :
    Converged config next ↔ KeepsRoutes config state (.update key spec) := by
  have others := fun other (differs : other ≠ key) => (State.object_change changes differs).1
  have object : state.object key = some stored.essence := State.object_of_lookup found
  have updated : cluster.httpScaledObjects.lookup key = some { stored with spec := spec } := by
    rw [Cluster.lookup_change changes key]
    simp [Change.key, Change.outcome, found]
  cases live : stored.live with
  | true =>
      have single := HTTPScaledObject.UsesHosts.single
        (show HTTPScaledObject.UsesHosts { stored with spec := spec } from uses)
      rcases settles.routes_of_live updated live single with ⟨routes, sameObject⟩
      rw [steady.converged_iff_of_live disjoint others updated live rfl routes sameObject]
      simp only [KeepsRoutes, found, object, Option.mem_def, Option.some.injEq, forall_eq', live,
        HTTPScaledObject.live_essence, HTTPScaledObject.hosts_essence,
        HTTPScaledObject.targetOf_essence]
      exact Iff.rfl
  | false =>
      have retired := settles.retired_of_terminating updated live
      have converged : Converged config next := by
        apply steady.converged_of_retired disjoint others _ updated live rfl retired
        intro old present oldLive
        rw [object, Option.some.injEq] at present
        rw [← present, HTTPScaledObject.live_essence, live] at oldLive
        simp at oldLive
      simp [converged, KeepsRoutes, found, live]

theorem converged_of_delete (steady : Steady config state)
    (found : state.cluster.httpScaledObjects.lookup key = some stored)
    (changes : state.cluster.change (.delete key) = some cluster)
    (disjoint : cluster.DisjointHosts)
    (settles : Settles config { state with cluster := cluster } key next result) :
    Converged config next := by
  have others := fun other (differs : other ≠ key) => (State.object_change changes differs).1
  have object : state.object key = some stored.essence := State.object_of_lookup found
  have outcome : cluster.httpScaledObjects.lookup key = stored.delete := by
    rw [Cluster.lookup_change changes key]
    simp [Change.key, Change.outcome, found]
  cases deletes : stored.delete with
  | some marked =>
      have deleted := outcome.trans deletes
      rcases live_of_delete deletes with ⟨terminating, sameHosts⟩
      have retired := settles.retired_of_terminating deleted terminating
      apply steady.converged_of_retired disjoint others _ deleted terminating rfl retired
      intro old present _
      rw [object, Option.some.injEq] at present
      rw [← present, HTTPScaledObject.hosts_essence, sameHosts]
  | none =>
      have missing := outcome.trans deletes
      have gone : ∀ old, state.object key = some old → old.live = false := by
        intro old present
        rw [object, Option.some.injEq] at present
        rw [← present, HTTPScaledObject.live_essence]
        cases live : stored.live with
        | false => rfl
        | true =>
            rcases steady.delete_of_live found live with ⟨marked, marks⟩
            simp [deletes] at marks
      have converged := steady.converged
      rw [Converged, wantedRoutes_eq_otherRoutes gone, ← otherRoutes_congr others] at converged
      rw [settles.eq_of_absent missing, Converged, wantedRoutes_eq_otherRoutes]
      · exact converged
      · intro old present
        simp [State.object, missing] at present

end Settled

/-- One change and its Reconcile converge precisely if the change keeps the routes it finds. -/
theorem converged_iff (steady : Steady config state) {change : Change}
    (settled : settle config state change = some next) :
    Converged config next ↔ KeepsRoutes config state change := by
  rcases settle_inv steady.healthy steady.wellKeyed settled with
    ⟨cluster, result, changes, uses, disjoint, settles⟩
  rcases Cluster.exists_of_change changes with
    ⟨created, rfl, live, absent⟩ | ⟨stored, found, ⟨key, spec, rfl⟩ | ⟨key, rfl⟩⟩
  · have others := fun other (differs : other ≠ created.key) =>
      (State.object_change changes differs).1
    have outcome : cluster.httpScaledObjects.lookup created.key =
        some { created with conditions := [] } := by
      rw [Cluster.lookup_change changes created.key]
      exact if_pos rfl
    have single := HTTPScaledObject.UsesHosts.single
      (show HTTPScaledObject.UsesHosts { created with conditions := [] } from uses)
    rcases settles.routes_of_live outcome live single with ⟨routes, sameObject⟩
    rw [steady.converged_iff_of_live disjoint others outcome live rfl routes sameObject]
    simp only [Change.key] at absent
    simp [KeepsRoutes, State.object, absent]
  · exact steady.converged_iff_of_update found uses changes disjoint settles
  · have converged := steady.converged_of_delete found changes disjoint settles
    simp only [KeepsRoutes, iff_true]
    exact converged

theorem preserved (steady : Steady config state) {change : Change}
    (keeps : KeepsRoutes config state change) (settled : settle config state change = some next) :
    Steady config next := by
  have converged := (steady.converged_iff settled).mpr keeps
  rcases settle_inv steady.healthy steady.wellKeyed settled with
    ⟨cluster, result, changes, uses, disjoint, settles⟩
  have tidy := settles.tidy (steady.healthy.change changes) (steady.wellKeyed.change changes)
  refine ⟨tidy.healthy, tidy.wellKeyed, tidy.disjointHosts disjoint, ?_, converged⟩
  intro key httpso object live
  by_cases there : key = change.key
  · subst there
    exact tidy.kept httpso object live
  · rcases State.object_change changes there with ⟨sameObject, sameFinalizers⟩
    rw [tidy.object key there, sameObject] at object
    rw [tidy.finalizers key there, sameFinalizers]
    exact steady.finalizers key httpso object live

end Steady

/--
In every run of changes and their Reconciles: the table is the union of the routes of the live
objects after each Reconcile, if and only if no update of a live object drops one of its hosts,
or gives hosts it has kept another target.
-/
theorem converged_iff_keepsRoutes {config : Config} {history : List (Move State Change)}
    {state : State} (run : Run (StepOf (settle config)) State.initial history state) :
    (∀ move ∈ history, Converged config move.target) ↔
      ∀ move ∈ history, KeepsRoutes config move.source move.event :=
  run.forall_iff (fun move => Converged config move.target) (KeepsRoutes config)
    (Steady.initial config)
    (fun _ _ _ steady keeps settled => steady.preserved keeps settled)
    (fun _ _ _ steady settled => steady.converged_iff settled)

/-- An object is created, given a second host and deleted. -/
theorem converged_iff_keepsRoutes_grown : ∃ history state,
    Run (StepOf (settle sampleConfig)) State.initial history state ∧ history.length = 3 ∧
      ∀ move ∈ history, Converged sampleConfig move.target := by
  rcases Run.exists_of_record (settle sampleConfig) State.initial
    [.create (sampleObject "dp-a" "x" (sampleSpec "app" ["a"])),
      .update ⟨"dp-a", "x"⟩ (sampleSpec "app" ["a", "b"]), .delete ⟨"dp-a", "x"⟩]
    (fun made => made.1.length = 3 &&
      made.1.all fun move => KeepsRoutes sampleConfig move.source move.event) (by decide)
    with ⟨history, state, run, passed⟩
  simp only [Bool.and_eq_true, List.all_eq_true, decide_eq_true_eq] at passed
  exact ⟨history, state, run, passed.1, (converged_iff_keepsRoutes run).mpr passed.2⟩

/-- An object whose only host is replaced keeps the route of its former host. -/
theorem not_converged_of_replaced_host :
    ¬∀ (config : Config) (state : State),
      Reachable (StepOf (settle config)) State.initial state → Converged config state := by
  intro converges
  rcases Reachable.exists_of_record (settle sampleConfig) State.initial
    [.create (sampleObject "dp-a" "x" (sampleSpec "app" ["a"])),
      .update ⟨"dp-a", "x"⟩ (sampleSpec "app" ["b"])]
    (fun state => (state.routingTable.m.lookup "a").isSome &&
      decide (∀ key ∈ state.cluster.httpScaledObjects.keys, "a" ∉ state.cluster.namedHosts key))
    (by decide) with ⟨state, reachable, passed⟩
  simp only [Bool.and_eq_true, decide_eq_true_eq, Option.isSome_iff_exists] at passed
  rcases passed with ⟨⟨target, held⟩, unnamed⟩
  rcases (converges sampleConfig state reachable "a" target).mp held with
    ⟨key, httpso, found, _, member, _⟩
  apply unnamed key (Finmap.mem_keys.mpr (Finmap.mem_of_lookup_eq_some found))
  simp only [Cluster.namedHosts, found, Option.map_some, Option.getD_some]
  exact List.mem_append_left _ member

end Settling

end KedaHttp.Operator
