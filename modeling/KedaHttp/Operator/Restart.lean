import KedaHttp.Operator.System

/-!
# Published routes and restarts of the operator

The operator starts with an empty table and never reads the published one back, although every
Reconcile that changes a route publishes the whole table in memory. As long as a process has
published before, its table in memory is the published one, and a Reconcile only touches hosts
of the object it is about. The first publication of a process, however, drops everything that was
published before it started.

All calls succeed here, and no host is named by two objects.
-/

namespace KedaHttp.Operator

open KedaHttp.Foundation
open KedaHttp.Routing

/-- The system, and whether the running process has published its table yet. -/
structure Tenure where
  system : System
  hasPublished : Bool
  deriving DecidableEq

namespace Tenure

def initial : Tenure := ⟨.initial, false⟩

/-- A Reconcile publishes if it finds an object under deletion or one it accepts. -/
def publishes (client : Client) (tenure : Tenure) (key : ObjectKey) : Bool :=
  (tenure.system.operator.cluster.httpScaledObjects.lookup key).any
    (HTTPScaledObject.publishes client)

def published (tenure : Tenure) (host : String) : Prop :=
  ∃ table, tenure.system.operator.published = some table ∧ host ∈ table.m

/-- A process that has panicked has not published since it started again. -/
def hasPublishedAfter (config : Config) (tenure : Tenure) : CalmEvent → Bool
  | .change _ => tenure.hasPublished
  | .reconcile key =>
      match (reconcile config noFaults noFaults tenure.system.operator key).2.result with
      | .error (.panic _) => false
      | _ => tenure.hasPublished || tenure.publishes config.client key
  | .restart => false

def step (config : Config) (tenure : Tenure) (event : CalmEvent) : Option Tenure :=
  match calmStep config tenure.system event with
  | none => none
  | some system =>
      if system.operator.cluster.DisjointHosts then
        some ⟨system, tenure.hasPublishedAfter config event⟩
      else none

/-- The hosts of the live objects, other than the given one, that were reconciled before. -/
def hostOfOther (tenure : Tenure) (key : ObjectKey) (host : String) : Prop :=
  ∃ owner httpso, owner ≠ key ∧
    tenure.system.operator.cluster.httpScaledObjects.lookup owner = some httpso ∧
    httpso.live = true ∧ owner ∈ tenure.system.reconciled ∧ host ∈ httpso.namedHosts

/-- A Reconcile removes no published host of another live object that was reconciled before. -/
def Retains (move : Move Tenure CalmEvent) : Prop :=
  match move.event with
  | .reconcile key => ∀ host, move.source.hostOfOther key host →
      move.source.published host → move.target.published host
  | .change _ | .restart => True

/-- The first publication of a process finds no published host of another object. -/
def StartsAlone (client : Client) (source : Tenure) : CalmEvent → Prop
  | .reconcile key => source.hasPublished = false → source.publishes client key = true →
      ∀ host, source.hostOfOther key host → ¬source.published host
  | .change _ | .restart => True

/-- Until the running process publishes, its table is empty. -/
structure Sound (tenure : Tenure) : Prop where
  healthy : tenure.system.operator.Healthy
  wellKeyed : tenure.system.operator.WellKeyed
  disjoint : tenure.system.operator.cluster.DisjointHosts
  table : if tenure.hasPublished then
      tenure.system.operator.published = some tenure.system.operator.routingTable
    else tenure.system.operator.routingTable = newTable

namespace Sound

variable {config : Config} {tenure next : Tenure} {key : ObjectKey}

theorem initial : Sound Tenure.initial where
  healthy := State.initial_healthy
  wellKeyed := State.initial_wellKeyed
  disjoint := by
    intro key present
    simp [Tenure.initial, System.initial, State.initial] at present
  table := rfl

theorem reconcile_inv (sound : Sound tenure)
    (stepped : step config tenure (.reconcile key) = some next) :
    ∃ after result, Settles config tenure.system.operator key after result ∧
      next.system.operator = after.survive result ∧ next.system.operator.cluster.DisjointHosts ∧
      next.hasPublished = match result with
        | .error (.panic _) => false
        | _ => tenure.hasPublished || tenure.publishes config.client key := by
  have settles := settles_of_noFaults config sound.healthy sound.wellKeyed key
  simp only [step, calmStep, Operator.step] at stepped
  split at stepped
  · next disjoint =>
      simp only [Option.some.injEq] at stepped
      subst stepped
      exact ⟨_, _, settles, rfl, disjoint, rfl⟩
  · simp at stepped

/-- The hosts of other objects are not affected by what a Reconcile does for its own object. -/
theorem notMem_of_hostOfOther (sound : Sound tenure) {httpso : HTTPScaledObject}
    (stored : tenure.system.operator.cluster.httpScaledObjects.lookup key = some httpso)
    {host : String} (foreign : tenure.hostOfOther key host) : host ∉ httpso.namedHosts := by
  rcases foreign with ⟨owner, other, differs, found, _, _, member⟩
  have object : tenure.system.operator.object key = some httpso.essence :=
    State.object_of_lookup stored
  have otherObject : tenure.system.operator.object owner = some other.essence :=
    State.object_of_lookup found
  have apart := sound.disjoint.notMem differs otherObject object (by simpa using member)
  simpa using apart

/-- A Reconcile that publishes leaves of the other objects' hosts those of its own memory. -/
theorem published_iff_of_publishes (sound : Sound tenure)
    {after : State} {result : Except Failure Unit}
    (settles : Settles config tenure.system.operator key after result)
    (publishes : tenure.publishes config.client key = true) {host : String}
    (foreign : tenure.hostOfOther key host) :
    (∃ table, after.published = some table ∧ host ∈ table.m) ↔
      host ∈ tenure.system.operator.routingTable.m := by
  cases settles with
  | absent missing _ => simp [Tenure.publishes, missing] at publishes
  | rejected stored live rejects _ _ _ =>
      simp [Tenure.publishes, HTTPScaledObject.publishes, stored, live, rejects] at publishes
  | @retired httpso _ _ stored _ retired =>
      have apart : host ∉ httpso.hosts := fun member =>
        sound.notMem_of_hostOfOther stored foreign (List.mem_append_left _ member)
      simp [retired.published, retired.routes, ← Finmap.lookup_isSome,
        Table.lookup_removeTargets, apart]
  | @accepted httpso hosts _ stored _ accepts routed =>
      have apart : host ∉ hosts := fun member =>
        sound.notMem_of_hostOfOther stored foreign
          (HTTPScaledObject.mem_namedHosts_of_sanitized accepts member)
      simp [routed.published, routed.routes, ← Finmap.lookup_isSome, Table.lookup_addTargets,
        apart]

/-- A Reconcile that does not publish changes neither table. -/
theorem same_of_not_publishes {after : State} {result : Except Failure Unit}
    (settles : Settles config tenure.system.operator key after result)
    (quiet : tenure.publishes config.client key = false) :
    after.published = tenure.system.operator.published ∧
      after.routingTable = tenure.system.operator.routingTable ∧
      ∀ value, result ≠ .error (.panic value) := by
  cases settles with
  | absent _ returns => exact ⟨rfl, rfl, returns⟩
  | rejected _ _ _ same _ _ =>
      refine ⟨?_, same.routingTable, by simp⟩
      rw [State.published, same.routingConfigMap]
      rfl
  | retired stored terminating _ => 
      simp [Tenure.publishes, HTTPScaledObject.publishes, stored, terminating] at quiet
  | accepted stored live accepts _ => 
      simp [Tenure.publishes, HTTPScaledObject.publishes, stored, accepts] at quiet

/-- After a Reconcile that publishes, both tables are the same. -/
theorem published_of_publishes {after : State} {result : Except Failure Unit}
    (settles : Settles config tenure.system.operator key after result)
    (publishes : tenure.publishes config.client key = true) :
    after.published = some after.routingTable := by
  cases settles with
  | absent missing _ => simp [Tenure.publishes, missing] at publishes
  | rejected stored live rejects _ _ _ =>
      simp [Tenure.publishes, HTTPScaledObject.publishes, stored, live, rejects] at publishes
  | retired _ _ retired => exact retired.published
  | accepted _ _ _ routed => exact routed.published

theorem published_survive {after : State} {result : Except Failure Unit}
    (operator : next.system.operator = after.survive result) (host : String) :
    next.published host ↔ ∃ table, after.published = some table ∧ host ∈ table.m := by
  rw [Tenure.published, operator, State.published, State.cluster_survive]
  exact Iff.rfl

/-- A single step loses a host exactly when it is the first publication of a process. -/
theorem retains_iff (sound : Sound tenure) {event : CalmEvent}
    (stepped : step config tenure event = some next) :
    Retains ⟨tenure, event, next⟩ ↔ StartsAlone config.client tenure event := by
  cases event with
  | change | restart => exact Iff.rfl
  | reconcile key =>
      rcases sound.reconcile_inv stepped with ⟨after, result, settles, operator, _, _⟩
      simp only [Retains, StartsAlone, published_survive operator]
      cases publishes : tenure.publishes config.client key with
      | false =>
          rcases same_of_not_publishes settles publishes with ⟨same, _, _⟩
          simp only [Bool.false_eq_true, false_imp_iff, implies_true, iff_true]
          intro host _ held
          rw [same]
          exact held
      | true =>
          have table := sound.table
          cases hasPublished : tenure.hasPublished with
          | true =>
              simp only [hasPublished, if_true] at table
              simp only [Bool.true_eq_false, false_imp_iff, iff_true]
              intro host foreign held
              rw [sound.published_iff_of_publishes settles publishes foreign]
              rcases held with ⟨published, present, member⟩
              rw [table, Option.some.injEq] at present
              exact present ▸ member
          | false =>
              simp only [hasPublished, Bool.false_eq_true, if_false] at table
              simp only [forall_const]
              constructor
              · intro retains host foreign held
                have kept := retains host foreign held
                rw [sound.published_iff_of_publishes settles publishes foreign, table] at kept
                exact Finmap.notMem_empty kept
              · intro alone host foreign held
                exact absurd held (alone host foreign)

theorem preserved (sound : Sound tenure) {event : CalmEvent}
    (stepped : step config tenure event = some next) : Sound next := by
  cases event with
  | change change =>
      simp only [step, calmStep, Operator.step] at stepped
      split at stepped
      · simp at stepped
      · next system changed =>
          rcases Option.map_eq_some_iff.mp changed with ⟨cluster, changes, rfl⟩
          split at stepped
          · next disjoint =>
              simp only [Option.some.injEq] at stepped
              subst stepped
              refine ⟨sound.healthy.change changes, sound.wellKeyed.change changes, disjoint, ?_⟩
              have table := sound.table
              rw [State.published, ← (Cluster.resources_change changes).2] at table
              exact table
          · simp at stepped
  | restart =>
      simp only [step, calmStep, Operator.step] at stepped
      split at stepped
      · next disjoint =>
          simp only [Option.some.injEq] at stepped
          subst stepped
          exact ⟨sound.healthy, sound.wellKeyed, disjoint, rfl⟩
      · simp at stepped
  | reconcile key =>
      rcases sound.reconcile_inv stepped with
        ⟨after, result, settles, operator, disjoint, hasPublished⟩
      have tidy := settles.tidy sound.healthy sound.wellKeyed
      have cluster : next.system.operator.cluster = after.cluster := by
        rw [operator, State.cluster_survive]
      refine ⟨?_, ?_, disjoint, ?_⟩
      · rw [State.Healthy, cluster]
        exact tidy.healthy
      · rw [State.WellKeyed, cluster]
        exact tidy.wellKeyed
      · by_cases panics : ∃ value, result = .error (.panic value)
        · rcases panics with ⟨value, rfl⟩
          simp only at hasPublished
          rw [hasPublished, operator]
          rfl
        · have returns : ∀ value, result ≠ .error (.panic value) := by
            simpa using panics
          have remembered : next.hasPublished =
              (tenure.hasPublished || tenure.publishes config.client key) := by
            rw [hasPublished]
            split
            · next value => exact absurd rfl (returns value)
            · rfl
          rw [operator, State.survive_of_returned after returns, remembered]
          cases publishes : tenure.publishes config.client key with
          | true => simpa using published_of_publishes settles publishes
          | false =>
              rcases same_of_not_publishes settles publishes with ⟨samePublished, sameTable, _⟩
              rw [samePublished, sameTable, Bool.or_false]
              exact sound.table

end Sound

/--
In every run without faults, with restarts at any point: no Reconcile removes a published host of
another live object that was reconciled before, if and only if the first Reconcile to publish
after each start finds no such host published.
-/
theorem retains_iff_startsAlone {config : Config} {history : List (Move Tenure CalmEvent)}
    {tenure : Tenure} (run : Run (StepOf (step config)) Tenure.initial history tenure) :
    (∀ move ∈ history, Retains move) ↔
      ∀ move ∈ history, StartsAlone config.client move.source move.event :=
  run.forall_iff Retains (StartsAlone config.client) Sound.initial
    (fun _ _ _ sound _ stepped => sound.preserved stepped)
    (fun _ _ _ sound stepped => sound.retains_iff stepped)

theorem startsAlone_of_subset {client : Client} {source : Tenure} {key : ObjectKey}
    (alone : source.hasPublished = true ∨ source.system.reconciled ⊆ {key}) :
    StartsAlone client source (.reconcile key) := by
  intro fresh _ host foreign
  rcases foreign with ⟨owner, _, differs, _, _, recorded, _⟩
  rcases alone with published | only
  · simp [published] at fresh
  · exact absurd (Finset.mem_singleton.mp (only recorded)) differs

/-- An object is reconciled again after a restart, before a second object is created. -/
theorem retains_iff_startsAlone_restarted : ∃ history tenure,
    Run (StepOf (step sampleConfig)) Tenure.initial history tenure ∧
      (∃ move ∈ history, move.event = .restart) ∧ ∀ move ∈ history, Retains move := by
  rcases Run.exists_of_record (step sampleConfig) Tenure.initial
    [.change (.create (sampleObject "dp-a" "y" (sampleSpec "app" ["a"]))),
      .reconcile ⟨"dp-a", "y"⟩, .restart, .reconcile ⟨"dp-a", "y"⟩,
      .change (.create (sampleObject "dp-b" "x" (sampleSpec "other" ["b"]))),
      .reconcile ⟨"dp-b", "x"⟩]
    (fun made => (made.1.any fun move => move.event = .restart) &&
      made.1.all fun move =>
        match move.event with
        | .reconcile key => move.source.hasPublished = true ∨ move.source.system.reconciled ⊆ {key}
        | _ => true) (by decide)
    with ⟨history, tenure, run, passed⟩
  simp only [Bool.and_eq_true, List.any_eq_true, List.all_eq_true, decide_eq_true_eq] at passed
  refine ⟨history, tenure, run, passed.1, (retains_iff_startsAlone run).mpr ?_⟩
  intro move member
  have alone := passed.2 move member
  cases event : move.event with
  | change | restart => trivial
  | reconcile key =>
      rw [event] at alone
      exact startsAlone_of_subset (by simpa using alone)

/-- The first object reconciled after a restart wipes the published route of the other. -/
theorem not_retains_after_restart :
    ¬∀ (config : Config) (tenure next : Tenure) (key : ObjectKey),
      Reachable (StepOf (step config)) Tenure.initial tenure →
        step config tenure (.reconcile key) = some next →
          ∀ host, tenure.hostOfOther key host → tenure.published host → next.published host := by
  intro retains
  rcases Reachable.exists_of_record (step sampleConfig) Tenure.initial
    [.change (.create (sampleObject "dp-a" "y" (sampleSpec "app" ["a"]))),
      .reconcile ⟨"dp-a", "y"⟩,
      .change (.create (sampleObject "dp-b" "x" (sampleSpec "other" ["b"]))), .restart]
    (fun tenure =>
      decide ((⟨"dp-a", "y"⟩ : ObjectKey) ∈ tenure.system.reconciled) &&
      ((tenure.system.operator.cluster.httpScaledObjects.lookup
        (⟨"dp-a", "y"⟩ : ObjectKey)).any fun httpso : HTTPScaledObject =>
          httpso.live && decide ("a" ∈ httpso.namedHosts)) &&
      (tenure.system.operator.published.any fun table : Table => decide ("a" ∈ table.m)) &&
      ((step sampleConfig tenure (.reconcile ⟨"dp-b", "x"⟩)).any fun next : Tenure =>
        next.system.operator.published.all fun table : Table => decide ("a" ∉ table.m)))
    (by decide) with ⟨tenure, reachable, passed⟩
  simp only [Bool.and_eq_true, decide_eq_true_eq, Option.any_eq_true, Option.all_eq_true] at passed
  rcases passed with ⟨⟨⟨recorded, httpso, found, live, member⟩, published⟩, next, stepped, wiped⟩
  have foreign : tenure.hostOfOther ⟨"dp-b", "x"⟩ "a" :=
    ⟨⟨"dp-a", "y"⟩, httpso, by decide, found, live, recorded, member⟩
  rcases retains sampleConfig tenure next ⟨"dp-b", "x"⟩ reachable stepped "a" foreign published with
    ⟨table, present, held⟩
  exact wiped table present held

end Tenure

end KedaHttp.Operator
