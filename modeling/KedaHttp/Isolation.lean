import KedaHttp.Interceptor.Forwarding
import KedaHttp.Operator.Entries

/-!
# Isolation of user namespaces

The interceptor looks up a request from a user namespace under a key that ends with this
namespace. The operator registers the hosts of an object as they are written in its spec, with a
target in the object's own namespace, and never compares the two. So callers reach no other
namespace as long as no object registers a key that ends with another user namespace than its own,
and a single object that does is enough to draw the callers of that namespace into its own.
-/

namespace KedaHttp.Isolation

open KedaHttp.Foundation
open KedaHttp.Routing
open KedaHttp.Interceptor
open KedaHttp.Operator

/-- With the table published in this state, requests stay within user namespaces. -/
def PublishesIsolated (system : System) : Prop :=
  ∀ table, system.operator.published = some table → Isolated table

/--
A live object that is accepted has no unregistered host that is a key of another user namespace
than the object's own.
-/
def RegistersOwn (client : Client) (source : System) : Event → Prop
  | .reconcile key _ _ => ∀ httpso hosts,
      source.operator.cluster.httpScaledObjects.lookup key = some httpso → httpso.live = true →
      httpso.sanitizedHosts client = some hosts → ∀ host ∈ hosts,
      host ∉ source.operator.routingTable.m →
      ∀ service ns, UserKey host service ns → httpso.ns = ns
  | .change _ | .restart => True

theorem registersOwn_iff (config : Config) (source : System) (key : ObjectKey)
    (faults cleanupFaults : Faults) :
    RegistersOwn config.client source (.reconcile key faults cleanupFaults) ↔
      RegistersOnly config OwnNamespace source.operator key :=
  Iff.rfl

/-- The ConfigMap stays intact in all runs, whatever they register. -/
theorem healthy_of_reachable {config : Config} {system : System}
    (reachable : Reachable (StepOf (step config)) System.initial system) :
    EveryRoute (fun _ _ => True) system.operator ∧ system.operator.WellKeyed := by
  apply reachable.invariant
  · exact ⟨.initial, State.initial_wellKeyed⟩
  · rintro source event target ⟨every, wellKeyed⟩ stepped
    refine ⟨every.preserved ?_ stepped, wellKeyed.preserved stepped⟩
    intro key _ _ _ httpso hosts _ _ _ host _ _
    trivial

theorem everyRoute_of_registersOwn {config : Config} {history : List (Move System Event)}
    {system : System} (run : Run (StepOf (step config)) System.initial history system)
    (registers : ∀ move ∈ history, RegistersOwn config.client move.source move.event) :
    ∀ move ∈ history, EveryRoute OwnNamespace move.target.operator := by
  refine run.targets_of_condition (fun system => EveryRoute OwnNamespace system.operator)
    (RegistersOwn config.client) .initial ?_ registers
  intro source event target every registersHere stepped
  refine every.preserved ?_ stepped
  rintro key faults cleanupFaults rfl
  exact registersHere

/--
In every run of the operator, with faults, clean-ups and restarts: if all Reconciles register only
keys of the own namespace, then no published table lets a request from a user namespace through
to another namespace. And a Reconcile in which every call succeeds leaves such a table only if it
registers only keys of the own namespace.
-/
theorem publishesIsolated_of_registersOwn {config : Config} {history : List (Move System Event)}
    {system : System} (run : Run (StepOf (step config)) System.initial history system) :
    ((∀ move ∈ history, RegistersOwn config.client move.source move.event) →
      ∀ move ∈ history, PublishesIsolated move.target) ∧
    ∀ move ∈ history, ∀ key, move.event = .reconcile key noFaults noFaults →
      PublishesIsolated move.target → RegistersOwn config.client move.source move.event := by
  constructor
  · intro registers move member table published
    have every := everyRoute_of_registersOwn run registers move member
    exact (isolated_iff_every table).mpr (every.published table published)
  · intro move member key event isolated
    rcases run.mem_history member with ⟨reachable, stepped⟩
    rcases healthy_of_reachable reachable with ⟨every, wellKeyed⟩
    rw [event] at stepped ⊢
    rw [registersOwn_iff config]
    refine registersOnly_of_published every.healthy wellKeyed ?_
    intro table published
    apply (isolated_iff_every table).mp
    apply isolated
    rw [← Option.some.inj stepped, State.published, State.cluster_survive]
    exact published

/-- One object registers a key of its own namespace and a host that is no key of any. -/
theorem publishesIsolated_of_registersOwn_local : ∃ history system,
    Run (StepOf (step sampleConfig)) System.initial history system ∧
      (system.operator.published.any fun table => table.hasHost "svc.dp-a") = true ∧
      ∀ move ∈ history, PublishesIsolated move.target := by
  rcases Run.exists_of_record (step sampleConfig) System.initial
    [.change (.create (sampleObject "dp-a" "x" (sampleSpec "app" ["svc.dp-a", "example.com"]))),
      .reconcile ⟨"dp-a", "x"⟩ noFaults noFaults]
    (fun made => (made.2.operator.published.any fun table => table.hasHost "svc.dp-a") &&
      made.1.all fun move : Move System Event =>
        match move.event with
        | .reconcile key _ _ =>
            (move.source.operator.cluster.httpScaledObjects.lookup key).all
              fun httpso : HTTPScaledObject =>
                decide (httpso.ns = "dp-a") &&
                  (httpso.sanitizedHosts sampleConfig.client).all fun hosts : List String =>
                    decide (hosts ⊆ ["svc.dp-a", "example.com"])
        | _ => true) (by decide)
    with ⟨history, system, run, passed⟩
  simp only [Bool.and_eq_true, List.all_eq_true] at passed
  refine ⟨history, system, run, passed.1, (publishesIsolated_of_registersOwn run).1 ?_⟩
  intro move member
  have modest := passed.2 move member
  cases event : move.event with
  | change | restart => trivial
  | reconcile key faults cleanupFaults =>
      intro httpso hosts stored _ accepts host hostMem _ service ns userKey
      simp only [event, stored, accepts, Option.all_some, Bool.and_eq_true, decide_eq_true_eq]
        at modest
      rw [modest.1]
      have labels := userKey.split_eq
      rcases List.mem_pair.mp (modest.2 hostMem) with rfl | rfl
      · have parts : split '.' "svc.dp-a" = ["svc", "dp-a"] := by decide
        simp_all
      · have user := userKey.user
        have parts : split '.' "example.com" = ["example", "com"] := by decide
        rw [parts, List.cons.injEq, List.cons.injEq] at labels
        rw [← labels.2.1] at user
        exact absurd user (by decide)

/-- An object in `dp-a` takes over the requests of callers in `dp-b` to their own service. -/
theorem not_publishesIsolated_of_foreign_host :
    ¬∀ (config : Config) (system : System),
      Reachable (StepOf (step config)) System.initial system → PublishesIsolated system := by
  intro isolated
  rcases Reachable.exists_of_record (step sampleConfig) System.initial
    [.change (.create (sampleObject "dp-a" "x" (sampleSpec "app" ["svc.dp-b"]))),
      .reconcile ⟨"dp-a", "x"⟩ noFaults noFaults]
    (fun system => system.operator.published.any fun table : Table =>
      decide (newForwardingHandler (fun text => .ok text)
        (fun _ => .ok ["10-0-0-1.app.dp-b.svc.cluster.local."]) table (fun _ _ => .ok 1)
        (serviceURL fun text => .ok text) ⟨"10.0.0.1:4711", "svc"⟩ =
          .forward ⟨"svc", 8080, "app", "dp-a", 100⟩ "http://svc.dp-a:8080" "false"))
    (by decide) with ⟨system, reachable, passed⟩
  simp only [Option.any_eq_true, decide_eq_true_eq] at passed
  rcases passed with ⟨table, published, forwards⟩
  have same := isolated sampleConfig system reachable table published _ _ _ _ _ _ "dp-b" _ _ _
    (by decide) (by decide) (by decide) forwards
  exact absurd same (by decide)

end KedaHttp.Isolation
