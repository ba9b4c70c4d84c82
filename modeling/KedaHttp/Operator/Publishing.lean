import KedaHttp.Operator.System

/-!
# Memory and ConfigMap

The two functions that change routes, `addAndUpdateRoutingTable` and
`removeAndUpdateRoutingTable`, change the table in memory first and publish it afterwards. When
the ConfigMap cannot be fetched or patched, memory and ConfigMap drift apart, and a restart of the
process empties the memory only. What a call sends is the difference between the ConfigMap it has
fetched and one that holds its whole table, so that the next call that succeeds makes good for all
calls that failed before.
-/

namespace KedaHttp.Operator

open KedaHttp.Foundation
open KedaHttp.Routing

/-- A call that changes routes, with the errors it meets on its way. -/
inductive TableCall where
  | add (hosts : List String) (target : Target) (faults : Faults)
  | remove (hosts : List String) (faults : Faults)

def TableCall.run (state : State) : TableCall → State × Except Failure Unit
  | add hosts target faults => addAndUpdateRoutingTable faults state hosts target
  | remove hosts faults => removeAndUpdateRoutingTable faults state hosts

inductive TableEvent where
  | call (call : TableCall)
  | restart

def tableStep (state : State) : TableEvent → Option State
  | .call call => some ((call.run state).1.survive (call.run state).2)
  | .restart => some { state with routingTable := newTable }

theorem TableCall.run_eq (state : State) (call : TableCall) :
    ∃ faults table,
      call.run state = updateRoutingMap faults { state with routingTable := table } := by
  cases call with
  | add hosts target faults => exact ⟨faults, state.routingTable.addTargets hosts target, rfl⟩
  | remove hosts faults => exact ⟨faults, state.routingTable.removeTargets hosts, rfl⟩

/-- A call publishes its table, or leaves the ConfigMap alone and fails. -/
theorem TableCall.publishes {state : State} (healthy : state.Healthy) (call : TableCall) :
    (call.run state).1.Healthy ∧
      ((call.run state).2 = .ok () →
        (call.run state).1.published = some (call.run state).1.routingTable) := by
  rcases call.run_eq state with ⟨faults, table, same⟩
  rw [same, updateRoutingMap_eq]
  have changedHealthy : ({ state with routingTable := table } : State).Healthy := healthy
  split
  · exact ⟨changedHealthy, by simp⟩
  · rcases SameResources.published_of_publish changedHealthy ⟨rfl, rfl, rfl⟩ with
      ⟨published, stillHealthy⟩
    exact ⟨stillHealthy, fun _ => published⟩

theorem State.Healthy.tableStep {state next : State} (healthy : state.Healthy)
    {event : TableEvent} (stepped : tableStep state event = some next) : next.Healthy := by
  cases event with
  | call call =>
      rw [← Option.some.inj stepped]
      exact (call.publishes healthy).1.of_configMap (by rw [State.cluster_survive])
  | restart =>
      rw [← Option.some.inj stepped]
      exact healthy

theorem TableCall.fetchTable {state next : State} (healthy : state.Healthy) {call : TableCall}
    (stepped : tableStep state (.call call) = some next) (returned : (call.run state).2 = .ok ()) :
    ∃ configMap, next.cluster.routingConfigMap = some configMap ∧
      fetchTableFromConfigMap configMap = .ok next.routingTable := by
  have published := (call.publishes healthy).2 returned
  have same : (call.run state).1 = next := by
    rw [← Option.some.inj stepped, returned]
    rfl
  rw [same] at published
  rcases Option.bind_eq_some_iff.mp published with ⟨configMap, stored, decodes⟩
  refine ⟨configMap, stored, ?_⟩
  cases fetched : fetchTableFromConfigMap configMap with
  | error err => simp [fetched, Except.toOption] at decodes
  | ok table => simpa [fetched, Except.toOption] using decodes

/--
In every run of calls that change routes, with failing requests and restarts, and whatever the
ConfigMap held at the start: whenever a call returns without error, the ConfigMap holds the table
that the operator has in memory.
-/
theorem fetchTable_of_returned {start state : State} (healthy : start.Healthy)
    {history : List (Move State TableEvent)} (run : Run (StepOf tableStep) start history state) :
    ∀ move ∈ history, ∀ call, move.event = .call call → (call.run move.source).2 = .ok () →
      ∃ configMap, move.target.cluster.routingConfigMap = some configMap ∧
        fetchTableFromConfigMap configMap = .ok move.target.routingTable := by
  intro move member call called returned
  rcases run.mem_history member with ⟨reachable, stepped⟩
  have sourceHealthy : move.source.Healthy :=
    reachable.invariant healthy fun _ _ _ healthy stepped => healthy.tableStep stepped
  rw [called] at stepped
  exact call.fetchTable sourceHealthy stepped returned

/-- The patch of one call fails, the process restarts, and a later call publishes what it has. -/
theorem fetchTable_of_returned_restarted : ∃ state configMap,
    Reachable (StepOf tableStep) State.initial state ∧
      state.routingTable.hasHost "a" = false ∧ state.routingTable.hasHost "b" = true ∧
      state.cluster.routingConfigMap = some configMap ∧
      fetchTableFromConfigMap configMap = .ok state.routingTable := by
  let target := targetOf sampleConfig (sampleObject "dp-a" "x" (sampleSpec "app" ["a"]))
  let refused : Faults := fun call =>
    if call = .patchConfigMap then some ⟨.other, "timeout"⟩ else none
  let last : TableCall := .add ["b"] target noFaults
  rcases Run.exists_of_record tableStep State.initial
    [.call (.add ["a"] target noFaults), .call (.remove ["a"] refused), .restart]
    (fun made => (last.run made.2).2.toBool && !(last.run made.2).1.routingTable.hasHost "a" &&
      (last.run made.2).1.routingTable.hasHost "b") (by decide)
    with ⟨history, state, run, passed⟩
  simp only [Bool.and_eq_true, Bool.not_eq_true'] at passed
  rcases passed with ⟨⟨returns, absent⟩, present⟩
  have returned : (last.run state).2 = .ok () := by
    cases result : (last.run state).2 with
    | error failure => simp [result, Except.toBool] at returns
    | ok => rfl
  have stepped : tableStep state (.call last) = some (last.run state).1 := by
    simp only [tableStep, returned]
    rfl
  have extended := run.move stepped
  rcases fetchTable_of_returned State.initial_healthy extended _ List.mem_cons_self last rfl
    returned with ⟨configMap, stored, fetched⟩
  exact ⟨_, configMap, ⟨_, extended⟩, absent, present, stored, fetched⟩

end KedaHttp.Operator
