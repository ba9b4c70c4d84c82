import KedaHttp.Interceptor.Counting

/-!
# Postponed resizes

With postponement enabled a host keeps one unit of its count after its last request has
finished, until the enforcer resets the host. As long as that happens only to hosts that are
idle, the count of a host is the number of its requests in flight plus the retained unit, and a
unit is retained precisely for the hosts with a postponed entry.

The deferred function reads the count and acts on it in separate steps. No schedule lets two
requests of one host into the postpone branch, because a request that reads a count of 1 is the
only one in flight and nothing is retained, and because later readers find at least itself
besides. The invariant `Balanced` records this.

The enforcer drops the lock between its scan and its writes. The host it resets may have
received requests in the meantime, whose units are then lost. `CollectedUntouched` is the
condition under which this does not happen, and it turns out to be exact.
-/

namespace KedaHttp.Interceptor.Counting

open KedaHttp.Foundation KedaHttp.Queue

namespace State

/-- The unit of its count that a host keeps while its last resize is postponed. -/
def retained (state : State) (host : String) : ℕ :=
  if host ∈ state.queue.postponedResizes then 1 else 0

/-- No host counts fewer requests than it has in flight. -/
def Covered (state : State) : Prop :=
  ∀ host, (state.inFlight host : Int) ≤ state.queue.count host

end State

/-- What every reachable state satisfies as long as only idle hosts are reset. -/
structure Balanced (state : State) : Prop where
  counts : ∀ host, state.queue.count host = state.inFlight host + state.retained host
  single : ∀ host,
    state.requests.countP (Phase.postponingFor host) + state.retained host ≤ 1
  collected : ∀ hosts, state.collected = some hosts → ∀ host ∈ hosts, state.retained host = 1

/-- Applying a pass finds the count of every collected host as the scan has left it. -/
def CollectedUntouched (state : State) : Event → Prop
  | .applyCollected => ∀ host ∈ state.collected.getD [], state.queue.count host = 1
  | .arrive _ _ | .act _ _ | .scan _ _ => True

instance (state : State) : (event : Event) → Decidable (CollectedUntouched state event)
  | .applyCollected =>
      inferInstanceAs (Decidable (∀ host ∈ state.collected.getD [], state.queue.count host = 1))
  | .arrive _ _ | .act _ _ | .scan _ _ => .isTrue trivial

namespace Balanced

theorem initial (postponeDuration : Time) (shouldPostpone : Bool) :
    Balanced (State.initial postponeDuration shouldPostpone) where
  counts := by
    simp [State.initial, State.inFlight, State.retained, newMemory, Memory.count,
      Finmap.notMem_empty]
  single := by simp [State.initial, State.retained, newMemory, Finmap.notMem_empty]
  collected := by simp [State.initial]

variable {state next : State}

theorem covered (balanced : Balanced state) : state.Covered := by
  intro host
  have count := balanced.counts host
  omega

theorem ledger (balanced : Balanced state) (host : String) :
    Ledger state host (state.retained host) :=
  ⟨balanced.counts host, balanced.single host⟩

theorem arrive (balanced : Balanced state) (lookupAddr : LookupAddr) (request : Request) :
    Balanced { state with requests := state.requests ++ [receive lookupAddr request] } where
  counts := fun host => ((balanced.ledger host).arrive lookupAddr request).count
  single := fun host => ((balanced.ledger host).arrive lookupAddr request).single
  collected := balanced.collected

/-- A request completing through the postpone branch is the one that retains the unit. -/
theorem retained_act {index : ℕ} {phase phase' : Phase} {action : Action} {queue : Memory}
    (balanced : Balanced state) (found : state.requests[index]? = some phase)
    (advances : Advances state.queue phase action queue phase') (host : String) :
    ({ state with queue := queue, requests := state.requests.set index phase' } : State).retained
        host = state.retained host + (phase.postponingFor host).toNat := by
  have single := balanced.single host
  have entries := advances.mem_postponedResizes host
  cases postponing : phase.postponingFor host with
  | false =>
      rw [postponing] at entries
      simp [State.retained, entries]
  | true =>
      have positive : 0 < state.requests.countP (Phase.postponingFor host) :=
        List.countP_pos_iff.mpr ⟨phase, List.mem_of_getElem? found, postponing⟩
      have nothing : state.retained host = 0 := by omega
      have present : host ∈ queue.postponedResizes := entries.mpr (.inr postponing)
      rw [nothing]
      simp [State.retained, present]

theorem act (balanced : Balanced state) {index : ℕ} {phase phase' : Phase} {action : Action}
    {queue : Memory} (found : state.requests[index]? = some phase)
    (advances : Advances state.queue phase action queue phase') :
    Balanced { state with queue := queue, requests := state.requests.set index phase' } := by
  have retained := balanced.retained_act found advances
  have ledger := fun host => (balanced.ledger host).act found advances
  constructor
  · intro host
    rw [retained host]
    exact (ledger host).count
  · intro host
    rw [retained host]
    exact (ledger host).single
  · intro hosts collected host member
    have kept := balanced.collected hosts collected host member
    have single := balanced.single host
    rw [retained host]
    cases postponing : phase.postponingFor host with
    | false => simpa using kept
    | true =>
        have positive : 0 < state.requests.countP (Phase.postponingFor host) :=
          List.countP_pos_iff.mpr ⟨phase, List.mem_of_getElem? found, postponing⟩
        omega

theorem scan (balanced : Balanced state) {now : String → Time} {order : List (String × Time)}
    (ranges : state.queue.postponedResizes.Ranges order) :
    Balanced { state with collected := some (state.queue.hostsToModify now order) } where
  counts := balanced.counts
  single := balanced.single
  collected := by
    intro hosts collected host member
    simp only [Option.some.injEq] at collected
    subst collected
    rcases (Memory.mem_hostsToModify ranges host).mp member with ⟨_, time, found, _⟩
    have present := Finmap.mem_of_lookup_eq_some found
    simp [State.retained, present]

theorem inFlight_applyCollected (hosts : List String) (host : String) :
    ({ state with queue := state.queue.applyResizes hosts, collected := none } : State).inFlight
      host = state.inFlight host := rfl

theorem retained_applyCollected (hosts : List String) (host : String) :
    ({ state with queue := state.queue.applyResizes hosts, collected := none } : State).retained
      host = if host ∈ hosts then 0 else state.retained host := by
  have entry := state.queue.lookup_postponedResizes_applyResizes hosts host
  by_cases member : host ∈ hosts
  · rw [if_pos member, Finmap.lookup_eq_none] at entry
    simp [State.retained, member, entry]
  · rw [if_neg member] at entry
    have same : host ∈ (state.queue.applyResizes hosts).postponedResizes ↔
        host ∈ state.queue.postponedResizes := by
      rw [← Finmap.lookup_isSome, entry, Finmap.lookup_isSome]
    simp [State.retained, member, same]

theorem applyCollected (balanced : Balanced state) {hosts : List String}
    (collected : state.collected = some hosts)
    (untouched : ∀ host ∈ hosts, state.queue.count host = 1) :
    Balanced { state with queue := state.queue.applyResizes hosts, collected := none } where
  counts := by
    intro host
    rw [Memory.count_applyResizes, retained_applyCollected, inFlight_applyCollected]
    have count := balanced.counts host
    by_cases member : host ∈ hosts
    · have kept := balanced.collected hosts collected host member
      have one := untouched host member
      simp only [member, if_true]
      omega
    · simpa [member] using count
  single := by
    intro host
    have single := balanced.single host
    rw [retained_applyCollected]
    split
    · simp only at single ⊢
      omega
    · exact single
  collected := by simp

theorem preserved (balanced : Balanced state) {event : Event}
    (untouched : CollectedUntouched state event) (stepped : step state event = some next) :
    Balanced next := by
  cases event with
  | arrive request lookupAddr =>
      rw [step_arrive stepped]
      exact balanced.arrive lookupAddr request
  | act index action =>
      rcases step_act stepped with ⟨phase, phase', queue, found, advances, rfl⟩
      exact balanced.act found advances
  | scan now order =>
      rcases step_scan stepped with ⟨_, ranges, rfl⟩
      exact balanced.scan ranges
  | applyCollected =>
      rcases step_applyCollected stepped with ⟨hosts, collected, rfl⟩
      simp only [CollectedUntouched, collected, Option.getD_some] at untouched
      exact balanced.applyCollected collected untouched

/-- A single move loses a unit in flight exactly when it resets a host that is not idle. -/
theorem covered_iff (balanced : Balanced state) {event : Event}
    (stepped : step state event = some next) :
    next.Covered ↔ CollectedUntouched state event := by
  constructor
  · intro covered
    cases event with
    | applyCollected =>
        rcases step_applyCollected stepped with ⟨hosts, collected, rfl⟩
        simp only [CollectedUntouched, collected, Option.getD_some]
        intro host member
        have reset := covered host
        have count := balanced.counts host
        have kept := balanced.collected hosts collected host member
        rw [Memory.count_applyResizes, if_pos member, inFlight_applyCollected] at reset
        omega
    | _ => trivial
  · intro untouched
    exact (balanced.preserved untouched stepped).covered

end Balanced

/--
With postponement enabled, in every run: all states count at least the requests in flight,
and so no negative number, if and only if every enforcer pass that is applied finds the
counts of the hosts it collected still equal to 1.
-/
theorem covered_iff_collectedUntouched {postponeDuration : Time}
    {history : List (Move State Event)} {state : State}
    (run : Run (StepOf step) (State.initial postponeDuration true) history state) :
    ((State.initial postponeDuration true).Covered ∧ ∀ move ∈ history, move.target.Covered) ↔
      ∀ move ∈ history, CollectedUntouched move.source move.event := by
  have start := Balanced.initial postponeDuration true
  have moves := run.forall_iff (fun move => move.target.Covered) CollectedUntouched start
    (fun _ _ _ balanced untouched stepped => balanced.preserved untouched stepped)
    (fun _ _ _ balanced stepped => balanced.covered_iff stepped)
  constructor
  · rintro ⟨_, covered⟩
    exact moves.mp covered
  · intro untouched
    exact ⟨start.covered, moves.mpr untouched⟩

/-- A request finishes through the postpone branch and a pass then resets its idle host. -/
theorem covered_iff_collectedUntouched_idle : ∃ history state,
    Run (StepOf step) (State.initial 20 true) history state ∧
      (∃ move ∈ history, move.source.collected = some ["app.dp-a"]) ∧
      ∀ move ∈ history, move.target.Covered := by
  rcases Run.exists_of_record step (State.initial 20 true)
    [.arrive sampleRequest sampleLookup, .act 0 .increment, .act 0 (.serve .returned),
      .act 0 .check, .act 0 (.complete 5), .scan (fun _ => 100) [("app.dp-a", 25)],
      .applyCollected]
    (fun made => (made.1.any fun move => move.source.collected = some ["app.dp-a"]) &&
      made.1.all fun move => CollectedUntouched move.source move.event) (by decide)
    with ⟨history, state, run, passed⟩
  simp only [Bool.and_eq_true, List.any_eq_true, List.all_eq_true, decide_eq_true_eq] at passed
  exact ⟨history, state, run, passed.1, ((covered_iff_collectedUntouched run).mpr passed.2).2⟩

/--
A request that arrives between the scan and the writes of a pass loses its unit, and takes the
count below zero when it finishes.
-/
theorem not_covered_between_scan_and_apply :
    ¬∀ (postponeDuration : Time) (state : State),
      Reachable (StepOf step) (State.initial postponeDuration true) state →
        ∀ host, (state.inFlight host : Int) ≤ state.queue.count host := by
  intro covered
  rcases Reachable.exists_of_record step (State.initial 20 true)
    [.arrive sampleRequest sampleLookup, .act 0 .increment, .act 0 (.serve .returned),
      .act 0 .check, .act 0 (.complete 5), .scan (fun _ => 100) [("app.dp-a", 25)],
      .arrive sampleRequest sampleLookup, .act 1 .increment, .applyCollected,
      .act 1 (.serve .returned), .act 1 .check, .act 1 (.complete 101)]
    (fun state => state.queue.count "app.dp-a" = -1) (by decide) with ⟨state, reachable, negative⟩
  have count : state.queue.count "app.dp-a" = -1 := by simpa using negative
  have impossible := covered 20 state reachable "app.dp-a"
  omega

end KedaHttp.Interceptor.Counting
