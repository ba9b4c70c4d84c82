import KedaHttp.Interceptor.Counting

/-!
# Exact accounting without postponement

With postponement disabled the queue is an exact ledger: in every reachable state the
count of a host is the number of its requests in flight. The enforcer runs all the same,
so the invariant also has to say that it never finds anything to do: no resize is ever
postponed, hence no scan ever collects a host.
-/

namespace KedaHttp.Interceptor.Counting

open KedaHttp.Foundation KedaHttp.Queue

/-- What every reachable state satisfies while postponement is disabled. -/
structure Exact (state : State) : Prop where
  disabled : state.queue.shouldPostpone = false
  nonePostponed : state.queue.postponedResizes = ∅
  nonePostponing : ∀ host, Phase.postponing host ∉ state.requests
  noneCollected : ∀ hosts, state.collected = some hosts → hosts = []
  counts : ∀ host, state.queue.count host = state.inFlight host

namespace Exact

theorem initial (postponeDuration : Time) : Exact (State.initial postponeDuration false) where
  disabled := rfl
  nonePostponed := rfl
  nonePostponing := by simp [State.initial]
  noneCollected := by simp [State.initial]
  counts := by simp [State.initial, State.inFlight]

variable {state next : State}

theorem arrive (exact : Exact state) (lookupAddr : LookupAddr) (request : Request) :
    Exact { state with requests := state.requests ++ [receive lookupAddr request] } where
  disabled := exact.disabled
  nonePostponed := exact.nonePostponed
  nonePostponing := by
    intro host member
    rcases List.mem_append.mp member with earlier | arrived
    · exact exact.nonePostponing host earlier
    · have admitted := postponingFor_receive lookupAddr request host
      rw [← List.mem_singleton.mp arrived] at admitted
      simp [Phase.postponingFor] at admitted
  noneCollected := exact.noneCollected
  counts := by
    intro host
    simp [State.inFlight, exact.counts host]

/-- A request's own step moves the count of its host together with its being in flight. -/
theorem act (exact : Exact state) {index : ℕ} {phase phase' : Phase} {action : Action}
    {queue : Memory} (found : state.requests[index]? = some phase)
    (advances : Advances state.queue phase action queue phase') :
    Exact { state with queue := queue, requests := state.requests.set index phase' } := by
  have notPostponing : ∀ host, phase.postponingFor host = false := by
    intro host
    cases phase with
    | postponing key => exact absurd (List.mem_of_getElem? found) (exact.nonePostponing key)
    | _ => rfl
  refine ⟨advances.shouldPostpone_eq.trans exact.disabled, ?_, ?_, exact.noneCollected, ?_⟩
  · apply Finmap.ext_lookup
    intro host
    rw [Finmap.lookup_empty, Finmap.lookup_eq_none, advances.mem_postponedResizes,
      exact.nonePostponed, notPostponing]
    simp [Finmap.notMem_empty]
  · intro host member
    rcases List.mem_or_eq_of_mem_set member with earlier | same
    · exact exact.nonePostponing host earlier
    · subst same
      have entered := advances.leaving_of_postponing host (by simp [Phase.postponingFor])
      simp [exact.disabled] at entered
  · intro host
    have moved := countP_set_add phase' (Phase.inFlightFor host) found
    have ledger := advances.count_add host
    have count := exact.counts host
    simp only [State.inFlight, notPostponing, Bool.toNat_false] at moved ledger count ⊢
    omega

theorem scan (exact : Exact state) {now : String → Time} {order : List (String × Time)}
    (ranges : state.queue.postponedResizes.Ranges order) :
    Exact { state with collected := some (state.queue.hostsToModify now order) } where
  disabled := exact.disabled
  nonePostponed := exact.nonePostponed
  nonePostponing := exact.nonePostponing
  noneCollected := by
    intro hosts collected
    rw [exact.nonePostponed] at ranges
    rw [ranges.eq_nil_of_empty, Option.some.injEq] at collected
    exact collected.symm
  counts := exact.counts

theorem applyCollected (exact : Exact state) {hosts : List String}
    (collected : state.collected = some hosts) :
    Exact { state with queue := state.queue.applyResizes hosts, collected := none } := by
  rw [exact.noneCollected hosts collected]
  exact ⟨exact.disabled, exact.nonePostponed, exact.nonePostponing, by simp, exact.counts⟩

theorem preserved (exact : Exact state) {event : Event} (stepped : step state event = some next) :
    Exact next := by
  cases event with
  | arrive request lookupAddr =>
      rw [step_arrive stepped]
      exact exact.arrive lookupAddr request
  | act index action =>
      rcases step_act stepped with ⟨phase, phase', queue, found, advances, rfl⟩
      exact exact.act found advances
  | scan now order =>
      rcases step_scan stepped with ⟨_, ranges, rfl⟩
      exact exact.scan ranges
  | applyCollected =>
      rcases step_applyCollected stepped with ⟨hosts, collected, rfl⟩
      exact exact.applyCollected collected

theorem of_reachable {postponeDuration : Time}
    (reachable : Reachable (StepOf step) (State.initial postponeDuration false) state) :
    Exact state :=
  reachable.invariant (initial postponeDuration) fun _ _ _ exact stepped => exact.preserved stepped

/-- Neither another host's requests, nor rejected ones, nor the enforcer move a count. -/
theorem count_of_host?_ne (exact : Exact state) {event : Event}
    (stepped : step state event = some next) {host : String}
    (other : event.host? state ≠ some host) :
    next.queue.count host = state.queue.count host := by
  cases event with
  | arrive request lookupAddr => rw [step_arrive stepped]
  | act index action =>
      rcases step_act stepped with ⟨phase, phase', queue, found, advances, rfl⟩
      apply advances.count_of_host?_ne
      simpa [Event.host?, found] using other
  | scan now order =>
      rcases step_scan stepped with ⟨_, _, rfl⟩
      rfl
  | applyCollected =>
      rcases step_applyCollected stepped with ⟨hosts, collected, rfl⟩
      rw [exact.noneCollected hosts collected]
      rfl

end Exact

/--
With postponement disabled, in every reachable state and for every host, the count is the
number of requests in flight. It is never negative, it is 0 when nothing is in flight, and no
step that is not a step of one of the host's own requests changes it.
-/
theorem count_eq_inFlight {postponeDuration : Time} {state : State}
    (reachable : Reachable (StepOf step) (State.initial postponeDuration false) state)
    (host : String) :
    state.queue.count host = state.inFlight host ∧
      0 ≤ state.queue.count host ∧
      (state.inFlight host = 0 → state.queue.count host = 0) ∧
      ∀ event next, step state event = some next → event.host? state ≠ some host →
        next.queue.count host = state.queue.count host := by
  have exact := Exact.of_reachable reachable
  have count := exact.counts host
  refine ⟨count, ?_, ?_, ?_⟩
  · omega
  · intro none
    omega
  · intro event next stepped other
    exact exact.count_of_host?_ne stepped other

/-- One request has panicked inside its handler, another is still being served. -/
theorem count_eq_inFlight_panicked : ∃ state,
    Reachable (StepOf step) (State.initial 20 false) state ∧
      state.inFlight "app.dp-a" = 2 ∧ state.queue.count "app.dp-a" = 2 := by
  rcases Reachable.exists_of_record step (State.initial 20 false)
    [.arrive sampleRequest sampleLookup, .act 0 .increment,
      .arrive sampleRequest sampleLookup, .act 1 .increment, .act 0 (.serve .panicked)]
    (fun state => state.inFlight "app.dp-a" = 2) (by decide) with ⟨state, reachable, two⟩
  have inFlight : state.inFlight "app.dp-a" = 2 := by simpa using two
  refine ⟨state, reachable, inFlight, ?_⟩
  rw [(count_eq_inFlight reachable "app.dp-a").1, inFlight]
  rfl

end KedaHttp.Interceptor.Counting
