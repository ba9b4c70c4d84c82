import KedaHttp.Interceptor.Cooldown
import KedaHttp.Interceptor.Retention

/-!
# The drift of a count

A pass of the enforcer sets the count of a host to 0, whatever has happened to the host since the
scan, and also when the one unit that the scan has found belongs to a request in flight beside an
entry that an earlier one left behind. From then on the count is short of these requests. It gains
on them again only with requests that complete through the postpone branch, and those are let in
by the count itself: with `k` units missing, the branch opens to a request when `k` others are in
flight with it.

So the difference between the count and the requests in flight has an exact history. In every run
it is the number of postponed resizes since the last reset less the requests that this reset has
lost. It never exceeds 1, and it is positive only while there is a postponed entry, whatever the
schedule. The next pass that finds the host idle and its entry expired takes the excess away.
-/

namespace KedaHttp.Interceptor.Counting

open KedaHttp.Foundation KedaHttp.Queue

/-- By how much the count of a host exceeds its requests in flight. -/
def State.drift (state : State) (host : String) : Int :=
  state.queue.count host - state.inFlight host

/-- The moves made since a pass last reset the host, or all of them. -/
def sinceReset (host : String) (history : List (Move State Event)) : List (Move State Event) :=
  history.takeWhile fun move => !decide (move.event.Resets host move.source)

/-- The requests for the host that were in flight when a pass last reset it. -/
def lostAtReset (host : String) (history : List (Move State Event)) : ℕ :=
  ((history.find? fun move => decide (move.event.Resets host move.source)).map
    fun move => move.source.inFlight host).getD 0

section Step

variable {state next : State} {host : String} {event : Event}

theorem requests_of_resets (resets : event.Resets host state)
    (stepped : step state event = some next) :
    next.queue.count host = 0 ∧ next.requests = state.requests := by
  cases event with
  | applyCollected =>
      rcases step_applyCollected stepped with ⟨hosts, collected, rfl⟩
      simp only [Event.Resets, collected, Option.getD_some] at resets
      refine ⟨?_, rfl⟩
      rw [Memory.count_applyResizes, if_pos resets]
  | arrive | act | scan => exact absurd resets id

/-- A reset loses the units of the requests that are in flight. -/
theorem drift_of_resets (resets : event.Resets host state)
    (stepped : step state event = some next) : next.drift host = -state.inFlight host := by
  rcases requests_of_resets resets stepped with ⟨count, requests⟩
  rw [State.drift, count, State.inFlight, requests, zero_sub, State.inFlight]

/-- Apart from resets, only completions through the postpone branch make a count drift. -/
theorem drift_of_not_resets (kept : ¬event.Resets host state)
    (stepped : step state event = some next) :
    next.drift host = state.drift host + (event.postpones host state).toNat := by
  cases event with
  | arrive request lookupAddr =>
      rw [step_arrive stepped]
      simp [State.drift, State.inFlight, Event.postpones]
  | act index action =>
      rcases step_act stepped with ⟨phase, phase', queue, found, advances, rfl⟩
      have moved := countP_set_add phase' (Phase.inFlightFor host) found
      have added := advances.count_add host
      rw [postpones_act found advances]
      simp only [State.drift, State.inFlight]
      omega
  | scan now order =>
      rcases step_scan stepped with ⟨_, _, rfl⟩
      simp [State.drift, State.inFlight, Event.postpones]
  | applyCollected =>
      rcases step_applyCollected stepped with ⟨hosts, collected, rfl⟩
      simp only [Event.Resets, collected, Option.getD_some] at kept
      simp only [State.drift, Memory.count_applyResizes, if_neg kept, State.inFlight,
        Event.postpones, Bool.toNat_false]
      omega

end Step

section Bounded

/--
The requests that are about to postpone and the drift together come to 1 at most, and without a
postponed entry there is no excess.
-/
structure Bounded (host : String) (state : State) : Prop where
  single : (state.requests.countP (Phase.postponingFor host) : Int) + state.drift host ≤ 1
  retained : state.drift host ≤ state.retained host

namespace Bounded

variable {state next : State} {host : String} {event : Event}

theorem initial (postponeDuration : Time) (shouldPostpone : Bool) (host : String) :
    Bounded host (State.initial postponeDuration shouldPostpone) := by
  constructor <;> simp [State.initial, State.drift, State.inFlight]

theorem postponing_le_inFlight (state : State) (host : String) :
    state.requests.countP (Phase.postponingFor host) ≤ state.inFlight host := by
  apply List.countP_mono_left
  intro phase _ postponing
  cases phase with
  | postponing key => exact postponing
  | rejected | received | serving | leaving | decrementing | finished =>
      simp [Phase.postponingFor] at postponing

theorem of_resets (resets : event.Resets host state) (stepped : step state event = some next) :
    Bounded host next := by
  have drift := drift_of_resets resets stepped
  have requests := (requests_of_resets resets stepped).2
  have postponing := postponing_le_inFlight state host
  constructor
  · rw [requests, drift]
    omega
  · rw [drift]
    omega

/-- A request that has just read a count of 1 was in flight beside all that are to postpone. -/
theorem single_act (bounded : Bounded host state) {index : ℕ} {phase phase' : Phase}
    {action : Action} {queue : Memory} (found : state.requests[index]? = some phase)
    (advances : Advances state.queue phase action queue phase') :
    ((state.requests.set index phase').countP (Phase.postponingFor host) : Int) +
      (state.drift host + (phase.postponingFor host).toNat) ≤ 1 := by
  have single := bounded.single
  have moved := countP_set_add phase' (Phase.postponingFor host) found
  cases postponing : phase'.postponingFor host with
  | false =>
      rw [postponing, Bool.toNat_false] at moved
      omega
  | true =>
      rcases advances.leaving_of_postponing host postponing with ⟨rfl, _, last⟩
      have others := postponing_add_one_le_inFlight found
      rw [postponing] at moved
      simp only [State.drift, State.inFlight, Phase.postponingFor, Bool.toNat_true,
        Bool.toNat_false, last] at moved ⊢
      omega

/-- An excess comes with the entry of the request that left it. -/
theorem retained_act (bounded : Bounded host state) {index : ℕ} {phase phase' : Phase}
    {action : Action} {queue : Memory} (found : state.requests[index]? = some phase)
    (advances : Advances state.queue phase action queue phase') :
    state.drift host + (phase.postponingFor host).toNat ≤
      ({ state with queue := queue, requests := state.requests.set index phase' } :
        State).retained host := by
  have single := bounded.single
  have retained := bounded.retained
  have entries := advances.mem_postponedResizes host
  cases postponing : phase.postponingFor host with
  | false =>
      rw [postponing] at entries
      simpa [State.retained, entries] using retained
  | true =>
      have positive : 0 < state.requests.countP (Phase.postponingFor host) :=
        List.countP_pos_iff.mpr ⟨phase, List.mem_of_getElem? found, postponing⟩
      have present : host ∈ queue.postponedResizes := entries.mpr (.inr postponing)
      simp only [State.retained, if_pos present, Bool.toNat_true]
      omega

theorem preserved (bounded : Bounded host state) (stepped : step state event = some next) :
    Bounded host next := by
  by_cases resets : event.Resets host state
  · exact of_resets resets stepped
  have drift := drift_of_not_resets resets stepped
  cases event with
  | arrive request lookupAddr =>
      rw [step_arrive stepped] at drift ⊢
      simp only [Event.postpones, Bool.toNat_false, Nat.cast_zero, add_zero] at drift
      constructor
      · rw [drift]
        simpa using bounded.single
      · rw [drift]
        exact bounded.retained
  | act index action =>
      rcases step_act stepped with ⟨phase, phase', queue, found, advances, rfl⟩
      rw [postpones_act found advances] at drift
      constructor
      · rw [drift]
        exact bounded.single_act found advances
      · rw [drift]
        exact bounded.retained_act found advances
  | scan now order =>
      rcases step_scan stepped with ⟨_, _, rfl⟩
      exact ⟨bounded.single, bounded.retained⟩
  | applyCollected =>
      rcases step_applyCollected stepped with ⟨hosts, collected, rfl⟩
      simp only [Event.Resets, collected, Option.getD_some] at resets
      simp only [Event.postpones, Bool.toNat_false, Nat.cast_zero, add_zero] at drift
      constructor
      · rw [drift]
        exact bounded.single
      · rw [drift, Balanced.retained_applyCollected, if_neg resets]
        exact bounded.retained

theorem of_reachable {postponeDuration : Time} {shouldPostpone : Bool}
    (reachable : Reachable (StepOf step) (State.initial postponeDuration shouldPostpone) state)
    (host : String) : Bounded host state :=
  reachable.invariant (initial postponeDuration shouldPostpone host)
    fun _ _ _ bounded stepped => bounded.preserved stepped

end Bounded

end Bounded

section Runs

variable {start state : State} {history : List (Move State Event)} {host : String}

theorem sinceReset_cons (move : Move State Event) :
    sinceReset host (move :: history) =
      if move.event.Resets host move.source then [] else move :: sinceReset host history := by
  by_cases resets : move.event.Resets host move.source <;> simp [sinceReset, resets]

theorem lostAtReset_cons (move : Move State Event) :
    lostAtReset host (move :: history) =
      if move.event.Resets host move.source then move.source.inFlight host
      else lostAtReset host history := by
  by_cases resets : move.event.Resets host move.source <;> simp [lostAtReset, resets]

theorem postponements_cons (move : Move State Event) :
    postponements host (move :: history) =
      postponements host history + (move.event.postpones host move.source).toNat := by
  rw [postponements, postponements, List.countP_cons]
  cases move.event.postpones host move.source <;> rfl

/-- The induction is on the run; a reset starts the account anew. -/
theorem drift_of_run (exact : start.drift host = 0)
    (run : Run (StepOf step) start history state) :
    state.drift host =
      postponements host (sinceReset host history) - lostAtReset host history := by
  induction run with
  | start => simpa [postponements, sinceReset, lostAtReset] using exact
  | @move history source target event earlier stepped ih =>
      rw [sinceReset_cons, lostAtReset_cons]
      by_cases resets : event.Resets host source
      · simp only [if_pos resets, drift_of_resets resets stepped]
        simp [postponements]
      · simp only [if_neg resets, postponements_cons, drift_of_not_resets resets stepped, ih]
        push_cast
        omega

end Runs

/--
In every run, with postponement enabled or not and whatever the enforcer resets: the count of a host
is the number of its requests in flight, plus its postponed resizes since the last pass that reset
it, minus the requests that were in flight at that reset. The postponed resizes exceed the lost
requests by 1 at most, and only while the host has a postponed entry.
-/
theorem count_eq_since_reset {postponeDuration : Time} {shouldPostpone : Bool}
    {history : List (Move State Event)} {state : State}
    (run : Run (StepOf step) (State.initial postponeDuration shouldPostpone) history state)
    (host : String) :
    state.queue.count host =
        state.inFlight host + postponements host (sinceReset host history) -
          lostAtReset host history ∧
      postponements host (sinceReset host history) ≤ lostAtReset host history + 1 ∧
      (host ∉ state.queue.postponedResizes →
        postponements host (sinceReset host history) ≤ lostAtReset host history) := by
  have exact : (State.initial postponeDuration shouldPostpone).drift host = 0 := by
    simp [State.initial, State.drift, State.inFlight]
  have drift := drift_of_run exact run
  have bounded := Bounded.of_reachable ⟨history, run⟩ host
  have single := bounded.single
  refine ⟨?_, ?_, ?_⟩
  · simp only [State.drift] at drift
    omega
  · omega
  · intro absent
    have retained := bounded.retained
    simp only [State.retained, if_neg absent] at retained
    omega

/--
A pass loses a request that arrived after its scan. Two requests that then finish together leave
two postponed resizes, which make up for it.
-/
theorem count_eq_since_reset_lost : ∃ history state,
    Run (StepOf step) (State.initial 20 true) history state ∧
      lostAtReset "app.dp-a" history = 1 ∧ state.inFlight "app.dp-a" = 0 ∧
      state.queue.count "app.dp-a" = 1 := by
  rcases Run.exists_of_record step (State.initial 20 true)
    [.arrive sampleRequest sampleLookup, .act 0 .increment, .act 0 (.serve .returned),
      .act 0 .check, .act 0 (.complete 5), .scan (fun _ => 100) [("app.dp-a", 25)],
      .arrive sampleRequest sampleLookup, .act 1 .increment, .applyCollected,
      .arrive sampleRequest sampleLookup, .act 2 .increment, .act 1 (.serve .returned),
      .act 2 (.serve .panicked), .act 1 .check, .act 2 .check, .act 1 (.complete 101),
      .act 2 (.complete 102)]
    (fun made => decide (lostAtReset "app.dp-a" made.1 = 1) &&
      decide (made.2.inFlight "app.dp-a" = 0) &&
      decide (postponements "app.dp-a" (sinceReset "app.dp-a" made.1) = 2)) (by decide)
    with ⟨history, state, run, passed⟩
  simp only [Bool.and_eq_true, decide_eq_true_eq] at passed
  rcases passed with ⟨⟨lost, inFlight⟩, postponed⟩
  have count := (count_eq_since_reset run "app.dp-a").1
  refine ⟨history, state, run, lost, inFlight, ?_⟩
  omega

section Passes

variable {state next : State} {host : String}

/-- There is no excess, or the pass under way is going to take it away. -/
def Settling (state : State) (host : String) : Prop :=
  state.drift host ≤ 0 ∨ host ∈ state.collected.getD []

theorem drift_nonpos_of_resets {event : Event} (resets : event.Resets host state)
    (stepped : step state event = some next) : next.drift host ≤ 0 := by
  rw [drift_of_resets resets stepped]
  omega

theorem Settling.preserved (settling : Settling state host) {event : Event}
    (unpostponed : event.postpones host state = false) (stepped : step state event = some next) :
    Settling next host := by
  by_cases resets : event.Resets host state
  · exact .inl (drift_nonpos_of_resets resets stepped)
  have drift := drift_of_not_resets resets stepped
  rw [unpostponed, Bool.toNat_false, Nat.cast_zero, add_zero] at drift
  rcases settling with settled | collected
  · left
    omega
  · right
    cases event with
    | arrive request lookupAddr =>
        rw [step_arrive stepped]
        exact collected
    | act index action =>
        rcases step_act stepped with ⟨phase, phase', queue, _, _, rfl⟩
        exact collected
    | scan now order =>
        -- A scan waits until the pass before it has been applied.
        rcases step_scan stepped with ⟨idle, _, _⟩
        simp [idle] at collected
    | applyCollected => exact absurd collected resets

theorem Settling.of_run {start : State} {history : List (Move State Event)}
    (settling : Settling start host) (run : Run (StepOf step) start history state)
    (unpostponed : postponements host history = 0) : Settling state host := by
  induction run with
  | start => exact settling
  | @move history source target event earlier stepped ih =>
      rw [postponements_cons, Nat.add_eq_zero_iff] at unpostponed
      exact (ih unpostponed.1).preserved (Bool.toNat_eq_zero.mp unpostponed.2) stepped

/-- A scan that finds a host idle, and its entry expired, collects the excess. -/
theorem Settling.of_scan (bounded : Bounded host state) (idle : state.inFlight host = 0)
    {now : String → Time} {order : List (String × Time)}
    (expired : ∀ time, state.queue.postponedResizes.lookup host = some time → time < now host)
    (scans : step state (.scan now order) = some next) : Settling next host := by
  rcases step_scan scans with ⟨_, ranges, rfl⟩
  have single := bounded.single
  have retained := bounded.retained
  by_cases settled : state.drift host ≤ 0
  · exact .inl settled
  · right
    have present : host ∈ state.queue.postponedResizes := by
      by_contra absent
      simp only [State.retained, if_neg absent] at retained
      omega
    rcases Finmap.mem_iff.mp present with ⟨time, found⟩
    have one : state.queue.count host = 1 := by
      simp only [State.drift] at single settled
      omega
    exact (Memory.mem_hostsToModify ranges host).mpr ⟨one, time, found, expired time found⟩

end Passes

/--
From every reachable state, whatever has been lost before: a pass whose scan finds a host with no
request in flight and without an unexpired entry leaves it with a count of at most its requests in
flight, however requests and the enforcer move in between, as long as none for the host completes
through the postpone branch.
-/
theorem count_le_inFlight_of_pass {postponeDuration : Time} {shouldPostpone : Bool}
    {state scanned before after : State}
    (reachable : Reachable (StepOf step) (State.initial postponeDuration shouldPostpone) state)
    {host : String} (idle : state.inFlight host = 0) {now : String → Time}
    {order : List (String × Time)}
    (expired : ∀ time, state.queue.postponedResizes.lookup host = some time → time < now host)
    (scans : step state (.scan now order) = some scanned) {between : List (Move State Event)}
    (run : Run (StepOf step) scanned between before)
    (unpostponed : postponements host between = 0)
    (applies : step before .applyCollected = some after) :
    after.queue.count host ≤ after.inFlight host := by
  have bounded := Bounded.of_reachable reachable host
  have settling := (Settling.of_scan bounded idle expired scans).of_run run unpostponed
  rcases settling.preserved rfl applies with settled | collected
  · exact Int.le_of_sub_nonpos settled
  · rcases step_applyCollected applies with ⟨hosts, _, rfl⟩
    simp at collected

/-- The last request leaves its unit behind, and the first pass after the cooldown takes it. -/
theorem count_le_inFlight_of_pass_expired : ∃ state scanned before after : State,
    Reachable (StepOf step) (State.initial 20 true) state ∧
      state.queue.count "app.dp-a" = 1 ∧
      step state (.scan (fun _ => 100) [("app.dp-a", 25)]) = some scanned ∧
      step before .applyCollected = some after ∧ after.queue.count "app.dp-a" ≤ 0 := by
  rcases Reachable.exists_of_record step (State.initial 20 true)
    [.arrive sampleRequest sampleLookup, .act 0 .increment, .act 0 (.serve .returned),
      .act 0 .check, .act 0 (.complete 5)]
    (fun state => decide (state.queue.count "app.dp-a" = 1) &&
      decide (state.inFlight "app.dp-a" = 0) &&
      decide (state.queue.postponedResizes.lookup "app.dp-a" = some 25) &&
      (step state (.scan (fun _ => 100) [("app.dp-a", 25)])).any fun scanned : State =>
        (step scanned .applyCollected).any fun after : State =>
          decide (after.inFlight "app.dp-a" = 0)) (by decide)
    with ⟨state, reachable, passed⟩
  simp only [Bool.and_eq_true, decide_eq_true_eq, Option.any_eq_true] at passed
  rcases passed with ⟨⟨⟨one, idle⟩, entry⟩, scanned, scans, after, applies, idleAfter⟩
  have expired : ∀ time, state.queue.postponedResizes.lookup "app.dp-a" = some time →
      time < (fun _ => (100 : Time)) "app.dp-a" := by
    intro time found
    rw [entry, Option.some.injEq] at found
    rw [← found]
    decide
  have count := count_le_inFlight_of_pass reachable idle expired scans .start rfl applies
  refine ⟨state, scanned, scanned, after, reachable, one, scans, applies, ?_⟩
  rw [idleAfter] at count
  exact count

end KedaHttp.Interceptor.Counting
