import KedaHttp.Scaler.FetchCounts

/-!
# Invariants of the `fetchCounts` protocol

Four invariants, each resting on the ones before it. `Launched` ties the goroutines that
exist to the position of the main goroutine. `HandedOff` follows an answer through the two
channels: a fetcher has returned without error exactly when its forwarder has received the
answer. `Waited` reads the wait group as the number of unfinished forwarders, so that the closer
runs only after the last of them. `Tallied` says that the two totals are those of the answers
consumed so far, and that these are the answers of the forwarders that have delivered.

They hold for any outcomes of the requests, failed ones included.
-/

namespace KedaHttp.Scaler.FetchCounts

open KedaHttp.Foundation

universe u

section Positions

variable {Count : Type u}

/-- How many fetchers the main goroutine has started. -/
@[simp]
def Main.fetchersStarted (n : ℕ) : Main Count → ℕ
  | adding next | startingFetcher next => next
  | startingForwarder next => next + 1
  | waiting | consuming _ _ | returned _ => n

/-- How many forwarders the main goroutine has started. -/
@[simp]
def Main.forwardersStarted (n : ℕ) : Main Count → ℕ
  | adding next | startingFetcher next | startingForwarder next => next
  | waiting | consuming _ _ | returned _ => n

@[simp]
def Main.launching : Main Count → Bool
  | adding _ | startingFetcher _ | startingForwarder _ => true
  | waiting | consuming _ _ | returned _ => false

/-- The units the main goroutine has added to the wait group for a forwarder not yet started. -/
@[simp]
def Main.added : Main Count → ℕ
  | startingFetcher _ | startingForwarder _ => 1
  | adding _ | waiting | consuming _ _ | returned _ => 0

/-- The main goroutine has come past `fetchGrp.Wait()`. -/
@[simp]
def Main.joined : Main Count → Bool
  | consuming _ _ | returned _ => true
  | adding _ | startingFetcher _ | startingForwarder _ | waiting => false

/-- The totals the main goroutine works on or has returned. -/
@[simp]
def Main.tally : Main Count → Option (GoMap String Count × Count)
  | consuming totals agg | returned (.ok (totals, agg)) => some (totals, agg)
  | adding _ | startingFetcher _ | startingForwarder _ | waiting | returned (.error _) => none

@[simp]
def Forwarder.hasReceived : Forwarder Count → Bool
  | holding _ | delivered | done => true
  | idle | receiving => false

@[simp]
def Forwarder.hasDelivered : Forwarder Count → Bool
  | delivered | done => true
  | idle | receiving | holding _ => false

/-- The unit of the wait group that a started forwarder has not given back. -/
@[simp]
def Forwarder.pending : Forwarder Count → ℕ
  | receiving | holding _ | delivered => 1
  | idle | done => 0

theorem Main.forwardersStarted_of_launched {n : ℕ} {main : Main Count}
    (launched : main.launching = false) : main.forwardersStarted n = n := by
  cases main with
  | adding | startingFetcher | startingForwarder => simp at launched
  | waiting | consuming | returned => rfl

theorem Forwarder.done_of_pending {forwarder : Forwarder Count} (started : forwarder ≠ .idle)
    (finished : forwarder.pending = 0) : forwarder = .done := by
  cases forwarder with
  | idle => exact absurd rfl started
  | receiving | holding | delivered => simp at finished
  | done => rfl

end Positions

variable {Count : Type u} [AddCommMonoid Count] {n : ℕ}
  {answers : Fin n → Except String (GoMap String Count)} {state next : State Count n}
  {event : Event Count n}

/-- Precisely the goroutines that the main goroutine has come past are running. -/
structure Launched (state : State Count n) : Prop where
  bound : state.main.forwardersStarted n + state.main.added ≤ n
  fetcherIdle : ∀ endpoint, (state.workers endpoint).fetcher = .idle ↔
    state.main.fetchersStarted n ≤ endpoint
  forwarderIdle : ∀ endpoint, (state.workers endpoint).forwarder = .idle ↔
    state.main.forwardersStarted n ≤ endpoint
  closerIdle : state.closer = .idle ↔ state.main.launching = true

namespace Launched

omit [AddCommMonoid Count] in
theorem initial : Launched (State.initial : State Count n) := by
  constructor <;> simp [State.initial]

omit [AddCommMonoid Count] in
/-- Only the steps that start a goroutine need an argument of their own. -/
theorem of_same (launched : Launched state)
    (fetchersStarted : next.main.fetchersStarted n = state.main.fetchersStarted n)
    (forwardersStarted : next.main.forwardersStarted n = state.main.forwardersStarted n)
    (added : next.main.added = state.main.added)
    (launching : next.main.launching = state.main.launching)
    (fetchers : ∀ endpoint, (next.workers endpoint).fetcher = .idle ↔
      (state.workers endpoint).fetcher = .idle)
    (forwarders : ∀ endpoint, (next.workers endpoint).forwarder = .idle ↔
      (state.workers endpoint).forwarder = .idle)
    (closer : next.closer = .idle ↔ state.closer = .idle) : Launched next where
  bound := by
    rw [forwardersStarted, added]
    exact launched.bound
  fetcherIdle := by
    intro endpoint
    rw [fetchers, fetchersStarted]
    exact launched.fetcherIdle endpoint
  forwarderIdle := by
    intro endpoint
    rw [forwarders, forwardersStarted]
    exact launched.forwarderIdle endpoint
  closerIdle := by
    rw [closer, launching]
    exact launched.closerIdle

omit [AddCommMonoid Count] in
theorem startFetcher (launched : Launched state) {position : ℕ}
    (main : state.main = .startingFetcher position) (inRange : position < n) :
    Launched { state.setFetcher ⟨position, inRange⟩ .fetching with
      main := .startingForwarder position } := by
  rcases launched with ⟨bound, fetcherIdle, forwarderIdle, closerIdle⟩
  simp only [main, Main.fetchersStarted, Main.forwardersStarted, Main.added, Main.launching]
    at bound fetcherIdle forwarderIdle closerIdle
  refine ⟨bound, ?_, by simpa using forwarderIdle, by simpa using closerIdle⟩
  intro endpoint
  by_cases same : endpoint = ⟨position, inRange⟩
  · simp [same]
  · have differs : (endpoint : ℕ) ≠ position := fun equal => same (Fin.ext equal)
    simp only [State.fetcher_setFetcher, same, if_false, fetcherIdle, Main.fetchersStarted]
    omega

omit [AddCommMonoid Count] in
theorem startForwarder (launched : Launched state) {position : ℕ}
    (main : state.main = .startingForwarder position) (inRange : position < n) :
    Launched { state.setForwarder ⟨position, inRange⟩ .receiving with
      main := .adding (position + 1) } := by
  rcases launched with ⟨_, fetcherIdle, forwarderIdle, closerIdle⟩
  simp only [main, Main.fetchersStarted, Main.forwardersStarted, Main.launching]
    at fetcherIdle forwarderIdle closerIdle
  refine ⟨inRange, by simpa using fetcherIdle, ?_, by simpa using closerIdle⟩
  intro endpoint
  by_cases same : endpoint = ⟨position, inRange⟩
  · simp [same]
  · have differs : (endpoint : ℕ) ≠ position := fun equal => same (Fin.ext equal)
    simp only [State.forwarder_setForwarder, same, if_false, forwarderIdle,
      Main.forwardersStarted]
    omega

theorem preserved (launched : Launched state) (moves : Moves answers state event next) :
    Launched next := by
  cases moves with
  | add main inRange =>
      rcases launched with ⟨_, fetcherIdle, forwarderIdle, closerIdle⟩
      exact ⟨inRange, by simpa [main] using fetcherIdle, by simpa [main] using forwarderIdle,
        by simpa [main] using closerIdle⟩
  | startFetcher main inRange => exact launched.startFetcher main inRange
  | startForwarder main inRange => exact launched.startForwarder main inRange
  | startCloser main =>
      rcases launched with ⟨_, fetcherIdle, forwarderIdle, _⟩
      exact ⟨le_rfl, by simpa [main] using fetcherIdle, by simpa [main] using forwarderIdle,
        by simp⟩
  | @succeed endpoint counts fetching answer =>
      refine launched.of_same rfl rfl rfl rfl ?_ (by simp) Iff.rfl
      intro other
      by_cases same : other = endpoint <;> simp [same, fetching]
  | @fail endpoint err fetching answer =>
      refine launched.of_same rfl rfl rfl rfl ?_ (by simp) Iff.rfl
      intro other
      by_cases same : other = endpoint <;> simp [same, fetching]
  | @handOff endpoint counts worker =>
      refine launched.of_same rfl rfl rfl rfl ?_ ?_ Iff.rfl
      · intro other
        by_cases same : other = endpoint <;> simp [same, worker]
      · intro other
        by_cases same : other = endpoint <;> simp [same, worker]
  | waitFailed main fetched failed => apply launched.of_same <;> simp [main]
  | waitSucceeded main fetched succeeded => apply launched.of_same <;> simp [main]
  | @consume endpoint order counts totals agg main holding opened ranges =>
      refine launched.of_same (by simp [main]) (by simp [main]) (by simp [main])
        (by simp [main]) (by simp) ?_ Iff.rfl
      intro other
      by_cases same : other = endpoint <;> simp [same, holding]
  | @done endpoint delivered =>
      refine launched.of_same rfl rfl rfl rfl (by simp) ?_ Iff.rfl
      intro other
      by_cases same : other = endpoint <;> simp [same, delivered]
  | close waiting zero => apply launched.of_same <;> simp [waiting]
  | endRange main closed => apply launched.of_same <;> simp [main]

omit [AddCommMonoid Count] in
theorem fetcher_idle (launched : Launched state) {position : ℕ}
    (main : state.main = .startingFetcher position) (inRange : position < n) :
    (state.workers ⟨position, inRange⟩).fetcher = .idle := by
  rw [launched.fetcherIdle]
  simp [main]

omit [AddCommMonoid Count] in
theorem forwarder_idle (launched : Launched state) {position : ℕ}
    (main : state.main = .startingForwarder position) (inRange : position < n) :
    (state.workers ⟨position, inRange⟩).forwarder = .idle := by
  rw [launched.forwarderIdle]
  simp [main]

end Launched

/-- The answer of an endpoint, wherever it is on its way through the endpoint's goroutines. -/
structure Carries (answer : Except String (GoMap String Count)) (worker : Worker Count) :
    Prop where
  sending : ∀ counts, worker.fetcher = .sending counts → answer = .ok counts
  failed : ∀ err, worker.fetcher = .returned (some err) → answer = .error err
  received : worker.fetcher = .returned none ↔ worker.forwarder.hasReceived = true
  holding : ∀ counts, worker.forwarder = .holding counts → answer = .ok counts
  answered : worker.fetcher = .returned none → ∃ counts, answer = .ok counts

namespace Carries

variable {answer : Except String (GoMap String Count)} {worker : Worker Count}

omit [AddCommMonoid Count] in
/-- A fetcher that has not handed its answer over moves on. -/
theorem setFetcher (carries : Carries answer worker) (running : worker.fetcher ≠ .returned none)
    {fetcher : Fetcher Count} (stillRunning : fetcher ≠ .returned none)
    (sending : ∀ counts, fetcher = .sending counts → answer = .ok counts)
    (failed : ∀ err, fetcher = .returned (some err) → answer = .error err) :
    Carries answer ⟨fetcher, worker.forwarder⟩ where
  sending := sending
  failed := failed
  received := by
    rw [← carries.received]
    exact iff_of_false stillRunning running
  holding := carries.holding
  answered := fun returned => absurd returned stillRunning

omit [AddCommMonoid Count] in
/-- A forwarder moves on, without receiving. -/
theorem setForwarder (carries : Carries answer worker) {forwarder : Forwarder Count}
    (received : forwarder.hasReceived = worker.forwarder.hasReceived)
    (empty : ∀ counts, forwarder ≠ .holding counts) :
    Carries answer ⟨worker.fetcher, forwarder⟩ where
  sending := carries.sending
  failed := carries.failed
  received := by
    rw [received]
    exact carries.received
  holding := fun counts held => absurd held (empty counts)
  answered := carries.answered

end Carries

structure HandedOff (answers : Fin n → Except String (GoMap String Count))
    (state : State Count n) : Prop where
  carries : ∀ endpoint, Carries (answers endpoint) (state.workers endpoint)
  firstErr : ∀ err, state.firstErr = some err → ∃ endpoint, answers endpoint = .error err
  joined : state.main.joined = true →
    ∀ endpoint, (state.workers endpoint).fetcher.hasReturned = true
  reported : ∀ err, state.main = .returned (.error err) → ∃ endpoint, answers endpoint = .error err

namespace HandedOff

omit [AddCommMonoid Count] in
theorem initial : HandedOff answers (State.initial : State Count n) := by
  constructor
  · intro endpoint
    constructor <;> simp [State.initial]
  all_goals simp [State.initial]

omit [AddCommMonoid Count] in
theorem carries_setFetcher (handedOff : HandedOff answers state) {endpoint : Fin n}
    {fetcher : Fetcher Count}
    (carries : Carries (answers endpoint) ⟨fetcher, (state.workers endpoint).forwarder⟩)
    (other : Fin n) :
    Carries (answers other) ((state.setFetcher endpoint fetcher).workers other) := by
  rw [State.workers_setFetcher]
  split
  · next same => exact same ▸ carries
  · exact handedOff.carries other

omit [AddCommMonoid Count] in
theorem carries_setForwarder (handedOff : HandedOff answers state) {endpoint : Fin n}
    {forwarder : Forwarder Count}
    (carries : Carries (answers endpoint) ⟨(state.workers endpoint).fetcher, forwarder⟩)
    (other : Fin n) :
    Carries (answers other) ((state.setForwarder endpoint forwarder).workers other) := by
  rw [State.workers_setForwarder]
  split
  · next same => exact same ▸ carries
  · exact handedOff.carries other

omit [AddCommMonoid Count] in
/-- The main goroutine waits for the fetchers that run. -/
theorem not_joined (handedOff : HandedOff answers state) {endpoint : Fin n}
    (running : (state.workers endpoint).fetcher.hasReturned = false) :
    state.main.joined ≠ true := by
  intro past
  have returned := handedOff.joined past endpoint
  simp [running] at returned

theorem preserved (handedOff : HandedOff answers state) (launched : Launched state)
    (moves : Moves answers state event next) : HandedOff answers next := by
  have joined := handedOff.joined
  have reported := handedOff.reported
  cases moves with
  | add main inRange => exact ⟨handedOff.carries, handedOff.firstErr, by simp, by simp⟩
  | @startFetcher position main inRange =>
      have idle := launched.fetcher_idle main inRange
      refine ⟨handedOff.carries_setFetcher ?_, handedOff.firstErr, by simp, by simp⟩
      apply (handedOff.carries ⟨position, inRange⟩).setFetcher <;> simp [idle]
  | @startForwarder position main inRange =>
      have idle := launched.forwarder_idle main inRange
      refine ⟨handedOff.carries_setForwarder ?_, handedOff.firstErr, by simp, by simp⟩
      apply (handedOff.carries ⟨position, inRange⟩).setForwarder <;> simp [idle]
  | startCloser main => exact ⟨handedOff.carries, handedOff.firstErr, by simp, by simp⟩
  | @succeed endpoint counts fetching answer =>
      have notJoined := handedOff.not_joined (by rw [fetching]; rfl)
      refine ⟨handedOff.carries_setFetcher ?_, handedOff.firstErr,
        fun past => absurd past notJoined, reported⟩
      apply (handedOff.carries endpoint).setFetcher <;> simp [fetching, answer]
  | @fail endpoint err fetching answer =>
      have notJoined := handedOff.not_joined (by rw [fetching]; rfl)
      refine ⟨handedOff.carries_setFetcher ?_, ?_, fun past => absurd past notJoined, reported⟩
      · apply (handedOff.carries endpoint).setFetcher <;> simp [fetching, answer]
      · intro first recorded
        cases earlier : state.firstErr with
        | none =>
            simp only [earlier, Option.none_or, Option.some.injEq] at recorded
            exact ⟨endpoint, recorded ▸ answer⟩
        | some previous =>
            simp only [earlier, Option.some_or, Option.some.injEq] at recorded
            exact handedOff.firstErr first (recorded ▸ earlier)
  | @handOff endpoint counts worker =>
      have notJoined := handedOff.not_joined (by rw [worker]; rfl)
      have carries := handedOff.carries endpoint
      rw [worker] at carries
      have answer := carries.sending counts rfl
      refine ⟨?_, handedOff.firstErr, fun past => absurd past notJoined, reported⟩
      intro other
      rw [State.workers_setForwarder, State.workers_setFetcher, State.workers_setFetcher]
      split
      · next same =>
          subst same
          refine ⟨by simp, by simp, by simp, ?_, fun _ => ⟨counts, answer⟩⟩
          intro held same
          rw [← Forwarder.holding.inj same]
          exact answer
      · exact handedOff.carries other
  | waitFailed main fetched failed =>
      refine ⟨handedOff.carries, handedOff.firstErr, fun _ => fetched, ?_⟩
      intro err same
      simp only [Main.returned.injEq, Except.error.injEq] at same
      exact handedOff.firstErr err (same ▸ failed)
  | waitSucceeded main fetched succeeded =>
      exact ⟨handedOff.carries, handedOff.firstErr, fun _ => fetched, by simp⟩
  | @consume endpoint order counts totals agg main holding opened ranges =>
      refine ⟨handedOff.carries_setForwarder ?_, handedOff.firstErr, ?_, by simp⟩
      · apply (handedOff.carries endpoint).setForwarder <;> simp [holding]
      · simpa [main] using joined
  | @done endpoint delivered =>
      refine ⟨handedOff.carries_setForwarder ?_, handedOff.firstErr, by simpa using joined,
        reported⟩
      apply (handedOff.carries endpoint).setForwarder <;> simp [delivered]
  | close waiting zero => exact ⟨handedOff.carries, handedOff.firstErr, joined, reported⟩
  | endRange main closed =>
      exact ⟨handedOff.carries, handedOff.firstErr, by simpa [main] using joined, by simp⟩

end HandedOff

/-- The wait group counts the forwarders that have not finished, and the closer obeys it. -/
structure Waited (state : State Count n) : Prop where
  waitGroup : state.waitGroup =
    (∑ endpoint, (state.workers endpoint).forwarder.pending) + state.main.added
  closed : state.closer = .done → ∀ endpoint, (state.workers endpoint).forwarder = .done

namespace Waited

omit [AddCommMonoid Count] in
theorem initial : Waited (State.initial : State Count n) := by
  constructor <;> simp [State.initial]

theorem preserved (waited : Waited state) (launched : Launched state)
    (moves : Moves answers state event next) : Waited next := by
  have waitGroup := waited.waitGroup
  cases moves with
  | add main inRange =>
      refine ⟨?_, waited.closed⟩
      simp only [main, Main.added] at waitGroup ⊢
      omega
  | startFetcher main inRange =>
      refine ⟨?_, by simpa using waited.closed⟩
      simpa [main] using waitGroup
  | @startForwarder position main inRange =>
      have idle := launched.forwarder_idle main inRange
      have launching : state.closer = .idle := by
        rw [launched.closerIdle]
        simp [main]
      have moved := state.sum_setForwarder ⟨position, inRange⟩
        (fun worker => worker.forwarder.pending) .receiving
      refine ⟨?_, by simp [launching]⟩
      simp only [main, idle, Main.added, Forwarder.pending, State.waitGroup_setForwarder]
        at moved waitGroup ⊢
      omega
  | startCloser main =>
      refine ⟨?_, by simp⟩
      simpa [main] using waitGroup
  | succeed fetching answer =>
      exact ⟨by simpa using waitGroup, by simpa using waited.closed⟩
  | fail fetching answer =>
      exact ⟨by simpa using waitGroup, by simpa using waited.closed⟩
  | @handOff endpoint counts worker =>
      have moved := (state.setFetcher endpoint (.returned none)).sum_setForwarder endpoint
        (fun worker => worker.forwarder.pending) (.holding counts)
      constructor
      · simp only [State.forwarder_setFetcher, worker, Forwarder.pending,
          State.waitGroup_setForwarder, State.waitGroup_setFetcher, State.main_setForwarder,
          State.main_setFetcher] at moved waitGroup ⊢
        omega
      · intro closed
        have finished := waited.closed closed endpoint
        simp [worker] at finished
  | waitFailed main fetched failed =>
      exact ⟨by simpa [main] using waitGroup, waited.closed⟩
  | waitSucceeded main fetched succeeded =>
      exact ⟨by simpa [main] using waitGroup, waited.closed⟩
  | @consume endpoint order counts totals agg main holding opened ranges =>
      have moved := state.sum_setForwarder endpoint (fun worker => worker.forwarder.pending)
        .delivered
      refine ⟨?_, fun closed => absurd closed opened⟩
      simp only [main, holding, Main.added, Forwarder.pending, State.waitGroup_setForwarder]
        at moved waitGroup ⊢
      omega
  | @done endpoint delivered =>
      have moved := state.sum_setForwarder endpoint (fun worker => worker.forwarder.pending) .done
      constructor
      · simp only [delivered, Forwarder.pending, State.main_setForwarder] at moved waitGroup ⊢
        omega
      · intro closed other
        have finished := waited.closed closed other
        simp [finished]
  | close waiting zero =>
      refine ⟨waitGroup, ?_⟩
      intro _ endpoint
      -- No unit is left, and every forwarder has been started before the closer.
      have notLaunching : state.main.launching = false := by
        have closerIdle := launched.closerIdle
        simpa [waiting] using closerIdle
      have none : ∑ other, (state.workers other).forwarder.pending = 0 := by omega
      have finished := Finset.sum_eq_zero_iff.mp none endpoint (Finset.mem_univ _)
      have started : (state.workers endpoint).forwarder ≠ .idle := by
        rw [Ne, launched.forwarderIdle, Main.forwardersStarted_of_launched notLaunching]
        have inRange := endpoint.isLt
        omega
      exact Forwarder.done_of_pending started finished
  | endRange main closed =>
      exact ⟨by simpa [main] using waitGroup, waited.closed⟩

end Waited

end KedaHttp.Scaler.FetchCounts
