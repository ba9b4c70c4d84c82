import KedaHttp.Scaler.FetchSafety

/-!
# Progress of the `fetchCounts` protocol

No run of the protocol is infinite, since every step brings one goroutine closer to its end.
No run is stuck before the main goroutine has returned either: a fetcher that cannot send has a
forwarder to receive, and once the main goroutine consumes, a forwarder that cannot send has the
main goroutine to receive, and the closer is released by the last forwarder.
-/

namespace KedaHttp.Scaler.FetchCounts

open KedaHttp.Foundation

universe u

section Ranks

variable {Count : Type u}

/-- The number of steps the main goroutine can still take on its own. -/
@[simp]
def Main.rank (n : ℕ) : Main Count → ℕ
  | adding next => 3 * (n - next) + 3
  | startingFetcher next => 3 * (n - next) + 2
  | startingForwarder next => 3 * (n - next) + 1
  | waiting => 2
  | consuming _ _ => 1
  | returned _ => 0

@[simp]
def Fetcher.rank : Fetcher Count → ℕ
  | idle => 3
  | fetching => 2
  | sending _ => 1
  | returned _ => 0

@[simp]
def Forwarder.rank : Forwarder Count → ℕ
  | idle => 4
  | receiving => 3
  | holding _ => 2
  | delivered => 1
  | done => 0

@[simp]
def Worker.rank (worker : Worker Count) : ℕ := worker.fetcher.rank + worker.forwarder.rank

@[simp]
def Closer.rank : Closer → ℕ
  | idle => 2
  | waiting => 1
  | done => 0

end Ranks

variable {Count : Type u} [AddCommMonoid Count] {n : ℕ}
  {answers : Fin n → Except String (GoMap String Count)} {state next : State Count n}
  {event : Event Count n}

/-- The number of steps all goroutines together can still take. -/
def State.rank (state : State Count n) : ℕ :=
  state.main.rank n + (∑ endpoint, (state.workers endpoint).rank) + state.closer.rank

theorem rank_lt (launched : Launched state) (moves : Moves answers state event next) :
    next.rank < state.rank := by
  simp only [State.rank]
  cases moves with
  | add main inRange =>
      simp only [main, Main.rank]
      omega
  | @startFetcher position main inRange =>
      have idle := launched.fetcher_idle main inRange
      have moved := state.sum_setFetcher ⟨position, inRange⟩ Worker.rank .fetching
      simp only [main, idle, Main.rank, Worker.rank, Fetcher.rank, State.closer_setFetcher]
        at moved ⊢
      omega
  | @startForwarder position main inRange =>
      have idle := launched.forwarder_idle main inRange
      have moved := state.sum_setForwarder ⟨position, inRange⟩ Worker.rank .receiving
      simp only [main, idle, Main.rank, Worker.rank, Forwarder.rank, State.closer_setForwarder]
        at moved ⊢
      omega
  | startCloser main =>
      have idle : state.closer = .idle := by
        rw [launched.closerIdle]
        simp [main]
      simp only [main, idle, Main.rank, Closer.rank]
      omega
  | @succeed endpoint counts fetching answer =>
      have moved := state.sum_setFetcher endpoint Worker.rank (.sending counts)
      simp only [fetching, Worker.rank, Fetcher.rank, State.main_setFetcher,
        State.closer_setFetcher] at moved ⊢
      omega
  | @fail endpoint err fetching answer =>
      have moved := state.sum_setFetcher endpoint Worker.rank (.returned (some err))
      simp only [fetching, Worker.rank, Fetcher.rank, State.main_setFetcher,
        State.closer_setFetcher] at moved ⊢
      omega
  | @handOff endpoint counts worker =>
      have fetched := state.sum_setFetcher endpoint Worker.rank (.returned none)
      have moved := (state.setFetcher endpoint (.returned none)).sum_setForwarder endpoint
        Worker.rank (.holding counts)
      simp only [worker, Worker.rank, Fetcher.rank, Forwarder.rank, State.fetcher_setFetcher,
        State.forwarder_setFetcher, State.main_setForwarder, State.closer_setForwarder,
        State.main_setFetcher, State.closer_setFetcher] at fetched moved ⊢
      omega
  | waitFailed main fetched failed =>
      simp only [main, Main.rank]
      omega
  | waitSucceeded main fetched succeeded =>
      simp only [main, Main.rank]
      omega
  | @consume endpoint order counts totals agg main holding opened ranges =>
      have moved := state.sum_setForwarder endpoint Worker.rank .delivered
      simp only [main, holding, Main.rank, Worker.rank, Forwarder.rank, State.closer_setForwarder]
        at moved ⊢
      omega
  | @done endpoint delivered =>
      have moved := state.sum_setForwarder endpoint Worker.rank .done
      simp only [delivered, Worker.rank, Forwarder.rank, State.main_setForwarder,
        State.closer_setForwarder] at moved ⊢
      omega
  | close waiting zero =>
      simp only [waiting, Closer.rank]
      omega
  | endRange main closed =>
      simp only [main, Main.rank]
      omega

/-- While fetchers run, one of them can finish its request or hand its answer over. -/
theorem exists_moves_of_fetching (launched : Launched state) (main : state.main = .waiting)
    (handedOff : HandedOff answers state) {endpoint : Fin n}
    (running : (state.workers endpoint).fetcher.hasReturned = false) :
    ∃ event next, Moves answers state event next := by
  have inRange := endpoint.isLt
  cases fetcher : (state.workers endpoint).fetcher with
  | idle =>
      have notStarted := (launched.fetcherIdle endpoint).mp fetcher
      simp only [main, Main.fetchersStarted] at notStarted
      omega
  | fetching =>
      cases answer : answers endpoint with
      | ok counts => exact ⟨_, _, .succeed fetcher answer⟩
      | error err => exact ⟨_, _, .fail fetcher answer⟩
  | sending sent =>
      have notReceived := (handedOff.carries endpoint).received
      cases forwarder : (state.workers endpoint).forwarder with
      | idle =>
          have notStarted := (launched.forwarderIdle endpoint).mp forwarder
          simp only [main, Main.forwardersStarted] at notStarted
          omega
      | receiving =>
          have worker : state.workers endpoint = ⟨.sending sent, .receiving⟩ := by
            rw [← fetcher, ← forwarder]
          exact ⟨_, _, .handOff worker⟩
      | holding | delivered | done => simp [fetcher, forwarder] at notReceived
  | returned err => simp [fetcher, Fetcher.hasReturned] at running

/-- While the main goroutine consumes, a forwarder can move, or the channel can be closed. -/
theorem exists_moves_of_consuming (launched : Launched state) (waited : Waited state)
    (handedOff : HandedOff answers state) {totals : GoMap String Count} {agg : Count}
    (main : state.main = .consuming totals agg)
    (fetched : ∀ endpoint, (state.workers endpoint).fetcher = .returned none) :
    ∃ event next, Moves answers state event next := by
  have closerStarted := launched.closerIdle
  by_cases finished : ∀ endpoint, (state.workers endpoint).forwarder = .done
  · cases closer : state.closer with
    | idle => simp [closer, main] at closerStarted
    | waiting =>
        have zero : state.waitGroup = 0 := by
          rw [waited.waitGroup]
          simp [finished, main]
        exact ⟨_, _, .close closer zero⟩
    | done => exact ⟨_, _, .endRange main closer⟩
  · rw [not_forall] at finished
    rcases finished with ⟨endpoint, unfinished⟩
    have opened : state.closer ≠ .done := fun closed => unfinished (waited.closed closed endpoint)
    have received := (handedOff.carries endpoint).received.mp (fetched endpoint)
    cases forwarder : (state.workers endpoint).forwarder with
    | idle | receiving => simp [forwarder] at received
    | holding held =>
        rcases held.exists_ranges with ⟨order, ranges⟩
        exact ⟨_, _, .consume main forwarder opened ranges⟩
    | delivered => exact ⟨_, _, .done forwarder⟩
    | done => exact absurd forwarder unfinished

end KedaHttp.Scaler.FetchCounts
