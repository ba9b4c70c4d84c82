import KedaHttp.Foundation.Transition
import KedaHttp.Foundation.GoMap
import Mathlib.Algebra.BigOperators.Fin
import Mathlib.Data.Fintype.BigOperators

/-!
# The goroutines of `fetchCounts`

`fetchCounts` from `scaler/queue_pinger.go`. For each of the `n` endpoints the function
starts a fetcher, which asks the endpoint for its counts and sends the answer on a private
unbuffered channel, and a forwarder, which receives from that channel and sends on `countsCh`.
A closer waits until all forwarders are done and closes `countsCh`. The main goroutine waits
for the fetchers and only then ranges over `countsCh`.

A step of the model is a step of one goroutine, or the rendezvous of the two ends of an
unbuffered channel. An event names the step, so that a list of events is a schedule. The
outcome of every `queue.GetCounts` is a parameter of the system, since it does not depend on
the schedule.

Counts are added in any commutative monoid. This covers the integers as well as the wrapping
addition of Go's `int`.
-/

namespace KedaHttp.Scaler

open KedaHttp.Foundation

universe u

/--
`EndpointsForService` from `pkg/k8s/endpoints.go`. An `Endpoints` object is the list of its
subsets, each with the texts of its addresses.
-/
def endpointsForService {URL : Type u} (parse : String → Except String URL)
    (servicePort : String) (endpoints : Except String (List (List String))) :
    Except String (List URL) :=
  match endpoints with
  | .error err => .error ("pkg.k8s.EndpointsForService: " ++ err)
  | .ok subsets =>
      subsets.foldlM (fun ret subset =>
        subset.foldlM (fun ret addr =>
          (parse ("http://" ++ addr ++ ":" ++ servicePort)).map fun url => ret ++ [url]) ret) []

namespace FetchCounts

inductive Fetcher (Count : Type u) where
  | idle
  | fetching
  | sending (counts : GoMap String Count)
  | returned (err : Option String)

inductive Forwarder (Count : Type u) where
  | idle
  | receiving
  | holding (counts : GoMap String Count)
  | delivered
  | done

/-- The two goroutines that serve one endpoint. -/
structure Worker (Count : Type u) where
  fetcher : Fetcher Count
  forwarder : Forwarder Count

inductive Closer where
  | idle
  | waiting
  | done
  deriving DecidableEq

/-- The position of the main goroutine; the loop that starts the workers has three steps. -/
inductive Main (Count : Type u) where
  | adding (next : ℕ)
  | startingFetcher (next : ℕ)
  | startingForwarder (next : ℕ)
  | waiting
  | consuming (totals : GoMap String Count) (agg : Count)
  | returned (result : Except String (GoMap String Count × Count))

/-- `consumed` only records which answers the main goroutine has received, and when. -/
structure State (Count : Type u) (n : ℕ) where
  main : Main Count
  workers : Fin n → Worker Count
  closer : Closer
  waitGroup : ℕ
  firstErr : Option String
  consumed : List (Fin n)

inductive Event (Count : Type u) (n : ℕ) where
  | add
  | startFetcher
  | startForwarder
  | startCloser
  | getCounts (endpoint : Fin n)
  | handOff (endpoint : Fin n)
  | wait
  | consume (endpoint : Fin n) (order : List (String × Count))
  | done (endpoint : Fin n)
  | close
  | endRange

variable {Count : Type u} [AddCommMonoid Count] {n : ℕ}

namespace State

def initial : State Count n where
  main := .adding 0
  workers := fun _ => ⟨.idle, .idle⟩
  closer := .idle
  waitGroup := 0
  firstErr := none
  consumed := []

def setFetcher (state : State Count n) (endpoint : Fin n) (fetcher : Fetcher Count) :
    State Count n :=
  { state with
    workers := Function.update state.workers endpoint
      { state.workers endpoint with fetcher := fetcher } }

def setForwarder (state : State Count n) (endpoint : Fin n) (forwarder : Forwarder Count) :
    State Count n :=
  { state with
    workers := Function.update state.workers endpoint
      { state.workers endpoint with forwarder := forwarder } }

section Workers

omit [AddCommMonoid Count]

variable (state : State Count n) (endpoint other : Fin n)

theorem workers_setFetcher (fetcher : Fetcher Count) :
    (state.setFetcher endpoint fetcher).workers other =
      if other = endpoint then ⟨fetcher, (state.workers endpoint).forwarder⟩
      else state.workers other := by
  by_cases same : other = endpoint <;> simp [setFetcher, same]

theorem workers_setForwarder (forwarder : Forwarder Count) :
    (state.setForwarder endpoint forwarder).workers other =
      if other = endpoint then ⟨(state.workers endpoint).fetcher, forwarder⟩
      else state.workers other := by
  by_cases same : other = endpoint <;> simp [setForwarder, same]

/-- A weight summed over all workers moves with the one worker that a step replaces. -/
theorem sum_update_add (weight : Worker Count → ℕ) (worker : Worker Count) :
    (∑ index, weight (Function.update state.workers endpoint worker index)) +
        weight (state.workers endpoint) =
      (∑ index, weight (state.workers index)) + weight worker := by
  have split := fun workers : Fin n → Worker Count =>
    Finset.add_sum_erase Finset.univ (fun index => weight (workers index))
      (Finset.mem_univ endpoint)
  have rest : ∑ index ∈ Finset.univ.erase endpoint,
      weight (Function.update state.workers endpoint worker index) =
        ∑ index ∈ Finset.univ.erase endpoint, weight (state.workers index) := by
    apply Finset.sum_congr rfl
    intro index member
    rw [Function.update_of_ne (Finset.ne_of_mem_erase member)]
  have before := split state.workers
  have after := split (Function.update state.workers endpoint worker)
  simp only [Function.update_self] at after
  omega

theorem sum_setFetcher (weight : Worker Count → ℕ) (fetcher : Fetcher Count) :
    (∑ index, weight ((state.setFetcher endpoint fetcher).workers index)) +
        weight (state.workers endpoint) =
      (∑ index, weight (state.workers index)) +
        weight ⟨fetcher, (state.workers endpoint).forwarder⟩ :=
  state.sum_update_add endpoint weight _

theorem sum_setForwarder (weight : Worker Count → ℕ) (forwarder : Forwarder Count) :
    (∑ index, weight ((state.setForwarder endpoint forwarder).workers index)) +
        weight (state.workers endpoint) =
      (∑ index, weight (state.workers index)) +
        weight ⟨(state.workers endpoint).fetcher, forwarder⟩ :=
  state.sum_update_add endpoint weight _

@[simp]
theorem fetcher_setFetcher (fetcher : Fetcher Count) :
    ((state.setFetcher endpoint fetcher).workers other).fetcher =
      if other = endpoint then fetcher else (state.workers other).fetcher := by
  by_cases same : other = endpoint <;> simp [setFetcher, same]

@[simp]
theorem forwarder_setFetcher (fetcher : Fetcher Count) :
    ((state.setFetcher endpoint fetcher).workers other).forwarder =
      (state.workers other).forwarder := by
  by_cases same : other = endpoint <;> simp [setFetcher, same]

@[simp]
theorem forwarder_setForwarder (forwarder : Forwarder Count) :
    ((state.setForwarder endpoint forwarder).workers other).forwarder =
      if other = endpoint then forwarder else (state.workers other).forwarder := by
  by_cases same : other = endpoint <;> simp [setForwarder, same]

@[simp]
theorem fetcher_setForwarder (forwarder : Forwarder Count) :
    ((state.setForwarder endpoint forwarder).workers other).fetcher =
      (state.workers other).fetcher := by
  by_cases same : other = endpoint <;> simp [setForwarder, same]

@[simp]
theorem main_setFetcher (fetcher : Fetcher Count) :
    (state.setFetcher endpoint fetcher).main = state.main := rfl

@[simp]
theorem closer_setFetcher (fetcher : Fetcher Count) :
    (state.setFetcher endpoint fetcher).closer = state.closer := rfl

@[simp]
theorem waitGroup_setFetcher (fetcher : Fetcher Count) :
    (state.setFetcher endpoint fetcher).waitGroup = state.waitGroup := rfl

@[simp]
theorem consumed_setFetcher (fetcher : Fetcher Count) :
    (state.setFetcher endpoint fetcher).consumed = state.consumed := rfl

@[simp]
theorem main_setForwarder (forwarder : Forwarder Count) :
    (state.setForwarder endpoint forwarder).main = state.main := rfl

@[simp]
theorem closer_setForwarder (forwarder : Forwarder Count) :
    (state.setForwarder endpoint forwarder).closer = state.closer := rfl

@[simp]
theorem waitGroup_setForwarder (forwarder : Forwarder Count) :
    (state.setForwarder endpoint forwarder).waitGroup = state.waitGroup := rfl

end Workers

end State

/-- The loop `for host, val := range count.Counts`, which visits the entries in `order`. -/
def addCounts (order : List (String × Count)) (totals : GoMap String Count) (agg : Count) :
    GoMap String Count × Count :=
  order.foldl (fun acc entry => (acc.1.addAt entry.1 entry.2, acc.2 + entry.2)) (totals, agg)

/-- Whether a fetcher of the group has returned. -/
def Fetcher.hasReturned : Fetcher Count → Bool
  | returned _ => true
  | idle | fetching | sending _ => false

omit [AddCommMonoid Count] in
theorem Fetcher.exists_of_hasReturned {fetcher : Fetcher Count}
    (returned : fetcher.hasReturned = true) : ∃ err, fetcher = .returned err := by
  cases fetcher with
  | idle | fetching | sending => simp [hasReturned] at returned
  | returned err => exact ⟨err, rfl⟩

def step [DecidableEq Count] (answers : Fin n → Except String (GoMap String Count))
    (state : State Count n) : Event Count n → Option (State Count n)
  | .add =>
      match state.main with
      | .adding next =>
          if next < n then
            some { state with main := .startingFetcher next, waitGroup := state.waitGroup + 1 }
          else none
      | _ => none
  | .startFetcher =>
      match state.main with
      | .startingFetcher next =>
          if bound : next < n then
            some { state.setFetcher ⟨next, bound⟩ .fetching with main := .startingForwarder next }
          else none
      | _ => none
  | .startForwarder =>
      match state.main with
      | .startingForwarder next =>
          if bound : next < n then
            some { state.setForwarder ⟨next, bound⟩ .receiving with main := .adding (next + 1) }
          else none
      | _ => none
  | .startCloser =>
      match state.main with
      | .adding next =>
          if next = n then some { state with main := .waiting, closer := .waiting } else none
      | _ => none
  | .getCounts endpoint =>
      match (state.workers endpoint).fetcher, answers endpoint with
      | .fetching, .ok counts => some (state.setFetcher endpoint (.sending counts))
      | .fetching, .error err =>
          -- The error group keeps the first error only.
          some { state.setFetcher endpoint (.returned (some err)) with
            firstErr := state.firstErr.or (some err) }
      | _, _ => none
  | .handOff endpoint =>
      match state.workers endpoint with
      | ⟨.sending counts, .receiving⟩ =>
          some ((state.setFetcher endpoint (.returned none)).setForwarder endpoint
            (.holding counts))
      | _ => none
  | .wait =>
      match state.main with
      | .waiting =>
          if ∀ endpoint, (state.workers endpoint).fetcher.hasReturned = true then
            match state.firstErr with
            | some err => some { state with main := .returned (.error err) }
            | none => some { state with main := .consuming ∅ 0 }
          else none
      | _ => none
  | .consume endpoint order =>
      match state.main, (state.workers endpoint).forwarder with
      | .consuming totals agg, .holding counts =>
          if state.closer ≠ .done ∧ counts.Ranges order then
            some { state.setForwarder endpoint .delivered with
              main := .consuming (addCounts order totals agg).1 (addCounts order totals agg).2
              consumed := endpoint :: state.consumed }
          else none
      | _, _ => none
  | .done endpoint =>
      match (state.workers endpoint).forwarder with
      | .delivered =>
          some { state.setForwarder endpoint .done with waitGroup := state.waitGroup - 1 }
      | _ => none
  | .close =>
      if state.closer = .waiting ∧ state.waitGroup = 0 then some { state with closer := .done }
      else none
  | .endRange =>
      match state.main with
      | .consuming totals agg =>
          if state.closer = .done then some { state with main := .returned (.ok (totals, agg)) }
          else none
      | _ => none

/-- A step depends on the outcome of a request only where it makes the request. -/
theorem step_congr [DecidableEq Count] {answers others : Fin n → Except String (GoMap String Count)}
    (state : State Count n) {event : Event Count n}
    (same : ∀ endpoint, event = .getCounts endpoint → answers endpoint = others endpoint) :
    step answers state event = step others state event := by
  cases event with
  | getCounts endpoint => simp only [step, same endpoint rfl]
  | _ => rfl

/-- The transitions of `step`, one constructor for each way an event can be enabled. -/
inductive Moves (answers : Fin n → Except String (GoMap String Count)) (state : State Count n) :
    Event Count n → State Count n → Prop where
  | add {next : ℕ} (main : state.main = .adding next) (bound : next < n) :
      Moves answers state .add
        { state with main := .startingFetcher next, waitGroup := state.waitGroup + 1 }
  | startFetcher {next : ℕ} (main : state.main = .startingFetcher next) (bound : next < n) :
      Moves answers state .startFetcher
        { state.setFetcher ⟨next, bound⟩ .fetching with main := .startingForwarder next }
  | startForwarder {next : ℕ} (main : state.main = .startingForwarder next) (bound : next < n) :
      Moves answers state .startForwarder
        { state.setForwarder ⟨next, bound⟩ .receiving with main := .adding (next + 1) }
  | startCloser (main : state.main = .adding n) :
      Moves answers state .startCloser { state with main := .waiting, closer := .waiting }
  | succeed {endpoint : Fin n} {counts : GoMap String Count}
      (fetching : (state.workers endpoint).fetcher = .fetching)
      (answer : answers endpoint = .ok counts) :
      Moves answers state (.getCounts endpoint) (state.setFetcher endpoint (.sending counts))
  | fail {endpoint : Fin n} {err : String}
      (fetching : (state.workers endpoint).fetcher = .fetching)
      (answer : answers endpoint = .error err) :
      Moves answers state (.getCounts endpoint)
        { state.setFetcher endpoint (.returned (some err)) with
          firstErr := state.firstErr.or (some err) }
  | handOff {endpoint : Fin n} {counts : GoMap String Count}
      (worker : state.workers endpoint = ⟨.sending counts, .receiving⟩) :
      Moves answers state (.handOff endpoint)
        ((state.setFetcher endpoint (.returned none)).setForwarder endpoint (.holding counts))
  | waitFailed {err : String} (main : state.main = .waiting)
      (fetched : ∀ endpoint, (state.workers endpoint).fetcher.hasReturned = true)
      (failed : state.firstErr = some err) :
      Moves answers state .wait { state with main := .returned (.error err) }
  | waitSucceeded (main : state.main = .waiting)
      (fetched : ∀ endpoint, (state.workers endpoint).fetcher.hasReturned = true)
      (succeeded : state.firstErr = none) :
      Moves answers state .wait { state with main := .consuming ∅ 0 }
  | consume {endpoint : Fin n} {order : List (String × Count)} {counts totals : GoMap String Count}
      {agg : Count} (main : state.main = .consuming totals agg)
      (holding : (state.workers endpoint).forwarder = .holding counts)
      (opened : state.closer ≠ .done) (ranges : counts.Ranges order) :
      Moves answers state (.consume endpoint order)
        { state.setForwarder endpoint .delivered with
          main := .consuming (addCounts order totals agg).1 (addCounts order totals agg).2
          consumed := endpoint :: state.consumed }
  | done {endpoint : Fin n} (delivered : (state.workers endpoint).forwarder = .delivered) :
      Moves answers state (.done endpoint)
        { state.setForwarder endpoint .done with waitGroup := state.waitGroup - 1 }
  | close (waiting : state.closer = .waiting) (zero : state.waitGroup = 0) :
      Moves answers state .close { state with closer := .done }
  | endRange {totals : GoMap String Count} {agg : Count}
      (main : state.main = .consuming totals agg) (closed : state.closer = .done) :
      Moves answers state .endRange { state with main := .returned (.ok (totals, agg)) }

theorem moves_iff [DecidableEq Count] {answers : Fin n → Except String (GoMap String Count)}
    {state next : State Count n} {event : Event Count n} :
    step answers state event = some next ↔ Moves answers state event next := by
  constructor
  · intro stepped
    cases event with
    | add =>
        simp only [step] at stepped
        split at stepped
        · next _ position main =>
            split at stepped
            · next bound =>
                simp only [Option.some.injEq] at stepped
                exact stepped ▸ .add main bound
            · simp at stepped
        · simp at stepped
    | startFetcher =>
        simp only [step] at stepped
        split at stepped
        · next _ position main =>
            split at stepped
            · next bound =>
                simp only [Option.some.injEq] at stepped
                exact stepped ▸ .startFetcher main bound
            · simp at stepped
        · simp at stepped
    | startForwarder =>
        simp only [step] at stepped
        split at stepped
        · next _ position main =>
            split at stepped
            · next bound =>
                simp only [Option.some.injEq] at stepped
                exact stepped ▸ .startForwarder main bound
            · simp at stepped
        · simp at stepped
    | startCloser =>
        simp only [step] at stepped
        split at stepped
        · next _ position main =>
            split at stepped
            · next finished =>
                simp only [Option.some.injEq] at stepped
                subst finished
                exact stepped ▸ .startCloser main
            · simp at stepped
        · simp at stepped
    | getCounts endpoint =>
        simp only [step] at stepped
        split at stepped
        · next fetching answer =>
            simp only [Option.some.injEq] at stepped
            exact stepped ▸ .succeed fetching answer
        · next fetching answer =>
            simp only [Option.some.injEq] at stepped
            exact stepped ▸ .fail fetching answer
        · simp at stepped
    | handOff endpoint =>
        simp only [step] at stepped
        split at stepped
        · next worker =>
            simp only [Option.some.injEq] at stepped
            exact stepped ▸ .handOff worker
        · simp at stepped
    | wait =>
        simp only [step] at stepped
        split at stepped
        · next main =>
            split at stepped
            · next fetched =>
                split at stepped
                · next failed =>
                    simp only [Option.some.injEq] at stepped
                    exact stepped ▸ .waitFailed main fetched failed
                · next succeeded =>
                    simp only [Option.some.injEq] at stepped
                    exact stepped ▸ .waitSucceeded main fetched succeeded
            · simp at stepped
        · simp at stepped
    | consume endpoint order =>
        simp only [step] at stepped
        split at stepped
        · next main holding =>
            split at stepped
            · next enabled =>
                simp only [Option.some.injEq] at stepped
                exact stepped ▸ .consume main holding enabled.1 enabled.2
            · simp at stepped
        · simp at stepped
    | done endpoint =>
        simp only [step] at stepped
        split at stepped
        · next delivered =>
            simp only [Option.some.injEq] at stepped
            exact stepped ▸ .done delivered
        · simp at stepped
    | close =>
        simp only [step] at stepped
        split at stepped
        · next enabled =>
            simp only [Option.some.injEq] at stepped
            exact stepped ▸ .close enabled.1 enabled.2
        · simp at stepped
    | endRange =>
        simp only [step] at stepped
        split at stepped
        · next main =>
            split at stepped
            · next closed =>
                simp only [Option.some.injEq] at stepped
                exact stepped ▸ .endRange main closed
            · simp at stepped
        · simp at stepped
  · intro moves
    cases moves with
    | add main bound => simp [step, main, bound]
    | startFetcher main bound => simp [step, main, bound]
    | startForwarder main bound => simp [step, main, bound]
    | startCloser main => simp [step, main]
    | succeed fetching answer => simp [step, fetching, answer]
    | fail fetching answer => simp [step, fetching, answer]
    | handOff worker => simp [step, worker]
    | waitFailed main fetched failed => simp [step, main, fetched, failed]
    | waitSucceeded main fetched succeeded => simp [step, main, fetched, succeeded]
    | consume main holding opened ranges => simp [step, main, holding, opened, ranges]
    | done delivered => simp [step, delivered]
    | close waiting zero => simp [step, waiting, zero]
    | endRange main closed => simp [step, main, closed]

end FetchCounts

end KedaHttp.Scaler
