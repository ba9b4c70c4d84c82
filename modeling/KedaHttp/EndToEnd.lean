import KedaHttp.Interceptor.Accounting
import KedaHttp.Scaler.FetchOutcome
import KedaHttp.Scaler.Handlers
import Mathlib.Algebra.Order.BigOperators.Group.Finset
import Mathlib.Algebra.Order.BigOperators.Group.List
import Mathlib.Algebra.Order.Ring.Int

/-!
# From requests in flight to the metrics that KEDA reads

Any number of interceptors count requests, each on its own, while the scaler fetches their counts
again and again. The interceptors do not postpone resizes. A fetch asks the interceptors it has
found as endpoints, each of them answers at an instant of its own, and the goroutines of
`fetchCounts` collect the answers in any order. A fetch holds the pinger's lock, so that there is
one at a time.

A fetch records the interceptors that have answered as they were when they answered. The record
of the last successful fetch is what the metrics are compared with.
-/

namespace KedaHttp.EndToEnd

open KedaHttp.Foundation
open KedaHttp.Interceptor
open KedaHttp.Queue
open KedaHttp.Routing
open KedaHttp.Scaler

variable {ι : Type}

/-- One run of `fetchCounts`, with the outcomes of the requests answered so far. -/
structure Fetch (ι : Type) (n : ℕ) where
  endpoints : Fin n → ι
  outcomes : Fin n → Option (Except String Counting.State)
  goroutines : FetchCounts.State Int n

namespace Fetch

variable {n : ℕ}

def start (endpoints : Fin n → ι) : Fetch ι n where
  endpoints := endpoints
  outcomes := fun _ => none
  goroutines := .initial

/-- The answer of an interceptor's `/queue` route is the current count map of its queue. -/
def answer (outcome : Except String Counting.State) : Except String (GoMap String Int) :=
  outcome.map fun interceptor => interceptor.queue.current

/-- What the requests of the fetchers result in, once they have been answered. -/
def answers (fetch : Fetch ι n) (endpoint : Fin n) : Except String (GoMap String Int) :=
  ((fetch.outcomes endpoint).map answer).getD (.error "not answered yet")

/-- A request that a fetcher has made is answered, or fails. -/
def settle (fetch : Fetch ι n) (endpoint : Fin n) (outcome : Except String Counting.State) :
    Option (Fetch ι n) :=
  match (fetch.goroutines.workers endpoint).fetcher, fetch.outcomes endpoint with
  | .fetching, none =>
      some { fetch with outcomes := Function.update fetch.outcomes endpoint (some outcome) }
  | _, _ => none

/-- A fetcher has to wait for the answer, the other steps do not depend on it. -/
def ready (fetch : Fetch ι n) : FetchCounts.Event Int n → Bool
  | .getCounts endpoint => (fetch.outcomes endpoint).isSome
  | _ => true

def advance (fetch : Fetch ι n) (event : FetchCounts.Event Int n) : Option (Fetch ι n) :=
  if fetch.ready event then
    (FetchCounts.step fetch.answers fetch.goroutines event).map fun next =>
      { fetch with goroutines := next }
  else none

end Fetch

structure System (ι : Type) where
  interceptors : ι → Counting.State
  pinger : QueuePinger Int
  fetch : Option (Σ n, Fetch ι n)
  lastFetch : Option (Σ n, Fetch ι n)

inductive Event (ι : Type) where
  | request (interceptor : ι) (event : Counting.Event)
  | startFetch (n : ℕ) (endpoints : Fin n → ι)
  | answer (index : ℕ)
  | fail (index : ℕ) (err : String)
  | goroutine (n : ℕ) (event : FetchCounts.Event Int n)
  | save (now : Time)

namespace System

def initial (postponeDuration : ι → Time) : System ι where
  interceptors := fun interceptor => .initial (postponeDuration interceptor) false
  pinger := .new
  fetch := none
  lastFetch := none

def updateFetch (system : System ι) (update : (n : ℕ) → Fetch ι n → Option (Fetch ι n)) :
    Option (System ι) :=
  match system.fetch with
  | none => none
  | some ⟨n, fetch⟩ => (update n fetch).map fun next => { system with fetch := some ⟨n, next⟩ }

/-- `fetchAndSaveCounts` goes on when `fetchCounts` has returned, and gives the lock back. -/
def save (system : System ι) (now : Time) : Option (System ι) :=
  match system.fetch with
  | none => none
  | some ⟨n, fetch⟩ =>
      match fetch.goroutines.main with
      | .returned result =>
          let saved := system.pinger.fetchAndSaveCounts result now
          some { system with
            pinger := saved.1
            fetch := none
            lastFetch :=
              match saved.2 with
              | .ok () => some ⟨n, fetch⟩
              | .error _ => system.lastFetch }
      | _ => none

end System

def step [DecidableEq ι] (system : System ι) : Event ι → Option (System ι)
  | .request interceptor event =>
      (Counting.step (system.interceptors interceptor) event).map fun next =>
        { system with interceptors := Function.update system.interceptors interceptor next }
  | .startFetch n endpoints =>
      match system.fetch with
      | none => some { system with fetch := some ⟨n, .start endpoints⟩ }
      | some _ => none
  | .answer index => system.updateFetch fun n fetch =>
      if bound : index < n then
        fetch.settle ⟨index, bound⟩ (.ok (system.interceptors (fetch.endpoints ⟨index, bound⟩)))
      else none
  | .fail index err => system.updateFetch fun n fetch =>
      if bound : index < n then fetch.settle ⟨index, bound⟩ (.error err) else none
  | .goroutine n event => system.updateFetch fun m fetch =>
      if same : n = m then fetch.advance (same ▸ event) else none
  | .save now => system.save now

namespace Fetch

variable {n : ℕ} {fetch next : Fetch ι n}

theorem settle_spec {endpoint : Fin n} {outcome : Except String Counting.State}
    (settles : fetch.settle endpoint outcome = some next) :
    fetch.outcomes endpoint = none ∧ next.goroutines = fetch.goroutines ∧
      ∀ other, next.outcomes other =
        if other = endpoint then some outcome else fetch.outcomes other := by
  simp only [settle] at settles
  split at settles
  · next unknown =>
      rw [← Option.some.inj settles]
      refine ⟨unknown, rfl, ?_⟩
      intro other
      simp only [Function.update_apply]
  · simp at settles

/-- The outcomes that requests may still have, given those that are known. -/
def Consistent (fetch : Fetch ι n) (answers : Fin n → Except String (GoMap String Int)) : Prop :=
  ∀ endpoint outcome, fetch.outcomes endpoint = some outcome → answers endpoint = answer outcome

/--
The interceptors that have answered kept exact counts, and the goroutines have got where they are
with any outcomes of the requests that are still open.
-/
structure Sound (fetch : Fetch ι n) : Prop where
  exact : ∀ endpoint interceptor, fetch.outcomes endpoint = some (.ok interceptor) →
    Counting.Exact interceptor
  reachable : ∀ answers, fetch.Consistent answers →
    Reachable (StepOf (FetchCounts.step answers)) .initial fetch.goroutines

namespace Sound

theorem start (endpoints : Fin n → ι) : Sound (Fetch.start endpoints) where
  exact := by simp [Fetch.start]
  reachable := fun _ _ => .refl

theorem settle (sound : Sound fetch) {endpoint : Fin n} {outcome : Except String Counting.State}
    (exact : ∀ interceptor, outcome = .ok interceptor → Counting.Exact interceptor)
    (settles : fetch.settle endpoint outcome = some next) : Sound next := by
  rcases settle_spec settles with ⟨unknown, goroutines, outcomes⟩
  constructor
  · intro other interceptor known
    rw [outcomes] at known
    split at known
    · exact exact interceptor (Option.some.inj known)
    · exact sound.exact other interceptor known
  · intro answers consistent
    rw [goroutines]
    apply sound.reachable
    intro other settled known
    apply consistent
    rw [outcomes, if_neg, known]
    rintro rfl
    simp [unknown] at known

theorem advance (sound : Sound fetch) {event : FetchCounts.Event Int n}
    (advances : fetch.advance event = some next) : Sound next := by
  simp only [Fetch.advance] at advances
  split at advances
  · next ready =>
      rcases Option.map_eq_some_iff.mp advances with ⟨goroutines, stepped, rfl⟩
      refine ⟨sound.exact, ?_⟩
      intro answers consistent
      have sameStep : FetchCounts.step answers fetch.goroutines event =
          FetchCounts.step fetch.answers fetch.goroutines event := by
        apply FetchCounts.step_congr
        rintro endpoint rfl
        rcases Option.isSome_iff_exists.mp ready with ⟨outcome, known⟩
        rw [consistent endpoint outcome known]
        simp [Fetch.answers, known]
      exact (sound.reachable answers consistent).step (sameStep.trans stepped)
  · simp at advances

/-- When `fetchCounts` returns without error, every interceptor it has asked has answered. -/
theorem answered (sound : Sound fetch) {total : GoMap String Int × Int}
    (returned : fetch.goroutines.main = .returned (.ok total)) :
    ∃ answered : Fin n → Counting.State,
      (∀ endpoint, fetch.outcomes endpoint = some (.ok (answered endpoint))) ∧
        ∀ host, total.1.get host = ∑ endpoint, ((answered endpoint).inFlight host : Int) := by
  have consistent : fetch.Consistent fetch.answers := by
    intro endpoint outcome known
    simp [Fetch.answers, known]
  have collected := FetchCounts.Sound.of_reachable (sound.reachable _ consistent)
  rcases collected.totals returned with ⟨counts, answers, _, sums, _⟩
  have each : ∀ endpoint, ∃ interceptor, fetch.outcomes endpoint = some (.ok interceptor) ∧
      counts endpoint = interceptor.queue.current := by
    intro endpoint
    have answer := answers endpoint
    cases known : fetch.outcomes endpoint with
    | none => simp [Fetch.answers, known] at answer
    | some outcome =>
        cases outcome with
        | error err => simp [Fetch.answers, Fetch.answer, known, Except.map] at answer
        | ok interceptor =>
            simp only [Fetch.answers, Fetch.answer, known, Except.map, Option.map_some,
              Option.getD_some, Except.ok.injEq] at answer
            exact ⟨interceptor, rfl, answer.symm⟩
  choose answered outcomes current using each
  refine ⟨answered, outcomes, ?_⟩
  intro host
  rw [sums]
  apply Finset.sum_congr rfl
  intro endpoint _
  rw [current, ← (sound.exact endpoint _ (outcomes endpoint)).counts, Memory.count_eq_get]
  rfl

end Sound

end Fetch

/-- The pinger holds, for each host, the requests in flight when the interceptors answered. -/
def Saved {n : ℕ} (pinger : QueuePinger Int) (fetch : Fetch ι n) : Prop :=
  ∃ answered : Fin n → Counting.State,
    (∀ endpoint, fetch.outcomes endpoint = some (.ok (answered endpoint))) ∧
      ∀ host, pinger.counts.get host = ∑ endpoint, ((answered endpoint).inFlight host : Int)

structure Sound (system : System ι) : Prop where
  interceptors : ∀ interceptor, Counting.Exact (system.interceptors interceptor)
  fetch : ∀ n (fetch : Fetch ι n), system.fetch = some ⟨n, fetch⟩ → fetch.Sound
  saved : ∀ n (fetch : Fetch ι n), system.lastFetch = some ⟨n, fetch⟩ → Saved system.pinger fetch

namespace Sound

variable {system next : System ι}

theorem initial (postponeDuration : ι → Time) : Sound (System.initial postponeDuration) where
  interceptors := fun interceptor => .initial (postponeDuration interceptor)
  fetch := by simp [System.initial]
  saved := by simp [System.initial]

/-- Steps of a fetch only concern the fetch. -/
theorem updateFetch (sound : Sound system)
    {update : (n : ℕ) → Fetch ι n → Option (Fetch ι n)}
    (keeps : ∀ n (before after : Fetch ι n), before.Sound → update n before = some after →
      after.Sound)
    (updated : system.updateFetch update = some next) : Sound next := by
  simp only [System.updateFetch] at updated
  split at updated
  · simp at updated
  · next n before running =>
      rcases Option.map_eq_some_iff.mp updated with ⟨after, updates, rfl⟩
      refine ⟨sound.interceptors, ?_, sound.saved⟩
      rintro _ _ ⟨⟩
      exact keeps n before after (sound.fetch n before running) updates

theorem save (sound : Sound system) {now : Time} (saves : system.save now = some next) :
    Sound next := by
  simp only [System.save] at saves
  split at saves
  · simp at saves
  · next n fetch running =>
      split at saves
      · next result returned =>
          simp only [Option.some.injEq] at saves
          subst saves
          cases result with
          | error err => exact ⟨sound.interceptors, by simp, sound.saved⟩
          | ok total =>
              refine ⟨sound.interceptors, by simp, ?_⟩
              rintro _ _ ⟨⟩
              exact (sound.fetch n fetch running).answered returned
      · simp at saves

theorem preserved [DecidableEq ι] (sound : Sound system) {event : Event ι}
    (stepped : step system event = some next) : Sound next := by
  cases event with
  | request interceptor event =>
      rcases Option.map_eq_some_iff.mp stepped with ⟨moved, moves, rfl⟩
      refine ⟨?_, sound.fetch, sound.saved⟩
      intro other
      by_cases same : other = interceptor
      · subst same
        simpa using (sound.interceptors other).preserved moves
      · simpa [same] using sound.interceptors other
  | startFetch n endpoints =>
      simp only [step] at stepped
      split at stepped
      · simp only [Option.some.injEq] at stepped
        subst stepped
        refine ⟨sound.interceptors, ?_, sound.saved⟩
        rintro _ _ ⟨⟩
        exact .start endpoints
      · simp at stepped
  | answer index =>
      refine sound.updateFetch ?_ stepped
      intro n before after fetchSound settles
      split at settles
      · refine fetchSound.settle ?_ settles
        rintro interceptor ⟨⟩
        exact sound.interceptors _
      · simp at settles
  | fail index err =>
      refine sound.updateFetch ?_ stepped
      intro n before after fetchSound settles
      split at settles
      · exact fetchSound.settle (by simp) settles
      · simp at settles
  | goroutine m event =>
      refine sound.updateFetch ?_ stepped
      intro n before after fetchSound advances
      split at advances
      · next same =>
          subst same
          exact fetchSound.advance advances
      · simp at advances
  | save now => exact sound.save stepped

theorem of_reachable [DecidableEq ι] {postponeDuration : ι → Time}
    (reachable : Reachable (StepOf step) (System.initial postponeDuration) system) :
    Sound system :=
  reachable.invariant (initial postponeDuration) fun _ _ _ sound stepped => sound.preserved stepped

end Sound

/-- A total of natural numbers is positive as soon as one of them is. -/
theorem total_pos_of_inFlight {n : ℕ} (answered : Fin n → Counting.State) {hosts : List String}
    {host : String} (member : host ∈ hosts) {endpoint : Fin n}
    (inFlight : 0 < (answered endpoint).inFlight host) :
    0 < (hosts.map fun host => ∑ endpoint, ((answered endpoint).inFlight host : Int)).sum := by
  have nonneg : ∀ other, 0 ≤ ∑ endpoint, ((answered endpoint).inFlight other : Int) :=
    fun other => Finset.sum_nonneg fun _ _ => Int.natCast_nonneg _
  have positive : 0 < ∑ endpoint, ((answered endpoint).inFlight host : Int) := by
    apply lt_of_lt_of_le (Int.natCast_pos.mpr inFlight)
    exact Finset.single_le_sum (f := fun endpoint => ((answered endpoint).inFlight host : Int))
      (fun _ _ => Int.natCast_nonneg _) (Finset.mem_univ endpoint)
  apply lt_of_lt_of_le positive
  apply List.single_le_sum
  · intro value valueMem
    rcases List.mem_map.mp valueMem with ⟨other, _, rfl⟩
    exact nonneg other
  · exact List.mem_map_of_mem member

/--
In every reachable state, for the last successful fetch: every interceptor it asked has answered,
and for listed hosts that are known, `GetMetrics` reports the requests for these hosts that were in
flight at the interceptors when they answered, added up over the hosts and the interceptors, and
`IsActive` tells whether there were any.
-/
theorem metrics_eq_inFlight [DecidableEq ι] {postponeDuration : ι → Time} {system : System ι}
    (reachable : Reachable (StepOf step) (System.initial postponeDuration) system)
    {n : ℕ} {fetch : Fetch ι n} (last : system.lastFetch = some ⟨n, fetch⟩) :
    ∃ answered : Fin n → Counting.State,
      (∀ endpoint, fetch.outcomes endpoint = some (.ok (answered endpoint))) ∧
      ∀ (routingTable : Table) (sor : ScaledObjectRef) (hosts : List String),
        getHostsFromScaledObjectRef sor = .ok hosts → interceptor ∉ hosts →
        (∀ host ∈ hosts, Known routingTable system.pinger host) →
        let total : Int :=
          (hosts.map fun host => ∑ endpoint, ((answered endpoint).inFlight host : Int)).sum
        getMetrics routingTable (fun _ => system.pinger) sor = .ok [⟨httpRequests, total⟩] ∧
          isActive routingTable (fun _ => system.pinger) sor = .ok (decide (0 < total)) ∧
          ∀ host ∈ hosts, ∀ endpoint, 0 < (answered endpoint).inFlight host →
            isActive routingTable (fun _ => system.pinger) sor = .ok true := by
  rcases (Sound.of_reachable reachable).saved n fetch last with ⟨answered, outcomes, counts⟩
  refine ⟨answered, outcomes, ?_⟩
  intro routingTable sor hosts listed others known total
  have sameCounts : hosts.map system.pinger.counts.get =
      hosts.map fun host => ∑ endpoint, ((answered endpoint).inFlight host : Int) :=
    List.map_congr_left fun host _ => counts host
  have read : readTotal (fun _ => system.pinger) hosts 0 = total := by
    rw [readTotal_of_same fun _ _ => rfl, QueuePinger.total, sameCounts]
  have metrics : getMetrics routingTable (fun _ => system.pinger) sor =
      .ok [⟨httpRequests, total⟩] := by
    rw [getMetrics_of_known listed fun _ => known, read]
  have active : isActive routingTable (fun _ => system.pinger) sor =
      .ok (decide (0 < total)) := by
    rw [isActive_of_known listed (fun _ => known) others, read]
  refine ⟨metrics, active, ?_⟩
  intro host member endpoint inFlight
  rw [active, decide_eq_true (total_pos_of_inFlight answered member inFlight)]

/-- The schedule of a fetch from one interceptor, which answers as soon as it is asked. -/
def sampleFetch (host : String) (count : Int) : List (Event Unit) :=
  [.startFetch 1 fun _ => (), .goroutine 1 .add, .goroutine 1 .startFetcher,
    .goroutine 1 .startForwarder, .goroutine 1 .startCloser, .answer 0,
    .goroutine 1 (.getCounts 0), .goroutine 1 (.handOff 0), .goroutine 1 .wait,
    .goroutine 1 (.consume 0 [(host, count)]), .goroutine 1 (.done 0), .goroutine 1 .close,
    .goroutine 1 .endRange, .save 7]

/-- Of two requests, one is in flight when the interceptor answers, the other arrives later. -/
theorem metrics_eq_inFlight_later : ∃ system : System Unit,
    Reachable (StepOf step) (System.initial fun _ => 20) system ∧
      (system.interceptors ()).inFlight "app.dp-a" = 2 ∧
      getMetrics newTable (fun _ => system.pinger)
        ⟨(∅ : GoMap String String).insert "hosts" "app.dp-a"⟩ = .ok [⟨"http-requests", 1⟩] := by
  rcases Reachable.exists_of_record step (System.initial fun _ : Unit => 20)
    ([.request () (.arrive Counting.sampleRequest Counting.sampleLookup),
      .request () (.act 0 .increment)] ++ sampleFetch "app.dp-a" 1 ++
      [.request () (.arrive Counting.sampleRequest Counting.sampleLookup),
        .request () (.act 1 .increment)])
    (fun system : System Unit => decide ((system.interceptors ()).inFlight "app.dp-a" = 2) &&
      decide ("app.dp-a" ∈ system.pinger.counts) &&
      system.lastFetch.any fun last : (Σ n, Fetch Unit n) => decide (last.1 = 1) &&
        (List.finRange last.1).all fun endpoint =>
          (last.2.outcomes endpoint).any fun outcome : Except String Counting.State =>
            outcome.toOption.any fun interceptor : Counting.State =>
              decide (interceptor.inFlight "app.dp-a" = 1)) (by decide)
    with ⟨system, reachable, passed⟩
  simp only [Bool.and_eq_true, decide_eq_true_eq, Option.any_eq_true, List.all_eq_true] at passed
  rcases passed with ⟨⟨two, counted⟩, ⟨n, fetch⟩, last, rfl, inFlight⟩
  refine ⟨system, reachable, two, ?_⟩
  rcases metrics_eq_inFlight reachable last with ⟨answered, outcomes, reports⟩
  have single : (answered 0).inFlight "app.dp-a" = 1 := by
    rcases inFlight 0 (List.mem_finRange 0) with ⟨outcome, known, interceptor, answers, one⟩
    rw [outcomes 0, Option.some.injEq] at known
    subst known
    rw [← Option.some.inj answers] at one
    exact one
  have metrics := (reports newTable ⟨(∅ : GoMap String String).insert "hosts" "app.dp-a"⟩
    ["app.dp-a"] (by decide) (by decide) (by simp [Known, counted])).1
  rw [metrics]
  simp [single, httpRequests]

end KedaHttp.EndToEnd
