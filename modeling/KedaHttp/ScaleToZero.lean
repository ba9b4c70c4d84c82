import KedaHttp.Interceptor.Drift
import KedaHttp.Scaler.FetchLeaks
import KedaHttp.Scaler.Handlers
import Mathlib.Algebra.Order.BigOperators.Group.Finset
import Mathlib.Algebra.Order.Ring.Int

/-!
# What keeps a deployment from being scaled to zero

KEDA scales a deployment to zero when the scaler does not report it as active for a while. The
scaler streams its answers, each computed from counts that were fetched from the interceptors, and
these counts drift. It happens that the count of a host is below its requests in flight. But the
opposite error is bounded: a count is positive only if the host has a request in flight or a
postponed entry at the interceptor that answers.

A sighting is the interceptors that a fetch has asked, as they were when they answered. The reads
that one answer to KEDA makes may find the results of different fetches.
-/

namespace KedaHttp.ScaleToZero

open KedaHttp.Foundation
open KedaHttp.Interceptor
open KedaHttp.Queue
open KedaHttp.Routing
open KedaHttp.Scaler

structure Sighting where
  size : ℕ
  interceptors : Fin size → Counting.State

namespace Sighting

/-- The answers of the interceptors' `/queue` routes. -/
def answers (sighting : Sighting) (endpoint : Fin sighting.size) :
    Except String (GoMap String Int) :=
  .ok (sighting.interceptors endpoint).queue.current

/-- Each interceptor has come to its state by requests and enforcer passes. -/
def Possible (sighting : Sighting) : Prop :=
  ∀ endpoint, ∃ postponeDuration shouldPostpone,
    Reachable (StepOf Counting.step) (.initial postponeDuration shouldPostpone)
      (sighting.interceptors endpoint)

/-- The pinger shows the result of a fetch from these interceptors, by any schedule. -/
def Saved (sighting : Sighting) (pinger : QueuePinger Int) : Prop :=
  ∃ (goroutines : FetchCounts.State Int sighting.size)
    (fetched : Except String (GoMap String Int × Int)) (earlier : QueuePinger Int) (now : Time),
    Reachable (StepOf (FetchCounts.step sighting.answers)) .initial goroutines ∧
      goroutines.main = .returned fetched ∧ pinger = (earlier.fetchAndSaveCounts fetched now).1

/-- A request for the host is in flight at one of the interceptors, or its cooldown is. -/
def Busy (sighting : Sighting) (host : String) : Prop :=
  ∃ endpoint, 0 < (sighting.interceptors endpoint).inFlight host ∨
    host ∈ (sighting.interceptors endpoint).queue.postponedResizes

variable {sighting : Sighting} {pinger : QueuePinger Int} {host : String}

theorem Saved.counts (saved : sighting.Saved pinger) :
    (∀ host, host ∈ pinger.counts ↔
      ∃ endpoint, host ∈ (sighting.interceptors endpoint).queue.current) ∧
    ∀ host, pinger.counts.get host =
      ∑ endpoint, (sighting.interceptors endpoint).queue.count host := by
  rcases saved with ⟨goroutines, fetched, earlier, now, reachable, main, rfl⟩
  rcases FetchCounts.totals_of_returned (FetchCounts.Sound.of_reachable reachable) main with
    ⟨_, totals, agg, rfl, hosts, sums, _⟩
  refine ⟨hosts, ?_⟩
  intro host
  simp only [Memory.count_eq_get]
  exact sums host

/-- Whatever the interceptors hold, a fetch from them can be made. -/
theorem exists_saved (sighting : Sighting) : ∃ pinger, sighting.Saved pinger := by
  rcases FetchCounts.exists_stuck sighting.answers with ⟨final, reachable, stuck⟩
  rcases FetchCounts.returned_of_stuck reachable stuck with ⟨fetched, main⟩
  exact ⟨_, final, fetched, .new, 0, reachable, main, rfl⟩

/-- A positive total is due to an interceptor with a request or a cooldown of the host. -/
theorem busy_of_pos (possible : sighting.Possible) (saved : sighting.Saved pinger)
    (positive : 0 < pinger.counts.get host) : sighting.Busy host := by
  rw [saved.counts.2] at positive
  rcases Finset.exists_lt_of_sum_lt (f := fun _ => (0 : Int)) (by simpa using positive) with
    ⟨endpoint, _, counted⟩
  rcases possible endpoint with ⟨postponeDuration, shouldPostpone, reachable⟩
  have retained := (Counting.Bounded.of_reachable reachable host).retained
  refine ⟨endpoint, ?_⟩
  by_cases entry : host ∈ (sighting.interceptors endpoint).queue.postponedResizes
  · exact .inr entry
  · left
    simp only [Counting.State.retained, if_neg entry, Counting.State.drift] at retained
    omega

end Sighting

section Reads

variable {routingTable : Table} {pinger : ℕ → QueuePinger Int} {hosts : List String}

theorem getHostCount_eq_get {host : String} {counts : GoMap String Int} {count : Int}
    (known : getHostCount host counts routingTable = some count) : count = counts.get host := by
  simp only [getHostCount] at known
  simp only [GoMap.get]
  cases found : counts.lookup host with
  | some stored =>
      rw [found] at known
      exact (Option.some.inj known).symm
  | none =>
      simp only [found, Option.ite_none_right_eq_some, Option.some.injEq] at known
      exact known.2.symm

/-- The induction is on the hosts; the total so far is a hypothesis on what is still to come. -/
theorem exists_pos_of_isActiveLoop (others : interceptor ∉ hosts) {reads : ℕ}
    {totalHostCount : Int} (nonpositive : totalHostCount ≤ 0)
    (active : isActiveLoop routingTable pinger hosts reads totalHostCount = .ok true) :
    ∃ index host, hosts[index]? = some host ∧
      0 < (pinger (reads + index)).counts.get host := by
  induction hosts generalizing reads totalHostCount with
  | nil =>
      simp only [isActiveLoop, Except.ok.injEq, decide_eq_true_eq] at active
      omega
  | cons host hosts ih =>
      rw [List.mem_cons, not_or] at others
      rw [isActiveLoop, if_neg (Ne.symm others.1)] at active
      cases known : getHostCount host (pinger reads).counts routingTable with
      | none => simp [known] at active
      | some count =>
          simp only [known] at active
          by_cases positive : 0 < count
          · refine ⟨0, host, rfl, ?_⟩
            rw [Nat.add_zero, ← getHostCount_eq_get known]
            exact positive
          · rcases ih others.2 (by omega) active with ⟨index, found, listed, counted⟩
            refine ⟨index + 1, found, listed, ?_⟩
            rwa [Nat.add_assoc, Nat.add_comm 1] at counted

theorem exists_pos_of_isActive {sor : ScaledObjectRef}
    (listed : getHostsFromScaledObjectRef sor = .ok hosts) (others : interceptor ∉ hosts)
    (active : isActive routingTable pinger sor = .ok true) :
    ∃ index host, hosts[index]? = some host ∧ 0 < (pinger index).counts.get host := by
  simp only [isActive, listed] at active
  simpa using exists_pos_of_isActiveLoop others le_rfl active

end Reads

/-- Each response of a stream is the answer of `IsActive` at the turn of the same number. -/
theorem getElem?_streamIsActive {sor : ScaledObjectRef} {turns : List (StreamTurn Int)} {turn : ℕ}
    {active : Bool} (sent : (streamIsActive sor turns).1[turn]? = some active) :
    ∃ routingTable pinger, turns[turn]? = some (.tick routingTable pinger none) ∧
      isActive routingTable pinger sor = .ok active := by
  induction turns generalizing turn with
  | nil => simp [streamIsActive] at sent
  | cons first turns ih =>
      cases first with
      | done => simp [streamIsActive] at sent
      | tick routingTable pinger sendErr =>
          cases answer : isActive routingTable pinger sor with
          | error err => simp [streamIsActive, answer] at sent
          | ok response =>
              cases sendErr with
              | some err => simp [streamIsActive, answer] at sent
              | none =>
                  simp only [streamIsActive, answer] at sent
                  cases turn with
                  | zero =>
                      simp only [List.getElem?_cons_zero, Option.some.injEq] at sent
                      exact ⟨routingTable, pinger, rfl, sent ▸ answer⟩
                  | succ turn =>
                      rw [List.getElem?_cons_succ] at sent ⊢
                      exact ih sent

/--
Whatever the interceptors have lost or retained, and whichever fetches the reads find: if a stream
tells KEDA that a ScaledObject is active, then one of its hosts has a request in flight or a
postponed entry at an interceptor, in the fetch that was read for this host at this response.
-/
theorem busy_of_streamed {sor : ScaledObjectRef} {hosts : List String}
    (listed : getHostsFromScaledObjectRef sor = .ok hosts) (others : interceptor ∉ hosts)
    {turns : List (StreamTurn Int)} {sightings : ℕ → ℕ → Sighting}
    (possible : ∀ turn read, (sightings turn read).Possible)
    (saved : ∀ turn routingTable pinger sendErr,
      turns[turn]? = some (.tick routingTable pinger sendErr) →
        ∀ read, (sightings turn read).Saved (pinger read))
    {response : ℕ} (sent : (streamIsActive sor turns).1[response]? = some true) :
    ∃ read host, hosts[read]? = some host ∧ (sightings response read).Busy host := by
  rcases getElem?_streamIsActive sent with ⟨routingTable, pinger, ticked, active⟩
  rcases exists_pos_of_isActive listed others active with ⟨read, host, found, positive⟩
  refine ⟨read, host, found, ?_⟩
  exact Sighting.busy_of_pos (possible response read)
    (saved response routingTable pinger none ticked read) positive

/-- The only request has ended. Until the cooldown is over, the stream calls its host active. -/
theorem busy_of_streamed_cooldown :
    let sor : ScaledObjectRef := ⟨(∅ : GoMap String String).insert "hosts" "app.dp-a"⟩
    ∃ (sighting : Sighting) (pinger : QueuePinger Int), sighting.Saved pinger ∧
      (∀ endpoint, (sighting.interceptors endpoint).inFlight "app.dp-a" = 0) ∧
      (streamIsActive sor [.tick newTable (fun _ => pinger) none, .done]).1 = [true] ∧
      sighting.Busy "app.dp-a" := by
  intro sor
  rcases Reachable.exists_of_record Counting.step (.initial 20 true)
    [.arrive Counting.sampleRequest Counting.sampleLookup, .act 0 .increment,
      .act 0 (.serve .returned), .act 0 .check, .act 0 (.complete 5)]
    (fun state => decide (state.queue.count "app.dp-a" = 1) &&
      decide ("app.dp-a" ∈ state.queue.current) &&
      decide (state.inFlight "app.dp-a" = 0)) (by decide)
    with ⟨state, reachable, passed⟩
  simp only [Bool.and_eq_true, decide_eq_true_eq] at passed
  rcases passed with ⟨⟨one, counted⟩, idle⟩
  let sighting : Sighting := ⟨1, fun _ => state⟩
  rcases sighting.exists_saved with ⟨pinger, saved⟩
  have known : "app.dp-a" ∈ pinger.counts := (saved.counts.1 "app.dp-a").mpr ⟨0, counted⟩
  have listed : getHostsFromScaledObjectRef sor = .ok ["app.dp-a"] := by decide
  have total : readTotal (fun _ => pinger) ["app.dp-a"] 0 = 1 := by
    have sum := saved.counts.2 "app.dp-a"
    simp only [readTotal, add_zero, sum]
    exact (Fin.sum_univ_one _).trans one
  have active : isActive newTable (fun _ => pinger) sor = .ok true := by
    rw [isActive_of_known listed (by simp [Known, known]) (by decide), total]
    rfl
  have sent : (streamIsActive sor [.tick newTable (fun _ => pinger) none, .done]).1 = [true] := by
    simp only [streamIsActive, active]
  have savedEach : ∀ (turn : ℕ) routingTable (reads : ℕ → QueuePinger Int) sendErr,
      ([.tick newTable (fun _ => pinger) none, .done] : List (StreamTurn Int))[turn]? =
        some (.tick routingTable reads sendErr) → ∀ read, sighting.Saved (reads read) := by
    intro turn routingTable reads sendErr ticked read
    rcases turn with _ | _ | turn
    · simp only [List.getElem?_cons_zero, Option.some.injEq, StreamTurn.tick.injEq] at ticked
      rw [← ticked.2.1]
      exact saved
    · simp at ticked
    · simp at ticked
  rcases @busy_of_streamed sor ["app.dp-a"] listed (by decide)
    [.tick newTable (fun _ => pinger) none, .done] (fun _ _ => sighting)
    (fun _ _ _ => ⟨20, true, reachable⟩) savedEach 0 (by rw [sent]; rfl) with
    ⟨read, host, found, busy⟩
  have same : host = "app.dp-a" := by simpa using List.mem_of_getElem? found
  exact ⟨sighting, pinger, saved, fun _ => idle, sent, same ▸ busy⟩

end KedaHttp.ScaleToZero
