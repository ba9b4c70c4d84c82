import KedaHttp.Foundation.MachineInt
import KedaHttp.Queue.Rpc
import KedaHttp.Scaler.FetchLeaks
import Mathlib.Algebra.BigOperators.Fin

/-!
# A fetch over HTTP

The whole of `fetchCounts`, with the URLs of `EndpointsForService` and the answers of `/queue`: the
addresses of a service become URLs, every fetcher asks one of them for the counts of its queue, and
the answers are added up.
-/

namespace KedaHttp.Scaler.FetchOverHTTP

open KedaHttp.Foundation
open KedaHttp.Queue

universe u

/-- `url.Parse`, with the text of its error. -/
def parseURL (rawURL : String) : Except String Url :=
  match Url.parse rawURL with
  | .error err => .error ("parse " ++ rawURL.quote ++ ": " ++ err)
  | .ok url => .ok url

section Endpoints

variable {port : Text} (digits : port.all Char.isDigit = true)

include digits

theorem parseURL_address (ip : IP) :
    parseURL ("http://" ++ ip.string ++ ":" ++ String.ofList port) =
      .ok (Url.http (Url.addressHost ip port) []) := by
  have text : ("http://" ++ ip.string ++ ":" ++ String.ofList port).toList =
      "http://".toList ++ Url.addressHost ip port := by
    have colon : ":".toList = [':'] := by decide
    simp only [String.toList_append, String.toList_ofList, colon, Url.addressHost,
      List.append_assoc, List.singleton_append]
  have parsed : Url.parse ("http://" ++ ip.string ++ ":" ++ String.ofList port) =
      .ok (Url.http (Url.addressHost ip port) []) := by
    rw [Url.parse, text, Url.parse_http (Url.undelimited_addressHost ip digits),
      Url.parseHost_addressHost ip digits]
    rfl
  simp only [parseURL, parsed]

theorem endpointsForService_addresses (subsets : List (List IP)) :
    endpointsForService parseURL (String.ofList port)
      (.ok (subsets.map fun subset => subset.map IP.string)) =
        .ok (subsets.flatten.map fun ip => Url.http (Url.addressHost ip port) []) := by
  have inner : ∀ (subset : List IP) (ret : List Url),
      (subset.map IP.string).foldlM (fun ret addr =>
        (parseURL ("http://" ++ addr ++ ":" ++ String.ofList port)).map
          fun url => ret ++ [url]) ret =
          .ok (ret ++ subset.map fun ip => Url.http (Url.addressHost ip port) []) := by
    intro subset
    induction subset with
    | nil => simp [pure, Except.pure]
    | cons ip subset ih =>
        intro ret
        rw [List.map_cons, List.foldlM_cons, parseURL_address digits]
        exact (ih _).trans (by simp)
  have outer : ∀ (subsets : List (List IP)) (ret : List Url),
      (subsets.map fun subset => subset.map IP.string).foldlM (fun ret subset =>
        subset.foldlM (fun ret addr =>
          (parseURL ("http://" ++ addr ++ ":" ++ String.ofList port)).map
            fun url => ret ++ [url]) ret) ret =
        .ok (ret ++ subsets.flatten.map fun ip => Url.http (Url.addressHost ip port) []) := by
    intro subsets
    induction subsets with
    | nil => simp [pure, Except.pure]
    | cons subset subsets ih =>
        intro ret
        rw [List.map_cons, List.foldlM_cons, inner]
        exact (ih _).trans (by simp)
  exact (outer subsets []).trans (by simp)

end Endpoints

/-- Whatever the answers, every schedule of the goroutines comes to the return of `fetchCounts`. -/
theorem inevitable_returned {Count : Type u} [AddCommMonoid Count] [DecidableEq Count] {n : ℕ}
    (answers : Fin n → Except String (GoMap String Count)) :
    Inevitable (StepOf (FetchCounts.step answers))
      (fun state => ∃ result, state.main = .returned result) .initial := by
  apply Inevitable.of_stuck (Reachable (StepOf (FetchCounts.step answers)) .initial)
    FetchCounts.State.rank
  · intro source event target reachable stepped
    exact reachable.step stepped
  · intro source event target reachable stepped
    exact FetchCounts.rank_lt (FetchCounts.Sound.of_reachable reachable).launched
      (FetchCounts.moves_iff.mp stepped)
  · intro state reachable stuck
    exact FetchCounts.returned_of_stuck reachable stuck
  · exact .refl

/--
For every service whose endpoints are interceptors at addresses of either family, and whatever
hosts their queues count: every address is asked once and at its own port, every schedule of the
goroutines ends, and the result is the sum of the counts. The counts are added in any type that the
integers go into together with their sums, such as the integers themselves or those of 64 bits.
-/
theorem fetchCounts_over_http {Count : Type u} [AddCommMonoid Count] [DecidableEq Count]
    (ofInt : Int →+ Count) (describe : List Char → String) (network : Network) {port : Text}
    (digits : port.all Char.isDigit = true) (nonempty : port ≠ []) (subsets : List (List IP))
    (queues : IP → Memory)
    (fits : ∀ ip ∈ subsets.flatten, Counts.Representable (queues ip).current)
    (serves : ∀ ip ∈ subsets.flatten,
      network (joinHostPort ip.string (String.ofList port)) countsPath =
        .ok (newSizeHandler (.ok (queues ip).current))) :
    ∃ urls : Fin subsets.flatten.length → Url,
      endpointsForService parseURL (String.ofList port)
        (.ok (subsets.map fun subset => subset.map IP.string)) = .ok (List.ofFn urls) ∧
      let answers := fun endpoint =>
        (getCounts describe network (urls endpoint)).map (GoMap.mapValues ofInt)
      Inevitable (StepOf (FetchCounts.step answers))
        (fun state => ∃ result, state.main = .returned result) .initial ∧
      ∀ state result, Reachable (StepOf (FetchCounts.step answers)) .initial state →
        state.main = .returned result →
        ∃ totals agg, result = .ok (totals, agg) ∧
          (∀ host, host ∈ totals ↔ ∃ ip ∈ subsets.flatten, host ∈ (queues ip).current) ∧
          (∀ host, totals.get host =
            ofInt (subsets.flatten.map fun ip => (queues ip).count host).sum) ∧
          agg = totals.sum := by
  have answered : (fun endpoint => (getCounts describe network
      (Url.http (Url.addressHost (subsets.flatten.get endpoint) port) [])).map
        (GoMap.mapValues ofInt)) =
        fun endpoint =>
          .ok ((queues (subsets.flatten.get endpoint)).current.mapValues ofInt) := by
    funext endpoint
    have listed := List.get_mem subsets.flatten endpoint
    rw [getCounts_of_serves digits nonempty (fits _ listed) (serves _ listed)]
    rfl
  refine ⟨fun endpoint => Url.http (Url.addressHost (subsets.flatten.get endpoint) port) [],
    ?_, ?_, ?_⟩
  · rw [endpointsForService_addresses digits]
    exact congrArg Except.ok (List.ofFn_getElem_eq_map subsets.flatten _).symm
  · exact inevitable_returned _
  · intro state result reachable main
    rw [answered] at reachable
    rcases FetchCounts.totals_of_returned (FetchCounts.Sound.of_reachable reachable) main with
      ⟨_, totals, agg, returned, hosts, sums, aggregate⟩
    refine ⟨totals, agg, returned, ?_, ?_, aggregate⟩
    · intro host
      simp only [hosts, GoMap.mem_mapValues, List.exists_mem_iff_get]
    · intro host
      rw [sums, ← Fin.sum_univ_fun_getElem, map_sum]
      apply Finset.sum_congr rfl
      intro endpoint _
      rw [GoMap.get_mapValues (map_zero ofInt)]
      exact congrArg ofInt (Memory.count_eq_get _ host).symm

/--
Two interceptors at addresses of different families hold three requests each, and the scaler counts
with integers of 64 bits.
-/
theorem fetchCounts_over_http_dual_stack :
    let queue := (newMemory 20 false).resize "app.dp-a" 3
    let subsets : List (List IP) := [[⟨[10, 0, 0, 1], by decide⟩],
      [⟨[0xfd, 0, 0, 0, 0, 0, 0, 0, 0, 0, 0, 0, 0, 0, 0, 1], by decide⟩]]
    let network : Network := fun _ _ => .ok (newSizeHandler (.ok queue.current))
    ∃ urls : Fin 2 → Url,
      endpointsForService parseURL (String.ofList "9090".toList)
        (.ok (subsets.map fun subset => subset.map IP.string)) = .ok (List.ofFn urls) ∧
      ∀ state result, Reachable (StepOf (FetchCounts.step fun endpoint =>
          (getCounts (fun _ => "") network (urls endpoint)).map (GoMap.mapValues wrap64)))
            .initial state →
        state.main = .returned result →
        ∃ totals agg, result = .ok (totals, agg) ∧ totals.get "app.dp-a" = 6 := by
  intro queue subsets network
  have fits : Counts.Representable queue.current :=
    Counts.representable_insert Counts.representable_empty _ (by decide)
  have three : queue.count "app.dp-a" = 3 := by decide
  rcases @fetchCounts_over_http _ _ _ wrap64 (fun _ => "") network "9090".toList (by decide)
    (by decide) subsets (fun _ => queue) (fun _ _ => fits) (fun _ _ => rfl) with
    ⟨urls, listed, _, outcome⟩
  refine ⟨urls, listed, ?_⟩
  intro state result reachable main
  rcases outcome state result reachable main with ⟨totals, agg, returned, _, sums, _⟩
  refine ⟨totals, agg, returned, ?_⟩
  rw [sums]
  change wrap64 [queue.count "app.dp-a", queue.count "app.dp-a"].sum = 6
  rw [three]
  decide

end KedaHttp.Scaler.FetchOverHTTP
