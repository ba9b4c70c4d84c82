import KedaHttp.Scaler.FetchProgress

/-!
# The outcome of `fetchCounts`

If every endpoint answers, every schedule ends with `fetchCounts` returning, and what it
returns does not depend on the schedule: the hosts of all answers, for each of them the sum of
what the answers say about it, and the sum of these values.

The main goroutine adds up two totals in step, one by host and one over all hosts. `Tally` is
what they amount to after some answers have been consumed, in any order, each with its entries in
any order.
-/

namespace KedaHttp.Scaler.FetchCounts

open KedaHttp.Foundation

universe u

variable {Count : Type u} [AddCommMonoid Count] {n : ℕ}

section AddCounts

theorem get_addCounts (order : List (String × Count)) (totals : GoMap String Count)
    (agg : Count) (host : String) :
    (addCounts order totals agg).1.get host =
      totals.get host + (order.map fun entry => if host = entry.1 then entry.2 else 0).sum := by
  induction order generalizing totals agg with
  | nil => simp [addCounts]
  | cons entry order ih =>
      have rest := ih (totals.addAt entry.1 entry.2) (agg + entry.2)
      simp only [addCounts, List.foldl_cons, List.map_cons, List.sum_cons] at rest ⊢
      rw [rest, GoMap.get_addAt, add_assoc]

theorem mem_addCounts (order : List (String × Count)) (totals : GoMap String Count)
    (agg : Count) (host : String) :
    host ∈ (addCounts order totals agg).1 ↔ host ∈ totals ∨ host ∈ order.map Prod.fst := by
  induction order generalizing totals agg with
  | nil => simp [addCounts]
  | cons entry order ih =>
      have rest := ih (totals.addAt entry.1 entry.2) (agg + entry.2)
      simp only [addCounts, List.foldl_cons, List.map_cons, List.mem_cons] at rest ⊢
      rw [rest, GoMap.mem_addAt]
      tauto

/-- The two totals of the loop stay in step. -/
theorem sum_addCounts (order : List (String × Count)) {totals : GoMap String Count} {agg : Count}
    (inStep : agg = totals.sum) :
    (addCounts order totals agg).2 = (addCounts order totals agg).1.sum := by
  induction order generalizing totals agg with
  | nil => simpa [addCounts] using inStep
  | cons entry order ih =>
      simp only [addCounts, List.foldl_cons]
      apply ih
      rw [GoMap.sum_addAt, inStep]

private theorem sum_ite_of_notMem {order : List (String × Count)} {host : String}
    (absent : host ∉ order.map Prod.fst) :
    (order.map fun entry => if host = entry.1 then entry.2 else 0).sum = 0 := by
  apply List.sum_eq_zero
  intro value member
  rcases List.mem_map.mp member with ⟨entry, entryMem, rfl⟩
  have differs : host ≠ entry.1 := fun same => absent (same ▸ List.mem_map_of_mem entryMem)
  rw [if_neg differs]

private theorem sum_ite_of_mem {order : List (String × Count)} {host : String} {value : Count}
    (distinct : (order.map Prod.fst).Nodup) (member : (host, value) ∈ order) :
    (order.map fun entry => if host = entry.1 then entry.2 else 0).sum = value := by
  induction order with
  | nil => simp at member
  | cons entry order ih =>
      rw [List.map_cons, List.nodup_cons] at distinct
      rcases List.mem_cons.mp member with rfl | later
      · simp [sum_ite_of_notMem distinct.1]
      · have differs : host ≠ entry.1 := by
          rintro rfl
          exact distinct.1 (List.mem_map.mpr ⟨_, later, rfl⟩)
        simpa [differs] using ih distinct.2 later

/-- Ranging over a map adds, at each host, what the map holds there. -/
theorem sum_ite_of_ranges {counts : GoMap String Count} {order : List (String × Count)}
    (ranges : counts.Ranges order) (host : String) :
    (order.map fun entry => if host = entry.1 then entry.2 else 0).sum = counts.get host := by
  cases found : counts.lookup host with
  | none =>
      have absent : host ∉ counts := Finmap.lookup_eq_none.mp found
      rw [GoMap.get_of_notMem absent]
      apply sum_ite_of_notMem
      rwa [ranges.mem_keys_iff]
  | some value =>
      rw [sum_ite_of_mem ranges.1 ((ranges.mem_iff host value).mpr found)]
      simp [GoMap.get, found]

end AddCounts

/-- The two totals after consuming the listed answers. -/
structure Tally (counts : Fin n → GoMap String Count) (consumed : List (Fin n))
    (totals : GoMap String Count) (agg : Count) : Prop where
  hosts : ∀ host, host ∈ totals ↔ ∃ endpoint ∈ consumed, host ∈ counts endpoint
  values : ∀ host,
    totals.get host = (consumed.map fun endpoint => (counts endpoint).get host).sum
  agg : agg = totals.sum

namespace Tally

variable {counts : Fin n → GoMap String Count}

theorem nil : Tally counts [] ∅ 0 where
  hosts := by simp [Finmap.notMem_empty]
  values := by simp
  agg := by simp

theorem cons {consumed : List (Fin n)} {totals : GoMap String Count} {agg : Count}
    (tally : Tally counts consumed totals agg) {endpoint : Fin n}
    {order : List (String × Count)} (ranges : (counts endpoint).Ranges order) :
    Tally counts (endpoint :: consumed) (addCounts order totals agg).1
      (addCounts order totals agg).2 where
  hosts := by
    intro host
    rw [mem_addCounts, tally.hosts, ranges.mem_keys_iff]
    simp only [List.mem_cons, exists_eq_or_imp]
    exact or_comm
  values := by
    intro host
    rw [get_addCounts, tally.values, sum_ite_of_ranges ranges, List.map_cons, List.sum_cons,
      add_comm]
  agg := sum_addCounts order tally.agg

end Tally

/-- The counts an endpoint answers, none if its request fails. -/
def answered (answers : Fin n → Except String (GoMap String Count)) (endpoint : Fin n) :
    GoMap String Count :=
  match answers endpoint with
  | .ok counts => counts
  | .error _ => ∅

variable {answers : Fin n → Except String (GoMap String Count)} {state next : State Count n}
  {event : Event Count n}

/-- The main goroutine has consumed the answers that were delivered, and nothing else. -/
structure Tallied (answers : Fin n → Except String (GoMap String Count))
    (state : State Count n) : Prop where
  distinct : state.consumed.Nodup
  delivered : ∀ endpoint, endpoint ∈ state.consumed ↔
    (state.workers endpoint).forwarder.hasDelivered = true
  nothingYet : state.main.tally = none → state.consumed = []
  tally : ∀ totals agg, state.main.tally = some (totals, agg) →
    Tally (answered answers) state.consumed totals agg
  closed : ∀ result, state.main = .returned (.ok result) → state.closer = .done

namespace Tallied

theorem initial : Tallied answers (State.initial : State Count n) := by
  constructor <;> simp [State.initial]

/-- Steps that leave the main goroutine's totals and the deliveries alone. -/
theorem of_same (tallied : Tallied answers state) (consumed : next.consumed = state.consumed)
    (delivered : ∀ endpoint, (next.workers endpoint).forwarder.hasDelivered =
      (state.workers endpoint).forwarder.hasDelivered)
    (tally : next.main.tally = state.main.tally)
    (closed : ∀ result, next.main = .returned (.ok result) → next.closer = .done) :
    Tallied answers next where
  distinct := consumed ▸ tallied.distinct
  delivered := by
    intro endpoint
    rw [consumed, delivered]
    exact tallied.delivered endpoint
  nothingYet := by
    rw [consumed, tally]
    exact tallied.nothingYet
  tally := by
    rw [consumed, tally]
    exact tallied.tally
  closed := closed

theorem consume (tallied : Tallied answers state) (handedOff : HandedOff answers state)
    {endpoint : Fin n} {order : List (String × Count)} {counts totals : GoMap String Count}
    {agg : Count} (main : state.main = .consuming totals agg)
    (holding : (state.workers endpoint).forwarder = .holding counts)
    (ranges : counts.Ranges order) :
    Tallied answers { state.setForwarder endpoint .delivered with
      main := .consuming (addCounts order totals agg).1 (addCounts order totals agg).2
      consumed := endpoint :: state.consumed } := by
  have answer : answered answers endpoint = counts := by
    rw [answered, (handedOff.carries endpoint).holding counts holding]
  constructor
  · rw [List.nodup_cons, tallied.delivered, holding]
    exact ⟨by simp, tallied.distinct⟩
  · intro other
    rw [List.mem_cons, tallied.delivered]
    by_cases same : other = endpoint <;> simp [same]
  · simp
  · intro totals' agg' same
    simp only [Main.tally, Option.some.injEq, Prod.mk.injEq] at same
    rcases same with ⟨rfl, rfl⟩
    exact (tallied.tally totals agg (by simp [main])).cons (answer ▸ ranges)
  · simp

theorem preserved (tallied : Tallied answers state) (launched : Launched state)
    (handedOff : HandedOff answers state) (moves : Moves answers state event next) :
    Tallied answers next := by
  have closed := tallied.closed
  cases moves with
  | add main inRange => apply tallied.of_same <;> simp [main]
  | startFetcher main inRange => apply tallied.of_same <;> simp [main]
  | @startForwarder position main inRange =>
      have idle := launched.forwarder_idle main inRange
      refine tallied.of_same rfl ?_ (by simp [main]) (by simp)
      intro other
      by_cases same : other = ⟨position, inRange⟩ <;> simp [same, idle]
  | startCloser main => apply tallied.of_same <;> simp [main]
  | succeed fetching answer => exact tallied.of_same rfl (by simp) rfl closed
  | fail fetching answer => exact tallied.of_same rfl (by simp) rfl closed
  | @handOff endpoint counts worker =>
      refine tallied.of_same rfl ?_ rfl closed
      intro other
      by_cases same : other = endpoint <;> simp [same, worker]
  | waitFailed main fetched failed => apply tallied.of_same <;> simp [main]
  | waitSucceeded main fetched succeeded =>
      have nothing : state.consumed = [] := tallied.nothingYet (by simp [main])
      refine ⟨tallied.distinct, tallied.delivered, by simp, ?_, by simp⟩
      intro totals agg same
      simp only [Main.tally, Option.some.injEq, Prod.mk.injEq] at same
      rcases same with ⟨rfl, rfl⟩
      exact nothing ▸ Tally.nil
  | consume main holding opened ranges => exact tallied.consume handedOff main holding ranges
  | @done endpoint delivered =>
      refine tallied.of_same rfl ?_ rfl closed
      intro other
      by_cases same : other = endpoint <;> simp [same, delivered]
  | close waiting zero =>
      refine tallied.of_same rfl (by simp) rfl ?_
      simp
  | endRange main ended => apply tallied.of_same <;> simp [main, ended]

end Tallied

/-- All invariants of the protocol together. -/
structure Sound (answers : Fin n → Except String (GoMap String Count))
    (state : State Count n) : Prop where
  launched : Launched state
  handedOff : HandedOff answers state
  waited : Waited state
  tallied : Tallied answers state

namespace Sound

theorem initial : Sound answers (State.initial : State Count n) :=
  ⟨.initial, .initial, .initial, .initial⟩

theorem preserved (sound : Sound answers state) (moves : Moves answers state event next) :
    Sound answers next where
  launched := sound.launched.preserved moves
  handedOff := sound.handedOff.preserved sound.launched moves
  waited := sound.waited.preserved sound.launched moves
  tallied := sound.tallied.preserved sound.launched sound.handedOff moves

theorem of_reachable [DecidableEq Count]
    (reachable : Reachable (StepOf (step answers)) State.initial state) : Sound answers state :=
  reachable.invariant initial fun _ _ _ sound stepped => sound.preserved (moves_iff.mp stepped)

/-- A result without error takes an answer from every endpoint. -/
theorem answers_of_returned (sound : Sound answers state)
    {total : GoMap String Count × Count} (main : state.main = .returned (.ok total))
    (endpoint : Fin n) : ∃ counts, answers endpoint = .ok counts := by
  have closed := sound.tallied.closed total main
  have carries := sound.handedOff.carries endpoint
  apply carries.answered
  rw [carries.received, sound.waited.closed closed endpoint]
  rfl

theorem consumed_of_returned (sound : Sound answers state)
    {total : GoMap String Count × Count} (main : state.main = .returned (.ok total))
    (endpoint : Fin n) : state.consumed.count endpoint = 1 := by
  have closed := sound.tallied.closed total main
  apply List.count_eq_one_of_mem sound.tallied.distinct
  rw [sound.tallied.delivered, sound.waited.closed closed]
  rfl

end Sound

/-- Unless the main goroutine has returned, some goroutine can move. -/
theorem returned_or_exists_moves (sound : Sound answers state)
    (succeeded : ∀ totals agg, state.main = .consuming totals agg →
      ∀ endpoint, (state.workers endpoint).fetcher = .returned none) :
    (∃ result, state.main = .returned result) ∨ ∃ event next, Moves answers state event next := by
  have bound := sound.launched.bound
  cases main : state.main with
  | adding position =>
      right
      simp only [main, Main.forwardersStarted, Main.added] at bound
      by_cases more : position < n
      · exact ⟨_, _, .add main more⟩
      · have last : position = n := by omega
        exact ⟨_, _, .startCloser (last ▸ main)⟩
  | startingFetcher position =>
      simp only [main, Main.forwardersStarted, Main.added] at bound
      exact .inr ⟨_, _, .startFetcher main bound⟩
  | startingForwarder position =>
      simp only [main, Main.forwardersStarted, Main.added] at bound
      exact .inr ⟨_, _, .startForwarder main bound⟩
  | waiting =>
      right
      by_cases fetched : ∀ endpoint, (state.workers endpoint).fetcher.hasReturned = true
      · cases failed : state.firstErr with
        | none => exact ⟨_, _, .waitSucceeded main fetched failed⟩
        | some err => exact ⟨_, _, .waitFailed main fetched failed⟩
      · rw [not_forall] at fetched
        rcases fetched with ⟨endpoint, running⟩
        exact exists_moves_of_fetching sound.launched main sound.handedOff
          (by simpa using running)
  | consuming totals agg =>
      right
      exact exists_moves_of_consuming sound.launched sound.waited sound.handedOff main
        (succeeded totals agg main)
  | returned result => exact .inl ⟨result, rfl⟩

section Success

variable {counts : Fin n → GoMap String Count}

omit [AddCommMonoid Count] in
/-- With answers from all endpoints, no fetcher returns an error. -/
theorem returned_none_of_joined
    (handedOff : HandedOff (fun endpoint => .ok (counts endpoint)) state)
    (past : state.main.joined = true) (endpoint : Fin n) :
    (state.workers endpoint).fetcher = .returned none := by
  rcases Fetcher.exists_of_hasReturned (handedOff.joined past endpoint) with ⟨err, fetcher⟩
  cases err with
  | none => exact fetcher
  | some err =>
      have failed := (handedOff.carries endpoint).failed err fetcher
      simp at failed

theorem sum_consumed {consumed : List (Fin n)} (once : ∀ endpoint, consumed.count endpoint = 1)
    (value : Fin n → Count) : (consumed.map value).sum = ∑ endpoint, value endpoint := by
  have distinct : consumed.Nodup := by
    rw [List.nodup_iff_count_le_one]
    intro endpoint
    exact (once endpoint).le
  rw [← List.sum_toFinset value distinct]
  congr
  ext endpoint
  simp [← List.count_pos_iff, once]

/-- What the main goroutine has when it returns: the answers of all endpoints, each once. -/
theorem totals_of_returned (sound : Sound (fun endpoint => .ok (counts endpoint)) state)
    {result : Except String (GoMap String Count × Count)} (main : state.main = .returned result) :
    (∀ endpoint, state.consumed.count endpoint = 1) ∧
      ∃ totals agg, result = .ok (totals, agg) ∧
        (∀ host, host ∈ totals ↔ ∃ endpoint, host ∈ counts endpoint) ∧
        (∀ host, totals.get host = ∑ endpoint, (counts endpoint).get host) ∧
        agg = totals.sum := by
  cases result with
  | error err =>
      rcases sound.handedOff.reported err main with ⟨endpoint, failed⟩
      simp at failed
  | ok total =>
      have once := sound.consumed_of_returned main
      have tally := sound.tallied.tally total.1 total.2 (by simp [main])
      have member : ∀ endpoint, endpoint ∈ state.consumed := by
        intro endpoint
        rw [← List.count_pos_iff, once]
        exact one_pos
      refine ⟨once, total.1, total.2, rfl, ?_, ?_, tally.agg⟩
      · intro host
        rw [tally.hosts]
        simp [member, answered]
      · intro host
        rw [tally.values, sum_consumed once]
        rfl

omit counts in
theorem Sound.totals (sound : Sound answers state) {total : GoMap String Count × Count}
    (main : state.main = .returned (.ok total)) :
    ∃ counts : Fin n → GoMap String Count, (∀ endpoint, answers endpoint = .ok (counts endpoint)) ∧
      (∀ host, host ∈ total.1 ↔ ∃ endpoint, host ∈ counts endpoint) ∧
      (∀ host, total.1.get host = ∑ endpoint, (counts endpoint).get host) ∧
      total.2 = total.1.sum := by
  choose counts answered using sound.answers_of_returned main
  have same : answers = fun endpoint => .ok (counts endpoint) := funext answered
  subst same
  rcases totals_of_returned sound main with ⟨_, totals, agg, result, hosts, sums, aggregate⟩
  rw [Except.ok.inj result]
  exact ⟨counts, fun _ => rfl, hosts, sums, aggregate⟩

/--
If every endpoint answers, no schedule gets stuck before `fetchCounts` returns, and whenever it
has returned, each answer was consumed once and the result is that of the answers.
-/
theorem fetchCounts_of_all_answered [DecidableEq Count] (counts : Fin n → GoMap String Count) :
    Inevitable (StepOf (step fun endpoint => .ok (counts endpoint)))
        (fun state => ∃ result, state.main = .returned result) State.initial ∧
      ∀ state result,
        Reachable (StepOf (step fun endpoint => .ok (counts endpoint))) State.initial state →
        state.main = .returned result →
        (∀ endpoint, state.consumed.count endpoint = 1) ∧
          ∃ totals agg, result = .ok (totals, agg) ∧
            (∀ host, host ∈ totals ↔ ∃ endpoint, host ∈ counts endpoint) ∧
            (∀ host, totals.get host = ∑ endpoint, (counts endpoint).get host) ∧
            agg = totals.sum := by
  constructor
  · apply Inevitable.of_measure (Sound fun endpoint => .ok (counts endpoint)) State.rank
    · intro source event target sound stepped
      exact sound.preserved (moves_iff.mp stepped)
    · intro source event target sound stepped
      exact rank_lt sound.launched (moves_iff.mp stepped)
    · intro state sound
      have succeeded : ∀ totals agg, state.main = .consuming totals agg →
          ∀ endpoint, (state.workers endpoint).fetcher = .returned none := by
        intro totals agg main
        exact returned_none_of_joined sound.handedOff (by simp [main])
      rcases returned_or_exists_moves sound succeeded with returned | ⟨event, next, moves⟩
      · exact .inl returned
      · exact .inr ⟨event, next, moves_iff.mpr moves⟩
    · exact .initial
  · intro state result reachable main
    exact totals_of_returned (Sound.of_reachable reachable) main

end Success

end KedaHttp.Scaler.FetchCounts
