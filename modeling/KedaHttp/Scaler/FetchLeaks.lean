import KedaHttp.Scaler.FetchOutcome

/-!
# What `fetchCounts` leaves behind

`fetchCounts` always returns, but when a request has failed it returns without receiving from
`countsCh`. The forwarder of a failed request then waits for an answer that never comes, the other
forwarders wait for a receiver, and the closer waits for all of them. So the goroutines that
`fetchCounts` starts all finish if and only if every endpoint answers.
-/

namespace KedaHttp.Scaler.FetchCounts

open KedaHttp.Foundation

universe u

variable {Count : Type u} [AddCommMonoid Count] {n : ℕ}
  {answers : Fin n → Except String (GoMap String Count)} {state next : State Count n}
  {event : Event Count n}

/-- The error group knows of every failed fetcher, so that counts are consumed only without one. -/
structure Reported (state : State Count n) : Prop where
  recorded : state.firstErr = none →
    ∀ endpoint err, (state.workers endpoint).fetcher ≠ .returned (some err)
  succeeded : state.main.tally ≠ none →
    ∀ endpoint, (state.workers endpoint).fetcher = .returned none

namespace Reported

omit [AddCommMonoid Count]

theorem initial : Reported (State.initial : State Count n) := by
  constructor <;> simp [State.initial]

/-- Steps that leave the fetchers and their error alone. -/
theorem of_same (reported : Reported state) (firstErr : next.firstErr = state.firstErr)
    (fetchers : ∀ endpoint,
      (next.workers endpoint).fetcher = (state.workers endpoint).fetcher)
    (tally : next.main.tally ≠ none → state.main.tally ≠ none) : Reported next where
  recorded := by
    intro noError endpoint
    rw [fetchers]
    exact reported.recorded (firstErr ▸ noError) endpoint
  succeeded := by
    intro consuming endpoint
    rw [fetchers]
    exact reported.succeeded (tally consuming) endpoint

/-- A fetcher that moves had not returned, so that nothing is consumed. -/
theorem tally_eq_none (reported : Reported state) {endpoint : Fin n}
    (running : (state.workers endpoint).fetcher.hasReturned = false) :
    state.main.tally = none := by
  by_contra consuming
  rw [reported.succeeded consuming endpoint] at running
  simp [Fetcher.hasReturned] at running

end Reported

theorem Reported.preserved (reported : Reported state) (moves : Moves answers state event next) :
    Reported next := by
  cases moves with
  | add main inRange => apply reported.of_same <;> simp
  | @startFetcher position main inRange =>
      refine ⟨?_, by simp⟩
      intro noError other err
      have before := reported.recorded noError other err
      by_cases same : other = ⟨position, inRange⟩ <;> simp [same, before]
  | startForwarder main inRange => exact reported.of_same rfl (by simp) (by simp)
  | startCloser main => apply reported.of_same <;> simp
  | @succeed endpoint counts fetching answer =>
      have nothing := reported.tally_eq_none (by rw [fetching]; rfl)
      refine ⟨?_, fun consuming => absurd nothing consuming⟩
      intro noError other err
      have before := reported.recorded noError other err
      by_cases same : other = endpoint <;> simp [same, before]
  | @fail endpoint err fetching answer =>
      have nothing := reported.tally_eq_none (by rw [fetching]; rfl)
      refine ⟨?_, fun consuming => absurd nothing consuming⟩
      intro noError
      simp at noError
  | @handOff endpoint counts worker =>
      have nothing := reported.tally_eq_none (by rw [worker]; rfl)
      refine ⟨?_, fun consuming => absurd nothing consuming⟩
      intro noError other err
      have before := reported.recorded noError other err
      by_cases same : other = endpoint <;> simp [same, before]
  | waitFailed main fetched failed => apply reported.of_same <;> simp
  | waitSucceeded main fetched succeeded =>
      refine ⟨reported.recorded, ?_⟩
      intro _ endpoint
      rcases Fetcher.exists_of_hasReturned (fetched endpoint) with ⟨err, fetcher⟩
      cases err with
      | none => exact fetcher
      -- the error would have been recorded
      | some err => exact absurd fetcher (reported.recorded succeeded endpoint err)
  | consume main holding opened ranges => exact reported.of_same rfl (by simp) (by simp [main])
  | done delivered => exact reported.of_same rfl (by simp) (by simp)
  | close waiting zero => apply reported.of_same <;> simp
  | endRange main closed => apply reported.of_same <;> simp [main]

/-- No goroutine can take a step. -/
def Stuck [DecidableEq Count] (answers : Fin n → Except String (GoMap String Count))
    (state : State Count n) : Prop :=
  ∀ event next, ¬StepOf (step answers) state event next

/-- `fetchCounts` has returned, and so have all goroutines that it started. -/
structure State.Finished (state : State Count n) : Prop where
  main : ∃ result, state.main = .returned result
  fetchers : ∀ endpoint, (state.workers endpoint).fetcher.hasReturned = true
  forwarders : ∀ endpoint, (state.workers endpoint).forwarder = .done
  closer : state.closer = .done

/-- The main goroutine has returned, and every forwarder waits for ever, and so does the closer. -/
structure State.Stranded (state : State Count n) : Prop where
  main : ∃ err, state.main = .returned (.error err)
  forwarders : ∀ endpoint, (state.workers endpoint).forwarder = .receiving ∨
    ∃ counts, (state.workers endpoint).forwarder = .holding counts
  closer : state.closer = .waiting

theorem Sound.finished_of_returned (sound : Sound answers state)
    {total : GoMap String Count × Count} (main : state.main = .returned (.ok total)) :
    state.Finished where
  main := ⟨_, main⟩
  fetchers := sound.handedOff.joined (by simp [main])
  forwarders := sound.waited.closed (sound.tallied.closed total main)
  closer := sound.tallied.closed total main

/-- After an error nobody receives any more, and the forwarder of the failed request never does. -/
theorem Sound.stranded_of_returned (sound : Sound answers state) {err : String}
    (main : state.main = .returned (.error err)) : state.Stranded := by
  have nothing : state.consumed = [] := sound.tallied.nothingYet (by simp [main])
  have undelivered : ∀ endpoint,
      (state.workers endpoint).forwarder.hasDelivered ≠ true := by
    intro endpoint delivered
    rw [← sound.tallied.delivered, nothing] at delivered
    simp at delivered
  rcases sound.handedOff.reported err main with ⟨failed, _⟩
  refine ⟨⟨err, main⟩, ?_, ?_⟩
  · intro endpoint
    have inRange := endpoint.isLt
    cases forwarder : (state.workers endpoint).forwarder with
    | idle =>
        have notStarted := (sound.launched.forwarderIdle endpoint).mp forwarder
        simp only [main, Main.forwardersStarted] at notStarted
        omega
    | receiving => exact .inl rfl
    | holding counts => exact .inr ⟨counts, rfl⟩
    | delivered | done => exact absurd (by simp [forwarder]) (undelivered endpoint)
  · cases closer : state.closer with
    | idle =>
        have launching := sound.launched.closerIdle.mp closer
        simp [main] at launching
    | waiting => rfl
    | done =>
        -- the closer has waited for the forwarder of the failed request too
        have finished := sound.waited.closed closer failed
        exact absurd (by simp [finished]) (undelivered failed)

omit [AddCommMonoid Count] in
theorem State.Stranded.not_finished (stranded : state.Stranded) : ¬state.Finished := by
  intro finished
  have closer := finished.closer
  rw [stranded.closer] at closer
  simp at closer

section Stuck

variable [DecidableEq Count]

theorem Reported.of_reachable
    (reachable : Reachable (StepOf (step answers)) State.initial state) : Reported state :=
  reachable.invariant initial fun _ _ _ reported stepped =>
    reported.preserved (moves_iff.mp stepped)

theorem exists_stuck (answers : Fin n → Except String (GoMap String Count)) :
    ∃ state, Reachable (StepOf (step answers)) State.initial state ∧ Stuck answers state := by
  apply Reachable.refl.exists_stuck (Sound answers) State.rank
  · intro source event target sound stepped
    exact sound.preserved (moves_iff.mp stepped)
  · intro source event target sound stepped
    exact rank_lt sound.launched (moves_iff.mp stepped)
  · exact .initial

theorem returned_of_stuck (reachable : Reachable (StepOf (step answers)) State.initial state)
    (stuck : Stuck answers state) : ∃ result, state.main = .returned result := by
  have reported := Reported.of_reachable reachable
  have succeeded : ∀ totals agg, state.main = .consuming totals agg →
      ∀ endpoint, (state.workers endpoint).fetcher = .returned none := by
    intro totals agg main
    exact reported.succeeded (by simp [main])
  rcases returned_or_exists_moves (Sound.of_reachable reachable) succeeded with
    returned | ⟨event, next, moves⟩
  · exact returned
  · exact absurd (moves_iff.mpr moves) (stuck event next)

/--
For all outcomes of the requests, the goroutines get to a state in which none of them can move. In
every such state all of them have finished if and only if every endpoint has answered; otherwise
`fetchCounts` has returned an error and left all its forwarders and the closer waiting for ever.
-/
theorem finished_iff_answered (answers : Fin n → Except String (GoMap String Count)) :
    (∃ state, Reachable (StepOf (step answers)) State.initial state ∧ Stuck answers state) ∧
      ∀ state, Reachable (StepOf (step answers)) State.initial state → Stuck answers state →
        (state.Finished ↔ ∀ endpoint, ∃ counts, answers endpoint = .ok counts) ∧
          (¬state.Finished → state.Stranded) := by
  refine ⟨exists_stuck answers, ?_⟩
  intro state reachable stuck
  have sound := Sound.of_reachable reachable
  rcases returned_of_stuck reachable stuck with ⟨result, main⟩
  cases result with
  | ok total =>
      have finished := sound.finished_of_returned main
      have answered := sound.answers_of_returned main
      exact ⟨⟨fun _ => answered, fun _ => finished⟩, fun leaked => absurd finished leaked⟩
  | error err =>
      have stranded := sound.stranded_of_returned main
      refine ⟨⟨fun finished => absurd finished stranded.not_finished, ?_⟩, fun _ => stranded⟩
      intro answered
      rcases sound.handedOff.reported err main with ⟨endpoint, failed⟩
      rcases answered endpoint with ⟨counts, succeeded⟩
      rw [failed] at succeeded
      simp at succeeded

end Stuck

/-- One endpoint that refuses the connection is enough to strand two goroutines. -/
theorem not_finished_of_refused :
    ¬∀ (n : ℕ) (answers : Fin n → Except String (GoMap String Int)) (state : State Int n),
      Reachable (StepOf (step answers)) State.initial state → Stuck answers state →
        state.Finished := by
  intro always
  let refused : Fin 1 → Except String (GoMap String Int) := fun _ => .error "connection refused"
  rcases exists_stuck refused with ⟨state, reachable, stuck⟩
  rcases returned_of_stuck reachable stuck with ⟨result, main⟩
  have sound := Sound.of_reachable reachable
  have finished := always 1 refused state reachable stuck
  cases result with
  | ok total =>
      rcases sound.answers_of_returned main 0 with ⟨counts, answered⟩
      simp [refused] at answered
  | error err => exact (sound.stranded_of_returned main).not_finished finished

end KedaHttp.Scaler.FetchCounts
