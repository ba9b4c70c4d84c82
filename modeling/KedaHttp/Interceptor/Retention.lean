import KedaHttp.Interceptor.Counting

/-!
# The retained unit

With postponement enabled, what a host's count holds beyond its requests in flight are the units
of the requests that completed through the postpone branch. The branch is taken after reading a
count of 1, in a step apart from that reading, while other requests go on arriving and finishing.
Nevertheless no two requests of a host take it, up to the enforcer pass that resets the host.
Once one request has taken it, its unit stays: the later requests find a count of 2 at least, and
take nothing but the units they brought.

The enforcer may run in the meantime, and it may reset other hosts.
-/

namespace KedaHttp.Interceptor.Counting

open KedaHttp.Foundation KedaHttp.Queue

/-- The event is the completion of a request for the host through the postpone branch. -/
def Event.postpones (host : String) (state : State) : Event → Bool
  | .act index (.complete _) => state.requests[index]?.any (Phase.postponingFor host)
  | _ => false

/-- The event has a request for the host read its count and enter the postpone branch. -/
def Event.EntersPostpone (host : String) (state : State) (event : Event) : Prop :=
  ∃ index, event = .act index .check ∧ state.requests[index]? = some (.leaving host) ∧
    (step state event).any (fun next => next.requests[index]? = some (.postponing host)) = true

/-- The event is an enforcer pass that resets the host. -/
def Event.Resets (host : String) (state : State) : Event → Prop
  | .applyCollected => host ∈ state.collected.getD []
  | .arrive _ _ | .act _ _ | .scan _ _ => False

instance (host : String) (state : State) : (event : Event) → Decidable (event.Resets host state)
  | .applyCollected => inferInstanceAs (Decidable (host ∈ state.collected.getD []))
  | .arrive _ _ | .act _ _ | .scan _ _ => .isFalse id

/-- The number of requests for the host that completed through the postpone branch in a run. -/
def postponements (host : String) (history : List (Move State Event)) : ℕ :=
  history.countP fun move => move.event.postpones host move.source

section Step

variable {state next : State} {host : String} {units : ℕ}

theorem Ledger.initial (postponeDuration : Time) (shouldPostpone : Bool) (host : String) :
    Ledger (State.initial postponeDuration shouldPostpone) host 0 := by
  constructor <;> simp [State.initial, State.inFlight]

/-- A request that is about to postpone can only complete. -/
theorem postpones_act {index : ℕ} {phase phase' : Phase} {action : Action} {queue : Memory}
    (found : state.requests[index]? = some phase)
    (advances : Advances state.queue phase action queue phase') :
    Event.postpones host state (.act index action) = phase.postponingFor host := by
  cases advances <;> simp [Event.postpones, found, Phase.postponingFor]

/-- The units of a host change with the completions through the postpone branch alone. -/
theorem Ledger.preserved (ledger : Ledger state host units) {event : Event}
    (kept : ¬event.Resets host state) (stepped : step state event = some next) :
    Ledger next host (units + (event.postpones host state).toNat) := by
  cases event with
  | arrive request lookupAddr =>
      rw [step_arrive stepped]
      exact ledger.arrive lookupAddr request
  | act index action =>
      rcases step_act stepped with ⟨phase, phase', queue, found, advances, rfl⟩
      rw [postpones_act found advances]
      exact ledger.act found advances
  | scan now order =>
      rcases step_scan stepped with ⟨_, _, rfl⟩
      exact ⟨ledger.count, ledger.single⟩
  | applyCollected =>
      rcases step_applyCollected stepped with ⟨hosts, collected, rfl⟩
      simp only [Event.Resets, collected, Option.getD_some] at kept
      refine ⟨?_, ledger.single⟩
      rw [Memory.count_applyResizes, if_neg kept]
      exact ledger.count

/-- With a unit left behind, a finishing request counts itself and that unit at least. -/
theorem Ledger.not_entersPostpone (ledger : Ledger state host 1) (event : Event) :
    ¬event.EntersPostpone host state := by
  rintro ⟨index, rfl, leaving, entered⟩
  have inFlight := postponing_add_one_le_inFlight leaving
  have count := ledger.count
  cases stepped : step state (.act index .check) with
  | none => simp [stepped] at entered
  | some next =>
      rcases step_act stepped with ⟨phase, phase', queue, found, advances, rfl⟩
      have bound : index < state.requests.length := (List.getElem?_eq_some_iff.mp found).1
      simp only [stepped, Option.any_some, List.getElem?_set_self bound, Option.some.injEq,
        decide_eq_true_eq] at entered
      have read := advances.leaving_of_postponing host (by simp [entered, Phase.postponingFor])
      simp only [State.inFlight] at count
      omega

end Step

section Run

variable {start state : State} {history : List (Move State Event)} {host : String} {units : ℕ}

/-- The units at the end of a run are those at its start and those left during the run. -/
theorem Ledger.of_run (ledger : Ledger start host units)
    (run : Run (StepOf step) start history state)
    (kept : ∀ move ∈ history, ¬move.event.Resets host move.source) :
    Ledger state host (units + postponements host history) := by
  induction run with
  | start => exact ledger
  | @move history source target event earlier stepped ih =>
      rw [List.forall_mem_cons] at kept
      have moved := (ih kept.2).preserved kept.1 stepped
      have total : units + postponements host history + (event.postpones host source).toNat =
          units + postponements host (⟨source, event, target⟩ :: history) := by
        rw [postponements, postponements, List.countP_cons, add_assoc]
        cases event.postpones host source <;> rfl
      rwa [total] at moved

/-- Once a unit has been left behind, no request enters the postpone branch again. -/
theorem Ledger.none_entersPostpone (ledger : Ledger start host 1)
    (run : Run (StepOf step) start history state)
    (kept : ∀ move ∈ history, ¬move.event.Resets host move.source) :
    ∀ move ∈ history, ¬move.event.EntersPostpone host move.source := by
  induction run with
  | start => simp
  | @move history source target event earlier stepped ih =>
      rw [List.forall_mem_cons] at kept ⊢
      have reached := ledger.of_run earlier kept.2
      have none : postponements host history = 0 := by
        have single := reached.single
        omega
      rw [none] at reached
      exact ⟨reached.not_entersPostpone event, ih kept.2⟩

end Run

/--
With postponement enabled, in every run in which no enforcer pass resets the host: its count is the
number of its requests in flight plus the number of its requests that completed through the
postpone branch, which is at most 1. Once it is 1, however the run goes on without such a pass, the
count stays at 1 at least and no request enters the postpone branch again.
-/
theorem count_eq_inFlight_add_postponements {postponeDuration : Time}
    {history : List (Move State Event)} {state : State}
    (run : Run (StepOf step) (State.initial postponeDuration true) history state) (host : String)
    (kept : ∀ move ∈ history, ¬move.event.Resets host move.source) :
    state.queue.count host = state.inFlight host + postponements host history ∧
      postponements host history ≤ 1 ∧
      (postponements host history = 1 → ∀ later final, Run (StepOf step) state later final →
        (∀ move ∈ later, ¬move.event.Resets host move.source) →
          1 ≤ final.queue.count host ∧
            ∀ move ∈ later, ¬move.event.EntersPostpone host move.source) := by
  have ledger := (Ledger.initial postponeDuration true host).of_run run kept
  rw [zero_add] at ledger
  have count := ledger.count
  have single := ledger.single
  refine ⟨count, by omega, ?_⟩
  intro one later final continued keptLater
  rw [one] at ledger
  have reached := ledger.of_run continued keptLater
  have countLater := reached.count
  exact ⟨by omega, ledger.none_entersPostpone continued keptLater⟩

/-- A second request is served after the first has left its unit behind. -/
theorem count_eq_inFlight_add_postponements_second : ∃ history state,
    Run (StepOf step) (State.initial 20 true) history state ∧
      postponements "app.dp-a" history = 1 ∧ state.inFlight "app.dp-a" = 1 ∧
      state.queue.count "app.dp-a" = 2 := by
  rcases Run.exists_of_record step (State.initial 20 true)
    [.arrive sampleRequest sampleLookup, .act 0 .increment, .act 0 (.serve .returned),
      .act 0 .check, .arrive sampleRequest sampleLookup, .act 0 (.complete 5),
      .scan (fun _ => 100) [("app.dp-a", 25)], .act 1 .increment]
    (fun made => decide (postponements "app.dp-a" made.1 = 1) &&
      decide (made.2.inFlight "app.dp-a" = 1) &&
      made.1.all fun move => !decide (move.event.Resets "app.dp-a" move.source)) (by decide)
    with ⟨history, state, run, passed⟩
  simp only [Bool.and_eq_true, List.all_eq_true, decide_eq_true_eq, Bool.not_eq_true',
    decide_eq_false_iff_not] at passed
  rcases passed with ⟨⟨one, inFlight⟩, kept⟩
  have count := (count_eq_inFlight_add_postponements run "app.dp-a" kept).1
  exact ⟨history, state, run, one, inFlight, by omega⟩

end KedaHttp.Interceptor.Counting
