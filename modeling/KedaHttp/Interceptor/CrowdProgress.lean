import KedaHttp.Foundation.BroadcastProgress
import KedaHttp.Interceptor.Crowd
import Mathlib.Data.Finset.Card

/-!
# Waiting requests do not hold each other up

The broadcaster is shared, and its goroutines may wait for one call after the other. With any number
of calls that come and go, what is left to do still gets done: without further changes of
deployments, the cache hands out what it has, every call that was made comes to wait or returns, and
a call only waits for a deployment that cannot serve (`inevitable_resting`). This holds for every
broadcaster that delivers and progresses.
-/

namespace KedaHttp.Interceptor.Crowd

open KedaHttp.Foundation
open KedaHttp.Interceptor.ForwardWait (Deployment WatchEvent deploymentCanServe)

variable {n : ℕ} {b : Broadcaster (Fin n) WatchEvent}

/-- What goes on without deployments being changed, calls being made or requests being given up. -/
def Event.internal : Event b → Bool
  | .handle | .move _ | .get _ | .receive _ => true
  | .put _ | .remove _ _ _ | .resync _ _ | .watch _ _ | .cancel _ _ => false

def Proceeds (targets : Fin n → String × String) (source : State b) (event : Event b)
    (target : State b) : Prop :=
  event.internal = true ∧ step targets source event = some target

/-- The cached deployment of a call can serve. -/
def State.Ready (targets : Fin n → String × String) (state : State b) (call : Fin n) : Prop :=
  ∃ depl, state.store.lookup (targets call) = some depl ∧ deploymentCanServe depl = true

variable {targets : Fin n → String × String}

/--
All events have arrived, the broadcaster is free, and a call that was made has returned or has a
reason to wait.
-/
structure Resting (delivers : Delivers b (keep targets)) (state : State b) : Prop where
  notifications : state.notifications = []
  free : ∀ event, ∃ bcaster, b.send state.bcaster event = some bcaster
  mailboxes : ∀ call, (delivers.mailbox state.bcaster call).Settled
  calls : ∀ call, state.phases call = .idle ∨
    (state.phases call = .waiting ∧ ¬state.Ready targets call) ∨
      ∃ result, state.phases call = .returned result

variable {delivers : Delivers b (keep targets)} {state next : State b} {call : Fin n}

section Invariant

/-- The invariant of the cache, and that of each call. -/
structure Attended (delivers : Delivers b (keep targets)) (state : State b) : Prop where
  sound : Sound delivers state
  awaited : ∀ call, ForwardWait.Awaited (targets call).1 (targets call).2 (view delivers call state)

namespace Attended

theorem initial (store : GoMap (String × String) Deployment) (notifications : List WatchEvent) :
    Attended delivers (State.initial store notifications) where
  sound := Sound.initial store notifications
  awaited := by
    intro call
    rw [view_initial]
    exact ForwardWait.Awaited.initial store notifications

theorem preserved (attended : Attended delivers state) {event : Event b}
    (stepped : step targets state event = some next) : Attended delivers next where
  sound := attended.sound.preserved stepped
  awaited := by
    intro call
    have awaited := attended.awaited call
    rcases sees attended.sound stepped with same | ⟨seen, moved⟩
    · exact same ▸ awaited
    · exact awaited.preserved moved

theorem of_reachable {store : GoMap (String × String) Deployment}
    {notifications : List WatchEvent}
    (reachable : Reachable (StepOf (step targets)) (State.initial store notifications) state) :
    Attended delivers state :=
  reachable.invariant (initial store notifications) fun _ _ _ attended stepped =>
    attended.preserved stepped

end Attended

end Invariant

section Measure

/-- The calls that are still to read the cache. -/
def reading (phases : Fin n → Phase) : Finset (Fin n) :=
  Finset.univ.filter fun call => phases call = .calling

/-- A bound on the steps that can still be made. -/
def State.weight (progresses : Progresses delivers) (state : State b) : ℕ :=
  progresses.weight state.bcaster + (progresses.cost + 1) * state.notifications.length +
    (reading state.phases).card

theorem reading_subset {phases : Fin n → Phase} {phase : Phase} (done : phase ≠ .calling) :
    reading (Function.update phases call phase) ⊆ reading phases := by
  intro other member
  by_cases same : other = call
  · simp [reading, same, done] at member
  · simpa [reading, same] using member

theorem card_reading_lt {phases : Fin n → Phase} {phase : Phase}
    (calling : phases call = .calling) (done : phase ≠ .calling) :
    (reading (Function.update phases call phase)).card < (reading phases).card := by
  apply Finset.card_lt_card
  refine Finset.ssubset_iff_subset_ne.mpr ⟨reading_subset done, ?_⟩
  intro same
  have member : call ∈ reading phases := by simp [reading, calling]
  rw [← same] at member
  simp [reading, done] at member

theorem weight_lt {progresses : Progresses delivers} {event : Event b}
    (proceeds : Proceeds targets state event next) :
    next.weight progresses < state.weight progresses := by
  rcases proceeds with ⟨internal, stepped⟩
  cases event with
  | put | remove | resync | watch | cancel => simp [Event.internal] at internal
  | handle =>
      rcases step_handle stepped with ⟨event, rest, bcaster, queued, sent, rfl⟩
      have added := progresses.send sent
      simp only [State.weight, queued, List.length_cons, Nat.mul_add, Nat.mul_one]
      omega
  | move motion =>
      rcases step_move stepped with ⟨bcaster, moved, rfl⟩
      have lighter := progresses.move moved
      simp only [State.weight]
      omega
  | get call =>
      rcases step_get stepped with ⟨calling, watched, ⟨result, rfl⟩ | rfl⟩
      · have fewer : (reading (Function.update state.phases call (.returned result))).card <
            (reading state.phases).card := card_reading_lt calling (by simp)
        have lighter := progresses.stop state.bcaster call
        simp only [State.weight, State.returns, State.setPhase]
        omega
      · have fewer : (reading (Function.update state.phases call .waiting)).card <
            (reading state.phases).card := card_reading_lt calling (by simp)
        simp only [State.weight, State.setPhase]
        omega
  | receive call =>
      rcases step_receive stepped with ⟨waiting, event, bcaster, received, goesOn⟩
      have lighter := progresses.receive received
      rcases goesOn with ⟨_, rfl⟩ | ⟨_, rfl⟩
      · have fewer : (reading (Function.update state.phases call (.returned (.ok 0)))).card ≤
            (reading state.phases).card := Finset.card_le_card (reading_subset (by simp))
        have stopped := progresses.stop bcaster call
        simp only [State.weight, State.returns, State.setPhase]
        omega
      · simp only [State.weight]
        omega

end Measure

section Rest

/-- Nothing keeps a call from reading the cache once `Watch` has returned. -/
theorem exists_get (calling : state.phases call = .calling)
    (watched : b.watched state.bcaster call = true) :
    ∃ next, step targets state (.get call) = some next := by
  simp only [step, calling, watched, and_self, if_true]
  split
  · exact ⟨_, rfl⟩
  · split
    · exact ⟨_, rfl⟩
    · exact ⟨_, rfl⟩

theorem exists_receive (waiting : state.phases call = .waiting) {event : WatchEvent}
    {bcaster : b.State} (received : b.receive state.bcaster call = some (event, bcaster)) :
    ∃ next, step targets state (.receive call) = some next := by
  simp only [step, waiting, received, if_true]
  split
  · exact ⟨_, rfl⟩
  · exact ⟨_, rfl⟩

variable (progresses : Progresses delivers) (attended : Attended delivers state)
  (stuck : ∀ event next, ¬Proceeds targets state event next)

include progresses attended stuck

/-- The calls read what there is for them, so that it is the broadcaster that has come to rest. -/
theorem settled_of_stuck :
    (∀ event, ∃ bcaster, b.send state.bcaster event = some bcaster) ∧
      ∀ call, (delivers.mailbox state.bcaster call).Settled := by
  apply progresses.rests
  · intro motion
    cases moved : b.move state.bcaster motion with
    | none => rfl
    | some bcaster =>
        have stepped :
            step targets state (.move motion) = some { state with bcaster := bcaster } := by
          simp only [step, moved, Option.map_some]
        exact absurd ⟨rfl, stepped⟩ (stuck _ _)
  · intro call watched
    cases received : b.receive state.bcaster call with
    | none => rfl
    | some taken =>
        rcases attended.sound.phase_of_watched watched with calling | waiting
        · rcases exists_get calling watched with ⟨next, stepped⟩
          exact absurd ⟨rfl, stepped⟩ (stuck _ _)
        · rcases exists_receive waiting received with ⟨next, stepped⟩
          exact absurd ⟨rfl, stepped⟩ (stuck _ _)

theorem notifications_of_stuck : state.notifications = [] := by
  cases queued : state.notifications with
  | nil => rfl
  | cons event rest =>
      rcases (settled_of_stuck progresses attended stuck).1 event with ⟨bcaster, sent⟩
      have stepped : step targets state .handle =
          some { state with notifications := rest, bcaster := bcaster } := by
        simp only [step, queued, sent, Option.map_some]
      exact absurd ⟨rfl, stepped⟩ (stuck _ _)

/-- Nothing is on its way to a waiting call, so that it has missed nothing. -/
theorem not_ready_of_stuck (waiting : state.phases call = .waiting) :
    ¬state.Ready targets call := by
  intro ready
  have settled := (settled_of_stuck progresses attended stuck).2 call
  have notifications := notifications_of_stuck progresses attended stuck
  have phase : (view delivers call state).phase = .waiting := by simp [view, waiting, phaseOf]
  rcases (attended.awaited call).wakes phase ready with ⟨event, member, _⟩
  rcases settled.slot with slot | slot | slot <;>
    simp [ForwardWait.State.inTransit, view, settled.queued, notifications, slot, watcher?]
      at member

theorem resting_of_stuck : Resting delivers state := by
  have settled := settled_of_stuck progresses attended stuck
  refine ⟨notifications_of_stuck progresses attended stuck, settled.1, settled.2, ?_⟩
  intro call
  cases phase : state.phases call with
  | idle => exact .inl rfl
  | waiting => exact .inr (.inl ⟨rfl, not_ready_of_stuck progresses attended stuck phase⟩)
  | returned result => exact .inr (.inr ⟨result, rfl⟩)
  | calling =>
      have agrees := attended.sound call
      rcases (settled.2 call).slot with slot | slot | slot
      · simp [phase, slot, allows] at agrees
      · have watched := delivers.watched.mpr ⟨[], [], slot⟩
        rcases exists_get phase watched with ⟨next, stepped⟩
        exact absurd ⟨rfl, stepped⟩ (stuck _ _)
      · simp [phase, slot, allows] at agrees

end Rest

/--
With any number of calls, made at any time, and any broadcaster that delivers and progresses: once
deployments are left alone and no further call is made, all events arrive, in whatever order the
goroutines go on. Every call that was made then has returned, or it waits for a deployment that
cannot serve.
-/
theorem inevitable_resting {targets : Fin n → String × String}
    {delivers : Delivers b (keep targets)}
    (progresses : Progresses delivers) {store : GoMap (String × String) Deployment}
    {notifications : List WatchEvent} {state : State b}
    (reachable : Reachable (StepOf (step targets)) (State.initial store notifications) state) :
    Inevitable (Proceeds targets) (Resting delivers) state := by
  apply Inevitable.of_stuck (Attended delivers) (State.weight progresses)
  · intro source event target attended proceeds
    exact attended.preserved proceeds.2
  · intro source event target attended proceeds
    exact weight_lt proceeds
  · intro source attended stuck
    exact resting_of_stuck progresses attended stuck
  · exact Attended.of_reachable reachable

/-- The loop is handing out an event that both of two waiting calls are to get. -/
theorem inevitable_resting_two : ∃ state : State (sampleBcaster 2),
    Reachable (StepOf (step fun _ => ("dp-a", "app"))) (State.initial sampleStore []) state ∧
      state.bcaster.val.distributing = some (⟨.modified, ⟨"dp-a", "app", 2⟩⟩, [1, 0]) ∧
      state.phases 0 = .waiting ∧ state.phases 1 = .waiting ∧
      Inevitable (Proceeds fun _ => ("dp-a", "app")) (Resting (Broadcast.delivers _)) state := by
  rcases Reachable.exists_of_record (step fun _ : Fin 2 => ("dp-a", "app"))
    (State.initial sampleStore [] : State (sampleBcaster 2))
    [.watch 0 none, .move .push, .move .run, .move (.attach 0), .get 0,
      .watch 1 none, .move .push, .move .run, .move (.attach 1), .get 1,
      .put ⟨"dp-a", "app", 2⟩, .handle, .move .push, .move (.take [1, 0])]
    (fun state => decide (state.bcaster.val.distributing =
        some (⟨.modified, ⟨"dp-a", "app", 2⟩⟩, [1, 0])) &&
      decide (state.phases 0 = .waiting) && decide (state.phases 1 = .waiting))
    (by decide +kernel) with ⟨state, reachable, passed⟩
  simp only [Bool.and_eq_true, decide_eq_true_eq] at passed
  exact ⟨state, reachable, passed.1.1, passed.1.2, passed.2,
    inevitable_resting (Broadcast.progresses _) reachable⟩

end KedaHttp.Interceptor.Crowd
