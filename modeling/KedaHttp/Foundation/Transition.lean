import Mathlib.Data.List.Basic

/-!
# Runs of labelled transition systems

A system is given by its step relation `Step : State → Event → State → Prop`. A
run records every move it made, latest move first, so that a property can speak
about the states a run went through as well as about the moves between them.

Two rules carry the developments built on this file. `Run.invariant` is the usual
induction: what holds at the start and survives every step holds in every state
reached. `Run.forall_iff` is its exact form for systems that keep a property only
under a condition on their moves. Given an invariant that the condition preserves,
and under which a single move has the property precisely when it meets the
condition, a whole run has the property at every move precisely when every move
met the condition.

`Inevitable` is the liveness notion for systems whose every run is finite: whichever enabled
steps are taken, a goal is reached. `Inevitable.of_measure` derives it from progress and a
decreasing measure.
-/

namespace KedaHttp.Foundation

universe u v

/-- One step of a run, with the states on both of its sides. -/
structure Move (State : Type u) (Event : Type v) where
  source : State
  event : Event
  target : State

variable {State : Type u} {Event : Type v}

/-- The runs from `start`, with their moves listed latest first. -/
inductive Run (Step : State → Event → State → Prop) (start : State) :
    List (Move State Event) → State → Prop where
  | start : Run Step start [] start
  | move {history : List (Move State Event)} {source target : State} {event : Event}
      (earlier : Run Step start history source) (step : Step source event target) :
      Run Step start (⟨source, event, target⟩ :: history) target

/-- A state is reachable when some run ends in it. -/
def Reachable (Step : State → Event → State → Prop) (start state : State) : Prop :=
  ∃ history, Run Step start history state

/-- A step of a deterministic system, whose scheduled event may be disabled. -/
def StepOf (step : State → Event → Option State) (source : State) (event : Event)
    (target : State) : Prop :=
  step source event = some target

/-- The moves made by a schedule, and the state it leads to, if each event is enabled in turn. -/
def record (step : State → Event → Option State) (start : State) (schedule : List Event) :
    Option (List (Move State Event) × State) :=
  schedule.foldlM (fun made event =>
    (step made.2 event).map fun target => (⟨made.2, event, target⟩ :: made.1, target)) ([], start)

namespace Run

variable {Step : State → Event → State → Prop} {start : State}

/-- What holds at the start and survives every step holds wherever a run ends. -/
theorem invariant {Inv : State → Prop} (atStart : Inv start)
    (preserved : ∀ source event target,
      Inv source → Step source event target → Inv target)
    {history : List (Move State Event)} {state : State}
    (run : Run Step start history state) : Inv state := by
  induction run with
  | start => exact atStart
  | move _ step ih => exact preserved _ _ _ ih step

/-- Every recorded move is a step of the system out of a reachable state. -/
theorem mem_history {history : List (Move State Event)} {state : State}
    (run : Run Step start history state) {move : Move State Event} (member : move ∈ history) :
    Reachable Step start move.source ∧ Step move.source move.event move.target := by
  induction run with
  | start => simp at member
  | move earlier step ih =>
      rcases List.mem_cons.mp member with rfl | member
      · exact ⟨⟨_, earlier⟩, step⟩
      · exact ih member

/-- An invariant that only survives moves meeting `Condition` holds after such moves. -/
theorem invariant_of_condition (Inv : State → Prop) (Condition : State → Event → Prop)
    (atStart : Inv start)
    (preserved : ∀ source event target,
      Inv source → Condition source event → Step source event target → Inv target)
    {history : List (Move State Event)} {state : State} (run : Run Step start history state)
    (conditions : ∀ move ∈ history, Condition move.source move.event) : Inv state := by
  induction run with
  | start => exact atStart
  | move earlier step ih =>
      have sourceInv := ih fun move member => conditions move (List.mem_cons_of_mem _ member)
      exact preserved _ _ _ sourceInv (conditions _ List.mem_cons_self) step

theorem targets_of_condition (Inv : State → Prop) (Condition : State → Event → Prop)
    (atStart : Inv start)
    (preserved : ∀ source event target,
      Inv source → Condition source event → Step source event target → Inv target)
    {history : List (Move State Event)} {state : State} (run : Run Step start history state)
    (conditions : ∀ move ∈ history, Condition move.source move.event) :
    ∀ move ∈ history, Inv move.target := by
  induction run with
  | start => simp
  | @move history source target event earlier step ih =>
      have holds := (earlier.move step).invariant_of_condition Inv Condition atStart preserved
        conditions
      rw [List.forall_mem_cons] at conditions ⊢
      exact ⟨holds, ih conditions.2⟩

/--
A run has `Property` at all of its moves exactly when all of them meet `Condition`,
provided the two agree on single moves out of states satisfying the invariant.
-/
theorem forall_iff (Property : Move State Event → Prop) (Condition : State → Event → Prop)
    {Inv : State → Prop} (atStart : Inv start)
    (preserved : ∀ source event target,
      Inv source → Condition source event → Step source event target → Inv target)
    (exact_at : ∀ source event target, Inv source → Step source event target →
      (Property ⟨source, event, target⟩ ↔ Condition source event))
    {history : List (Move State Event)} {state : State} (run : Run Step start history state) :
    (∀ move ∈ history, Property move) ↔
      ∀ move ∈ history, Condition move.source move.event := by
  induction run with
  | start => simp
  | @move history source target event earlier step ih =>
      simp only [List.forall_mem_cons]
      constructor
      · rintro ⟨lastProperty, properties⟩
        have conditions := ih.mp properties
        have sourceInv := earlier.invariant_of_condition Inv Condition atStart preserved conditions
        exact ⟨(exact_at _ _ _ sourceInv step).mp lastProperty, conditions⟩
      · rintro ⟨lastCondition, conditions⟩
        have sourceInv := earlier.invariant_of_condition Inv Condition atStart preserved conditions
        exact ⟨(exact_at _ _ _ sourceInv step).mpr lastCondition, ih.mpr conditions⟩

private theorem of_foldlM {step : State → Event → Option State} {origin : State}
    {schedule : List Event} {made reached : List (Move State Event) × State}
    (run : Run (StepOf step) origin made.1 made.2)
    (recorded : schedule.foldlM (fun made event =>
      (step made.2 event).map fun target => (⟨made.2, event, target⟩ :: made.1, target)) made =
        some reached) :
    Run (StepOf step) origin reached.1 reached.2 := by
  induction schedule generalizing made with
  | nil =>
      simp only [List.foldlM_nil, Option.pure_def, Option.some.injEq] at recorded
      exact recorded ▸ run
  | cons event schedule ih =>
      simp only [List.foldlM_cons, Option.bind_eq_bind, Option.bind_eq_some_iff,
        Option.map_eq_some_iff] at recorded
      rcases recorded with ⟨_, ⟨target, stepped, rfl⟩, rest⟩
      exact ih (run.move stepped) rest

/-- A test passed by the record of a schedule is passed by a run. -/
theorem exists_of_record (step : State → Event → Option State) (start : State)
    (schedule : List Event) (test : List (Move State Event) × State → Bool)
    (passed : (record step start schedule).any test = true) :
    ∃ history state, Run (StepOf step) start history state ∧ test (history, state) = true := by
  cases recorded : record step start schedule with
  | none => simp [recorded] at passed
  | some reached =>
      refine ⟨reached.1, reached.2, of_foldlM .start recorded, ?_⟩
      simpa [recorded] using passed

end Run

namespace Reachable

variable {Step : State → Event → State → Prop} {start : State}

/-- The starting state is reachable. -/
theorem refl : Reachable Step start start := ⟨[], .start⟩

/-- Reachability is closed under one more step. -/
theorem step {source target : State} {event : Event} (reachable : Reachable Step start source)
    (next : Step source event target) : Reachable Step start target := by
  rcases reachable with ⟨history, run⟩
  exact ⟨_, run.move next⟩

/-- The invariant rule, for reachable states. -/
theorem invariant {Inv : State → Prop} (atStart : Inv start)
    (preserved : ∀ source event target,
      Inv source → Step source event target → Inv target)
    {state : State} (reachable : Reachable Step start state) : Inv state := by
  rcases reachable with ⟨history, run⟩
  exact run.invariant atStart preserved

/--
A system is seen as another one through `view`. If each of its steps is seen as one step or as none,
then what it reaches is seen as something that the other system reaches.
-/
theorem simulation {View : Type u} {ViewEvent : Type v} {ViewStep : View → ViewEvent → View → Prop}
    (view : State → View) {Inv : State → Prop} (atStart : Inv start)
    (preserved : ∀ source event target,
      Inv source → Step source event target → Inv target)
    (simulates : ∀ source event target, Inv source → Step source event target →
      view target = view source ∨ ∃ seen, ViewStep (view source) seen (view target))
    {state : State} (reachable : Reachable Step start state) :
    Reachable ViewStep (view start) (view state) := by
  rcases reachable with ⟨history, run⟩
  induction run with
  | start => exact refl
  | move earlier next ih =>
      have holds := earlier.invariant atStart preserved
      rcases simulates _ _ _ holds next with same | ⟨seen, moved⟩
      · rw [same]
        exact ih
      · exact ih.step moved

/-- A system that can move only finitely often can get to where it cannot move any more. -/
theorem exists_stuck (Inv : State → Prop) (measure : State → ℕ)
    (preserved : ∀ source event target, Inv source → Step source event target → Inv target)
    (decreasing : ∀ source event target, Inv source → Step source event target →
      measure target < measure source)
    {state : State} (reachable : Reachable Step start state) (holds : Inv state) :
    ∃ final, Reachable Step start final ∧ ∀ event target, ¬Step final event target := by
  induction bound : measure state using Nat.strongRecOn generalizing state with
  | ind rank ih =>
      by_cases enabled : ∃ event target, Step state event target
      · rcases enabled with ⟨event, target, next⟩
        have smaller := decreasing state event target holds next
        exact ih (measure target) (bound ▸ smaller) (reachable.step next)
          (preserved state event target holds next) rfl
      · simp only [not_exists] at enabled
        exact ⟨state, reachable, enabled⟩

/-- A test passed by the state a schedule leads to is passed by a reachable state. -/
theorem exists_of_record (step : State → Event → Option State) (start : State)
    (schedule : List Event) (test : State → Bool)
    (passed : (record step start schedule).any (fun reached => test reached.2) = true) :
    ∃ state, Reachable (StepOf step) start state ∧ test state = true := by
  rcases Run.exists_of_record step start schedule _ passed with ⟨history, state, run, holds⟩
  exact ⟨state, ⟨history, run⟩, holds⟩

end Reachable

/-- Every maximal run from the state is finite and comes past a state satisfying `Goal`. -/
inductive Inevitable (Step : State → Event → State → Prop) (Goal : State → Prop) :
    State → Prop where
  | now {state : State} (reached : Goal state) : Inevitable Step Goal state
  | later {state : State} (enabled : ∃ event target, Step state event target)
      (every : ∀ event target, Step state event target → Inevitable Step Goal target) :
      Inevitable Step Goal state

/-- A system that can always move before the goal, and only finitely often, reaches the goal. -/
theorem Inevitable.of_measure {Step : State → Event → State → Prop} {Goal : State → Prop}
    (Inv : State → Prop) (measure : State → ℕ)
    (preserved : ∀ source event target, Inv source → Step source event target → Inv target)
    (decreasing : ∀ source event target, Inv source → Step source event target →
      measure target < measure source)
    (progress : ∀ state, Inv state → Goal state ∨ ∃ event target, Step state event target)
    {state : State} (holds : Inv state) : Inevitable Step Goal state := by
  induction bound : measure state using Nat.strongRecOn generalizing state with
  | ind rank ih =>
      rcases progress state holds with reached | enabled
      · exact .now reached
      · refine .later enabled ?_
        intro event target step
        have smaller := decreasing state event target holds step
        exact ih (measure target) (bound ▸ smaller) (preserved state event target holds step) rfl

/-- A system that can move only finitely often gets to where it cannot move any more. -/
theorem Inevitable.of_stuck {Step : State → Event → State → Prop} {Goal : State → Prop}
    (Inv : State → Prop) (measure : State → ℕ)
    (preserved : ∀ source event target, Inv source → Step source event target → Inv target)
    (decreasing : ∀ source event target, Inv source → Step source event target →
      measure target < measure source)
    (stuck : ∀ state, Inv state → (∀ event target, ¬Step state event target) → Goal state)
    {state : State} (holds : Inv state) : Inevitable Step Goal state := by
  apply Inevitable.of_measure Inv measure preserved decreasing _ holds
  intro source inv
  by_cases enabled : ∃ event target, Step source event target
  · exact .inr enabled
  · simp only [not_exists] at enabled
    exact .inl (stuck source inv enabled)

end KedaHttp.Foundation
