import Mathlib.Data.List.Basic

/-!
# Commuting actions

Sequences of actions of several agents. If the actions of different agents commute, the state a
sequence leads to depends only on what each agent does, and on the order in which it does so
(`SameOrder.foldl_eq`). How the actions of different agents are interleaved does not matter.
-/

namespace KedaHttp.Foundation

universe u v w

variable {State : Type u} {Action : Type v} {Agent : Type w} [DecidableEq Agent]

/--
The sequences have the same actions of every agent in the same order. They are permutations of
each other that keep each agent's own order.
-/
def SameOrder (agent : Action → Agent) (first second : List Action) : Prop :=
  ∀ owner, first.filter (agent · = owner) = second.filter (agent · = owner)

namespace SameOrder

variable {agent : Action → Agent} {first second : List Action}

theorem mem (same : SameOrder agent first second) {action : Action} (member : action ∈ second) :
    action ∈ first := by
  have kept : action ∈ second.filter (agent · = agent action) := by
    simpa using member
  rw [← same] at kept
  exact List.mem_of_mem_filter kept

theorem eq_nil (same : SameOrder agent [] second) : second = [] := by
  rw [List.eq_nil_iff_forall_not_mem]
  intro action member
  simpa using same.mem member

/-- The first action of one sequence stands, in the other one, behind actions of other agents. -/
theorem split_of_cons {action : Action} (same : SameOrder agent (action :: first) second) :
    ∃ passed rest, second = passed ++ action :: rest ∧
      (∀ other ∈ passed, agent other ≠ agent action) ∧
      SameOrder agent first (passed ++ rest) := by
  have own := (same (agent action)).symm
  rw [List.filter_cons_of_pos (by simp), List.filter_eq_cons_iff] at own
  rcases own with ⟨passed, rest, rfl, others, _, _⟩
  refine ⟨passed, rest, rfl, by simpa using others, ?_⟩
  intro owner
  have kept := same owner
  rw [List.filter_append] at kept ⊢
  by_cases mine : agent action = owner
  · rw [List.filter_cons_of_pos (by simpa using mine),
      List.filter_cons_of_pos (by simpa using mine)] at kept
    subst mine
    have none : passed.filter (agent · = agent action) = [] := by
      simpa using others
    rw [none, List.nil_append] at kept ⊢
    exact List.tail_eq_of_cons_eq kept
  · rw [List.filter_cons_of_neg (by simpa using mine),
      List.filter_cons_of_neg (by simpa using mine)] at kept
    exact kept

end SameOrder

/-- An action that commutes with all actions before it may as well be the first one. -/
theorem foldl_append_cons_of_commutes (act : State → Action → State) {action : Action}
    {passed : List Action} (rest : List Action)
    (commutes : ∀ other ∈ passed, ∀ state, act (act state other) action =
      act (act state action) other) (state : State) :
    (passed ++ action :: rest).foldl act state = (passed ++ rest).foldl act (act state action) := by
  induction passed generalizing state with
  | nil => rfl
  | cons other passed ih =>
      rw [List.forall_mem_cons] at commutes
      simp only [List.cons_append, List.foldl_cons]
      rw [ih commutes.2, commutes.1]

/-- If actions of different agents commute, interleavings of the same actions are equivalent. -/
theorem SameOrder.foldl_eq {agent : Action → Agent} {first second : List Action}
    (same : SameOrder agent first second) (act : State → Action → State)
    (commutes : ∀ left ∈ first, ∀ right ∈ first, agent left ≠ agent right →
      ∀ state, act (act state left) right = act (act state right) left) (state : State) :
    first.foldl act state = second.foldl act state := by
  induction first generalizing second state with
  | nil => rw [same.eq_nil]
  | cons action first ih =>
      rcases same.split_of_cons with ⟨passed, rest, rfl, others, sameRest⟩
      rw [foldl_append_cons_of_commutes act rest, List.foldl_cons]
      · apply ih sameRest
        intro left leftMem right rightMem
        exact commutes left (List.mem_cons_of_mem _ leftMem) right
          (List.mem_cons_of_mem _ rightMem)
      · intro other otherMem
        have present := same.mem (List.mem_append_left _ otherMem)
        exact commutes other present action List.mem_cons_self (others other otherMem)

end KedaHttp.Foundation
