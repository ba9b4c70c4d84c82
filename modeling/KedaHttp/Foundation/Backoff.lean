import Mathlib.Algebra.BigOperators.Group.List.Basic
import Mathlib.Data.Rat.Cast.Order
import Mathlib.Tactic.Linarith
import Mathlib.Tactic.Ring

/-!
# Backoffs

A `Backoff` is what a caller sets and reads. How long to wait is told by its `Step`, which also
changes the backoff and draws random numbers. What `Step` does is left open: it is given by what it
returns, and the backoff that it leaves, when it is called for the first time, for the second time
and so on.

`Doubles` is what a caller expects of a backoff with the factor 2 and without a cap. Each wait is
twice as long as the one before it, up to a random part. This includes that no wait is too long for
an integer of 64 bits.
-/

namespace KedaHttp.Foundation

/-- Durations are in nanoseconds, and `Number` stands for floating-point numbers. -/
structure Backoff (Number : Type) where
  duration : Int64
  factor : Number
  jitter : Number
  steps : Int
  /-- No cap if 0. -/
  cap : Int64
  deriving DecidableEq

namespace Backoff

variable {Number : Type}

/-- What `Step` returns when it is called for the given time, and the backoff that it leaves. -/
abbrev Stepping (Number : Type) := ℕ → Backoff Number → Int64 × Backoff Number

section Waits

variable (step : Stepping Number) (backoff : Backoff Number)

/-- The backoff after some calls of `Step`. -/
def after : ℕ → Backoff Number
  | 0 => backoff
  | i + 1 => (step i (after i)).2

def wait (i : ℕ) : Int64 := (step i (backoff.after step i)).1

/-- The waits double, and random parts of up to `jitter` times a wait are added to them. -/
structure Doubles (jitter : ℚ) : Prop where
  atLeast : ∀ i < backoff.steps.toNat,
    backoff.duration.toInt * 2 ^ i ≤ (backoff.wait step i).toInt
  atMost : ∀ i < backoff.steps.toNat,
    ((backoff.wait step i).toInt : ℚ) ≤ (1 + jitter) * (backoff.duration.toInt * 2 ^ i)

/-- The first waits together. -/
def total (count : ℕ) : Int :=
  ((List.range count).map fun i => (backoff.wait step i).toInt).sum

theorem total_succ (count : ℕ) :
    backoff.total step (count + 1) =
      backoff.total step count + (backoff.wait step count).toInt := by
  simp [total, List.range_succ]

end Waits

namespace Doubles

variable {step : Stepping Number} {backoff : Backoff Number} {jitter : ℚ}

theorem le_total (doubles : backoff.Doubles step jitter) {count : ℕ}
    (left : count ≤ backoff.steps.toNat) :
    backoff.duration.toInt * (2 ^ count - 1) ≤ backoff.total step count := by
  induction count with
  | zero => simp [total]
  | succ count ih =>
      have before := ih (by omega)
      have next := doubles.atLeast count left
      rw [total_succ]
      calc backoff.duration.toInt * (2 ^ (count + 1) - 1)
          = backoff.duration.toInt * (2 ^ count - 1) + backoff.duration.toInt * 2 ^ count := by ring
        _ ≤ _ := Int.add_le_add before next

theorem total_le (doubles : backoff.Doubles step jitter) {count : ℕ}
    (left : count ≤ backoff.steps.toNat) :
    (backoff.total step count : ℚ) ≤
      (1 + jitter) * (backoff.duration.toInt * (2 ^ count - 1)) := by
  induction count with
  | zero => simp [total]
  | succ count ih =>
      have before := ih (by omega)
      have next := doubles.atMost count left
      rw [total_succ, Int.cast_add]
      calc (backoff.total step count : ℚ) + (backoff.wait step count).toInt
          ≤ (1 + jitter) * (backoff.duration.toInt * (2 ^ count - 1)) +
              (1 + jitter) * (backoff.duration.toInt * 2 ^ count) := add_le_add before next
        _ = (1 + jitter) * (backoff.duration.toInt * (2 ^ (count + 1) - 1)) := by ring

/-- Without a random part, the waits are known. -/
theorem total_eq (doubles : backoff.Doubles step 0) {count : ℕ}
    (left : count ≤ backoff.steps.toNat) :
    backoff.total step count = backoff.duration.toInt * (2 ^ count - 1) := by
  have upper := doubles.total_le left
  rw [add_zero, one_mul] at upper
  exact le_antisymm (by exact_mod_cast upper) (doubles.le_total left)

end Doubles

section Doubling

/-- A `Step` for the factor 2, without a random part. -/
def doubling : Stepping Number := fun _ backoff =>
  (backoff.duration, { backoff with duration := backoff.duration * 2, steps := backoff.steps - 1 })

theorem wait_doubling (backoff : Backoff Number) (i : ℕ) :
    backoff.wait doubling i = Int64.ofInt (backoff.duration.toInt * 2 ^ i) := by
  induction i with
  | zero => simp [wait, after, doubling, Int64.ofInt_toInt]
  | succ i ih =>
      have next : backoff.wait doubling (i + 1) = backoff.wait doubling i * 2 := rfl
      rw [next, ih, pow_succ, ← mul_assoc, Int64.ofInt_mul _ 2]
      rfl

theorem doubles_doubling {backoff : Backoff Number} (nonneg : 0 ≤ backoff.duration.toInt)
    (fits : ∀ i < backoff.steps.toNat, backoff.duration.toInt * 2 ^ i < 2 ^ 63) :
    backoff.Doubles doubling 0 := by
  have exact_wait : ∀ i < backoff.steps.toNat,
      (backoff.wait doubling i).toInt = backoff.duration.toInt * 2 ^ i := by
    intro i left
    rw [wait_doubling]
    apply Int64.toInt_ofInt_of_le
    · have : 0 ≤ backoff.duration.toInt * 2 ^ i := Int.mul_nonneg nonneg (by positivity)
      omega
    · exact fits i left
  refine ⟨fun i left => (exact_wait i left).ge, ?_⟩
  intro i left
  rw [exact_wait i left]
  push_cast
  linarith

end Doubling

end Backoff

end KedaHttp.Foundation
