import KedaHttp.Foundation.Backoff

/-!
# Dialling the service of a deployment

`DialContextWithRetry` from `pkg/net/dial_context.go`, which the interceptor's transport dials with,
the backoff that `interceptor/config/timeouts.go` makes for it, and `MinTotalBackoffDuration` from
`pkg/net/backoff.go`.

The outcomes of the single dials, what `Step` of the backoff does and what ends each wait are given:
a wait is ended by its timer, or by the context with an error.
-/

namespace KedaHttp.Interceptor.Dialing

open KedaHttp.Foundation

/-- What a call returns, how often it has dialled, and the waits that their timers have ended. -/
structure Dialed (Conn : Type) where
  /-- A call that does not dial at all returns neither a connection nor an error. -/
  result : Except String (Option Conn)
  dials : ℕ
  slept : List Int64
  deriving DecidableEq

section Loop

variable {Conn Number : Type} (step : Backoff.Stepping Number) (dial : ℕ → Except String Conn)
  (ctxDone : ℕ → Option String)

/-- The loop, with the number of tries that are left. -/
def dialLoop : ℕ → ℕ → Backoff Number → Option String → List Int64 → Dialed Conn
  | 0, i, _, lastError, slept =>
      match lastError with
      | some err => ⟨.error err, i, slept⟩
      | none => ⟨.ok none, i, slept⟩
  | left + 1, i, backoff, _, slept =>
      match dial i with
      | .ok conn => ⟨.ok (some conn), i + 1, slept⟩
      | .error err =>
          let (sleepDur, backoff) := step i backoff
          match ctxDone i with
          | some ctxErr => ⟨.error ("context timed out: " ++ ctxErr), i + 1, slept⟩
          | none => dialLoop left (i + 1) backoff (some err) (slept ++ [sleepDur])

/-- Each call works on a backoff of its own. -/
def dialContextWithRetry (backoff : Backoff Number) : Dialed Conn :=
  dialLoop step dial ctxDone backoff.steps.toNat 0 backoff none []

end Loop

section Settings

variable {Number : Type}

/-- `Timeouts.Backoff`, with the timeout for connections. -/
def timeoutsBackoff (connect : Int64) (factor jitter : Number) (steps : Int) :
    Backoff Number where
  duration := connect
  factor := factor
  jitter := jitter
  steps := steps
  cap := 0

def defaultBackoff [OfNat Number 2] [OfScientific Number] (connect : Int64) : Backoff Number :=
  timeoutsBackoff connect 2 0.5 5

end Settings

section Outcome

variable {Conn : Type} (dial : ℕ → Except String Conn) (ctxDone : ℕ → Option String)

/-- The dials before the given one have failed, and the waits after them have come to their end. -/
def FailedBefore (count : ℕ) : Prop :=
  ∀ i < count, (∃ err, dial i = .error err) ∧ ctxDone i = none

/-- How a call ends that makes at most the given number of tries, by the waits that it sits out. -/
inductive Ends (waits : ℕ → Int64) (tries : ℕ) : ℕ → Dialed Conn → Prop where
  | connected {count : ℕ} {conn : Conn} (left : count < tries)
      (failed : FailedBefore dial ctxDone count) (succeeds : dial count = .ok conn) :
      Ends waits tries count ⟨.ok (some conn), count + 1, (List.range count).map waits⟩
  | canceled {count : ℕ} {err ctxErr : String} (left : count < tries)
      (failed : FailedBefore dial ctxDone count) (fails : dial count = .error err)
      (done : ctxDone count = some ctxErr) :
      Ends waits tries count
        ⟨.error ("context timed out: " ++ ctxErr), count + 1, (List.range count).map waits⟩
  | exhausted {last : ℕ} {err : String} (all : last + 1 = tries)
      (failed : FailedBefore dial ctxDone tries) (lastFailed : dial last = .error err) :
      Ends waits tries tries ⟨.error err, tries, (List.range tries).map waits⟩
  | idle (noTries : tries = 0) : Ends waits tries 0 ⟨.ok none, 0, []⟩

variable {dial ctxDone}

theorem FailedBefore.succ {count : ℕ} {err : String} (failed : FailedBefore dial ctxDone count)
    (fails : dial count = .error err) (fired : ctxDone count = none) :
    FailedBefore dial ctxDone (count + 1) := by
  intro i below
  rcases Nat.lt_succ_iff_lt_or_eq.mp below with earlier | rfl
  · exact failed i earlier
  · exact ⟨⟨err, fails⟩, fired⟩

variable {Number : Type} {step : Backoff.Stepping Number} {backoff : Backoff Number}

/-- The loop in its middle, where `count` tries have been made and `left` tries are left. -/
theorem dialLoop_ends (left : ℕ) {count : ℕ} {lastError : Option String}
    (failed : FailedBefore dial ctxDone count)
    (remembers : ∀ last, count = last + 1 → ∃ err, lastError = some err ∧ dial last = .error err)
    (fresh : count = 0 → lastError = none) :
    ∃ final, Ends dial ctxDone (backoff.wait step) (count + left) final
      (dialLoop step dial ctxDone left count (backoff.after step count) lastError
        ((List.range count).map (backoff.wait step))) := by
  induction left generalizing count lastError with
  | zero =>
      cases count with
      | zero =>
          rw [fresh rfl, dialLoop]
          exact ⟨0, .idle rfl⟩
      | succ last =>
          rcases remembers last rfl with ⟨err, rfl, lastFailed⟩
          rw [dialLoop]
          exact ⟨last + 1, .exhausted rfl failed lastFailed⟩
  | succ left ih =>
      rw [dialLoop]
      cases outcome : dial count with
      | ok conn => exact ⟨count, .connected (by omega) failed outcome⟩
      | error err =>
          simp only
          cases done : ctxDone count with
          | some ctxErr => exact ⟨count, .canceled (by omega) failed outcome done⟩
          | none =>
              have waited : (List.range count).map (backoff.wait step) ++
                  [(step count (backoff.after step count)).1] =
                    (List.range (count + 1)).map (backoff.wait step) := by
                rw [List.range_succ, List.map_append, List.map_singleton]
                rfl
              have total : count + (left + 1) = count + 1 + left := by omega
              simp only [waited, total]
              apply ih (failed.succ outcome done)
              · rintro last same
                have own : last = count := by omega
                exact ⟨err, rfl, own ▸ outcome⟩
              · omega

/-- A whole call, from its start. -/
theorem exists_ends (step : Backoff.Stepping Number) (dial : ℕ → Except String Conn)
    (ctxDone : ℕ → Option String) (backoff : Backoff Number) :
    ∃ count, Ends dial ctxDone (backoff.wait step) backoff.steps.toNat count
      (dialContextWithRetry step dial ctxDone backoff) := by
  have untried : FailedBefore dial ctxDone 0 := fun i below => absurd below (Nat.not_lt_zero i)
  have ends := @dialLoop_ends Conn dial ctxDone Number step backoff backoff.steps.toNat 0 none
    untried (fun last same => by omega) fun _ => rfl
  rwa [Nat.zero_add] at ends

end Outcome

namespace Ends

variable {Conn : Type} {dial : ℕ → Except String Conn} {ctxDone : ℕ → Option String}
  {waits : ℕ → Int64} {tries count : ℕ} {dialed : Dialed Conn}

/-- No try before the end of a call gets a connection, and none is made after it. -/
theorem not_connected_of_failed {i : ℕ} {conn : Conn} (failed : FailedBefore dial ctxDone count)
    (before : i < count) : dial i ≠ .ok conn := by
  intro succeeds
  rcases (failed i before).1 with ⟨err, fails⟩
  simp [succeeds] at fails

theorem connected_iff (ends : Ends dial ctxDone waits tries count dialed) (conn : Conn) :
    dialed.result = .ok (some conn) ↔
      ∃ i < tries, FailedBefore dial ctxDone i ∧ dial i = .ok conn := by
  cases ends with
  | @connected _ got left failed succeeds =>
      constructor
      · intro same
        simp only [Except.ok.injEq, Option.some.injEq] at same
        exact ⟨count, left, failed, same ▸ succeeds⟩
      · rintro ⟨i, below, failedThere, succeedsThere⟩
        rcases Nat.lt_trichotomy i count with earlier | rfl | later
        · exact absurd succeedsThere (not_connected_of_failed failed earlier)
        · simpa [succeeds] using succeedsThere
        · exact absurd succeeds (not_connected_of_failed failedThere later)
  | canceled left failed fails done =>
      refine iff_of_false (by simp) ?_
      rintro ⟨i, below, failedThere, succeedsThere⟩
      rcases Nat.lt_trichotomy i count with earlier | rfl | later
      · exact not_connected_of_failed failed earlier succeedsThere
      · simp [fails] at succeedsThere
      · simp [(failedThere count later).2] at done
  | exhausted all failed lastFailed =>
      refine iff_of_false (by simp) ?_
      rintro ⟨i, below, _, succeedsThere⟩
      exact not_connected_of_failed failed below succeedsThere
  | idle noTries =>
      refine iff_of_false (by simp) ?_
      rintro ⟨i, below, _⟩
      omega

theorem nothing_iff (ends : Ends dial ctxDone waits tries count dialed) :
    dialed.result = .ok none ↔ tries = 0 := by
  cases ends with
  | connected left => exact iff_of_false (by simp) (by omega)
  | canceled left => exact iff_of_false (by simp) (by omega)
  | exhausted all => exact iff_of_false (by simp) (by omega)
  | idle noTries => exact iff_of_true rfl noTries

theorem slept_eq (ends : Ends dial ctxDone waits tries count dialed) :
    dialed.slept = (List.range count).map waits := by
  cases ends with
  | connected | canceled | exhausted | idle => rfl

theorem dials_le (ends : Ends dial ctxDone waits tries count dialed) :
    count ≤ dialed.dials ∧ dialed.dials ≤ tries := by
  cases ends with
  | connected left => exact ⟨Nat.le_succ _, left⟩
  | canceled left => exact ⟨Nat.le_succ _, left⟩
  | exhausted => exact ⟨Nat.le_refl _, Nat.le_refl _⟩
  | idle => exact ⟨Nat.le_refl _, Nat.zero_le _⟩

/-- A call whose dials all fail sits out all of its waits. -/
theorem count_eq (ends : Ends dial ctxDone waits tries count dialed)
    (failed : FailedBefore dial ctxDone tries) : count = tries := by
  cases ends with
  | connected left _ succeeds =>
      rcases (failed _ left).1 with ⟨err, fails⟩
      simp [succeeds] at fails
  | canceled left _ _ done => simp [(failed _ left).2] at done
  | exhausted => rfl
  | idle noTries => exact noTries.symm

end Ends

section Waits

variable {Conn Number : Type} {step : Backoff.Stepping Number} {dial : ℕ → Except String Conn}
  {ctxDone : ℕ → Option String} {backoff : Backoff Number} {count : ℕ} {dialed : Dialed Conn}

/-- What a call has waited altogether. -/
def Dialed.waited (dialed : Dialed Conn) : Int := (dialed.slept.map Int64.toInt).sum

theorem Ends.waited_eq
    (ends : Ends dial ctxDone (backoff.wait step) backoff.steps.toNat count dialed) :
    dialed.waited = backoff.total step count := by
  rw [Dialed.waited, ends.slept_eq, List.map_map]
  rfl

end Waits

/--
Whatever the dials result in, whenever the context ends and whatever `Step` does: a call gets the
connection of the first dial that succeeds, if it is among the allowed ones and the context has not
ended a wait before it. A call returns neither a connection nor an error only if it may not dial at
all. Its waits, at most one for each dial, are those that `Step` has returned one after the other.
If these double, they take `duration * (2 ^ count - 1)` together at least, and `1 + jitter` times
that at most.
-/
theorem dialContextWithRetry_connects_iff {Conn Number : Type} (step : Backoff.Stepping Number)
    (dial : ℕ → Except String Conn) (ctxDone : ℕ → Option String) (backoff : Backoff Number) :
    let dialed := dialContextWithRetry step dial ctxDone backoff
    let count := dialed.slept.length
    (∀ conn, dialed.result = .ok (some conn) ↔
        ∃ i < backoff.steps.toNat, FailedBefore dial ctxDone i ∧ dial i = .ok conn) ∧
      (dialed.result = .ok none ↔ backoff.steps ≤ 0) ∧
      count ≤ dialed.dials ∧ dialed.dials ≤ backoff.steps.toNat ∧
      dialed.slept = (List.range count).map (backoff.wait step) ∧
      ∀ jitter, backoff.Doubles step jitter →
        backoff.duration.toInt * (2 ^ count - 1) ≤ dialed.waited ∧
          (dialed.waited : ℚ) ≤ (1 + jitter) * (backoff.duration.toInt * (2 ^ count - 1)) := by
  intro dialed
  rcases exists_ends step dial ctxDone backoff with ⟨count, ends⟩
  have length : dialed.slept.length = count := by
    rw [ends.slept_eq, List.length_map, List.length_range]
  have nothing : dialed.result = .ok none ↔ backoff.steps ≤ 0 := by
    rw [ends.nothing_iff]
    exact Int.toNat_eq_zero
  rw [length]
  refine ⟨ends.connected_iff, nothing, ends.dials_le.1, ends.dials_le.2, ends.slept_eq, ?_⟩
  intro jitter doubles
  have left : count ≤ backoff.steps.toNat := ends.dials_le.1.trans ends.dials_le.2
  rw [ends.waited_eq]
  exact ⟨doubles.le_total left, doubles.total_le left⟩

/-- The third of five dials succeeds, with the default settings. -/
theorem dialContextWithRetry_connects_iff_third :
    let dial : ℕ → Except String String := fun i =>
      if i = 2 then .ok "conn" else .error "connection refused"
    let backoff : Backoff ℚ := defaultBackoff 500000000
    let dialed := dialContextWithRetry Backoff.doubling dial (fun _ => none) backoff
    dialed.result = .ok (some "conn") ∧ dialed.slept.length = 2 ∧ dialed.waited ≤ 1500000000 := by
  intro dial backoff dialed
  have spec := dialContextWithRetry_connects_iff Backoff.doubling dial (fun _ => none) backoff
  have doubles : backoff.Doubles Backoff.doubling 0 :=
    Backoff.doubles_doubling (by decide) (by decide)
  have length : dialed.slept.length = 2 := by decide
  have duration : backoff.duration.toInt = 500000000 := by decide
  have bounded := (spec.2.2.2.2.2 0 doubles).2
  change (dialed.waited : ℚ) ≤ (1 + 0) *
    (backoff.duration.toInt * (2 ^ dialed.slept.length - 1)) at bounded
  refine ⟨(spec.1 "conn").mpr ⟨2, by decide, ?_, rfl⟩, length, ?_⟩
  · intro i below
    exact ⟨⟨"connection refused", if_neg (by omega)⟩, rfl⟩
  · rw [length, duration] at bounded
    norm_num at bounded
    exact_mod_cast bounded

section Minimum

/-- Nanoseconds in a millisecond. -/
def millisecond : Int64 := 1000000

/-- The loop of `MinTotalBackoffDuration`, which adds up to the given step. -/
def minTotalLoop (initial : Int64) : ℕ → Int64
  | 0 => initial
  | 1 => initial
  | i + 2 => minTotalLoop initial (i + 1) + initial * Int64.ofNat (i + 2)

def minTotalBackoffDuration {Number : Type} (backoff : Backoff Number) : Int64 :=
  minTotalLoop (backoff.duration / millisecond) backoff.steps.toNat * millisecond

/-- What the loop computes in integers that do not wrap around. -/
def minTotal (initial : ℕ) : ℕ → ℕ
  | 0 => initial
  | 1 => initial
  | i + 2 => minTotal initial (i + 1) + initial * (i + 2)

theorem minTotalLoop_eq (initial steps : ℕ) :
    minTotalLoop (Int64.ofNat initial) steps = Int64.ofNat (minTotal initial steps) := by
  induction steps using minTotal.induct with
  | case1 => rfl
  | case2 => rfl
  | case3 i ih => rw [minTotalLoop, minTotal, ih, Int64.ofNat_add _ (_ * _), Int64.ofNat_mul]

/-- The sum of the first numbers stays below the powers of two. -/
theorem minTotal_add_le (initial steps : ℕ) :
    minTotal initial (steps + 1) + initial ≤ initial * 2 ^ (steps + 1) := by
  induction steps with
  | zero =>
      simp only [minTotal, Nat.zero_add, pow_one]
      omega
  | succ steps ih =>
      have power : steps + 1 < 2 ^ (steps + 1) := Nat.lt_two_pow_self
      have scaled : initial * (steps + 2) ≤ initial * 2 ^ (steps + 1) :=
        Nat.mul_le_mul_left initial (by omega)
      have double : initial * 2 ^ (steps + 1 + 1) =
          initial * 2 ^ (steps + 1) + initial * 2 ^ (steps + 1) := by
        rw [pow_succ]
        ring
      simp only [minTotal]
      omega

/-- From the third step on, it stays strictly below. -/
theorem minTotal_add_lt {initial : ℕ} (positive : 0 < initial) (steps : ℕ) :
    minTotal initial (steps + 3) + initial < initial * 2 ^ (steps + 3) := by
  have before := minTotal_add_le initial (steps + 1)
  have power : steps + 1 < 2 ^ (steps + 1) := Nat.lt_two_pow_self
  have next : 2 ^ (steps + 1 + 1) = 2 * 2 ^ (steps + 1) := by
    rw [pow_succ]
    ring
  have scaled : initial * (steps + 3) < initial * 2 ^ (steps + 1 + 1) :=
    Nat.mul_lt_mul_of_pos_left (by omega) positive
  have double : initial * 2 ^ (steps + 3) =
      initial * 2 ^ (steps + 1 + 1) + initial * 2 ^ (steps + 1 + 1) := by
    rw [pow_succ]
    ring
  have unfolded : minTotal initial (steps + 3) =
      minTotal initial (steps + 1 + 1) + initial * (steps + 3) := rfl
  omega

theorem mul_two_pow_eq (initial steps : ℕ) :
    initial * 2 ^ steps = initial * (2 ^ steps - 1) + initial := by
  have power : 0 < 2 ^ steps := Nat.two_pow_pos _
  rw [← Nat.mul_succ]
  congr 1
  omega

theorem minTotal_eq_iff {initial steps : ℕ} (positive : 0 < initial) (tries : 0 < steps) :
    minTotal initial steps = initial * (2 ^ steps - 1) ↔ steps ≤ 2 := by
  match steps with
  | 1 => simp [minTotal]
  | 2 =>
      simp only [minTotal]
      omega
  | steps + 3 =>
      have strict := minTotal_add_lt positive steps
      have whole := mul_two_pow_eq initial (steps + 3)
      constructor
      · omega
      · omega

theorem minTotal_le {initial steps : ℕ} (tries : 0 < steps) :
    minTotal initial steps ≤ initial * (2 ^ steps - 1) := by
  match steps with
  | steps + 1 =>
      have bound := minTotal_add_le initial steps
      have whole := mul_two_pow_eq initial (steps + 1)
      omega

/-- The milliseconds of a duration, of which the loop adds up multiples. -/
def milliseconds {Number : Type} (backoff : Backoff Number) : ℕ :=
  backoff.duration.toInt.toNat / 1000000

theorem minTotalBackoffDuration_toInt {Number : Type} {backoff : Backoff Number}
    (nonneg : 0 ≤ backoff.duration.toInt)
    (fits : minTotal (milliseconds backoff) backoff.steps.toNat * 1000000 < 2 ^ 63) :
    (minTotalBackoffDuration backoff).toInt =
      minTotal (milliseconds backoff) backoff.steps.toNat * 1000000 := by
  have initial : backoff.duration / millisecond = Int64.ofNat (milliseconds backoff) := by
    have notMin : backoff.duration ≠ Int64.minValue := by
      intro same
      rw [same] at nonneg
      exact absurd nonneg (by decide)
    have quotient := Int64.toInt_div_of_ne_left backoff.duration millisecond notMin
    rw [Int.tdiv_eq_ediv_of_nonneg nonneg] at quotient
    rw [← Int64.ofInt_toInt (backoff.duration / millisecond), quotient, milliseconds,
      ← Int64.ofInt_eq_ofNat, Int.natCast_ediv, Int.toNat_of_nonneg nonneg]
    rfl
  have total : minTotalBackoffDuration backoff =
      Int64.ofNat (minTotal (milliseconds backoff) backoff.steps.toNat * 1000000) := by
    rw [minTotalBackoffDuration, initial, minTotalLoop_eq, Int64.ofNat_mul]
    rfl
  rw [total, Int64.toInt_ofNat_of_lt fits]
  push_cast
  rfl

end Minimum

/--
`MinTotalBackoffDuration` is never more than what a call waits whose dials all fail, as long as it
does not overflow and the waits double. It is what such a call waits without jitter only if there
are at most two steps: it adds multiples of the first duration, where the waits double.
-/
theorem minTotalBackoffDuration_le_slept {Conn Number : Type} {step : Backoff.Stepping Number}
    {dial : ℕ → Except String Conn} {ctxDone : ℕ → Option String} {backoff : Backoff Number}
    {jitter : ℚ} (nonneg : 0 ≤ backoff.duration.toInt) (tries : 0 < backoff.steps)
    (fits : minTotal (milliseconds backoff) backoff.steps.toNat * 1000000 < 2 ^ 63)
    (doubles : backoff.Doubles step jitter)
    (failed : FailedBefore dial ctxDone backoff.steps.toNat) :
    let dialed := dialContextWithRetry step dial ctxDone backoff
    (minTotalBackoffDuration backoff).toInt ≤ dialed.waited ∧
      (jitter = 0 → 0 < milliseconds backoff →
        backoff.duration.toInt = milliseconds backoff * 1000000 →
        (dialed.waited = (minTotalBackoffDuration backoff).toInt ↔ backoff.steps ≤ 2)) := by
  intro dialed
  rcases exists_ends step dial ctxDone backoff with ⟨count, ends⟩
  have all := ends.count_eq failed
  subst all
  have someTry : 0 < backoff.steps.toNat := by omega
  rw [ends.waited_eq, minTotalBackoffDuration_toInt nonneg fits]
  have power : 1 ≤ 2 ^ backoff.steps.toNat := Nat.one_le_two_pow
  refine ⟨?_, ?_⟩
  · have whole : (milliseconds backoff : Int) * 1000000 ≤ backoff.duration.toInt := by
      have below := Nat.div_mul_le_self backoff.duration.toInt.toNat 1000000
      rw [milliseconds]
      omega
    have bound : (minTotal (milliseconds backoff) backoff.steps.toNat : Int) ≤
        milliseconds backoff * (2 ^ backoff.steps.toNat - 1) := by
      exact_mod_cast minTotal_le someTry
    calc (minTotal (milliseconds backoff) backoff.steps.toNat : Int) * 1000000
        ≤ milliseconds backoff * (2 ^ backoff.steps.toNat - 1) * 1000000 := by
          exact Int.mul_le_mul_of_nonneg_right bound (by decide)
      _ = milliseconds backoff * 1000000 * (2 ^ backoff.steps.toNat - 1) := by ring
      _ ≤ backoff.duration.toInt * (2 ^ backoff.steps.toNat - 1) := by
          apply Int.mul_le_mul_of_nonneg_right whole
          exact_mod_cast Nat.zero_le _
      _ ≤ backoff.total step backoff.steps.toNat := doubles.le_total (Nat.le_refl _)
  · rintro rfl positive whole
    have steps : backoff.steps ≤ 2 ↔ backoff.steps.toNat ≤ 2 := by omega
    have swap : (milliseconds backoff : Int) * 1000000 * (2 ^ backoff.steps.toNat - 1) =
        ((milliseconds backoff * (2 ^ backoff.steps.toNat - 1) : ℕ) : Int) * 1000000 := by
      push_cast [power]
      ring
    rw [doubles.total_eq (Nat.le_refl _), whole, swap, Int.mul_eq_mul_right_iff (by decide),
      steps, ← minTotal_eq_iff positive someTry, eq_comm]
    exact Int.ofNat_inj

/-- With the default settings, a service that is not there costs more than the minimum says. -/
theorem minTotalBackoffDuration_le_slept_default :
    let backoff : Backoff ℚ := defaultBackoff 500000000
    let dialed := dialContextWithRetry Backoff.doubling
      (fun _ => (.error "connection refused" : Except String Unit)) (fun _ => none) backoff
    (minTotalBackoffDuration backoff).toInt = 7500000000 ∧
      (minTotalBackoffDuration backoff).toInt ≤ dialed.waited ∧
      dialed.waited ≠ (minTotalBackoffDuration backoff).toInt := by
  intro backoff dialed
  have spec := @minTotalBackoffDuration_le_slept Unit ℚ Backoff.doubling
    (fun _ => .error "connection refused") (fun _ => none) backoff 0 (by decide) (by decide)
    (by decide) (Backoff.doubles_doubling (by decide) (by decide)) fun _ _ => ⟨⟨_, rfl⟩, rfl⟩
  refine ⟨by decide, spec.1, ?_⟩
  intro same
  exact absurd ((spec.2 rfl (by decide) (by decide)).mp same) (by decide)

end KedaHttp.Interceptor.Dialing
