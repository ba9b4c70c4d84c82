import KedaHttp.Foundation.GoMap
import Mathlib.Algebra.Ring.Int.Defs

/-!
# The in-memory request queue

`pkg/queue/queue.go`. Every method of `Memory` that takes the lock is one function
here, since no other section under the lock can run meanwhile. The one exception is a
pass of `ProcessPostponedResizes`, which takes the lock twice: it is split into
`Memory.hostsToModify`, the scan that collects hosts, and `Memory.applyResizes`, the
later section that resets them.

`Current` hands out the live map and no copy of it. The lock does not cover what its
caller does with the map: the counts in an answer are those at the time at which the
answer is encoded, host by host, and `Memory.current` stands for the map at that time.

Instants and durations are integers on one common scale, so that
`time.Now().Add(d)` is addition and `Before` is the strict order.
-/

namespace KedaHttp.Queue

open KedaHttp.Foundation

/-- An instant of the clock, or a duration. -/
abbrev Time := Int

/-- A `Counter` that holds the queue in memory only. -/
structure Memory where
  countMap : GoMap String Int
  postponedResizes : GoMap String Time
  postponeDuration : Time
  shouldPostpone : Bool

/-- A new empty in-memory queue. -/
def newMemory (postponeDuration : Time) (shouldPostpone : Bool) : Memory where
  countMap := ∅
  postponedResizes := ∅
  postponeDuration := postponeDuration
  shouldPostpone := shouldPostpone

namespace Memory

/-- Changes the size of the queue for a host by `delta`. -/
def resize (queue : Memory) (host : String) (delta : Int) : Memory :=
  { queue with countMap := queue.countMap.addAt host delta }

/-- Represents the host in the queue, with count 0 if it was missing. -/
def ensure (queue : Memory) (host : String) : Memory :=
  if host ∈ queue.countMap then queue
  else { queue with countMap := queue.countMap.insert host 0 }

/-- Removes the host and its count, and tells whether it existed. -/
def remove (queue : Memory) (host : String) : Bool × Memory :=
  (decide (host ∈ queue.countMap), { queue with countMap := queue.countMap.erase host })

/-- The map that `Current` hands out, with the counts it has when it is read. -/
def current (queue : Memory) : GoMap String Int := queue.countMap

/-- The current count of one host, 0 if the queue does not know it. -/
def count (queue : Memory) (host : String) : Int :=
  match queue.countMap.lookup host with
  | none => 0
  | some count => count

/-- Sets the instant at which the host's last request may leave the queue. -/
def postponeResize (queue : Memory) (host : String) (time : Time) : Memory :=
  { queue with postponedResizes := queue.postponedResizes.insert host time }

/-- Whether finishing requests keep the last unit of a host's count for a while. -/
def shouldPostponeResize (queue : Memory) : Bool := queue.shouldPostpone

/--
The scan of an enforcer pass. The loop visits the postponed entries in `order`, reads
the clock at each of them, and collects the hosts whose entry has expired while their
count is 1.
-/
def hostsToModify (queue : Memory) (now : String → Time) (order : List (String × Time)) :
    List String :=
  order.foldl (fun hosts entry =>
    if entry.2 < now entry.1 then
      if queue.countMap.get entry.1 = 1 then hosts ++ [entry.1] else hosts
    else hosts) []

/-- The second section of an enforcer pass, which resets every collected host. -/
def applyResizes (queue : Memory) (hosts : List String) : Memory :=
  hosts.foldl (fun current host =>
    { current with
      countMap := current.countMap.insert host 0
      postponedResizes := current.postponedResizes.erase host }) queue

theorem count_eq_get (queue : Memory) (host : String) :
    queue.count host = queue.countMap.get host := by
  simp only [count, GoMap.get]
  cases queue.countMap.lookup host <;> rfl

@[simp]
theorem count_newMemory (postponeDuration : Time) (shouldPostpone : Bool) (host : String) :
    (newMemory postponeDuration shouldPostpone).count host = 0 := by
  simp [count_eq_get, newMemory]

theorem count_resize (queue : Memory) (host other : String) (delta : Int) :
    (queue.resize host delta).count other =
      queue.count other + if other = host then delta else 0 := by
  rw [count_eq_get, count_eq_get, resize, GoMap.get_addAt]

@[simp]
theorem postponedResizes_resize (queue : Memory) (host : String) (delta : Int) :
    (queue.resize host delta).postponedResizes = queue.postponedResizes := rfl

@[simp]
theorem count_postponeResize (queue : Memory) (host other : String) (time : Time) :
    (queue.postponeResize host time).count other = queue.count other := rfl

theorem mem_postponedResizes_postponeResize (queue : Memory) (host other : String) (time : Time) :
    other ∈ (queue.postponeResize host time).postponedResizes ↔
      other = host ∨ other ∈ queue.postponedResizes :=
  Finmap.mem_insert

/-- The collected hosts are those with an expired entry and a count of 1, in visiting order. -/
theorem hostsToModify_eq (queue : Memory) (now : String → Time) (order : List (String × Time)) :
    queue.hostsToModify now order =
      (order.filter fun entry =>
        decide (entry.2 < now entry.1 ∧ queue.count entry.1 = 1)).map Prod.fst := by
  have accumulated : ∀ (visited : List (String × Time)) (hosts : List String),
      visited.foldl (fun hosts entry =>
        if entry.2 < now entry.1 then
          if queue.countMap.get entry.1 = 1 then hosts ++ [entry.1] else hosts
        else hosts) hosts =
      hosts ++ (visited.filter fun entry =>
        decide (entry.2 < now entry.1 ∧ queue.count entry.1 = 1)).map Prod.fst := by
    intro visited
    induction visited with
    | nil => simp
    | cons entry visited ih =>
        intro hosts
        rw [List.foldl_cons, ih]
        by_cases expired : entry.2 < now entry.1 <;>
          by_cases single : queue.countMap.get entry.1 = 1 <;>
            simp [expired, single, count_eq_get]
  simpa [hostsToModify] using accumulated order []

/-- A host is collected exactly when its postponed entry has expired and its count is 1. -/
theorem mem_hostsToModify {queue : Memory} {now : String → Time} {order : List (String × Time)}
    (ranges : queue.postponedResizes.Ranges order) (host : String) :
    host ∈ queue.hostsToModify now order ↔
      queue.count host = 1 ∧
        ∃ time, queue.postponedResizes.lookup host = some time ∧ time < now host := by
  rw [hostsToModify_eq]
  simp only [List.mem_map, List.mem_filter, decide_eq_true_eq, Prod.exists, ranges.mem_iff]
  constructor
  · rintro ⟨_, time, ⟨found, expired, single⟩, rfl⟩
    exact ⟨single, time, found, expired⟩
  · rintro ⟨single, time, found, expired⟩
    exact ⟨host, time, ⟨found, expired, single⟩, rfl⟩

/-- Applying a pass resets the collected hosts and no other. -/
theorem count_applyResizes (queue : Memory) (hosts : List String) (other : String) :
    (queue.applyResizes hosts).count other = if other ∈ hosts then 0 else queue.count other := by
  induction hosts generalizing queue with
  | nil => simp [applyResizes]
  | cons host hosts ih =>
      rw [applyResizes, List.foldl_cons, ← applyResizes, ih, count_eq_get, GoMap.get_insert,
        ← count_eq_get]
      by_cases same : other = host <;> simp [same]

@[simp]
theorem postponeDuration_applyResizes (queue : Memory) (hosts : List String) :
    (queue.applyResizes hosts).postponeDuration = queue.postponeDuration := by
  induction hosts generalizing queue with
  | nil => rfl
  | cons host hosts ih => rw [applyResizes, List.foldl_cons, ← applyResizes, ih]

/-- Applying a pass deletes the postponed entries of the collected hosts and no other. -/
theorem lookup_postponedResizes_applyResizes (queue : Memory) (hosts : List String)
    (other : String) :
    (queue.applyResizes hosts).postponedResizes.lookup other =
      if other ∈ hosts then none else queue.postponedResizes.lookup other := by
  induction hosts generalizing queue with
  | nil => simp [applyResizes]
  | cons host hosts ih =>
      rw [applyResizes, List.foldl_cons, ← applyResizes, ih, GoMap.lookup_erase_ite]
      by_cases same : other = host <;> simp [same]

end Memory

end KedaHttp.Queue
