import KedaHttp.Queue.Memory
import KedaHttp.Routing.Table

/-!
# The scaler's answers to KEDA

`IsActive`, `GetMetricSpec` and `GetMetrics` from `scaler/handlers.go`, with `scaler/hosts.go` and
the accessors of `queuePinger`. The first and the last go over the hosts listed for a ScaledObject
and read the pinger anew for each of them, so that they take the pinger as a sequence: at index `i`
stands the state they find when they read for the `i`-th time. The merged counts that are logged
with an error are not modelled.

Counts are of any type that can be added up and compared with 0. Go's `int`, which wraps around, is
one, and the integers are another. `GetMetrics` adds up numbers of type `int64`, which is `int` on
the platforms that the scaler is built for.
-/

namespace KedaHttp.Scaler

open KedaHttp.Foundation
open KedaHttp.Queue
open KedaHttp.Routing

universe u

/-- What a `queuePinger` remembers of its last successful fetch. -/
structure QueuePinger (Count : Type u) where
  allCounts : GoMap String Count
  aggregateCount : Count
  lastPingTime : Option Time
  deriving DecidableEq

namespace QueuePinger

variable {Count : Type u}

/-- The pinger that `newQueuePinger` makes, before its first fetch. -/
def new [Zero Count] : QueuePinger Count := ⟨∅, 0, none⟩

def counts (q : QueuePinger Count) : GoMap String Count := q.allCounts

def aggregate (q : QueuePinger Count) : Count := q.aggregateCount

/-- `fetchAndSaveCounts`, from the return of `fetchCounts` on. -/
def fetchAndSaveCounts (q : QueuePinger Count)
    (fetched : Except String (GoMap String Count × Count)) (now : Time) :
    QueuePinger Count × Except String Unit :=
  match fetched with
  | .error err => (q, .error err)
  | .ok (counts, agg) => (⟨counts, agg, some now⟩, .ok ())

end QueuePinger

/-- KEDA's reference to a ScaledObject, by the metadata of its trigger. -/
structure ScaledObjectRef where
  scalerMetadata : GoMap String String
  deriving DecidableEq

structure MetricSpec where
  metricName : String
  targetSize : Int
  deriving DecidableEq, Repr

structure MetricValue (Count : Type u) where
  metricName : String
  metricValue : Count
  deriving DecidableEq, Repr

def interceptor : String := "interceptor"

def httpRequests : String := "http-requests"

/-- The count of a host, which is 0 if only the routing table knows it. -/
def getHostCount {Count : Type u} [Zero Count] (host : String) (counts : GoMap String Count)
    (table : Table) : Option Count :=
  match counts.lookup host with
  | some count => some count
  | none => if table.hasHost host then some 0 else none

def getHostsFromScaledObjectRef (sor : ScaledObjectRef) : Except String (List String) :=
  match sor.scalerMetadata.lookup "hosts" with
  | none => .error "no 'hosts' field in the scaler metadata field"
  | some serializedHosts => .ok (split ',' serializedHosts)

def hostNotFound (host : String) : String := "host '" ++ host ++ "' not found in counts"

/-- `GetMetricSpec`, with the target size that is configured for the interceptor itself. -/
def getMetricSpec (routingTable : Table) (targetMetricInterceptor : Int) (sor : ScaledObjectRef) :
    Except String (List MetricSpec) :=
  match getHostsFromScaledObjectRef sor with
  | .error err => .error err
  -- A split has at least one piece, so that `hosts[0]` does not panic.
  | .ok [] => .error "index out of range [0] with length 0"
  | .ok (host :: _) =>
      if host = interceptor then .ok [⟨host, targetMetricInterceptor⟩]
      else
        match routingTable.lookup host with
        | .error err => .error err
        | .ok target => .ok [⟨httpRequests, target.targetPendingRequests.toInt⟩]

section Handlers

variable {Count : Type u} [AddCommMonoid Count] (routingTable : Table)
  (pinger : ℕ → QueuePinger Count)

/-- The loop of `IsActive`, with the number of reads made and the total reached so far. -/
def isActiveLoop [LT Count] [DecidableLT Count] : List String → ℕ → Count → Except String Bool
  | [], _, totalHostCount => .ok (decide (totalHostCount > 0))
  | host :: hosts, reads, totalHostCount =>
      if host = interceptor then .ok true
      else
        match getHostCount host (pinger reads).counts routingTable with
        | none => .error (hostNotFound host)
        | some hostCount => isActiveLoop hosts (reads + 1) (totalHostCount + hostCount)

def isActive [LT Count] [DecidableLT Count] (scaledObject : ScaledObjectRef) :
    Except String Bool :=
  match getHostsFromScaledObjectRef scaledObject with
  | .error err => .error err
  | .ok hosts => isActiveLoop routingTable pinger hosts 0 0

@[inherit_doc isActiveLoop]
def getMetricsLoop : List String → ℕ → Count → String → Except String (List (MetricValue Count))
  | [], _, totalCount, metricName => .ok [⟨metricName, totalCount⟩]
  | host :: hosts, reads, totalCount, metricName =>
      match getHostCount host (pinger reads).counts routingTable with
      | some hostCount => getMetricsLoop hosts (reads + 1) (totalCount + hostCount) metricName
      | none =>
          if host ≠ interceptor then .error (hostNotFound host)
          else
            getMetricsLoop hosts (reads + 2) (totalCount + (pinger (reads + 1)).aggregate)
              interceptor

def getMetrics (scaledObjectRef : ScaledObjectRef) : Except String (List (MetricValue Count)) :=
  match getHostsFromScaledObjectRef scaledObjectRef with
  | .error err => .error err
  | .ok hosts => getMetricsLoop routingTable pinger hosts 0 0 httpRequests

end Handlers

/--
What the `select` of `StreamIsActive` finds: the end of the stream, or a tick, with what `IsActive`
then reads and the error of `Send`, if there is one.
-/
inductive StreamTurn (Count : Type u) where
  | done
  | tick (routingTable : Table) (pinger : ℕ → QueuePinger Count) (sendErr : Option String)

/-- The responses that `StreamIsActive` has sent after some turns, and its result if it returned. -/
def streamIsActive {Count : Type u} [AddCommMonoid Count] [LT Count] [DecidableLT Count]
    (scaledObject : ScaledObjectRef) :
    List (StreamTurn Count) → List Bool × Option (Except String Unit)
  | [] => ([], none)
  | .done :: _ => ([], some (.ok ()))
  | .tick routingTable pinger sendErr :: turns =>
      match isActive routingTable pinger scaledObject with
      | .error err => ([], some (.error err))
      | .ok active =>
          match sendErr with
          | some err => ([], some (.error err))
          | none =>
              let rest := streamIsActive scaledObject turns
              (active :: rest.1, rest.2)

section Known

variable {Count : Type u} [AddCommMonoid Count] {routingTable : Table} {q : QueuePinger Count}
  {hosts : List String}

/-- The handlers have a count for the host. -/
def Known {Count : Type u} (routingTable : Table) (q : QueuePinger Count) (host : String) : Prop :=
  host ∈ q.counts ∨ routingTable.hasHost host = true

instance (host : String) : Decidable (Known routingTable q host) :=
  inferInstanceAs (Decidable (_ ∨ _))

theorem Known.getHostCount_eq {host : String} (known : Known routingTable q host) :
    getHostCount host q.counts routingTable = some (q.counts.get host) := by
  simp only [getHostCount, GoMap.get]
  cases found : q.counts.lookup host with
  | some count => rfl
  | none =>
      have inTable := known.resolve_left (Finmap.lookup_eq_none.mp found)
      simp [inTable]

theorem getHostCount_of_not_known {host : String} (unknown : ¬Known routingTable q host) :
    getHostCount host q.counts routingTable = none := by
  rw [Known, not_or, Bool.not_eq_true] at unknown
  simp only [getHostCount, Finmap.lookup_eq_none.mpr unknown.1, unknown.2, Bool.false_eq_true,
    if_false]

/-- The counts of the listed hosts added up, each as of the read made for it. -/
def readTotal (pinger : ℕ → QueuePinger Count) : List String → ℕ → Count
  | [], _ => 0
  | host :: hosts, reads => (pinger reads).counts.get host + readTotal pinger hosts (reads + 1)

/-- The counts of the listed hosts added up in one state of the pinger. -/
def QueuePinger.total (q : QueuePinger Count) (hosts : List String) : Count :=
  (hosts.map q.counts.get).sum

/-- Reads that all find one state of the pinger add up to its total. -/
theorem readTotal_of_same {pinger : ℕ → QueuePinger Count} {reads : ℕ}
    (same : ∀ index < hosts.length, pinger (reads + index) = q) :
    readTotal pinger hosts reads = q.total hosts := by
  induction hosts generalizing reads with
  | nil => rfl
  | cons host hosts ih =>
      have first := same 0 (Nat.succ_pos _)
      have rest : readTotal pinger hosts (reads + 1) = q.total hosts := by
        apply ih
        intro index inRange
        rw [Nat.add_right_comm, Nat.add_assoc]
        exact same (index + 1) (Nat.succ_lt_succ inRange)
      rw [Nat.add_zero] at first
      rw [readTotal, rest, first, QueuePinger.total, QueuePinger.total, List.map_cons,
        List.sum_cons]

theorem readTotal_append (pinger : ℕ → QueuePinger Count) (hosts others : List String)
    (reads : ℕ) :
    readTotal pinger (hosts ++ others) reads =
      readTotal pinger hosts reads + readTotal pinger others (reads + hosts.length) := by
  induction hosts generalizing reads with
  | nil => simp [readTotal]
  | cons host hosts ih =>
      have position : reads + 1 + hosts.length = reads + (host :: hosts).length := by
        rw [List.length_cons]
        omega
      rw [List.cons_append, readTotal, readTotal, ih, position, add_assoc]

variable {pinger : ℕ → QueuePinger Count} {sor : ScaledObjectRef}

/-- If the hosts are known whenever the pinger is read, the loop adds up what it reads. -/
theorem isActiveLoop_of_known [LT Count] [DecidableLT Count]
    (known : ∀ reads, ∀ host ∈ hosts, Known routingTable (pinger reads) host)
    (others : interceptor ∉ hosts) (reads : ℕ) (totalHostCount : Count) :
    isActiveLoop routingTable pinger hosts reads totalHostCount =
      .ok (decide (0 < totalHostCount + readTotal pinger hosts reads)) := by
  induction hosts generalizing reads totalHostCount with
  | nil => simp [isActiveLoop, readTotal]
  | cons host hosts ih =>
      have knownHere := known reads host List.mem_cons_self
      rw [List.mem_cons, not_or] at others
      rw [isActiveLoop, if_neg (Ne.symm others.1), knownHere.getHostCount_eq, readTotal,
        ← add_assoc]
      exact ih (fun reads host member => known reads host (List.mem_cons_of_mem _ member))
        others.2 _ _

@[inherit_doc isActiveLoop_of_known]
theorem getMetricsLoop_of_known
    (known : ∀ reads, ∀ host ∈ hosts, Known routingTable (pinger reads) host)
    (reads : ℕ) (totalCount : Count) (metricName : String) :
    getMetricsLoop routingTable pinger hosts reads totalCount metricName =
      .ok [⟨metricName, totalCount + readTotal pinger hosts reads⟩] := by
  induction hosts generalizing reads totalCount with
  | nil => simp [getMetricsLoop, readTotal]
  | cons host hosts ih =>
      have knownHere := known reads host List.mem_cons_self
      rw [getMetricsLoop, knownHere.getHostCount_eq, readTotal, ← add_assoc]
      exact ih (fun reads host member => known reads host (List.mem_cons_of_mem _ member)) _ _

theorem isActive_of_known [LT Count] [DecidableLT Count]
    (listed : getHostsFromScaledObjectRef sor = .ok hosts)
    (known : ∀ reads, ∀ host ∈ hosts, Known routingTable (pinger reads) host)
    (others : interceptor ∉ hosts) :
    isActive routingTable pinger sor = .ok (decide (0 < readTotal pinger hosts 0)) := by
  simp only [isActive, listed]
  rw [isActiveLoop_of_known known others, zero_add]

theorem getMetrics_of_known (listed : getHostsFromScaledObjectRef sor = .ok hosts)
    (known : ∀ reads, ∀ host ∈ hosts, Known routingTable (pinger reads) host) :
    getMetrics routingTable pinger sor = .ok [⟨httpRequests, readTotal pinger hosts 0⟩] := by
  simp only [getMetrics, listed]
  rw [getMetricsLoop_of_known known, zero_add]

end Known

end KedaHttp.Scaler
