import KedaHttp.Foundation.MachineInt
import KedaHttp.Scaler.Handlers

/-!
# Agreement between the scaler's answers

KEDA asks three questions about a ScaledObject: whether it is active, under which name its metric
is to be found, and what the metric's value is. The handlers derive their answers by separate
loops and rules. In one state of the pinger, the answers to the first and the last question always
fit together for an application, whose hosts do not include `interceptor`. The name of the metric
depends on where `interceptor` stands in the list for one handler, and on whether the counts and
the routing table know a host of that name for the other.
-/

namespace KedaHttp.Scaler

open KedaHttp.Foundation
open KedaHttp.Queue
open KedaHttp.Routing

universe u

section Activity

variable {Count : Type u} [AddCommMonoid Count] {routingTable : Table}
  {pinger : ℕ → QueuePinger Count} {hosts : List String}

/-- Without `interceptor`, the loops fail on the same host and add up the same counts. -/
theorem isActiveLoop_eq_map [LT Count] [DecidableLT Count] (others : interceptor ∉ hosts)
    (reads : ℕ) (total : Count) (metricName : String) :
    isActiveLoop routingTable pinger hosts reads total =
      (getMetricsLoop routingTable pinger hosts reads total metricName).map
        fun values => values.any fun value => decide (0 < value.metricValue) := by
  induction hosts generalizing reads total with
  | nil => simp [isActiveLoop, getMetricsLoop, Except.map]
  | cons host hosts ih =>
      rw [List.mem_cons, not_or] at others
      have notInterceptor : host ≠ interceptor := Ne.symm others.1
      rw [isActiveLoop, getMetricsLoop, if_neg notInterceptor]
      cases getHostCount host (pinger reads).counts routingTable with
      | none =>
          rw [if_pos notInterceptor]
          rfl
      | some hostCount => exact ih others.2 _ _

theorem length_getMetricsLoop {reads : ℕ} {total : Count} {metricName : String}
    {values : List (MetricValue Count)}
    (answered : getMetricsLoop routingTable pinger hosts reads total metricName = .ok values) :
    ∃ value, values = [value] := by
  induction hosts generalizing reads total metricName with
  | nil => exact ⟨_, (Except.ok.inj answered).symm⟩
  | cons host hosts ih =>
      rw [getMetricsLoop] at answered
      cases counted : getHostCount host (pinger reads).counts routingTable with
      | some hostCount =>
          rw [counted] at answered
          exact ih answered
      | none =>
          simp only [counted] at answered
          by_cases same : host = interceptor
          · rw [if_neg (not_not.mpr same)] at answered
            exact ih answered
          · rw [if_pos same] at answered
            simp at answered

end Activity

/--
In every state of the pinger, for every ScaledObject that does not list `interceptor`: `IsActive`
fails exactly when `GetMetrics` does, and if neither fails, the ScaledObject is active exactly when
its metric is positive. This holds for numbers that wrap around as well, since the totals of both
handlers do so alike.
-/
theorem isActive_iff_metricValue_pos {Count : Type u} [AddCommMonoid Count] [LT Count]
    [DecidableLT Count] (routingTable : Table) (q : QueuePinger Count) (sor : ScaledObjectRef)
    (others : ∀ hosts, getHostsFromScaledObjectRef sor = .ok hosts → interceptor ∉ hosts) :
    ((∃ err, isActive routingTable (fun _ => q) sor = .error err) ↔
        ∃ err, getMetrics routingTable (fun _ => q) sor = .error err) ∧
      ∀ active values, isActive routingTable (fun _ => q) sor = .ok active →
        getMetrics routingTable (fun _ => q) sor = .ok values →
          ∃ value, values = [value] ∧ (active = true ↔ 0 < value.metricValue) := by
  simp only [isActive, getMetrics]
  cases listed : getHostsFromScaledObjectRef sor with
  | error err => simp
  | ok hosts =>
      have same : isActiveLoop routingTable (fun _ => q) hosts 0 0 = _ :=
        isActiveLoop_eq_map (others hosts listed) 0 0 httpRequests
      simp only [same]
      cases answer : getMetricsLoop routingTable (fun _ => q) hosts 0 0 httpRequests with
      | error err => simp [Except.map]
      | ok values =>
          rcases length_getMetricsLoop answer with ⟨value, rfl⟩
          simp [Except.map]

/-- Two positive counts add up to the least number of 64 bits. The third host has no count. -/
theorem isActive_iff_metricValue_pos_wraps :
    let sor : ScaledObjectRef := ⟨(∅ : GoMap String String).insert "hosts" "a,b,c"⟩
    let table : Table := ⟨(∅ : GoMap String Target).insert "c" ⟨"svc", 80, "app", "dp-a", 100⟩⟩
    let q : QueuePinger Int64 :=
      ⟨((∅ : GoMap String Int64).insert "a" Int64.maxValue).insert "b" 1, Int64.minValue, some 7⟩
    ∃ active value, isActive table (fun _ => q) sor = .ok active ∧
      getMetrics table (fun _ => q) sor = .ok [value] ∧ value.metricValue = Int64.minValue ∧
      (active = true ↔ 0 < value.metricValue) := by
  intro sor table q
  have listed : getHostsFromScaledObjectRef sor = .ok ["a", "b", "c"] := by decide
  have inactive : isActive table (fun _ => q) sor = .ok false := by decide
  have negative : getMetrics table (fun _ => q) sor =
      .ok [⟨"http-requests", Int64.minValue⟩] := by decide
  have others : ∀ hosts, getHostsFromScaledObjectRef sor = .ok hosts → interceptor ∉ hosts := by
    intro hosts same
    rw [listed, Except.ok.injEq] at same
    subst same
    decide
  have agree := (isActive_iff_metricValue_pos table q sor others).2 _ _ inactive negative
  rcases agree with ⟨value, same, iff⟩
  have least := congrArg MetricValue.metricValue (List.singleton_inj.mp same).symm
  exact ⟨false, value, inactive, same ▸ negative, least, iff⟩

section Names

variable {Count : Type u} [AddCommMonoid Count] {routingTable : Table} {q : QueuePinger Count}
  {hosts : List String}

/-- The loop renames the metric at an `interceptor` that it has no count for. -/
theorem metricName_getMetricsLoop {reads : ℕ} {total : Count} {metricName : String}
    {values : List (MetricValue Count)}
    (answered : getMetricsLoop routingTable (fun _ => q) hosts reads total metricName =
      .ok values) :
    values.map MetricValue.metricName =
      [if interceptor ∈ hosts ∧ ¬Known routingTable q interceptor then interceptor
        else metricName] := by
  induction hosts generalizing reads total metricName with
  | nil =>
      rw [← Except.ok.inj answered]
      simp
  | cons host hosts ih =>
      rw [getMetricsLoop] at answered
      by_cases known : Known routingTable q host
      · rw [known.getHostCount_eq] at answered
        rw [ih answered]
        by_cases same : host = interceptor
        · simp [same ▸ known]
        · simp [Ne.symm same]
      · simp only [getHostCount_of_not_known known] at answered
        by_cases same : host = interceptor
        · rw [if_neg (not_not.mpr same)] at answered
          rw [ih answered]
          subst same
          simp [known]
        · rw [if_pos same] at answered
          simp at answered

/-- The name is decided by the first host of the list alone. -/
theorem metricName_getMetricSpec {targetMetricInterceptor : Int} {sor : ScaledObjectRef}
    {specs : List MetricSpec} (listed : getHostsFromScaledObjectRef sor = .ok hosts)
    (answered : getMetricSpec routingTable targetMetricInterceptor sor = .ok specs) :
    specs.map MetricSpec.metricName =
      [if hosts.head? = some interceptor then interceptor else httpRequests] := by
  rw [getMetricSpec, listed] at answered
  cases hosts with
  | nil => simp at answered
  | cons host hosts =>
      simp only at answered
      by_cases same : host = interceptor
      · rw [if_pos same] at answered
        rw [← Except.ok.inj answered]
        simp [same]
      · rw [if_neg same] at answered
        cases looked : routingTable.lookup host with
        | error err => simp [looked] at answered
        | ok target =>
            rw [looked] at answered
            rw [← Except.ok.inj answered]
            simp [same]

end Names

/--
For every ScaledObject that both handlers answer for: the metric name that `GetMetricSpec`
advertises is the one that `GetMetrics` reports if and only if `interceptor`, in case it is listed,
stands first exactly when neither the counts nor the routing table know it.
-/
theorem metricName_eq_iff {Count : Type u} [AddCommMonoid Count] {routingTable : Table}
    {q : QueuePinger Count} {targetMetricInterceptor : Int} {sor : ScaledObjectRef}
    {hosts : List String} {specs : List MetricSpec} {values : List (MetricValue Count)}
    (listed : getHostsFromScaledObjectRef sor = .ok hosts)
    (advertised : getMetricSpec routingTable targetMetricInterceptor sor = .ok specs)
    (reported : getMetrics routingTable (fun _ => q) sor = .ok values) :
    specs.map MetricSpec.metricName = values.map MetricValue.metricName ↔
      (interceptor ∈ hosts →
        (hosts.head? = some interceptor ↔ ¬Known routingTable q interceptor)) := by
  simp only [getMetrics, listed] at reported
  rw [metricName_getMetricSpec listed advertised, metricName_getMetricsLoop reported]
  have differ : interceptor ≠ httpRequests := by decide
  have first : hosts.head? = some interceptor → interceptor ∈ hosts := List.mem_of_head?
  by_cases standsFirst : hosts.head? = some interceptor
  · have member := first standsFirst
    by_cases known : Known routingTable q interceptor <;> simp [standsFirst, member, known, differ]
  · by_cases member : interceptor ∈ hosts
    · by_cases known : Known routingTable q interceptor <;>
        simp [standsFirst, member, known, Ne.symm differ]
    · simp [standsFirst, member]

/-- The reference to the ScaledObject that the interceptor itself is scaled by. -/
def interceptorRef : ScaledObjectRef := ⟨(∅ : GoMap String String).insert "hosts" "interceptor"⟩

/-- As long as no application has a host `interceptor`, the interceptor is scaled by its name. -/
theorem metricName_eq_iff_interceptor :
    let q : QueuePinger Int := ⟨(∅ : GoMap String Int).insert "a" 2, 2, some 7⟩
    ∃ specs values, getMetricSpec newTable 200 interceptorRef = .ok specs ∧
      getMetrics newTable (fun _ => q) interceptorRef = .ok values ∧
      specs.map MetricSpec.metricName = values.map MetricValue.metricName := by
  intro q
  have listed : getHostsFromScaledObjectRef interceptorRef = .ok ["interceptor"] := by decide
  have advertised : getMetricSpec newTable 200 interceptorRef = .ok [⟨"interceptor", 200⟩] := by
    decide
  have reported : getMetrics newTable (fun _ => q) interceptorRef = .ok [⟨"interceptor", 2⟩] := by
    decide
  refine ⟨_, _, advertised, reported, ?_⟩
  apply (metricName_eq_iff listed advertised reported).mpr
  decide

/-- An application with a host `interceptor` takes the interceptor's own metric away. -/
theorem not_metricName_eq_of_registered :
    ¬∀ (routingTable : Table) (q : QueuePinger Int) (targetMetricInterceptor : Int)
        (sor : ScaledObjectRef) (specs : List MetricSpec) (values : List (MetricValue Int)),
      getMetricSpec routingTable targetMetricInterceptor sor = .ok specs →
        getMetrics routingTable (fun _ => q) sor = .ok values →
          specs.map MetricSpec.metricName = values.map MetricValue.metricName := by
  intro agree
  have differ := agree
    ⟨(∅ : GoMap String Target).insert "interceptor" ⟨"svc", 80, "app", "dp-a", 100⟩⟩
    ⟨(∅ : GoMap String Int).insert "a" 2, 2, some 7⟩ 200 interceptorRef
    [⟨"interceptor", 200⟩] [⟨"http-requests", 0⟩] (by decide) (by decide)
  simp at differ

end KedaHttp.Scaler
