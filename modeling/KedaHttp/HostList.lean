import KedaHttp.Scaler.Handlers
import KedaHttp.Operator.Reconcile

/-!
# The list of hosts between the operator and the scaler

The operator joins the hosts of an object with commas and writes the text into the metadata of
the trigger of a ScaledObject. KEDA hands the metadata to the scaler, which splits the text at its
commas. Nothing is escaped. So the scaler sees the hosts that the operator has registered in the
routing table, unless there are none or one of them contains a comma, and then it always sees
others.
-/

namespace KedaHttp.HostList

open KedaHttp.Foundation
open KedaHttp.Scaler
open KedaHttp.Operator

/-- What the scaler makes of the metadata of each trigger of a ScaledObject. -/
def triggerHosts (scaledObject : ScaledObject) : List (Except String (List String)) :=
  scaledObject.triggers.map fun trigger => getHostsFromScaledObjectRef ⟨trigger.metadata⟩

theorem triggerHosts_newScaledObject (ns name deploymentName scalerAddress : String)
    (hosts : List String) (minReplicas maxReplicas cooldownPeriod : Option Int32) :
    triggerHosts (newScaledObject ns name deploymentName scalerAddress hosts minReplicas
      maxReplicas cooldownPeriod) = [.ok (split ',' (",".intercalate hosts))] := by
  simp only [triggerHosts, newScaledObject, List.map_cons, List.map_nil,
    getHostsFromScaledObjectRef, Finmap.lookup_insert]

/-- A list that does not come through loses a host, or gains one. -/
theorem not_mem_iff_of_lost {hosts : List String}
    (lost : ¬(hosts ≠ [] ∧ ∀ host ∈ hosts, FreeOf ',' host)) :
    ¬∀ host, host ∈ split ',' (",".intercalate hosts) ↔ host ∈ hosts := by
  intro same
  apply lost
  constructor
  · intro empty
    rcases List.exists_mem_of_ne_nil _ (split_ne_nil ',' (",".intercalate hosts)) with
      ⟨host, member⟩
    have listed := (same host).mp member
    simp [empty] at listed
  · intro host member
    exact freeOf_of_mem_split ((same host).mpr member)

/--
For every list of hosts, the scaler gets back the list that the operator writes, in the same order
and with the same repetitions, if and only if the list has a host and no host contains a comma. For
every object that `sanitizeHosts` lets through with another list, the scaler gets a list that
differs from the one whose hosts are registered in the routing table, even as a set.
-/
theorem triggerHosts_eq_iff (ns name deploymentName scalerAddress : String) (hosts : List String)
    (minReplicas maxReplicas cooldownPeriod : Option Int32) :
    (triggerHosts (newScaledObject ns name deploymentName scalerAddress hosts minReplicas
        maxReplicas cooldownPeriod) = [.ok hosts] ↔
      hosts ≠ [] ∧ ∀ host ∈ hosts, FreeOf ',' host) ∧
    ∀ httpso sanitized, sanitizeHosts httpso = .ok sanitized →
      ¬(sanitized.hosts ≠ [] ∧ ∀ host ∈ sanitized.hosts, FreeOf ',' host) →
        ∃ decoded, triggerHosts (appScaledObject scalerAddress sanitized) = [.ok decoded] ∧
          decoded ≠ sanitized.hosts ∧ ¬∀ host, host ∈ decoded ↔ host ∈ sanitized.hosts := by
  constructor
  · rw [triggerHosts_newScaledObject]
    simp only [List.cons.injEq, Except.ok.injEq, and_true]
    exact split_intercalate_eq_iff (by decide) hosts
  · intro httpso sanitized accepted lost
    have differs := not_mem_iff_of_lost lost
    refine ⟨_, triggerHosts_newScaledObject _ _ _ _ _ _ _ _, ?_, differs⟩
    intro same
    apply differs
    intro host
    rw [same]

example : triggerHosts (newScaledObject "dp-a" "x-app" "app" "scaler:9090" ["a,b", "", "c"]
    none none none) = [.ok ["a", "b", "", "c"]] := by decide

end KedaHttp.HostList
