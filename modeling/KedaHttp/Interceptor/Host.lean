import KedaHttp.Foundation.GoStrings

/-!
# The host key of a request

`getHost` and its two helpers from `interceptor/middleware.go`. The key under which a
request is counted and routed is put together from the first label of its `Host`
header and from a namespace, which is the caller's own namespace for callers whose
namespace starts with `dp-`.

The caller's namespace comes from a reverse DNS lookup of the remote address.
`net.LookupAddr` is a parameter: it may answer with any list of names or fail, and
nothing is assumed to tie two of its answers together.
-/

namespace KedaHttp.Interceptor

open KedaHttp.Foundation

/-- The parts of an HTTP request that decide its key. -/
structure Request where
  remoteAddr : String
  host : String
  deriving DecidableEq, Repr

/-- `net.LookupAddr`: the names of an address, or the text of an error. -/
abbrev LookupAddr := String → Except String (List String)

inductive GetHostError where
  | remoteAddressNotFound
  | hostNotFound
  | lookupFailed (remoteIP err : String)
  | noNames (remoteIP : String)
  | namespaceNotFound (remoteDNS : String)
  deriving DecidableEq, Repr

namespace GetHostError

/-- The texts of the errors `getHost` returns. -/
def message : GetHostError → String
  | remoteAddressNotFound => "remote address not found"
  | hostNotFound => "host not found"
  | lookupFailed remoteIP err => "error looking up address " ++ remoteIP.quote ++ ": " ++ err
  | noNames remoteIP => "no names found for address " ++ remoteIP.quote
  | namespaceNotFound remoteDNS => "namespace not found in " ++ remoteDNS.quote

end GetHostError

/-- Service name and namespace of `$SVC.$NAMESPACE.svc.cluster.local`. -/
def extractServiceInfo (serviceURL : String) : String × String :=
  match split '.' serviceURL with
  | serviceName :: ns :: _ => (serviceName, ns)
  | [serviceName] => (serviceName, "")
  | [] => ("", "")

/-- The first three labels of `$POD_IP.$DEPLOYMENT_NAME.$NAMESPACE.svc.cluster.local`. -/
def extractPodInfo (podURL : String) : String × String × String :=
  match split '.' podURL with
  | podIP :: deploymentName :: ns :: _ => (podIP, deploymentName, ns)
  | [podIP, deploymentName] => (podIP, deploymentName, "")
  | _ => ("", "", "")

def getHost (lookupAddr : LookupAddr) (r : Request) : Except GetHostError String :=
  if r.remoteAddr = "" then .error .remoteAddressNotFound
  else
    let remoteIP := beforeFirst ':' r.remoteAddr
    if r.host = "" then .error .hostNotFound
    else
      let host := beforeFirst ':' r.host
      match lookupAddr remoteIP with
      | .error err => .error (.lookupFailed remoteIP err)
      | .ok [] => .error (.noNames remoteIP)
      | .ok (remoteDNS :: _) =>
          let remoteNs := (extractPodInfo remoteDNS).2.2
          if remoteNs = "" then .error (.namespaceNotFound remoteDNS)
          else
            let destService := (extractServiceInfo host).1
            let destNs := (extractServiceInfo host).2
            if hasPrefix remoteNs "dp-" || destNs == "" then .ok (destService ++ "." ++ remoteNs)
            else .ok (destService ++ "." ++ destNs)

/-- The caller's namespace: the third label of the first name of its address. -/
def callerNamespace (lookupAddr : LookupAddr) (r : Request) : Option String :=
  match lookupAddr (beforeFirst ':' r.remoteAddr) with
  | .ok (remoteDNS :: _) =>
      if (extractPodInfo remoteDNS).2.2 = "" then none else some (extractPodInfo remoteDNS).2.2
  | _ => none

/-- The service label of the `Host` header, which every key starts with. -/
def serviceLabel (r : Request) : String :=
  (extractServiceInfo (beforeFirst ':' r.host)).1

/-- A caller in a user namespace gets the key of its service label in its own namespace. -/
theorem getHost_of_userNamespace {lookupAddr : LookupAddr} {r : Request} {ns : String}
    (caller : callerNamespace lookupAddr r = some ns) (user : hasPrefix ns "dp-" = true) :
    getHost lookupAddr r =
      if r.remoteAddr = "" then .error .remoteAddressNotFound
      else if r.host = "" then .error .hostNotFound
      else .ok (serviceLabel r ++ "." ++ ns) := by
  simp only [callerNamespace] at caller
  split at caller
  · next remoteDNS others answer =>
      split at caller
      · simp at caller
      · next named =>
          simp only [Option.some.injEq] at caller
          subst caller
          simp [getHost, answer, named, user, serviceLabel]
  · simp at caller

theorem mem_split_of_extractServiceInfo (serviceURL : String) :
    (extractServiceInfo serviceURL).1 ∈ split '.' serviceURL := by
  simp only [extractServiceInfo]
  split
  · next labels => simp [labels]
  · next labels => simp [labels]
  · next labels => exact absurd labels (split_ne_nil _ _)

/-- A service label holds neither of the two separators of a `Host` header. -/
theorem freeOf_serviceLabel (r : Request) :
    FreeOf '.' (serviceLabel r) ∧ FreeOf ':' (serviceLabel r) := by
  have member := mem_split_of_extractServiceInfo (beforeFirst ':' r.host)
  constructor
  · exact freeOf_of_mem_split member
  · exact freeOf_of_mem_split_of_freeOf (freeOf_beforeFirst ':' r.host) member

/-- Every text without separators is the service label of a `Host` header, even if empty. -/
theorem serviceLabel_of_freeOf {service : String} (dotFree : FreeOf '.' service)
    (colonFree : FreeOf ':' service) (remoteAddr port : String) :
    serviceLabel ⟨remoteAddr, service ++ (":" ++ port)⟩ = service := by
  rw [serviceLabel, beforeFirst_append colonFree (by decide), extractServiceInfo,
    split_of_freeOf dotFree]

theorem mem_split_of_extractPodInfo {podURL : String} (named : (extractPodInfo podURL).2.2 ≠ "") :
    (extractPodInfo podURL).2.2 ∈ split '.' podURL := by
  simp only [extractPodInfo] at named ⊢
  split
  · next labels => simp [labels]
  · next labels => simp [labels] at named
  · next others => simp_all

/-- The caller's namespace is a label, and thus without dots. -/
theorem freeOf_callerNamespace {lookupAddr : LookupAddr} {r : Request} {ns : String}
    (caller : callerNamespace lookupAddr r = some ns) : FreeOf '.' ns := by
  simp only [callerNamespace] at caller
  split at caller
  · split at caller
    · simp at caller
    · next named =>
        rw [← Option.some.inj caller]
        exact freeOf_of_mem_split (mem_split_of_extractPodInfo named)
  · simp at caller

/-- The DNS name of a pod in the cluster. -/
def podName (podIP deploymentName ns : String) : String :=
  podIP ++ ("." ++ (deploymentName ++ ("." ++ (ns ++ ("." ++ "svc.cluster.local.")))))

/-- The pods of any namespace can be callers. -/
theorem callerNamespace_podName {podIP deploymentName ns : String} (ipFree : FreeOf '.' podIP)
    (deploymentFree : FreeOf '.' deploymentName) (nsFree : FreeOf '.' ns) (nonempty : ns ≠ "")
    (r : Request) :
    callerNamespace (fun _ => .ok [podName podIP deploymentName ns]) r = some ns := by
  have labels : split '.' (podName podIP deploymentName ns) =
      podIP :: deploymentName :: ns :: split '.' "svc.cluster.local." := by
    rw [podName, split_append ipFree (by decide), split_append deploymentFree (by decide),
      split_append nsFree (by decide)]
  simp only [callerNamespace, extractPodInfo, labels, nonempty, if_false]

end KedaHttp.Interceptor
