import KedaHttp.Interceptor.Host
import KedaHttp.Routing.Table

/-!
# The forwarding handler

`newForwardingHandler` from `interceptor/proxy_handlers.go`, up to the URL a request is forwarded
to. Waiting for the deployment and parsing URLs are parameters.

For a caller in a user namespace, whose name starts with `dp-`, the handler reads the routing
table at a single key, which is made of a service label and of the caller's namespace. Two facts
follow. Tables that agree on the keys of a namespace cannot be told apart from within it. And the
callers of all user namespaces stay within their own namespace exactly if each of these keys
leads to a target in the namespace it ends with.
-/

namespace KedaHttp.Interceptor

open KedaHttp.Foundation
open KedaHttp.Routing

/-- Waits until a deployment, given by its namespace and name, can serve, and counts replicas. -/
abbrev ForwardWaitFunc := String → String → Except String Int

inductive Response (URL : Type) where
  | reply (status : ℕ) (body : String)
  | forward (routingTarget : Target) (targetURL : URL) (isColdStart : String)
  deriving DecidableEq, Repr

section Handler

variable {URL : Type} (parse : String → Except String URL)

/-- `routing.ServiceURL`. -/
def serviceURL (t : Target) : Except String URL :=
  parse ("http://" ++ t.service ++ "." ++ t.ns ++ ":" ++ toString t.port)

/-- The URL for a request to a target, or the text of the reply if there is none. -/
def targetURL (targetSvcURL : Target → Except String URL) (r : Request) (routingTarget : Target) :
    Except String URL :=
  match afterFirst ':' r.host with
  | some targetPort =>
      let targetHost :=
        "http://" ++ routingTarget.service ++ "." ++ routingTarget.ns ++ ":" ++ targetPort
      match parse targetHost with
      | .ok url => .ok url
      | .error _ => .error ("error parsing host:port: " ++ targetHost ++ " to URL")
  | none =>
      match targetSvcURL routingTarget with
      | .ok url => .ok url
      | .error _ => .error "error getting backend service URL"

def newForwardingHandler (lookupAddr : LookupAddr) (routingTable : Table)
    (waitFunc : ForwardWaitFunc) (targetSvcURL : Target → Except String URL) (r : Request) :
    Response URL :=
  match getHost lookupAddr r with
  | .error _ => .reply 400 "Host not found in request"
  | .ok host =>
      match routingTable.lookup host with
      | .error _ => .reply 404 ("Host " ++ r.host ++ " not found")
      | .ok routingTarget =>
          match waitFunc routingTarget.ns routingTarget.deployment with
          | .error err => .reply 502 ("error on backend (" ++ err ++ ")")
          | .ok replicas =>
              match targetURL parse targetSvcURL r routingTarget with
              | .error body => .reply 500 body
              | .ok url => .forward routingTarget url (if replicas = 0 then "true" else "false")

/-- What forwarding a request takes: a key, its target, a deployment that serves, and a URL. -/
theorem exists_of_forward {lookupAddr : LookupAddr} {routingTable : Table}
    {waitFunc : ForwardWaitFunc} {targetSvcURL : Target → Except String URL} {r : Request}
    {target : Target} {url : URL} {isColdStart : String}
    (forwards : newForwardingHandler parse lookupAddr routingTable waitFunc targetSvcURL r =
      .forward target url isColdStart) :
    ∃ key replicas, getHost lookupAddr r = .ok key ∧ routingTable.lookup key = .ok target ∧
      waitFunc target.ns target.deployment = .ok replicas ∧
      targetURL parse targetSvcURL r target = .ok url := by
  simp only [newForwardingHandler] at forwards
  split at forwards
  · simp at forwards
  · next key derived =>
      split at forwards
      · simp at forwards
      · next found looked =>
          split at forwards
          · simp at forwards
          · next replicas served =>
              split at forwards
              · simp at forwards
              · next parsed located =>
                  simp only [Response.forward.injEq] at forwards
                  rcases forwards with ⟨rfl, rfl, _⟩
                  exact ⟨key, replicas, derived, looked, served, located⟩

/-- A request is only forwarded to the target its key has in the table. -/
theorem lookup_of_forward {lookupAddr : LookupAddr} {routingTable : Table}
    {waitFunc : ForwardWaitFunc} {targetSvcURL : Target → Except String URL} {r : Request}
    {target : Target} {url : URL} {isColdStart : String}
    (forwards : newForwardingHandler parse lookupAddr routingTable waitFunc targetSvcURL r =
      .forward target url isColdStart) :
    ∃ key, getHost lookupAddr r = .ok key ∧ routingTable.lookup key = .ok target := by
  rcases exists_of_forward parse forwards with ⟨key, _, derived, looked, _⟩
  exact ⟨key, derived, looked⟩

/-- A deployment that can serve and a URL that parses are all that forwarding needs. -/
theorem forward_of_lookup {lookupAddr : LookupAddr} {routingTable : Table} {r : Request}
    {key : String} {target : Target} (derived : getHost lookupAddr r = .ok key)
    (looked : routingTable.lookup key = .ok target) (url : URL) :
    newForwardingHandler (fun _ => .ok url) lookupAddr routingTable (fun _ _ => .ok 1)
      (fun _ => .ok url) r = .forward target url "false" := by
  have parsed : targetURL (fun _ => .ok url) (fun _ => .ok url) r target = .ok url := by
    simp only [targetURL]
    split <;> rfl
  simp [newForwardingHandler, derived, looked, parsed]

end Handler

section NonInterference

variable {lookupAddr : LookupAddr} {r : Request} {ns : String}

/-- The tables have the same entries under the keys of a namespace. -/
def AgreeOn (ns : String) (left right : Table) : Prop :=
  ∀ service, FreeOf '.' service → FreeOf ':' service →
    left.m.lookup (service ++ "." ++ ns) = right.m.lookup (service ++ "." ++ ns)

/-- No other key of the table plays a role for the caller's requests. -/
theorem lookup_userNamespace (caller : callerNamespace lookupAddr r = some ns)
    (user : hasPrefix ns "dp-" = true) (colonFree : FreeOf ':' ns) {key : String}
    (derived : getHost lookupAddr r = .ok key) (table : Table) :
    key = serviceLabel r ++ "." ++ ns ∧
      table.lookup key =
        match table.m.lookup (serviceLabel r ++ "." ++ ns) with
        | some target => .ok target
        | none => .error errTargetNotFound := by
  have same : key = serviceLabel r ++ "." ++ ns := by
    rw [getHost_of_userNamespace caller user] at derived
    split at derived
    · simp at derived
    · split at derived
      · simp at derived
      · exact (Except.ok.inj derived).symm
  refine ⟨same, ?_⟩
  have keyFree : FreeOf ':' (serviceLabel r ++ "." ++ ns) := by
    rw [freeOf_append, freeOf_append]
    exact ⟨⟨(freeOf_serviceLabel r).2, by decide⟩, colonFree⟩
  rw [same]
  exact table.lookup_of_freeOf keyFree

theorem AgreeOn.lookup_eq {left right : Table} (agree : AgreeOn ns left right)
    (caller : callerNamespace lookupAddr r = some ns) (user : hasPrefix ns "dp-" = true)
    (colonFree : FreeOf ':' ns) {key : String} (derived : getHost lookupAddr r = .ok key) :
    left.lookup key = right.lookup key := by
  rw [(lookup_userNamespace caller user colonFree derived left).2,
    (lookup_userNamespace caller user colonFree derived right).2,
    agree (serviceLabel r) (freeOf_serviceLabel r).1 (freeOf_serviceLabel r).2]

/--
Whatever the `Host` header, a caller in a user namespace gets the same result from any two tables
that agree on the keys of its namespace.
-/
theorem lookup_getHost_eq_of_agreeOn (caller : callerNamespace lookupAddr r = some ns)
    (user : hasPrefix ns "dp-" = true) (colonFree : FreeOf ':' ns) {left right : Table}
    (agree : AgreeOn ns left right) :
    (getHost lookupAddr r).map left.lookup = (getHost lookupAddr r).map right.lookup := by
  cases derived : getHost lookupAddr r with
  | error err => rfl
  | ok key =>
      simp only [Except.map]
      rw [agree.lookup_eq caller user colonFree derived]

/-- A caller in `dp-a` does not see the entry of a second table that is keyed for `dp-b`. -/
theorem lookup_getHost_eq_of_agreeOn_foreign :
    let lookupAddr : LookupAddr := fun _ => .ok ["10-0-0-1.app.dp-a.svc.cluster.local."]
    let r : Request := ⟨"10.0.0.1:4711", "svc.dp-b:80:90"⟩
    let own : Target := ⟨"svc", 8080, "app", "dp-a", 100⟩
    let table : Table := ⟨(∅ : GoMap String Target).insert "svc.dp-a" own⟩
    let extended : Table := ⟨table.m.insert "svc.dp-b" { own with ns := "dp-b" }⟩
    (getHost lookupAddr r).map table.lookup = .ok (.ok own) ∧
      (getHost lookupAddr r).map extended.lookup = .ok (.ok own) := by
  intro lookupAddr r own table extended
  have answer : (getHost lookupAddr r).map table.lookup = .ok (.ok own) := by decide
  refine ⟨answer, ?_⟩
  rw [← answer]
  refine (lookup_getHost_eq_of_agreeOn (show callerNamespace lookupAddr r = some "dp-a" by decide)
    (by decide) (by decide) ?_).symm
  intro service _ _
  have differs : service ++ "." ++ "dp-a" ≠ "svc.dp-b" := by
    intro same
    have last := congrArg (fun text => text.toList.getLast?) same
    simp at last
  exact (Finmap.lookup_insert_of_ne _ differs).symm

/-- The handler does not let the caller observe more than the lookup does. -/
theorem newForwardingHandler_eq_of_agreeOn {URL : Type} (parse : String → Except String URL)
    (waitFunc : ForwardWaitFunc) (targetSvcURL : Target → Except String URL)
    (caller : callerNamespace lookupAddr r = some ns) (user : hasPrefix ns "dp-" = true)
    (colonFree : FreeOf ':' ns) {left right : Table} (agree : AgreeOn ns left right) :
    newForwardingHandler parse lookupAddr left waitFunc targetSvcURL r =
      newForwardingHandler parse lookupAddr right waitFunc targetSvcURL r := by
  simp only [newForwardingHandler]
  cases derived : getHost lookupAddr r with
  | error err => rfl
  | ok key =>
      simp only
      rw [agree.lookup_eq caller user colonFree derived]

end NonInterference

section Isolation

/-- The keys of user namespaces, which their callers' requests are looked up under. -/
structure UserKey (key service ns : String) : Prop where
  eq : key = service ++ "." ++ ns
  serviceDotFree : FreeOf '.' service
  serviceColonFree : FreeOf ':' service
  nsDotFree : FreeOf '.' ns
  nsColonFree : FreeOf ':' ns
  user : hasPrefix ns "dp-" = true

/-- Requests from user namespaces are only forwarded to targets in the caller's namespace. -/
def Isolated (table : Table) : Prop :=
  ∀ (URL : Type) (parse : String → Except String URL) (lookupAddr : LookupAddr)
    (waitFunc : ForwardWaitFunc) (targetSvcURL : Target → Except String URL) (r : Request)
    (ns : String) (target : Target) (url : URL) (isColdStart : String),
    callerNamespace lookupAddr r = some ns → hasPrefix ns "dp-" = true → FreeOf ':' ns →
      newForwardingHandler parse lookupAddr table waitFunc targetSvcURL r =
        .forward target url isColdStart →
      target.ns = ns

/-- A key of a user namespace leads to a target in that namespace. -/
def OwnNamespace (key : String) (target : Target) : Prop :=
  ∀ service ns, UserKey key service ns → target.ns = ns

/-- Every key of a user namespace is the key of a request from that namespace. -/
theorem UserKey.exists_request {key service ns : String} (userKey : UserKey key service ns) :
    ∃ lookupAddr r, callerNamespace lookupAddr r = some ns ∧ getHost lookupAddr r = .ok key := by
  have nonempty : ns ≠ "" := by
    intro empty
    have user := userKey.user
    rw [empty] at user
    exact absurd user (by decide)
  have caller := callerNamespace_podName (show FreeOf '.' "10-0-0-1" by decide)
    (show FreeOf '.' "app" by decide) userKey.nsDotFree nonempty
    ⟨"10.0.0.1:4711", service ++ (":" ++ "80")⟩
  refine ⟨_, _, caller, ?_⟩
  have someHost : service ++ (":" ++ "80") ≠ "" := by
    intro empty
    have chars := congrArg String.toList empty
    simp at chars
  rw [getHost_of_userNamespace caller userKey.user,
    if_neg (show ¬"10.0.0.1:4711" = "" by decide), if_neg someHost,
    serviceLabel_of_freeOf userKey.serviceDotFree userKey.serviceColonFree, userKey.eq]

/-- The labels of such a key are determined by it. -/
theorem UserKey.split_eq {key service ns : String} (userKey : UserKey key service ns) :
    split '.' key = [service, ns] := by
  rw [userKey.eq, String.append_assoc, split_append userKey.serviceDotFree (by decide),
    split_of_freeOf userKey.nsDotFree]

theorem isolated_iff_every (table : Table) : Isolated table ↔ table.Every OwnNamespace := by
  constructor
  · intro isolated key target found service ns userKey
    rcases userKey.exists_request with ⟨lookupAddr, r, caller, derived⟩
    have looked : table.lookup key = .ok target := by
      have result := (lookup_userNamespace caller userKey.user userKey.nsColonFree derived table)
      rw [result.2, ← result.1, found]
    exact isolated Unit _ lookupAddr _ _ r ns target () _ caller userKey.user userKey.nsColonFree
      (forward_of_lookup derived looked ())
  · intro every URL parse lookupAddr waitFunc targetSvcURL r ns target url isColdStart caller user
      colonFree forwards
    rcases lookup_of_forward parse forwards with ⟨key, derived, looked⟩
    rcases lookup_userNamespace caller user colonFree derived table with ⟨same, result⟩
    rw [looked] at result
    have userKey : UserKey key (serviceLabel r) ns :=
      ⟨same, (freeOf_serviceLabel r).1, (freeOf_serviceLabel r).2, freeOf_callerNamespace caller,
        colonFree, user⟩
    refine every key target ?_ (serviceLabel r) ns userKey
    rw [same]
    split at result
    · next found => rw [found, Except.ok.inj result]
    · simp at result

end Isolation

end KedaHttp.Interceptor
