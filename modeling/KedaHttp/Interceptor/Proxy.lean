import KedaHttp.Interceptor.Counting
import KedaHttp.Interceptor.Forwarding

/-!
# A request on its way through the proxy

`countMiddleware` around `newForwardingHandler`, as `runProxyServer` puts them together. Both derive
the key of the request with a `getHost` of their own, and thus with a reverse lookup of their own.
The answers of the two lookups may differ, and then the request can be counted under one key and
routed by another.
-/

namespace KedaHttp.Interceptor

open KedaHttp.Foundation
open KedaHttp.Queue
open KedaHttp.Routing

/-- The namespace that the `Host` header names, if any. -/
def headerNamespace (r : Request) : String := (extractServiceInfo (beforeFirst ':' r.host)).2

/-- The namespace of the key of a request, by the namespace of its caller. -/
def keyNamespace (r : Request) (caller : String) : String :=
  if hasPrefix caller "dp-" || headerNamespace r == "" then caller else headerNamespace r

/-- A request gets a key if its caller has a namespace: its service label with a namespace. -/
theorem getHost_eq_ok_iff {lookupAddr : LookupAddr} {r : Request} {key : String} :
    getHost lookupAddr r = .ok key ↔
      r.remoteAddr ≠ "" ∧ r.host ≠ "" ∧ ∃ caller, callerNamespace lookupAddr r = some caller ∧
        key = serviceLabel r ++ "." ++ keyNamespace r caller := by
  by_cases absent : r.remoteAddr = ""
  · simp [getHost, absent]
  by_cases unnamed : r.host = ""
  · simp [getHost, absent, unnamed]
  cases answer : lookupAddr (beforeFirst ':' r.remoteAddr) with
  | error err => simp [getHost, callerNamespace, absent, unnamed, answer]
  | ok names =>
      cases names with
      | nil => simp [getHost, callerNamespace, absent, unnamed, answer]
      | cons remoteDNS names =>
          by_cases missing : (extractPodInfo remoteDNS).2.2 = ""
          · simp [getHost, callerNamespace, absent, unnamed, answer, missing]
          · have caller : callerNamespace lookupAddr r = some (extractPodInfo remoteDNS).2.2 := by
              simp [callerNamespace, answer, missing]
            have derived : getHost lookupAddr r =
                .ok (serviceLabel r ++ "." ++ keyNamespace r (extractPodInfo remoteDNS).2.2) := by
              simp only [getHost, absent, unnamed, answer, missing, if_false]
              split
              · next own => rw [keyNamespace, headerNamespace, if_pos own, serviceLabel]
              · next other => rw [keyNamespace, headerNamespace, if_neg other, serviceLabel]
            rw [derived, caller, Except.ok.injEq]
            simp [absent, unnamed, eq_comm]

theorem callerNamespace_of_getHost {lookupAddr : LookupAddr} {r : Request} {key : String}
    (derived : getHost lookupAddr r = .ok key) :
    ∃ caller, callerNamespace lookupAddr r = some caller ∧
      key = serviceLabel r ++ "." ++ keyNamespace r caller :=
  (getHost_eq_ok_iff.mp derived).2.2

/-- A caller's namespace that does not get in the way of the one in the `Host` header. -/
def Yields (r : Request) (caller : String) : Prop :=
  hasPrefix caller "dp-" = true → caller = headerNamespace r

instance (r : Request) (caller : String) : Decidable (Yields r caller) :=
  inferInstanceAs (Decidable (_ → _))

theorem Yields.keyNamespace_eq {r : Request} {caller : String} (yields : Yields r caller)
    (named : headerNamespace r ≠ "") : keyNamespace r caller = headerNamespace r := by
  simp only [keyNamespace]
  split
  · next own =>
      apply yields
      simpa [named] using own
  · rfl

theorem keyNamespace_of_not_yields {r : Request} {caller : String} (stays : ¬Yields r caller) :
    keyNamespace r caller = caller ∧ caller ≠ headerNamespace r := by
  rw [Yields, Classical.not_imp] at stays
  refine ⟨?_, stays.2⟩
  simp [keyNamespace, stays.1]

/-- Callers get the same namespace if they are in the same one, or if both yield to the header. -/
theorem keyNamespace_eq_iff (r : Request) (first second : String) :
    keyNamespace r first = keyNamespace r second ↔
      first = second ∨ headerNamespace r ≠ "" ∧ Yields r first ∧ Yields r second := by
  constructor
  · intro same
    by_cases named : headerNamespace r = ""
    · left
      simpa [keyNamespace, named] using same
    · by_cases yieldsFirst : Yields r first
      · by_cases yieldsSecond : Yields r second
        · exact .inr ⟨named, yieldsFirst, yieldsSecond⟩
        · rcases keyNamespace_of_not_yields yieldsSecond with ⟨own, differs⟩
          rw [yieldsFirst.keyNamespace_eq named, own] at same
          exact absurd same.symm differs
      · rcases keyNamespace_of_not_yields yieldsFirst with ⟨ownFirst, differs⟩
        by_cases yieldsSecond : Yields r second
        · rw [yieldsSecond.keyNamespace_eq named, ownFirst] at same
          exact absurd same differs
        · rw [ownFirst, (keyNamespace_of_not_yields yieldsSecond).1] at same
          exact .inl same
  · rintro (rfl | ⟨named, yieldsFirst, yieldsSecond⟩)
    · rfl
    · rw [yieldsFirst.keyNamespace_eq named, yieldsSecond.keyNamespace_eq named]

section Serve

variable {URL : Type}

/--
What there is while the inner handler runs: the queue, how far the middleware has got, the key that
the handler looks up in the routing table, and what comes of the request.
-/
structure Served (URL : Type) where
  queue : Memory
  phase : Counting.Phase
  lookedUp : Option String
  response : Response URL

/-- `countMiddleware` around `newForwardingHandler`, each with the answers of its own lookup. -/
def serve (parse : String → Except String URL) (middlewareLookup handlerLookup : LookupAddr)
    (routingTable : Table) (waitFunc : ForwardWaitFunc) (targetSvcURL : Target → Except String URL)
    (q : Memory) (r : Request) : Served URL :=
  match Counting.advance q (Counting.receive middlewareLookup r) .increment with
  | some (queue, phase) =>
      { queue
        phase
        lookedUp := (getHost handlerLookup r).toOption
        response := newForwardingHandler parse handlerLookup routingTable waitFunc targetSvcURL r }
  | none =>
      { queue := q
        phase := Counting.receive middlewareLookup r
        lookedUp := none
        response := .reply 400 "Host not found, not forwarding request" }

variable {parse : String → Except String URL} {middlewareLookup handlerLookup : LookupAddr}
  {routingTable : Table} {waitFunc : ForwardWaitFunc} {targetSvcURL : Target → Except String URL}
  {q : Memory} {r : Request}

/-- The inner handler only runs under an increment of the key that the middleware has derived. -/
theorem getHost_of_serve_forward {target : Target} {url : URL} {isColdStart : String}
    (forwards : (serve parse middlewareLookup handlerLookup routingTable waitFunc targetSvcURL q
      r).response = .forward target url isColdStart) :
    ∃ counted, getHost middlewareLookup r = .ok counted ∧
      serve parse middlewareLookup handlerLookup routingTable waitFunc targetSvcURL q r =
        { queue := q.resize counted 1
          phase := .serving counted
          lookedUp := (getHost handlerLookup r).toOption
          response := newForwardingHandler parse handlerLookup routingTable waitFunc targetSvcURL
            r } := by
  cases derived : getHost middlewareLookup r with
  | error err => simp [serve, Counting.receive, Counting.advance, derived] at forwards
  | ok counted =>
      refine ⟨counted, rfl, ?_⟩
      simp [serve, Counting.receive, Counting.advance, derived]

/--
When a request is forwarded, the middleware holds an increment under one key while the handler has
looked up another, unless both lookups gave the same namespace, or the `Host` header names one that
neither of them overrides.
-/
theorem counted_eq_lookedUp_iff {target : Target} {url : URL} {isColdStart : String}
    (forwards : (serve parse middlewareLookup handlerLookup routingTable waitFunc targetSvcURL q
      r).response = .forward target url isColdStart) :
    ∃ counted looked first second,
      (serve parse middlewareLookup handlerLookup routingTable waitFunc targetSvcURL q r).phase =
        .serving counted ∧
      (serve parse middlewareLookup handlerLookup routingTable waitFunc targetSvcURL q r).queue =
        q.resize counted 1 ∧
      (serve parse middlewareLookup handlerLookup routingTable waitFunc targetSvcURL q
        r).lookedUp = some looked ∧
      routingTable.lookup looked = .ok target ∧
      callerNamespace middlewareLookup r = some first ∧
      callerNamespace handlerLookup r = some second ∧
      (counted = looked ↔
        first = second ∨ headerNamespace r ≠ "" ∧ Yields r first ∧ Yields r second) := by
  rcases getHost_of_serve_forward forwards with ⟨counted, derivedFirst, served⟩
  rw [served] at forwards ⊢
  rcases lookup_of_forward parse forwards with ⟨looked, derivedSecond, found⟩
  rcases callerNamespace_of_getHost derivedFirst with ⟨first, callerFirst, keyFirst⟩
  rcases callerNamespace_of_getHost derivedSecond with ⟨second, callerSecond, keySecond⟩
  refine ⟨counted, looked, first, second, rfl, rfl, ?_, found, callerFirst, callerSecond, ?_⟩
  · rw [derivedSecond]
    rfl
  · rw [keyFirst, keySecond, String.append_right_inj]
    exact keyNamespace_eq_iff r first second

/-- Two lookups that find the caller in different namespaces, one of a user and one not. -/
theorem counted_eq_lookedUp_iff_named :
    let middlewareLookup : LookupAddr := fun _ => .ok ["10-0-0-1.app.system.svc.cluster.local."]
    let handlerLookup : LookupAddr := fun _ => .ok ["10-0-0-1.app.dp-a.svc.cluster.local."]
    let target : Target := ⟨"svc", 8080, "app", "dp-a", 100⟩
    let table : Table := ⟨(∅ : GoMap String Target).insert "svc.dp-a" target⟩
    let served := serve (fun _ => .ok ()) middlewareLookup handlerLookup table (fun _ _ => .ok 1)
      (fun _ => .ok ()) (newMemory 0 false) ⟨"10.0.0.1:4711", "svc.dp-a:80"⟩
    served.response = .forward target () "false" ∧
      ∃ key, served.phase = .serving key ∧ served.lookedUp = some key := by
  intro middlewareLookup handlerLookup target table served
  have forwards : served.response = .forward target () "false" := by decide
  refine ⟨forwards, ?_⟩
  rcases counted_eq_lookedUp_iff forwards with
    ⟨counted, looked, first, second, phase, _, lookedUp, _, callerFirst, callerSecond, same⟩
  have firstNamespace : first = "system" := Option.some.inj (callerFirst.symm.trans (by decide))
  have secondNamespace : second = "dp-a" := Option.some.inj (callerSecond.symm.trans (by decide))
  subst firstNamespace secondNamespace
  have agree : counted = looked := same.mpr (.inr (by decide))
  exact ⟨counted, phase, agree ▸ lookedUp⟩

/-- An address with two names is counted for one of its namespaces and routed into the other. -/
theorem not_counted_eq_lookedUp_reordered :
    ¬∀ (middlewareLookup handlerLookup : LookupAddr) (routingTable : Table)
        (waitFunc : ForwardWaitFunc) (q : Memory) (r : Request) (target : Target)
        (isColdStart : String),
      (serve (fun _ => .ok ()) middlewareLookup handlerLookup routingTable waitFunc
          (fun _ => .ok ()) q r).response = .forward target () isColdStart →
        ∃ key,
          (serve (fun _ => .ok ()) middlewareLookup handlerLookup routingTable waitFunc
            (fun _ => .ok ()) q r).phase = .serving key ∧
          (serve (fun _ => .ok ()) middlewareLookup handlerLookup routingTable waitFunc
            (fun _ => .ok ()) q r).lookedUp = some key := by
  intro always
  let target : Target := ⟨"svc", 8080, "app", "dp-b", 100⟩
  rcases always
    (fun _ => .ok ["10-0-0-1.app.dp-a.svc.cluster.local.", "10-0-0-1.app.dp-b.svc.cluster.local."])
    (fun _ => .ok ["10-0-0-1.app.dp-b.svc.cluster.local.", "10-0-0-1.app.dp-a.svc.cluster.local."])
    ⟨(∅ : GoMap String Target).insert "svc.dp-b" target⟩ (fun _ _ => .ok 1) (newMemory 0 false)
    ⟨"10.0.0.1:4711", "svc"⟩ target "false" (by decide) with ⟨key, phase, lookedUp⟩
  have counted : key = "svc.dp-a" := by
    have serving := phase.symm.trans (show _ = Counting.Phase.serving "svc.dp-a" by decide)
    exact Counting.Phase.serving.inj serving
  have looked : key = "svc.dp-b" := Option.some.inj (lookedUp.symm.trans (by decide))
  rw [counted] at looked
  exact absurd looked (by decide)

end Serve

end KedaHttp.Interceptor
