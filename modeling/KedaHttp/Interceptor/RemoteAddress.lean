import KedaHttp.Foundation.NetAddr
import KedaHttp.Interceptor.HostKeys

/-!
# The address of the client

The server of `net/http` sets `RemoteAddr` to the address and the port of the client, with brackets
around an address that has colons of its own. `getHost` cuts it at the first colon, which gives
back an IPv4 address. Of an IPv6 address there remains an opening bracket and what stands before
the first colon. The lookup fails on that, and the client is turned away with a 400.
-/

namespace KedaHttp.Interceptor

open KedaHttp.Foundation
open KedaHttp.Routing

/-- A request of a client at an address, as the server hands it to `countMiddleware`. -/
def clientRequest (addr : IPAddr) (port host : String) : Request :=
  ⟨joinHostPort addr.string port, host⟩

/-- `getHost` depends on the resolver by what it answers for the given text, and so looks it up. -/
def LooksUp (r : Request) (text : String) : Prop :=
  ∀ lookupAddr : LookupAddr, getHost lookupAddr r = getHost (fun _ => lookupAddr text) r

/-- An address with a caller's namespace to be found in the first of its names. -/
def Resolves (lookupAddr : LookupAddr) (text : String) : Prop :=
  ∃ names name, lookupAddr text = .ok names ∧ names.head? = some name ∧ thirdLabel name ≠ ""

/-- Texts that start with a bracket are no addresses, and `net.LookupAddr` fails on them. -/
def RefusesBrackets (lookupAddr : LookupAddr) : Prop :=
  ∀ text, hasPrefix text "[" = true → ∃ err, lookupAddr text = .error err

section Lookup

variable {r : Request} {lookupAddr : LookupAddr}

theorem looksUp_iff (present : r.remoteAddr ≠ "") (named : r.host ≠ "") (text : String) :
    LooksUp r text ↔ beforeFirst ':' r.remoteAddr = text := by
  constructor
  · intro looksUp
    by_contra differs
    -- A resolver that fails on everything but the text tells the two apart.
    have same := looksUp fun address => if address = text then .ok [] else .error ""
    simp [getHost, present, named, differs] at same
  · rintro rfl lookupAddr
    simp only [getHost]

theorem getHost_of_lookup_error (failing : ∃ err, lookupAddr (beforeFirst ':' r.remoteAddr) =
    .error err) : ∃ err, getHost lookupAddr r = .error err := by
  rcases failing with ⟨err, failed⟩
  simp only [getHost, failed]
  split
  · exact ⟨_, rfl⟩
  · split <;> exact ⟨_, rfl⟩

variable {URL : Type} (parse : String → Except String URL) (routingTable : Table)
  (waitFunc : ForwardWaitFunc) (targetSvcURL : Target → Except String URL)

/-- Both handlers turn a request away that has no key, and no other one. -/
theorem answers_of_error {err : GetHostError} (failed : getHost lookupAddr r = .error err) :
    Counting.receive lookupAddr r = .rejected ⟨400, "Host not found, not forwarding request"⟩ ∧
      newForwardingHandler parse lookupAddr routingTable waitFunc targetSvcURL r =
        .reply 400 "Host not found in request" := by
  simp only [Counting.receive, newForwardingHandler, failed, and_self]

theorem answers_of_key {key : String} (derived : getHost lookupAddr r = .ok key) :
    Counting.receive lookupAddr r = .received key ∧
      ∀ body, newForwardingHandler parse lookupAddr routingTable waitFunc targetSvcURL r ≠
        .reply 400 body := by
  simp only [Counting.receive, newForwardingHandler, derived, true_and]
  intro body
  split
  · simp
  · split
    · simp
    · split <;> simp

end Lookup

section Clients

variable {host : String}

theorem looksUp_clientRequest_iff (addr : IPAddr) (port : String) (named : host ≠ "") :
    LooksUp (clientRequest addr port host) addr.string ↔ FreeOf ':' addr.string := by
  rw [looksUp_iff (joinHostPort_ne_empty _ _) named]
  exact beforeFirst_joinHostPort_eq_iff port

theorem getHost_clientRequest_of_resolves {lookupAddr : LookupAddr} {addr : IPAddr}
    (free : FreeOf ':' addr.string) (resolves : Resolves lookupAddr addr.string) (port : String)
    (named : host ≠ "") : ∃ key, getHost lookupAddr (clientRequest addr port host) = .ok key := by
  rcases resolves with ⟨names, name, answer, first, third⟩
  have heard : lookupAddr (beforeFirst ':' (clientRequest addr port host).remoteAddr) =
      .ok names := by
    rw [clientRequest, beforeFirst_joinHostPort free, answer]
  have found := (callerNamespace_of_answer heard (thirdLabel name)).mpr ⟨name, first, rfl, third⟩
  exact ⟨_, getHost_of_callerNamespace (joinHostPort_ne_empty _ _) named found⟩

theorem getHost_clientRequest_of_bracketed {lookupAddr : LookupAddr} {addr : IPAddr}
    (colons : ¬FreeOf ':' addr.string) (refuses : RefusesBrackets lookupAddr)
    (port host : String) :
    ∃ err, getHost lookupAddr (clientRequest addr port host) = .error err := by
  apply getHost_of_lookup_error
  rw [clientRequest, beforeFirst_joinHostPort_bracketed colons]
  apply refuses
  simp [hasPrefix]

variable {URL : Type} (parse : String → Except String URL) (routingTable : Table)
  (waitFunc : ForwardWaitFunc) (targetSvcURL : Target → Except String URL)

/--
The address of a client is looked up as it is if it is an IPv4 address, and no other is. With names
for such an address the handlers do not answer 400. To clients at other addresses they answer
nothing else.
-/
theorem looksUp_client_iff (addr : IPAddr) (port : String) (named : host ≠ "") :
    (LooksUp (clientRequest addr port host) addr.string ↔
      addr.ip.to4.isSome ∧ FreeOf ':' addr.zone) ∧
    (addr.ip.to4.isSome ∧ FreeOf ':' addr.zone →
      ∀ lookupAddr, Resolves lookupAddr addr.string →
        (∃ key, Counting.receive lookupAddr (clientRequest addr port host) = .received key) ∧
          ∀ body, newForwardingHandler parse lookupAddr routingTable waitFunc targetSvcURL
            (clientRequest addr port host) ≠ .reply 400 body) ∧
    (¬(addr.ip.to4.isSome ∧ FreeOf ':' addr.zone) →
      ∀ lookupAddr, RefusesBrackets lookupAddr →
        Counting.receive lookupAddr (clientRequest addr port host) =
          .rejected ⟨400, "Host not found, not forwarding request"⟩ ∧
        newForwardingHandler parse lookupAddr routingTable waitFunc targetSvcURL
          (clientRequest addr port host) = .reply 400 "Host not found in request") := by
  rw [← addr.freeOf_string_iff]
  refine ⟨looksUp_clientRequest_iff addr port named, ?_, ?_⟩
  · intro free lookupAddr resolves
    rcases getHost_clientRequest_of_resolves free resolves port named with ⟨key, derived⟩
    have answers := answers_of_key parse routingTable waitFunc targetSvcURL derived
    exact ⟨⟨key, answers.1⟩, answers.2⟩
  · intro colons lookupAddr refuses
    rcases getHost_clientRequest_of_bracketed colons refuses port host with ⟨err, failed⟩
    exact answers_of_error parse routingTable waitFunc targetSvcURL failed

/-- A client at an IPv4 address, here in its form of 16 bytes. -/
theorem looksUp_client_iff_mapped :
    let addr : IPAddr := ⟨⟨[0, 0, 0, 0, 0, 0, 0, 0, 0, 0, 0xff, 0xff, 10, 0, 0, 1], by decide⟩, ""⟩
    addr.string = "10.0.0.1" ∧ LooksUp (clientRequest addr "4711" "app") "10.0.0.1" := by
  intro addr
  have text : addr.string = "10.0.0.1" := by decide
  have looksUp := (looksUp_client_iff (fun _ => .ok ()) newTable (fun _ _ => .ok 1)
    (fun _ => .ok ()) addr "4711" (by decide : "app" ≠ "")).1.mpr (by decide)
  rw [text] at looksUp
  exact ⟨text, looksUp⟩

/-- The request of a client at `::1` is turned away, though the resolver has a name for `::1`. -/
theorem not_looksUp_client :
    let addr : IPAddr := ⟨⟨[0, 0, 0, 0, 0, 0, 0, 0, 0, 0, 0, 0, 0, 0, 0, 1], by decide⟩, ""⟩
    let r := clientRequest addr "4711" "app"
    let lookupAddr : LookupAddr := fun text =>
      if text = "::1" then .ok ["10-0-0-1.app.dp-a.svc.cluster.local."]
      else .error "unrecognized address"
    addr.string = "::1" ∧ r.remoteAddr = "[::1]:4711" ∧
      getHost lookupAddr r = .error (.lookupFailed "[" "unrecognized address") ∧
      getHost (fun _ => lookupAddr addr.string) r = .ok "app.dp-a" ∧
      Counting.receive lookupAddr r =
        .rejected ⟨400, "Host not found, not forwarding request"⟩ := by
  intro addr r lookupAddr
  exact ⟨by decide, by decide, by decide, by decide, by decide⟩

end Clients

end KedaHttp.Interceptor
