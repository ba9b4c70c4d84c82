import KedaHttp.Foundation.Url
import KedaHttp.Interceptor.Forwarding

/-!
# Where a caller's port can lead

A request whose `Host` header has a port is forwarded to that port of its target. The handler
writes whatever follows the first colon of the header into the text of a URL and parses it, so that
the text could redirect the request if a URL ended its host anywhere else.

It cannot. The bytes that end a host in a URL are not admitted in a header, and the name of the
service precedes the port, which leaves the port to be digits or to be refused. With further colons
in the header, the name is still what the host starts with.
-/

namespace KedaHttp.Interceptor

open KedaHttp.Foundation
open KedaHttp.Routing

/-- A `Host` header without some of the bytes that the server of `net/http` refuses. -/
def AdmittedHost (host : String) : Prop :=
  ∀ char ∈ host.toList, char ∉ "/?#@ ".toList ∧ Url.isCTL char = false

instance (host : String) : Decidable (AdmittedHost host) := List.decidableBAll _ host.toList

/-- A DNS label, whatever its length and wherever its hyphens are. -/
def DNSLabel (label : String) : Prop :=
  label ≠ "" ∧ ∀ char ∈ label.toList, char.isAlphanum = true ∨ char = '-'

instance (label : String) : Decidable (DNSLabel label) :=
  @instDecidableAnd _ _ _ (List.decidableBAll _ label.toList)

theorem DNSLabel.alphanum_or_mem {label : String} (isLabel : DNSLabel label) {char : Char}
    (member : char ∈ label.toList) : char.isAlphanum = true ∨ char ∈ ['-', '.'] := by
  rcases isLabel.2 char member with alphanum | hyphen
  · exact .inl alphanum
  · exact .inr (by simp [hyphen])

/-- The name of a target's service in the cluster. -/
def svcName (t : Target) : Text := (t.service ++ "." ++ t.ns).toList

section Names

variable {t : Target} (service : DNSLabel t.service) (ns : DNSLabel t.ns)

include service ns

theorem alphanum_of_mem_svcName {char : Char} (member : char ∈ svcName t) :
    char.isAlphanum = true ∨ char ∈ ['-', '.'] := by
  simp only [svcName, String.toList_append, List.mem_append] at member
  rcases member with (inService | dot) | inNamespace
  · exact service.alphanum_or_mem inService
  · have single : ".".toList = ['.'] := by decide
    rw [single, List.mem_singleton] at dot
    exact .inr (by simp [dot])
  · exact ns.alphanum_or_mem inNamespace

theorem plain_svcName : Plain (svcName t) := by
  intro char member
  rcases alphanum_of_mem_svcName service ns member with alphanum | mark
  · refine ⟨?_, by simp [shouldEscape, alphanum]⟩
    rintro rfl
    simp at alphanum
  · have marks : Plain ['-', '.'] := by decide
    exact marks char mark

theorem bracket_notMem_svcName : '[' ∉ svcName t := by
  intro member
  rcases alphanum_of_mem_svcName service ns member with alphanum | mark
  · simp at alphanum
  · simp at mark

theorem undelimited_svcName : Url.Undelimited (svcName t) := by
  intro char member
  rcases alphanum_of_mem_svcName service ns member with alphanum | mark
  · have single : Url.Undelimited [char] := Url.undelimited_of_isAlphanum (by simpa using alphanum)
    exact single char List.mem_cons_self
  · have marks : Url.Undelimited ['-', '.'] := by decide
    exact marks char mark

/-- The text of a target's URL is cut between the name and the port. -/
theorem parse_svcName {port : String} (undelimited : Url.Undelimited port.toList) :
    Url.parse ("http://" ++ t.service ++ "." ++ t.ns ++ ":" ++ port) =
      (Url.parseHost (svcName t ++ ':' :: port.toList)).map fun host =>
        { scheme := "http".toList, host := host } := by
  have chars : ("http://" ++ t.service ++ "." ++ t.ns ++ ":" ++ port).toList =
      "http://".toList ++ (svcName t ++ ':' :: port.toList) := by
    have colon : ":".toList = [':'] := by decide
    simp only [svcName, String.toList_append, colon, List.append_assoc, List.singleton_append]
  rw [Url.parse, chars]
  apply Url.parse_http
  rw [Url.undelimited_append, ← List.singleton_append, Url.undelimited_append]
  exact ⟨undelimited_svcName service ns, by decide, undelimited⟩

end Names

/-- The text of an integer is written with digits and a sign. -/
theorem undelimited_toString (port : Int) : Url.Undelimited (toString port).toList := by
  have digits : ∀ n : ℕ, Url.Undelimited (Nat.toDigits 10 n) := by
    intro n
    apply Url.undelimited_of_isAlphanum
    rw [List.all_eq_true]
    intro char member
    have digit := Nat.isDigit_of_mem_toDigits (by decide) (by decide) member
    simp [Char.isAlphanum, digit]
  cases port with
  | ofNat n =>
      have chars : (toString (Int.ofNat n)).toList = Nat.toDigits 10 n := by
        simp [toString, Int.repr]
      exact chars ▸ digits n
  | negSucc n =>
      have chars : (toString (Int.negSucc n)).toList = ['-'] ++ Nat.toDigits 10 (n + 1) := by
        simp [toString, Int.repr]
      rw [chars, Url.undelimited_append]
      exact ⟨by decide, digits (n + 1)⟩

section Handler

variable {r : Request} {target : Target}

theorem undelimited_of_afterFirst (admitted : AdmittedHost r.host) {port : String}
    (found : afterFirst ':' r.host = some port) : Url.Undelimited port.toList := by
  rcases exists_of_afterFirst found with ⟨before, whole, _⟩
  intro char member
  rcases admitted char (by simp [whole, member]) with ⟨others, control⟩
  refine ⟨?_, control⟩
  intro special
  have refused : "/?#@ ".toList = "/?#@".toList ++ [' '] := by decide
  exact others (refused ▸ List.mem_append_left _ special)

/-- After its only colon, a header has no further one. -/
theorem colon_notMem_of_count (single : r.host.toList.count ':' = 1) {port : String}
    (found : afterFirst ':' r.host = some port) : ':' ∉ port.toList := by
  rcases exists_of_afterFirst found with ⟨before, whole, _⟩
  rw [whole, List.count_append, List.count_cons_self] at single
  rw [← List.count_eq_zero]
  omega

theorem exists_afterFirst_of_count (single : r.host.toList.count ':' = 1) :
    ∃ port, afterFirst ':' r.host = some port := by
  cases found : afterFirst ':' r.host with
  | some port => exact ⟨port, rfl⟩
  | none =>
      have absent := List.count_eq_zero.mpr (freeOf_of_afterFirst found)
      omega

variable (admitted : AdmittedHost r.host) (service : DNSLabel target.service)
  (ns : DNSLabel target.ns)

include admitted service ns

/-- Both ways to a target's URL lead to its name, a colon and a port. -/
theorem exists_of_targetURL {url : Url}
    (located : targetURL Url.parse (serviceURL Url.parse) r target = .ok url) :
    ∃ port host, Url.parseHost (svcName target ++ ':' :: port) = .ok host ∧
      url = { scheme := "http".toList, host := host } := by
  have parsed : ∃ port : String, Url.Undelimited port.toList ∧
      Url.parse ("http://" ++ target.service ++ "." ++ target.ns ++ ":" ++ port) = .ok url := by
    simp only [targetURL] at located
    split at located
    · next port found =>
        split at located
        · next parsed same =>
            rw [← Except.ok.inj located]
            exact ⟨port, undelimited_of_afterFirst admitted found, same⟩
        · simp at located
    · split at located
      · next parsed same =>
          rw [serviceURL] at same
          rw [← Except.ok.inj located]
          exact ⟨toString target.port, undelimited_toString target.port, same⟩
      · simp at located
  rcases parsed with ⟨port, undelimited, parsed⟩
  rw [parse_svcName service ns undelimited] at parsed
  cases host : Url.parseHost (svcName target ++ ':' :: port.toList) with
  | error err => simp [host, Except.map] at parsed
  | ok host' =>
      simp only [host, Except.map, Except.ok.injEq] at parsed
      exact ⟨port.toList, host', host, parsed.symm⟩

/-- With one colon in the header, what follows it is the port, or is refused. -/
theorem targetURL_of_count (single : r.host.toList.count ':' = 1) {port : String}
    (found : afterFirst ':' r.host = some port) :
    targetURL Url.parse (serviceURL Url.parse) r target =
      if port.toList.all Char.isDigit then
        .ok { scheme := "http".toList, host := svcName target ++ ':' :: port.toList }
      else .error ("error parsing host:port: " ++ ("http://" ++ target.service ++ "." ++
        target.ns ++ ":" ++ port) ++ " to URL") := by
  have parsed := parse_svcName service ns (undelimited_of_afterFirst admitted found)
  rw [Url.parseHost_append (plain_svcName service ns) (bracket_notMem_svcName service ns)
    (colon_notMem_of_count single found)] at parsed
  simp only [targetURL, found, parsed]
  by_cases digits : port.toList.all Char.isDigit = true
  · simp only [digits, if_true, Except.map]
  · simp only [digits, if_false, Except.map, Bool.false_eq_true]

/--
Whatever the header, a forwarded request goes over `http`, without user information, to a host that
starts with the name of the target's service and a colon. If the header has one colon, the host is
that name and the port is the digits that follow the colon. Anything else that follows it is
answered with 500.
-/
theorem forward_confined_to_svcName (lookupAddr : LookupAddr) (routingTable : Table)
    (waitFunc : ForwardWaitFunc) :
    (∀ url isColdStart,
      newForwardingHandler Url.parse lookupAddr routingTable waitFunc (serviceURL Url.parse) r =
        .forward target url isColdStart →
      url.scheme = "http".toList ∧ url.user = none ∧
        (∃ rest, url.host = svcName target ++ ':' :: rest) ∧
        (r.host.toList.count ':' = 1 →
          url.hostname = svcName target ∧ url.port.all Char.isDigit = true ∧
            afterFirst ':' r.host = some (String.ofList url.port))) ∧
      ∀ key replicas port, getHost lookupAddr r = .ok key →
        routingTable.lookup key = .ok target →
        waitFunc target.ns target.deployment = .ok replicas →
        r.host.toList.count ':' = 1 → afterFirst ':' r.host = some port →
        port.toList.all Char.isDigit = false →
        newForwardingHandler Url.parse lookupAddr routingTable waitFunc (serviceURL Url.parse) r =
          .reply 500 ("error parsing host:port: " ++ ("http://" ++ target.service ++ "." ++
            target.ns ++ ":" ++ port) ++ " to URL") := by
  constructor
  · intro url isColdStart forwards
    rcases exists_of_forward Url.parse forwards with ⟨_, _, _, _, _, located⟩
    rcases exists_of_targetURL admitted service ns located with ⟨_, host, parsed, rfl⟩
    refine ⟨rfl, rfl, ?_, ?_⟩
    · exact Url.exists_of_parseHost (plain_svcName service ns)
        (bracket_notMem_svcName service ns) parsed
    · intro single
      rcases exists_afterFirst_of_count single with ⟨port, found⟩
      rw [targetURL_of_count admitted service ns single found] at located
      split at located
      · next digits =>
          simp only [Except.ok.injEq, Url.mk.injEq, true_and, and_true] at located
          have pieces := Url.splitHostPort_append (bracket_notMem_svcName service ns)
            (colon_notMem_of_count single found) digits
          rw [Url.hostname, Url.port, ← located, pieces, found, String.ofList_toList]
          exact ⟨rfl, digits, rfl⟩
      · simp at located
  · intro key replicas port derived looked served single found other
    simp only [newForwardingHandler, derived, looked, served,
      targetURL_of_count admitted service ns single found, other, Bool.false_eq_true, if_false]

end Handler

section Samples

def portTarget : Target := newTarget "dp-a" "app" 8080 "app" 100

def portRequest (host : String) : Request := ⟨"10.0.0.7:41234", host⟩

def portResponse (host : String) : Response Url :=
  newForwardingHandler Url.parse (fun _ => .ok ["10-0-0-7.web.dp-a.svc.cluster.local."])
    ⟨(∅ : GoMap String Target).insert "app.dp-a" portTarget⟩ (fun _ _ => .ok 1)
    (serviceURL Url.parse) (portRequest host)

/-- A port of digits is followed, while an escape cannot stand for one. -/
theorem forward_confined_to_svcName_port :
    (∃ url, portResponse "app:9090" = .forward portTarget url "false" ∧
      url.hostname = svcName portTarget ∧ url.port.all Char.isDigit = true) ∧
      portResponse "app:80%40evil" = .reply 500 ("error parsing host:port: " ++
        ("http://" ++ portTarget.service ++ "." ++ portTarget.ns ++ ":" ++ "80%40evil") ++
        " to URL") := by
  have service : DNSLabel portTarget.service := by decide
  have ns : DNSLabel portTarget.ns := by decide
  have looked : Table.lookup ⟨(∅ : GoMap String Target).insert "app.dp-a" portTarget⟩
      "app.dp-a" = .ok portTarget := by decide
  constructor
  · have admitted : AdmittedHost (portRequest "app:9090").host := by decide
    have derived : getHost (fun _ => .ok ["10-0-0-7.web.dp-a.svc.cluster.local."])
        (portRequest "app:9090") = .ok "app.dp-a" := by decide
    have located := targetURL_of_count admitted service ns (by decide)
      (show afterFirst ':' (portRequest "app:9090").host = some "9090" by decide)
    rw [if_pos (by decide)] at located
    have forwards : portResponse "app:9090" = .forward portTarget
        { scheme := "http".toList, host := svcName portTarget ++ ':' :: "9090".toList }
        "false" := by
      simp only [portResponse, newForwardingHandler, derived, looked, located]
      rfl
    have confined := (forward_confined_to_svcName admitted service ns _ _ _).1 _ _ forwards
    rcases confined.2.2.2 (by decide) with ⟨hostname, digits, _⟩
    exact ⟨_, forwards, hostname, digits⟩
  · have admitted : AdmittedHost (portRequest "app:80%40evil").host := by decide
    have derived : getHost (fun _ => .ok ["10-0-0-7.web.dp-a.svc.cluster.local."])
        (portRequest "app:80%40evil") = .ok "app.dp-a" := by decide
    rw [portResponse]
    apply (forward_confined_to_svcName admitted service ns _ _ _).2 "app.dp-a" 1 "80%40evil" derived
      looked rfl
    · decide
    · decide
    · decide

end Samples

end KedaHttp.Interceptor
