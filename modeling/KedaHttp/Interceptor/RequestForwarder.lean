import KedaHttp.Interceptor.TargetURL

/-!
# Forwarding a request

`forwardRequest` and `retryRequest` from `interceptor/request_forwarder.go`. What `Director` makes
of the incoming URL is sent upstream, and sent again while Envoy answers that it could not connect.

The outcomes of the round trips are a parameter: at index `i` stands the outcome of the `i`-th one,
which the proxy's own transport makes if `i` is 0 and the default transport otherwise. As
`httputil.ReverseProxy` does, the response that `ModifyResponse` leaves goes to the client as it is,
and errors go to `ErrorHandler`. Headers are not modelled.
-/

namespace KedaHttp.Interceptor.RequestForwarder

open KedaHttp.Foundation

/-- What can be read from a body, and the error that reading it ends with, if any. -/
structure Body where
  bytes : List UInt8
  failure : Option String
  deriving DecidableEq

namespace Body

/-- A body made of bytes in memory, as by `io.NopCloser(bytes.NewReader(buf))`. -/
def nopCloser (buf : List UInt8) : Body := ⟨buf, none⟩

def readFrom (body : Body) : Except String (List UInt8) :=
  match body.failure with
  | some err => .error err
  | none => .ok body.bytes

end Body

structure HTTPResponse where
  statusCode : ℕ
  body : Body
  deriving DecidableEq

def utf8 (text : String) : List UInt8 := text.toUTF8.toList

def statusServiceUnavailable : ℕ := 503

def upstreamConnectError : List UInt8 :=
  utf8 "upstream connect error or disconnect/reset before headers"

/-- The reply of `ErrorHandler`. -/
def errorHandler (err : String) : HTTPResponse :=
  ⟨502, .nopCloser (utf8 ("error on backend (" ++ err ++ ")"))⟩

/--
The check that `ModifyResponse` and `retryRequest` make of a response: reading a body takes the
bytes out of it, so that the body is made anew. The flag says whether to try again.
-/
def checkResponse (resp : HTTPResponse) : Except String (HTTPResponse × Bool) :=
  if resp.statusCode = statusServiceUnavailable then
    match resp.body.readFrom with
    | .error err => .error err
    | .ok buf => .ok ({ resp with body := .nopCloser buf }, upstreamConnectError.isPrefixOf buf)
  else .ok (resp, false)

/-- The number of round trips that were made, and the seconds slept between them. -/
structure Trips where
  made : ℕ
  slept : ℕ
  deriving DecidableEq

section Forwarding

variable (backend : ℕ → Except String HTTPResponse) (maxRetries : Int)

def retryRequest (resp : HTTPResponse) (attempt : ℕ) (trips : Trips) :
    Except String HTTPResponse × Trips :=
  if maxRetries ≤ attempt then (.ok resp, trips)
  else
    match backend trips.made with
    | .error _ =>
        retryRequest resp (attempt + 1) ⟨trips.made + 1, trips.slept + 2 * (attempt + 1)⟩
    | .ok newResp =>
        match checkResponse newResp with
        | .error err => (.error err, ⟨trips.made + 1, trips.slept + 2 * (attempt + 1)⟩)
        | .ok (newResp, true) =>
            retryRequest newResp (attempt + 1) ⟨trips.made + 1, trips.slept + 2 * (attempt + 1)⟩
        | .ok (newResp, false) => (.ok newResp, ⟨trips.made + 1, trips.slept + 2 * (attempt + 1)⟩)
termination_by (maxRetries - attempt).toNat
decreasing_by all_goals omega

def modifyResponse (resp : HTTPResponse) (trips : Trips) : Except String HTTPResponse × Trips :=
  match checkResponse resp with
  | .error err => (.error err, trips)
  | .ok (resp, true) => retryRequest backend maxRetries resp 0 trips
  | .ok (resp, false) => (.ok resp, trips)

/-- `ServeHTTP` of the proxy that `forwardRequest` sets up. -/
def serveHTTP : HTTPResponse × Trips :=
  match backend 0 with
  | .error err => (errorHandler err, ⟨1, 0⟩)
  | .ok resp =>
      match modifyResponse backend maxRetries resp ⟨1, 0⟩ with
      | (.error err, trips) => (errorHandler err, trips)
      | (.ok resp, trips) => (resp, trips)

end Forwarding

structure UpstreamRequest where
  url : Url
  host : Text
  deriving DecidableEq

def director (r fwdSvcURL : Url) : UpstreamRequest where
  url := { fwdSvcURL with path := r.path, rawQuery := r.rawQuery }
  host := fwdSvcURL.host

/-- The response to the client, for what the backends make of each upstream request. -/
def forwardRequest (roundTrip : UpstreamRequest → ℕ → Except String HTTPResponse)
    (r fwdSvcURL : Url) (maxRetries : Int) : HTTPResponse × Trips :=
  serveHTTP (roundTrip (director r fwdSvcURL)) maxRetries

section Retries

/-- The response is Envoy's, for a request that never reached the service. -/
def HTTPResponse.Retryable (resp : HTTPResponse) : Prop :=
  resp.statusCode = 503 ∧ upstreamConnectError <+: resp.body.bytes

/-- The response is checked and its body cannot be read. -/
def HTTPResponse.Unreadable (resp : HTTPResponse) (err : String) : Prop :=
  resp.statusCode = 503 ∧ resp.body.failure = some err

/-- A check ends in one of three ways, and never alters the response. -/
theorem checkResponse_cases (resp : HTTPResponse) :
    (∃ err, resp.Unreadable err ∧ checkResponse resp = .error err) ∨
      (¬∃ err, resp.Unreadable err) ∧
        (resp.Retryable ∧ checkResponse resp = .ok (resp, true) ∨
          ¬resp.Retryable ∧ checkResponse resp = .ok (resp, false)) := by
  rcases resp with ⟨statusCode, bytes, failure⟩
  simp only [HTTPResponse.Unreadable, HTTPResponse.Retryable, checkResponse,
    statusServiceUnavailable]
  by_cases unavailable : statusCode = 503
  · cases failure with
    | some err => exact .inl ⟨err, ⟨unavailable, rfl⟩, by simp [unavailable, Body.readFrom]⟩
    | none =>
        refine .inr ⟨by simp, ?_⟩
        by_cases starts : upstreamConnectError <+: bytes
        · have flag := List.isPrefixOf_iff_prefix.mpr starts
          refine .inl ⟨⟨unavailable, starts⟩, ?_⟩
          simp [unavailable, Body.readFrom, Body.nopCloser, flag]
        · have flag : upstreamConnectError.isPrefixOf bytes = false := by
            rwa [← Bool.not_eq_true, List.isPrefixOf_iff_prefix]
          refine .inr ⟨fun retryable => starts retryable.2, ?_⟩
          simp [unavailable, Body.readFrom, Body.nopCloser, flag]
  · exact .inr ⟨by simp [unavailable], .inr ⟨by simp [unavailable], by simp [unavailable]⟩⟩

/-- A response with a body that can be read, and that asks for another attempt. -/
def HTTPResponse.AsksRetry (resp : HTTPResponse) : Prop :=
  resp.Retryable ∧ ¬∃ err, resp.Unreadable err

variable (backend : ℕ → Except String HTTPResponse) (maxRetries : Int)

/-- The outcome leads to another attempt, if one is left. An error only does so after a retry. -/
def Continues (attempt : ℕ) : Prop :=
  (∃ resp, backend attempt = .ok resp ∧ resp.AsksRetry) ∨
    attempt ≠ 0 ∧ ∃ err, backend attempt = .error err

/-- The attempts end with the first that does not lead to another, or with the last allowed one. -/
structure Stops (last : ℕ) : Prop where
  bound : (last : Int) ≤ max maxRetries 0
  earlier : ∀ attempt < last, Continues backend attempt
  exhausted : Continues backend last → (last : Int) = max maxRetries 0

/-- The client is told about an error: it gets 502, with the error in the body. -/
structure HTTPResponse.Reports (reply : HTTPResponse) (err : String) : Prop where
  statusCode : reply.statusCode = 502
  bytes : reply.body.bytes = utf8 ("error on backend (" ++ err ++ ")")
  complete : reply.body.failure = none

/-- What the client gets after a number of attempts. -/
inductive Serves (last : ℕ) : HTTPResponse → Prop where
  | failed {reply : HTTPResponse} {err : String} (first : last = 0)
      (outcome : backend 0 = .error err) (reports : reply.Reports err) : Serves last reply
  | unreadable {resp reply : HTTPResponse} {err : String} (outcome : backend last = .ok resp)
      (unreadable : resp.Unreadable err) (reports : reply.Reports err) : Serves last reply
  | final {resp : HTTPResponse} (outcome : backend last = .ok resp)
      (readable : ¬∃ err, resp.Unreadable err) (final : ¬resp.Retryable) : Serves last resp
  | kept {attempt : ℕ} {resp : HTTPResponse} (made : attempt ≤ last)
      (outcome : backend attempt = .ok resp) (asks : resp.AsksRetry)
      (errors : ∀ later, attempt < later → later ≤ last → ∃ err, backend later = .error err) :
      Serves last resp

theorem errorHandler_reports (err : String) : (errorHandler err).Reports err := ⟨rfl, rfl, rfl⟩

variable {backend maxRetries}

theorem Continues.asksRetry {attempt : ℕ} (continues : Continues backend attempt)
    {resp : HTTPResponse} (outcome : backend attempt = .ok resp) : resp.AsksRetry := by
  rcases continues with ⟨other, same, asks⟩ | ⟨_, err, failed⟩
  · rw [outcome, Except.ok.injEq] at same
    exact same ▸ asks
  · rw [outcome] at failed
    contradiction

section Ends

variable {last : ℕ} {resp : HTTPResponse} (bound : (last : Int) ≤ max maxRetries 0)
  (earlier : ∀ attempt < last, Continues backend attempt) (outcome : backend last = .ok resp)

include bound earlier outcome

/-- A response that does not ask for a retry ends the attempts. -/
theorem Stops.of_ok (ends : ¬resp.AsksRetry) : Stops backend maxRetries last :=
  ⟨bound, earlier, fun continues => absurd (continues.asksRetry outcome) ends⟩

theorem stops_of_unreadable {err : String} (unreadable : resp.Unreadable err) :
    Stops backend maxRetries last ∧ Serves backend last (errorHandler err) :=
  ⟨.of_ok bound earlier outcome fun asks => asks.2 ⟨err, unreadable⟩,
    .unreadable outcome unreadable (errorHandler_reports err)⟩

theorem stops_of_final (readable : ¬∃ err, resp.Unreadable err) (final : ¬resp.Retryable) :
    Stops backend maxRetries last ∧ Serves backend last resp :=
  ⟨.of_ok bound earlier outcome fun asks => final asks.1, .final outcome readable final⟩

end Ends

/-- Before each retry, all outcomes have led to the next attempt, and the last response is kept. -/
structure Retrying (backend : ℕ → Except String HTTPResponse) (maxRetries : Int)
    (resp : HTTPResponse) (attempt : ℕ) (trips : Trips) : Prop where
  bound : (attempt : Int) ≤ max maxRetries 0
  trips : trips = ⟨attempt + 1, attempt * (attempt + 1)⟩
  continues : ∀ earlier ≤ attempt, Continues backend earlier
  kept : ∃ received ≤ attempt, backend received = .ok resp ∧ resp.AsksRetry ∧
    ∀ later, received < later → later ≤ attempt → ∃ err, backend later = .error err

namespace Retrying

variable {resp : HTTPResponse} {attempt : ℕ} {trips : Trips}

theorem initial (outcome : backend 0 = .ok resp) (asks : resp.AsksRetry) :
    Retrying backend maxRetries resp 0 ⟨1, 0⟩ where
  bound := le_max_right _ _
  trips := rfl
  continues := by
    intro earlier atMost
    rw [Nat.le_zero.mp atMost]
    exact .inl ⟨resp, outcome, asks⟩
  kept := ⟨0, le_rfl, outcome, asks, by omega⟩

theorem next_trips (retrying : Retrying backend maxRetries resp attempt trips) :
    (⟨trips.made + 1, trips.slept + 2 * (attempt + 1)⟩ : Trips) =
      ⟨attempt + 1 + 1, (attempt + 1) * (attempt + 1 + 1)⟩ := by
  rw [retrying.trips, Trips.mk.injEq]
  refine ⟨rfl, ?_⟩
  rw [← Nat.add_mul, Nat.mul_comm]

theorem continues_succ (retrying : Retrying backend maxRetries resp attempt trips)
    (next : Continues backend (attempt + 1)) :
    ∀ earlier ≤ attempt + 1, Continues backend earlier := by
  intro earlier atMost
  rcases Nat.le_succ_iff.mp atMost with before | rfl
  · exact retrying.continues earlier before
  · exact next

/-- A retry that fails is skipped. -/
theorem error (retrying : Retrying backend maxRetries resp attempt trips)
    (allowed : ¬maxRetries ≤ attempt) {err : String}
    (outcome : backend (attempt + 1) = .error err) :
    Retrying backend maxRetries resp (attempt + 1)
      ⟨trips.made + 1, trips.slept + 2 * (attempt + 1)⟩ where
  bound := by
    push_cast
    omega
  trips := retrying.next_trips
  continues := retrying.continues_succ (.inr ⟨Nat.succ_ne_zero _, err, outcome⟩)
  kept := by
    rcases retrying.kept with ⟨received, atMost, same, asks, errors⟩
    refine ⟨received, Nat.le_succ_of_le atMost, same, asks, ?_⟩
    intro later after within
    rcases Nat.le_succ_iff.mp within with before | rfl
    · exact errors later after before
    · exact ⟨err, outcome⟩

/-- A retry that is answered in the same way replaces the response. -/
theorem replace (retrying : Retrying backend maxRetries resp attempt trips)
    (allowed : ¬maxRetries ≤ attempt) {newResp : HTTPResponse}
    (outcome : backend (attempt + 1) = .ok newResp) (asks : newResp.AsksRetry) :
    Retrying backend maxRetries newResp (attempt + 1)
      ⟨trips.made + 1, trips.slept + 2 * (attempt + 1)⟩ where
  bound := by
    push_cast
    omega
  trips := retrying.next_trips
  continues := retrying.continues_succ (.inl ⟨newResp, outcome, asks⟩)
  kept := ⟨attempt + 1, le_rfl, outcome, asks, by omega⟩

end Retrying

/-- The response for the client, from what `ModifyResponse` leaves. -/
def reply : Except String HTTPResponse → HTTPResponse
  | .error err => errorHandler err
  | .ok resp => resp

theorem exists_of_retryRequest {resp : HTTPResponse} {attempt : ℕ} {trips : Trips}
    (retrying : Retrying backend maxRetries resp attempt trips) :
    ∃ last, Stops backend maxRetries last ∧
      (retryRequest backend maxRetries resp attempt trips).2 = ⟨last + 1, last * (last + 1)⟩ ∧
      Serves backend last (reply (retryRequest backend maxRetries resp attempt trips).1) := by
  -- The recursion is on the retries left, and `Retrying` is what each call finds.
  induction left : (maxRetries - attempt).toNat generalizing resp attempt trips with
  | zero =>
      have exhausted : maxRetries ≤ attempt := by omega
      rw [retryRequest, if_pos exhausted]
      refine ⟨attempt, ⟨retrying.bound, ?_, ?_⟩, retrying.trips, ?_⟩
      · intro earlier before
        exact retrying.continues earlier before.le
      · have bound := retrying.bound
        omega
      · rcases retrying.kept with ⟨received, atMost, outcome, asks, errors⟩
        exact .kept atMost outcome asks errors
  | succ left ih =>
      have allowed : ¬maxRetries ≤ attempt := by omega
      have made : trips.made = attempt + 1 := by rw [retrying.trips]
      have before : ∀ earlier < attempt + 1, Continues backend earlier := fun earlier within =>
        retrying.continues earlier (Nat.lt_succ_iff.mp within)
      have bound : ((attempt + 1 : ℕ) : Int) ≤ max maxRetries 0 := by
        push_cast
        omega
      rw [retryRequest, if_neg allowed, made]
      cases outcome : backend (attempt + 1) with
      | error err =>
          have next := retrying.error allowed outcome
          rw [made] at next
          exact ih next (by omega)
      | ok newResp =>
          rcases checkResponse_cases newResp with ⟨err, unreadable, checked⟩ |
            ⟨readable, ⟨retryable, checked⟩ | ⟨final, checked⟩⟩
          · have ended := stops_of_unreadable bound before outcome unreadable
            simp only [checked]
            exact ⟨attempt + 1, ended.1, made ▸ retrying.next_trips, ended.2⟩
          · have next := retrying.replace allowed outcome ⟨retryable, readable⟩
            rw [made] at next
            simp only [checked]
            exact ih next (by omega)
          · have ended := stops_of_final bound before outcome readable final
            simp only [checked]
            exact ⟨attempt + 1, ended.1, made ▸ retrying.next_trips, ended.2⟩

theorem serveHTTP_of_ok {resp : HTTPResponse} (outcome : backend 0 = .ok resp) :
    serveHTTP backend maxRetries =
      (reply (modifyResponse backend maxRetries resp ⟨1, 0⟩).1,
        (modifyResponse backend maxRetries resp ⟨1, 0⟩).2) := by
  simp only [serveHTTP, outcome]
  rcases modifyResponse backend maxRetries resp ⟨1, 0⟩ with ⟨err | modified, trips⟩ <;> rfl

/--
The attempts end with the first outcome that does not lead to another, after at most `maxRetries`
retries. If the first round trip fails, or the body of an unavailable response cannot be read, the
client gets 502. Otherwise it gets the last response that was received, as the backend sent it, and
errors of retries in between are skipped. The proxy sleeps `n * (n + 1)` seconds for `n` retries.
-/
theorem forwardRequest_serves (roundTrip : UpstreamRequest → ℕ → Except String HTTPResponse)
    (r fwdSvcURL : Url) (maxRetries : Int) :
    ∃ last, Stops (roundTrip (director r fwdSvcURL)) maxRetries last ∧
      (forwardRequest roundTrip r fwdSvcURL maxRetries).2 = ⟨last + 1, last * (last + 1)⟩ ∧
      Serves (roundTrip (director r fwdSvcURL)) last
        (forwardRequest roundTrip r fwdSvcURL maxRetries).1 := by
  rw [forwardRequest]
  generalize roundTrip (director r fwdSvcURL) = backend
  have none : ∀ attempt < 0, Continues backend attempt := by omega
  have bound : ((0 : ℕ) : Int) ≤ max maxRetries 0 := le_max_right _ _
  cases outcome : backend 0 with
  | error err =>
      refine ⟨0, ⟨bound, none, ?_⟩, ?_, ?_⟩
      · rintro (⟨resp, received, _⟩ | ⟨later, _⟩)
        · rw [outcome] at received
          contradiction
        · contradiction
      · simp [serveHTTP, outcome]
      · have replied : serveHTTP backend maxRetries = (errorHandler err, ⟨1, 0⟩) := by
          simp only [serveHTTP, outcome]
        rw [replied]
        exact .failed rfl outcome (errorHandler_reports err)
  | ok resp =>
      rw [serveHTTP_of_ok outcome, modifyResponse]
      rcases checkResponse_cases resp with ⟨err, unreadable, checked⟩ |
        ⟨readable, ⟨retryable, checked⟩ | ⟨final, checked⟩⟩
      · have ended := stops_of_unreadable bound none outcome unreadable
        simp only [checked]
        exact ⟨0, ended.1, rfl, ended.2⟩
      · simp only [checked]
        exact exists_of_retryRequest (.initial outcome ⟨retryable, readable⟩)
      · have ended := stops_of_final bound none outcome readable final
        simp only [checked]
        exact ⟨0, ended.1, rfl, ended.2⟩

/-- Envoy cannot connect, the next attempt fails, and the body of the third breaks off. -/
def sampleBackend : ℕ → Except String HTTPResponse
  | 0 => .ok ⟨503, .nopCloser upstreamConnectError⟩
  | 1 => .error "connection refused"
  | _ => .ok ⟨503, ⟨upstreamConnectError, some "unexpected EOF"⟩⟩

theorem Stops.sampleBackend_eq {last : ℕ} (stops : Stops sampleBackend 5 last) : last = 2 := by
  have first : Continues sampleBackend 0 :=
    .inl ⟨_, rfl, ⟨rfl, List.prefix_rfl⟩, by simp [HTTPResponse.Unreadable, Body.nopCloser]⟩
  have second : Continues sampleBackend 1 := .inr ⟨Nat.one_ne_zero, _, rfl⟩
  have third : ¬Continues sampleBackend 2 := by
    intro continues
    exact (continues.asksRetry rfl).2 ⟨_, rfl, rfl⟩
  rcases Nat.lt_trichotomy last 2 with before | same | later
  · have continues : Continues sampleBackend last := by
      rcases (by omega : last = 0 ∨ last = 1) with rfl | rfl
      · exact first
      · exact second
    have exhausted := stops.exhausted continues
    omega
  · exact same
  · exact absurd (stops.earlier 2 later) third

/-- The client gets 502 after the third attempt, although five retries are allowed. -/
theorem forwardRequest_serves_unreadable :
    let served := forwardRequest (fun _ => sampleBackend) {} {} 5
    served.1.statusCode = 502 ∧ served.2 = ⟨3, 6⟩ := by
  rcases forwardRequest_serves (fun _ => sampleBackend) {} {} 5 with ⟨last, stops, trips, serves⟩
  rw [stops.sampleBackend_eq] at trips serves
  refine ⟨?_, trips⟩
  cases serves with
  | failed _ _ reports => exact reports.statusCode
  | unreadable _ _ reports => exact reports.statusCode
  | final outcome readable _ =>
      rw [← Except.ok.inj outcome] at readable
      exact absurd ⟨_, rfl, rfl⟩ readable
  | @kept attempt resp made outcome asks errors =>
      rcases Nat.lt_or_eq_of_le made with before | rfl
      · rcases errors 2 before le_rfl with ⟨err, failed⟩
        contradiction
      · rw [← Except.ok.inj outcome] at asks
        exact absurd ⟨_, rfl, rfl⟩ asks.2

end Retries

section Target

/-- The URLs that `newForwardingHandler` calls `forwardRequest` with have no path. -/
theorem rawPath_of_forward {lookupAddr : LookupAddr} {routingTable : Routing.Table}
    {waitFunc : ForwardWaitFunc} {r : Request} {target : Routing.Target} {url : Url}
    {isColdStart : String} (admitted : AdmittedHost r.host) (service : DNSLabel target.service)
    (ns : DNSLabel target.ns)
    (forwards : newForwardingHandler Url.parse lookupAddr routingTable waitFunc
      (serviceURL Url.parse) r = .forward target url isColdStart) :
    url.path = [] ∧ url.rawPath = [] := by
  rcases exists_of_forward Url.parse forwards with ⟨_, _, _, _, _, located⟩
  rcases exists_of_targetURL admitted service ns located with ⟨_, _, _, rfl⟩
  exact ⟨rfl, rfl⟩

/--
The upstream request has the query of the incoming one. It has its path in the same encoding exactly
if the path was received in the default encoding, or in one that is not valid and that the incoming
URL does not keep either, or is the asterisk of a request for the server.
-/
theorem upstream_target_eq_iff {base incoming fwdSvcURL : Url} {received : Text}
    (parsed : base.setPath received = .ok incoming) (noRawPath : fwdSvcURL.rawPath = []) :
    ((director incoming fwdSvcURL).url.escapedPath = incoming.escapedPath ∧
      (director incoming fwdSvcURL).url.rawQuery = incoming.rawQuery) ↔
      received = escape .path incoming.path ∨ validEncoded .path received = false ∨
        received = ['*'] := by
  have upstream : (director incoming fwdSvcURL).url.escapedPath =
      if incoming.path = ['*'] then ['*'] else escape .path incoming.path :=
    Url.escapedPath_of_rawPath_nil noRawPath
  have query : (director incoming fwdSvcURL).url.rawQuery = incoming.rawQuery := rfl
  rw [and_iff_left query, upstream]
  rcases Url.of_setPath parsed with ⟨decoded, rawPath⟩
  by_cases default : received = escape .path incoming.path
  · rw [if_pos default] at rawPath
    rw [Url.escapedPath_of_rawPath_nil rawPath]
    simp [default]
  · rw [Url.escapedPath_of_setPath parsed default]
    by_cases valid : validEncoded .path received = true
    · rw [if_pos valid]
      simp only [default, valid, false_or, Bool.true_eq_false]
      constructor
      · intro same
        split at same
        · exact same.symm
        · exact absurd same.symm default
      · rintro rfl
        have asterisk : unescape .path ['*'] = .ok ['*'] := by decide
        rw [asterisk, Except.ok.injEq] at decoded
        rw [if_pos decoded.symm]
    · simp [valid]

def sampleSvcURL : Url := { scheme := "http".toList, host := "app.dp-a:8080".toList }

/-- A space, which the default encoding escapes, is passed on as it was received. -/
theorem upstream_target_eq_iff_space : ∃ incoming : Url,
    ({ rawQuery := "q=1".toList } : Url).setPath "/a%20b".toList = .ok incoming ∧
      (director incoming sampleSvcURL).url.escapedPath = incoming.escapedPath ∧
      (director incoming sampleSvcURL).url.rawQuery = incoming.rawQuery := by
  have parsed : ({ rawQuery := "q=1".toList } : Url).setPath "/a%20b".toList =
      .ok { path := "/a b".toList, rawQuery := "q=1".toList } := by decide +kernel
  have default : "/a%20b".toList = escape .path "/a b".toList := by decide
  exact ⟨_, parsed, (upstream_target_eq_iff parsed rfl).mpr (.inl default)⟩

/-- A slash that the client escaped reaches the service as a separator. -/
theorem not_upstream_target_eq_of_slash :
    ¬∀ (base incoming fwdSvcURL : Url) (received : Text), base.setPath received = .ok incoming →
      fwdSvcURL.rawPath = [] → validEncoded .path received = true →
      (director incoming fwdSvcURL).url.escapedPath = incoming.escapedPath := by
  intro preserves
  have parsed : ({} : Url).setPath "/a%2Fb".toList =
      .ok { path := "/a/b".toList, rawPath := "/a%2Fb".toList } := by decide +kernel
  have same := preserves {} _ sampleSvcURL _ parsed rfl (by decide)
  revert same
  decide +kernel

end Target

end KedaHttp.Interceptor.RequestForwarder
