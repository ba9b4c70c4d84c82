import KedaHttp.Interceptor.Counting
import KedaHttp.Interceptor.Crowd
import KedaHttp.Interceptor.Forwarding

/-!
# What the cold start header tells

`newForwardingHandler` adds the header `X-KEDA-HTTP-Cold-Start` to a response, with the value
`true` if the wait function has returned 0. This number does not mean the same everywhere. A call
that finds replicas in the cache returns how many, while one that has been woken by an event returns
0, whatever the event says. So the header is about the moment in which the call read the cache, and
not about the moment of the response: it is `true` if and only if the deployment had no replicas
then. This holds for each of any number of calls, in whatever order they and the cache go on, and
whatever the broadcaster does.
-/

namespace KedaHttp.Interceptor.Crowd

open KedaHttp.Foundation
open KedaHttp.Interceptor.ForwardWait (Deployment WatchEvent deploymentCanServe)
open KedaHttp.Routing

variable {n : ℕ} {b : Broadcaster (Fin n) WatchEvent} {targets : Fin n → String × String}
  {state next : State b} {call : Fin n}

/-- The call reads the cache, and its deployment has no replicas that are ready. -/
def coldRead (targets : Fin n → String × String) (call : Fin n) (state : State b) :
    Event b → Bool
  | .get reader =>
      decide (reader = call) &&
        (state.store.lookup (targets call)).any fun depl => !deploymentCanServe depl
  | .put _ | .remove _ _ _ | .resync _ _ | .handle | .move _ | .watch _ _ | .receive _
  | .cancel _ _ => false

section Runs

/-- One of the moves of a run is a cold read of the call. -/
def HasColdRead (targets : Fin n → String × String) (call : Fin n)
    (history : List (Move (State b) (Event b))) : Prop :=
  ∃ move ∈ history, coldRead targets call move.source move.event = true

/-- What the phase of a call tells about the reads that were made. -/
def Tells (read : Prop) : Phase → Prop
  | .idle | .calling => ¬read
  | .waiting => read
  | .returned (.ok replicas) => replicas = 0 ↔ read
  | .returned (.error _) => True

theorem coldRead_of_ne {event : Event b} (apart : event ≠ .get call) :
    coldRead targets call state event = false := by
  cases event with
  | get reader =>
      have differs : reader ≠ call := by
        rintro rfl
        exact apart rfl
      simp [coldRead, differs]
  | put | remove | resync | handle | move | watch | receive | cancel => rfl

theorem readyReplicas_ne_zero {depl : Deployment} (serves : deploymentCanServe depl = true) :
    depl.readyReplicas.toInt ≠ 0 := by
  have positive := Int32.lt_iff_toInt_lt.mp (of_decide_eq_true serves)
  rw [Int32.toInt_zero] at positive
  omega

theorem Advances.tells {event : Event b} {phase phase' : Phase}
    (advances : Advances targets state call event phase phase') {read : Prop}
    (tells : Tells read phase) :
    Tells (coldRead targets call state event = true ∨ read) phase' := by
  cases advances with
  | stays apart => simpa [coldRead_of_ne apart] using tells
  | calls => simpa [Tells, coldRead] using tells
  | refused err => trivial
  | finds found serves =>
      have ready := readyReplicas_ne_zero serves
      simpa [Tells, coldRead, found, serves, ready] using tells
  | waits found idle => simp [Tells, coldRead, found, idle]
  | misses missing err => trivial
  | wakes => simpa [Tells, coldRead] using tells
  | givesUp err message => trivial

theorem tells_of_run {store : GoMap (String × String) Deployment} {notifications : List WatchEvent}
    {history : List (Move (State b) (Event b))}
    (run : Run (StepOf (step targets)) (State.initial store notifications) history state)
    (call : Fin n) : Tells (HasColdRead targets call history) (state.phases call) := by
  induction run with
  | start => simp [State.initial, Tells, HasColdRead]
  | @move history source target event earlier stepped ih =>
      have tells := (advances_of_step stepped call).tells ih
      have grows : HasColdRead targets call (⟨source, event, target⟩ :: history) ↔
          coldRead targets call source event = true ∨ HasColdRead targets call history := by
        simp [HasColdRead]
      rw [← grows] at tells
      exact tells

end Runs

section Header

variable {URL : Type} {parse : String → Except String URL} {lookupAddr : LookupAddr}
  {routingTable : Table} {waitFunc : ForwardWaitFunc} {targetSvcURL : Target → Except String URL}
  {r : Request} {target : Target} {url : URL} {isColdStart : String}

theorem isColdStart_of_forward
    (forwards : newForwardingHandler parse lookupAddr routingTable waitFunc targetSvcURL r =
      .forward target url isColdStart) :
    ∃ replicas, waitFunc target.ns target.deployment = .ok replicas ∧
      isColdStart = if replicas = 0 then "true" else "false" := by
  rcases exists_of_forward parse forwards with ⟨key, replicas, derived, looked, served, located⟩
  simp only [newForwardingHandler, derived, looked, served, located,
    Response.forward.injEq] at forwards
  exact ⟨replicas, served, forwards.2.2.symm⟩

end Header

/--
The wait function of a handler is one of any number of calls, and has returned. If the handler then
forwards its request, the cold start header is `true` if and only if the deployment had no replicas
that were ready when the call read the cache, and `false` otherwise.
-/
theorem isColdStart_iff {URL : Type} {parse : String → Except String URL}
    {lookupAddr : LookupAddr} {routingTable : Table} {waitFunc : ForwardWaitFunc}
    {targetSvcURL : Target → Except String URL} {r : Request} {target : Target} {url : URL}
    {isColdStart : String} {store : GoMap (String × String) Deployment}
    {notifications : List WatchEvent} {history : List (Move (State b) (Event b))}
    {result : Except String Int}
    (run : Run (StepOf (step targets)) (State.initial store notifications) history state)
    (returned : state.phases call = .returned result)
    (waits : waitFunc target.ns target.deployment = result)
    (forwards : newForwardingHandler parse lookupAddr routingTable waitFunc targetSvcURL r =
      .forward target url isColdStart) :
    (isColdStart = "true" ↔ HasColdRead targets call history) ∧
      (isColdStart = "false" ↔ ¬HasColdRead targets call history) := by
  rcases isColdStart_of_forward forwards with ⟨replicas, served, header⟩
  have tells := tells_of_run run call
  rw [returned, ← waits, served] at tells
  change replicas = 0 ↔ HasColdRead targets call history at tells
  rw [header, ← tells]
  by_cases zero : replicas = 0
  · simp [zero]
  · simp [zero]

/-- The deployment has two replicas by now, and the request that has waited for them is marked. -/
theorem isColdStart_iff_woken :
    let table : Table := ⟨(∅ : GoMap String Target).insert "app.dp-a"
      ⟨"svc", 80, "app", "dp-a", 100⟩⟩
    ∃ (history : List (Move (State (sampleBcaster 1)) (Event (sampleBcaster 1))))
      (state : State (sampleBcaster 1)) (result : Except String Int),
      Run (StepOf (step fun _ => ("dp-a", "app"))) (State.initial sampleStore []) history state ∧
      state.phases 0 = .returned result ∧
      newForwardingHandler (fun _ => .ok ()) Counting.sampleLookup table (fun _ _ => result)
        (fun _ => .ok ()) Counting.sampleRequest =
          .forward ⟨"svc", 80, "app", "dp-a", 100⟩ () "true" ∧
      HasColdRead (fun _ => ("dp-a", "app")) 0 history := by
  intro table
  rcases Run.exists_of_record (step fun _ : Fin 1 => ("dp-a", "app"))
    (State.initial sampleStore [] : State (sampleBcaster 1))
    [.watch 0 none, .move .push, .move .run, .move (.attach 0), .get 0,
      .put ⟨"dp-a", "app", 2⟩, .handle, .move .push, .move (.take [0]), .move .hand,
      .move (.filter 0), .receive 0]
    (fun reached => decide (reached.2.phases 0 = .returned (.ok 0))) (by decide +kernel) with
    ⟨history, state, run, passed⟩
  have returned := of_decide_eq_true passed
  have forwards : newForwardingHandler (fun _ => .ok ()) Counting.sampleLookup table
      (fun _ _ => .ok 0) (fun _ => .ok ()) Counting.sampleRequest =
        .forward ⟨"svc", 80, "app", "dp-a", 100⟩ () "true" := by decide +kernel
  refine ⟨history, state, .ok 0, run, returned, forwards, ?_⟩
  exact (isColdStart_iff run returned rfl forwards).1.mp rfl

end KedaHttp.Interceptor.Crowd
