import KedaHttp.Foundation.Transition
import KedaHttp.Queue.Memory
import KedaHttp.Interceptor.Host

/-!
# Requests passing through the counting middleware

`countMiddleware` from `interceptor/middleware.go`, run by any number of requests at
once beside the loop that `main` starts with `go q.ProcessPostponedResizes(..)`.

Each request is a small program whose every access to the queue is one atomic step,
because the queue's methods hold its lock. A request first derives its key, or is
answered with 400. It then increments the key's count and runs the inner handler. When
the handler returns or panics, the deferred function reads the count in one step and
acts on what it read in a later one. The enforcer alternates between a scan and the
section that applies what the scan collected, and keeps the collected hosts in between.

A schedule decides which request moves next, when the enforcer moves, what the resolver
answers, what the clock shows, and in which order the scan visits the map.
-/

namespace KedaHttp.Interceptor.Counting

open KedaHttp.Foundation KedaHttp.Queue

/-- An HTTP answer written by a handler of the interceptor itself. -/
structure Response where
  status : ℕ
  body : String
  deriving DecidableEq, Repr

/-- How the inner handler gives control back to the middleware. -/
inductive Outcome where
  | returned
  | panicked
  deriving DecidableEq, Repr

/-- How far a request has got in `countMiddleware`. -/
inductive Phase where
  | rejected (response : Response)
  | received (host : String)
  | serving (host : String)
  | leaving (host : String)
  | postponing (host : String)
  | decrementing (host : String)
  | finished (host : String)
  deriving DecidableEq, Repr

namespace Phase

/-- The key of a request that has one. -/
def host? : Phase → Option String
  | rejected _ => none
  | received host | serving host | leaving host | postponing host | decrementing host
  | finished host => some host

/-- The request has incremented the count of `host` and not finished its deferred function. -/
def inFlightFor (host : String) : Phase → Bool
  | serving key | leaving key | postponing key | decrementing key => key == host
  | rejected _ | received _ | finished _ => false

/-- The request has read a count of 1 and is about to postpone its decrement. -/
def postponingFor (host : String) : Phase → Bool
  | postponing key => key == host
  | _ => false

end Phase

/-- One atomic step of a request after its arrival. -/
inductive Action where
  | increment
  | serve (outcome : Outcome)
  | check
  | complete (now : Time)
  deriving DecidableEq, Repr

inductive Event where
  | arrive (request : Request) (lookupAddr : LookupAddr)
  | act (index : ℕ) (action : Action)
  | scan (now : String → Time) (order : List (String × Time))
  | applyCollected

structure State where
  queue : Memory
  requests : List Phase
  collected : Option (List String)

/-- The middleware up to its first access to the queue. -/
def receive (lookupAddr : LookupAddr) (request : Request) : Phase :=
  match getHost lookupAddr request with
  | .error _ => .rejected ⟨400, "Host not found, not forwarding request"⟩
  | .ok host => .received host

/-- The middleware from its first access to the queue on. -/
def advance (queue : Memory) : Phase → Action → Option (Memory × Phase)
  | .received host, .increment => some (queue.resize host 1, .serving host)
  | .serving host, .serve _ => some (queue, .leaving host)
  | .leaving host, .check =>
      if queue.shouldPostponeResize && queue.count host == 1 then some (queue, .postponing host)
      else some (queue, .decrementing host)
  | .postponing host, .complete now =>
      some (queue.postponeResize host (now + queue.postponeDuration), .finished host)
  | .decrementing host, .complete _ => some (queue.resize host (-1), .finished host)
  | _, _ => none

namespace State

/-- An interceptor that has just started. -/
def initial (postponeDuration : Time) (shouldPostpone : Bool) : State where
  queue := newMemory postponeDuration shouldPostpone
  requests := []
  collected := none

/-- The number of requests for `host` in flight. -/
def inFlight (state : State) (host : String) : ℕ :=
  state.requests.countP (Phase.inFlightFor host)

end State

def step (state : State) : Event → Option State
  | .arrive request lookupAddr =>
      some { state with requests := state.requests ++ [receive lookupAddr request] }
  | .act index action =>
      match state.requests[index]? with
      | none => none
      | some phase =>
          match advance state.queue phase action with
          | none => none
          | some (queue, next) =>
              some { state with queue := queue, requests := state.requests.set index next }
  | .scan now order =>
      if state.collected = none ∧ state.queue.postponedResizes.Ranges order then
        some { state with collected := some (state.queue.hostsToModify now order) }
      else none
  | .applyCollected =>
      match state.collected with
      | none => none
      | some hosts =>
          some { state with queue := state.queue.applyResizes hosts, collected := none }

/-- The key of the request that an event moves, if it moves a request that has one. -/
def Event.host? (state : State) : Event → Option String
  | .arrive request lookupAddr => (receive lookupAddr request).host?
  | .act index _ => state.requests[index]?.bind Phase.host?
  | .scan _ _ | .applyCollected => none

/-- The transitions of `advance`, with what the deferred function read at each branch. -/
inductive Advances (queue : Memory) : Phase → Action → Memory → Phase → Prop where
  | increment (host : String) :
      Advances queue (.received host) .increment (queue.resize host 1) (.serving host)
  | serve (host : String) (outcome : Outcome) :
      Advances queue (.serving host) (.serve outcome) queue (.leaving host)
  | checkLast (host : String) (enabled : queue.shouldPostpone = true)
      (last : queue.count host = 1) :
      Advances queue (.leaving host) .check queue (.postponing host)
  | checkOther (host : String) (other : queue.shouldPostpone = true → queue.count host ≠ 1) :
      Advances queue (.leaving host) .check queue (.decrementing host)
  | postpone (host : String) (now : Time) :
      Advances queue (.postponing host) (.complete now)
        (queue.postponeResize host (now + queue.postponeDuration)) (.finished host)
  | decrement (host : String) (now : Time) :
      Advances queue (.decrementing host) (.complete now) (queue.resize host (-1))
        (.finished host)

theorem advances_of_advance {queue queue' : Memory} {phase phase' : Phase} {action : Action}
    (advanced : advance queue phase action = some (queue', phase')) :
    Advances queue phase action queue' phase' := by
  simp only [advance] at advanced
  split at advanced
  · simp only [Option.some.injEq, Prod.mk.injEq] at advanced
    rcases advanced with ⟨rfl, rfl⟩
    exact .increment _
  · simp only [Option.some.injEq, Prod.mk.injEq] at advanced
    rcases advanced with ⟨rfl, rfl⟩
    exact .serve _ _
  · split at advanced
    · next last =>
        simp only [Option.some.injEq, Prod.mk.injEq] at advanced
        rcases advanced with ⟨rfl, rfl⟩
        simp only [Memory.shouldPostponeResize, Bool.and_eq_true, beq_iff_eq] at last
        exact .checkLast _ last.1 last.2
    · next notLast =>
        simp only [Option.some.injEq, Prod.mk.injEq] at advanced
        rcases advanced with ⟨rfl, rfl⟩
        simp only [Memory.shouldPostponeResize, Bool.and_eq_true, beq_iff_eq, not_and] at notLast
        exact .checkOther _ notLast
  · simp only [Option.some.injEq, Prod.mk.injEq] at advanced
    rcases advanced with ⟨rfl, rfl⟩
    exact .postpone _ _
  · simp only [Option.some.injEq, Prod.mk.injEq] at advanced
    rcases advanced with ⟨rfl, rfl⟩
    exact .decrement _ _
  · simp at advanced

namespace Advances

variable {queue queue' : Memory} {phase phase' : Phase} {action : Action}

/--
The ledger of one step: a count moves with its requests in flight, except that a request
completing through the postpone branch leaves its unit behind.
-/
theorem count_add (advances : Advances queue phase action queue' phase') (host : String) :
    queue'.count host + (phase.inFlightFor host).toNat =
      queue.count host + (phase'.inFlightFor host).toNat + (phase.postponingFor host).toNat := by
  cases advances with
  | increment key =>
      rw [Memory.count_resize]
      by_cases same : host = key
      · simp [Phase.inFlightFor, Phase.postponingFor, same]
      · simp [Phase.inFlightFor, Phase.postponingFor, same, beq_false_of_ne (Ne.symm same)]
  | serve key outcome => simp [Phase.inFlightFor, Phase.postponingFor]
  | checkLast key enabled last => simp [Phase.inFlightFor, Phase.postponingFor]
  | checkOther key other => simp [Phase.inFlightFor, Phase.postponingFor]
  | postpone key now => simp [Phase.inFlightFor, Phase.postponingFor]
  | decrement key now =>
      rw [Memory.count_resize]
      by_cases same : host = key
      · simp [Phase.inFlightFor, Phase.postponingFor, same]
      · simp [Phase.inFlightFor, Phase.postponingFor, same, beq_false_of_ne (Ne.symm same)]

/-- Only a request completing through the postpone branch writes a postponed entry. -/
theorem mem_postponedResizes (advances : Advances queue phase action queue' phase')
    (host : String) :
    host ∈ queue'.postponedResizes ↔
      host ∈ queue.postponedResizes ∨ phase.postponingFor host = true := by
  cases advances with
  | postpone key now =>
      rw [Memory.mem_postponedResizes_postponeResize]
      simp only [Phase.postponingFor, beq_iff_eq]
      tauto
  | _ => simp [Phase.postponingFor]

theorem shouldPostpone_eq (advances : Advances queue phase action queue' phase') :
    queue'.shouldPostpone = queue.shouldPostpone := by
  cases advances <;> rfl

/-- A request enters the postpone branch only after reading a count of 1. -/
theorem leaving_of_postponing (advances : Advances queue phase action queue' phase')
    (host : String) (postponing : phase'.postponingFor host = true) :
    phase = .leaving host ∧ queue.shouldPostpone = true ∧ queue.count host = 1 := by
  cases advances with
  | checkLast key enabled last =>
      simp only [Phase.postponingFor, beq_iff_eq] at postponing
      subst postponing
      exact ⟨rfl, enabled, last⟩
  | _ => simp [Phase.postponingFor] at postponing

/-- A step of a request leaves the counts of all hosts but its own alone. -/
theorem count_of_host?_ne (advances : Advances queue phase action queue' phase') {host : String}
    (other : phase.host? ≠ some host) : queue'.count host = queue.count host := by
  cases advances with
  | increment key =>
      have differs : host ≠ key := fun same => other (by simp [Phase.host?, same])
      simp [Memory.count_resize, differs]
  | decrement key now =>
      have differs : host ≠ key := fun same => other (by simp [Phase.host?, same])
      simp [Memory.count_resize, differs]
  | _ => rfl

end Advances

section Inversion

variable {state next : State}

theorem step_act {index : ℕ} {action : Action}
    (stepped : step state (.act index action) = some next) :
    ∃ phase phase' queue, state.requests[index]? = some phase ∧
      Advances state.queue phase action queue phase' ∧
      next = { state with queue := queue, requests := state.requests.set index phase' } := by
  simp only [step] at stepped
  split at stepped
  · simp at stepped
  · next phase found =>
      split at stepped
      · simp at stepped
      · next queue phase' advanced =>
          refine ⟨phase, phase', queue, found, advances_of_advance advanced, ?_⟩
          simpa using stepped.symm

theorem step_arrive {request : Request} {lookupAddr : LookupAddr}
    (stepped : step state (.arrive request lookupAddr) = some next) :
    next = { state with requests := state.requests ++ [receive lookupAddr request] } := by
  simpa [step] using stepped.symm

theorem step_scan {now : String → Time} {order : List (String × Time)}
    (stepped : step state (.scan now order) = some next) :
    state.collected = none ∧ state.queue.postponedResizes.Ranges order ∧
      next = { state with collected := some (state.queue.hostsToModify now order) } := by
  simp only [step] at stepped
  split at stepped
  · next enabled => exact ⟨enabled.1, enabled.2, by simpa using stepped.symm⟩
  · simp at stepped

theorem step_applyCollected (stepped : step state .applyCollected = some next) :
    ∃ hosts, state.collected = some hosts ∧
      next = { state with queue := state.queue.applyResizes hosts, collected := none } := by
  simp only [step] at stepped
  split at stepped
  · simp at stepped
  · next hosts collected => exact ⟨hosts, collected, by simpa using stepped.symm⟩

end Inversion

section InFlight

/-- Replacing one entry of a list moves a count by what the two entries contribute to it. -/
theorem countP_set_add {requests : List Phase} {index : ℕ} {phase : Phase} (phase' : Phase)
    (property : Phase → Bool) (found : requests[index]? = some phase) :
    (requests.set index phase').countP property + (property phase).toNat =
      requests.countP property + (property phase').toNat := by
  rcases List.getElem?_eq_some_iff.mp found with ⟨bound, rfl⟩
  have positive : (property requests[index]).toNat ≤ requests.countP property := by
    cases holds : property requests[index] with
    | false => simp
    | true =>
        have := List.countP_pos_iff.mpr ⟨_, List.getElem_mem bound, holds⟩
        simpa using this
  rw [List.countP_set bound]
  cases holds : property requests[index] <;> cases property phase' <;>
    simp only [holds, Bool.toNat_true, Bool.toNat_false] at positive ⊢ <;> simp <;> omega

@[simp]
theorem inFlightFor_receive (lookupAddr : LookupAddr) (request : Request) (host : String) :
    (receive lookupAddr request).inFlightFor host = false := by
  simp only [receive]
  split <;> rfl

@[simp]
theorem postponingFor_receive (lookupAddr : LookupAddr) (request : Request) (host : String) :
    (receive lookupAddr request).postponingFor host = false := by
  simp only [receive]
  split <;> rfl

/-- A request that is about to postpone is in flight, apart from any other in flight. -/
theorem postponing_add_one_le_inFlight {requests : List Phase} {index : ℕ} {host : String}
    (found : requests[index]? = some (.leaving host)) :
    requests.countP (Phase.postponingFor host) + 1 ≤
      requests.countP (Phase.inFlightFor host) := by
  -- Were the leaving request to postpone, it would still be one of those in flight.
  have grows := countP_set_add (.postponing host) (Phase.postponingFor host) found
  have stays := countP_set_add (.postponing host) (Phase.inFlightFor host) found
  have included : (requests.set index (.postponing host)).countP (Phase.postponingFor host) ≤
      (requests.set index (.postponing host)).countP (Phase.inFlightFor host) := by
    apply List.countP_mono_left
    intro phase _ postponing
    cases phase <;> simp_all [Phase.postponingFor, Phase.inFlightFor]
  simp [Phase.postponingFor, Phase.inFlightFor] at grows stays
  omega

end InFlight

section Ledger

/--
The count of a host is made up of its requests in flight and of the units that requests have left
behind, and at most one request is about to leave a unit or has left one.
-/
structure Ledger (state : State) (host : String) (units : ℕ) : Prop where
  count : state.queue.count host = state.inFlight host + units
  single : state.requests.countP (Phase.postponingFor host) + units ≤ 1

variable {state : State} {host : String} {units : ℕ}

theorem Ledger.arrive (ledger : Ledger state host units) (lookupAddr : LookupAddr)
    (request : Request) :
    Ledger { state with requests := state.requests ++ [receive lookupAddr request] } host
      units where
  count := by simpa [State.inFlight] using ledger.count
  single := by simpa using ledger.single

/-- A request's own step leaves a unit behind only on completing through the postpone branch. -/
theorem Ledger.act (ledger : Ledger state host units) {index : ℕ} {phase phase' : Phase}
    {action : Action} {queue : Memory} (found : state.requests[index]? = some phase)
    (advances : Advances state.queue phase action queue phase') :
    Ledger { state with queue := queue, requests := state.requests.set index phase' } host
      (units + (phase.postponingFor host).toNat) := by
  have count := ledger.count
  have single := ledger.single
  constructor
  · have moved := countP_set_add phase' (Phase.inFlightFor host) found
    have added := advances.count_add host
    simp only [State.inFlight] at count ⊢
    push_cast
    omega
  · have moved := countP_set_add phase' (Phase.postponingFor host) found
    cases postponing : phase'.postponingFor host with
    | false =>
        rw [postponing, Bool.toNat_false] at moved
        simp only
        omega
    | true =>
        -- The request has just read a count of 1 while being in flight itself.
        rcases advances.leaving_of_postponing host postponing with ⟨rfl, _, last⟩
        have others := postponing_add_one_le_inFlight found
        rw [postponing] at moved
        simp only [State.inFlight, Phase.postponingFor, Bool.toNat_true, Bool.toNat_false]
          at count moved ⊢
        omega

end Ledger

section Samples

/-- A request from a pod of the user namespace `dp-a`, for its service `app`. -/
def sampleRequest : Request := ⟨"10.0.0.7:41234", "app"⟩

def sampleLookup : LookupAddr := fun _ => .ok ["10-0-0-7.web.dp-a.svc.cluster.local."]

example : getHost sampleLookup sampleRequest = .ok "app.dp-a" := by decide

end Samples

end KedaHttp.Interceptor.Counting
