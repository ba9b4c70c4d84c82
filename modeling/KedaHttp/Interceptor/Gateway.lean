import KedaHttp.Interceptor.Accounting
import KedaHttp.Interceptor.CrowdProgress
import KedaHttp.Routing.Table
import Mathlib.Algebra.Order.Ring.Nat

/-!
# Requests that wait are counted

An interceptor as a whole. `countMiddleware` runs around the forwarding handler, and the handler
calls the forward wait function before it forwards a request. So the queue of `Counting` and the
deployment cache of `Crowd` run side by side, with the handlers between them. While its request is
being served, a handler derives the key of the request once more, looks it up in the routing table,
and calls the wait function for the deployment that it has found. It does not return before the call
does.

The resolver need not answer the handler as it has answered the middleware, so that the key under
which a request is counted and the key of its deployment may differ. And the routing table may be
replaced at any time. The requests that wait are numbered like their calls.
-/

namespace KedaHttp.Interceptor.Gateway

open KedaHttp.Foundation
open KedaHttp.Interceptor.ForwardWait (Deployment WatchEvent)
open KedaHttp.Queue
open KedaHttp.Routing

variable {n : ℕ}

structure State (b : Broadcaster (Fin n) WatchEvent) where
  counting : Counting.State
  /-- The requests, in the order in which the middleware has got them. -/
  arrivals : List Request
  routingTable : Table
  /-- The keys that handlers have derived and found in the routing table. -/
  keys : Fin n → Option String
  crowd : Crowd.State b

inductive Event (b : Broadcaster (Fin n) WatchEvent) where
  | request (event : Counting.Event)
  | replace (routingTable : Table)
  /-- A handler looks for its target, and finds one. -/
  | route (call : Fin n) (lookupAddr : LookupAddr)
  | wait (event : Crowd.Event b)

variable {b : Broadcaster (Fin n) WatchEvent}

def State.initial (postponeDuration : Time) (shouldPostpone : Bool) (routingTable : Table)
    (store : GoMap (String × String) Deployment) (notifications : List WatchEvent) : State b where
  counting := .initial postponeDuration shouldPostpone
  arrivals := []
  routingTable := routingTable
  keys := fun _ => none
  crowd := .initial store notifications

/-- The wait function has been called, and has not returned. -/
def underWay : Crowd.Phase → Bool
  | .calling | .waiting => true
  | .idle | .returned _ => false

/-- The key of a request whose inner handler runs. -/
def servedHost? : Counting.Phase → Option String
  | .serving host => some host
  | .rejected _ | .received _ | .leaving _ | .postponing _ | .decrementing _ | .finished _ => none

/-- The routing table leads from the key to the deployment. -/
def leadsTo (routingTable : Table) (target : String × String) (key : String) : Bool :=
  match routingTable.lookup key with
  | .ok found => decide ((found.ns, found.deployment) = target)
  | .error _ => false

section Step

variable (targets : Fin n → String × String)

/-- What the handler of a request finds. It replies to the client if there is no key or target. -/
def routedKey? (state : State b) (call : Fin n) (lookupAddr : LookupAddr) : Option String :=
  state.arrivals[call.val]?.bind fun request =>
    (getHost lookupAddr request).toOption.filter (leadsTo state.routingTable (targets call))

/-- The requests that have come in, after a step of the middleware. -/
def arrivalsAfter (arrivals : List Request) : Counting.Event → List Request
  | .arrive request _ => arrivals ++ [request]
  | .act _ _ | .scan _ _ | .applyCollected => arrivals

def admits (state : State b) : Event b → Bool
  | .request (.act index (.serve _)) =>
      -- The handler is not in the wait function any more.
      decide (∀ call : Fin n, call.val = index → underWay (state.crowd.phases call) = false)
  | .route call _ =>
      (state.counting.requests[call.val]?.bind servedHost?).isSome && (state.keys call).isNone
  | .wait (.watch call _) =>
      (state.counting.requests[call.val]?.bind servedHost?).isSome && (state.keys call).isSome
  | _ => true

def step (state : State b) (event : Event b) : Option (State b) :=
  if admits state event then
    match event with
    | .request event =>
        (Counting.step state.counting event).map fun counting =>
          { state with counting := counting, arrivals := arrivalsAfter state.arrivals event }
    | .replace routingTable => some { state with routingTable := routingTable }
    | .route call lookupAddr =>
        (routedKey? targets state call lookupAddr).map fun key =>
          { state with keys := Function.update state.keys call (some key) }
    | .wait event =>
        (Crowd.step targets state.crowd event).map fun crowd => { state with crowd := crowd }
  else none

end Step

section Inversion

variable {targets : Fin n → String × String} {state next : State b}

theorem step_request {event : Counting.Event}
    (stepped : step targets state (.request event) = some next) :
    admits state (.request event) = true ∧ ∃ counting,
      Counting.step state.counting event = some counting ∧
        next = { state with
          counting := counting, arrivals := arrivalsAfter state.arrivals event } := by
  simp only [step] at stepped
  split at stepped
  · next admitted =>
      rcases Option.map_eq_some_iff.mp stepped with ⟨counting, moved, rfl⟩
      exact ⟨admitted, counting, moved, rfl⟩
  · simp at stepped

theorem step_replace {routingTable : Table}
    (stepped : step targets state (.replace routingTable) = some next) :
    next = { state with routingTable := routingTable } :=
  (Option.some.inj stepped).symm

theorem step_route {call : Fin n} {lookupAddr : LookupAddr}
    (stepped : step targets state (.route call lookupAddr) = some next) :
    ∃ request key, state.arrivals[call.val]? = some request ∧
      getHost lookupAddr request = .ok key ∧
      leadsTo state.routingTable (targets call) key = true ∧ state.keys call = none ∧
      next = { state with keys := Function.update state.keys call (some key) } := by
  simp only [step] at stepped
  split at stepped
  · next admitted =>
      rcases Option.map_eq_some_iff.mp stepped with ⟨key, routed, rfl⟩
      simp only [admits, Bool.and_eq_true, Option.isNone_iff_eq_none] at admitted
      simp only [routedKey?, Option.bind_eq_some_iff, Option.filter_eq_some_iff] at routed
      rcases routed with ⟨request, arrived, derived, leads⟩
      cases got : getHost lookupAddr request with
      | error err => simp [got, Except.toOption] at derived
      | ok found =>
          simp only [got, Except.toOption, Option.some.injEq] at derived
          exact ⟨request, key, arrived, derived ▸ got, leads, admitted.2, rfl⟩
  · simp at stepped

theorem step_wait {event : Crowd.Event b}
    (stepped : step targets state (.wait event) = some next) :
    admits state (.wait event) = true ∧ ∃ crowd,
      Crowd.step targets state.crowd event = some crowd ∧ next = { state with crowd := crowd } := by
  simp only [step] at stepped
  split at stepped
  · next admitted =>
      rcases Option.map_eq_some_iff.mp stepped with ⟨crowd, moved, rfl⟩
      exact ⟨admitted, crowd, moved, rfl⟩
  · simp at stepped

theorem serving_of_servedHost {phase? : Option Counting.Phase}
    (served : (phase?.bind servedHost?).isSome = true) :
    ∃ host, phase? = some (.serving host) := by
  cases phase? with
  | none => simp at served
  | some phase =>
      cases phase with
      | serving host => exact ⟨host, rfl⟩
      | rejected | received | leaving | postponing | decrementing | finished =>
          simp [servedHost?] at served

end Inversion

section Calls

variable {targets : Fin n → String × String} {state next : Crowd.State b} {event : Crowd.Event b}

/-- The wait function is under way only if it was before, or has just been called. -/
theorem underWay_of_step {call : Fin n} (stepped : Crowd.step targets state event = some next)
    (after : underWay (next.phases call) = true) :
    underWay (state.phases call) = true ∨ ∃ failure, event = .watch call failure := by
  have advances := Crowd.advances_of_step stepped call
  generalize next.phases call = phase at advances after
  generalize state.phases call = before at advances
  cases advances with
  | stays => exact .inl after
  | calls => exact .inr ⟨none, rfl⟩
  | refused err => exact .inr ⟨some err, rfl⟩
  | waits => exact .inl rfl
  | finds | misses | wakes | givesUp => simp [underWay] at after

/-- A request stays in service until its inner handler returns. -/
theorem serving_of_step {source counting : Counting.State} {event : Counting.Event} {index : ℕ}
    {host : String} (serving : source.requests[index]? = some (.serving host))
    (handled : ∀ outcome, event ≠ .act index (.serve outcome))
    (moved : Counting.step source event = some counting) :
    counting.requests[index]? = some (.serving host) := by
  cases event with
  | arrive request lookupAddr =>
      rw [Counting.step_arrive moved]
      have bound := (List.getElem?_eq_some_iff.mp serving).1
      rw [List.getElem?_append_left bound]
      exact serving
  | act acted action =>
      rcases Counting.step_act moved with ⟨phase, phase', queue, found, advances, rfl⟩
      by_cases same : acted = index
      · subst same
        rw [serving, Option.some.injEq] at found
        subst found
        cases advances with
        | serve _ outcome => exact absurd rfl (handled outcome)
      · simp only [List.getElem?_set_ne same]
        exact serving
  | scan now order =>
      rcases Counting.step_scan moved with ⟨_, _, rfl⟩
      exact serving
  | applyCollected =>
      rcases Counting.step_applyCollected moved with ⟨hosts, _, rfl⟩
      exact serving

end Calls

section Derived

/-- The key has been derived from the request that came in at this position. -/
def Derives (arrivals : List Request) (index : ℕ) (key : String) : Prop :=
  ∃ request lookupAddr, arrivals[index]? = some request ∧ getHost lookupAddr request = .ok key

theorem Derives.append {arrivals : List Request} {index : ℕ} {key : String}
    (derives : Derives arrivals index key) (later : List Request) :
    Derives (arrivals ++ later) index key := by
  rcases derives with ⟨request, lookupAddr, arrived, derived⟩
  refine ⟨request, lookupAddr, ?_, derived⟩
  rw [List.getElem?_append_left (List.getElem?_eq_some_iff.mp arrived).1]
  exact arrived

theorem Derives.arrivalsAfter {arrivals : List Request} {index : ℕ} {key : String}
    (derives : Derives arrivals index key) (event : Counting.Event) :
    Derives (arrivalsAfter arrivals event) index key := by
  cases event with
  | arrive request lookupAddr => exact derives.append _
  | act | scan | applyCollected => exact derives

/-- The middleware has derived the keys of its requests, which are in step with the arrivals. -/
structure Matches (arrivals : List Request) (requests : List Counting.Phase) : Prop where
  length : arrivals.length = requests.length
  derived : ∀ index phase key, requests[index]? = some phase → phase.host? = some key →
    Derives arrivals index key

/-- A step of a request does not change its key. -/
theorem host?_of_advances {queue queue' : Memory} {phase phase' : Counting.Phase}
    {action : Counting.Action} (advances : Counting.Advances queue phase action queue' phase') :
    phase'.host? = phase.host? := by
  cases advances <;> rfl

theorem getHost_of_receive {lookupAddr : LookupAddr} {request : Request} {key : String}
    (keyed : (Counting.receive lookupAddr request).host? = some key) :
    getHost lookupAddr request = .ok key := by
  simp only [Counting.receive] at keyed
  cases got : getHost lookupAddr request with
  | error err => simp [got, Counting.Phase.host?] at keyed
  | ok host =>
      simp only [got, Counting.Phase.host?, Option.some.injEq] at keyed
      rw [keyed]

theorem Matches.preserved {arrivals : List Request} {source counting : Counting.State}
    (matched : Matches arrivals source.requests) {event : Counting.Event}
    (moved : Counting.step source event = some counting) :
    Matches (Gateway.arrivalsAfter arrivals event) counting.requests := by
  cases event with
  | arrive request lookupAddr =>
      rw [Counting.step_arrive moved]
      refine ⟨by simp [Gateway.arrivalsAfter, matched.length], ?_⟩
      intro index phase key found keyed
      rw [List.getElem?_append] at found
      split at found
      · exact (matched.derived index phase key found keyed).append _
      -- The request that has just come in is the last one of both lists.
      · next later =>
          have last : index = arrivals.length ∧ Counting.receive lookupAddr request = phase := by
            rw [List.getElem?_singleton] at found
            split at found
            · next zero =>
                have := matched.length
                exact ⟨by omega, Option.some.inj found⟩
            · simp at found
          rcases last with ⟨rfl, rfl⟩
          exact ⟨request, lookupAddr, List.getElem?_concat_length, getHost_of_receive keyed⟩
  | act acted action =>
      rcases Counting.step_act moved with ⟨phase, phase', queue, found, advances, rfl⟩
      refine ⟨by simp [Gateway.arrivalsAfter, matched.length], ?_⟩
      intro index after key located keyed
      by_cases same : acted = index
      · subst same
        have bound := (List.getElem?_eq_some_iff.mp found).1
        rw [List.getElem?_set_self bound, Option.some.injEq] at located
        subst located
        exact matched.derived acted phase key found (host?_of_advances advances ▸ keyed)
      · rw [List.getElem?_set_ne same] at located
        exact matched.derived index after key located keyed
  | scan now order =>
      rcases Counting.step_scan moved with ⟨_, _, rfl⟩
      exact matched
  | applyCollected =>
      rcases Counting.step_applyCollected moved with ⟨hosts, _, rfl⟩
      exact matched

end Derived

section Invariant

variable {targets : Fin n → String × String} {P : Table → Prop} {state next : State b}

/--
A call that has not returned is made for a request that is being served. The handler has derived a
key from this request, and found the deployment of the call in one of the routing tables that the
interceptor has had, all of which satisfy `P`.
-/
structure Held (P : Table → Prop) (targets : Fin n → String × String) (state : State b) : Prop where
  routingTable : P state.routingTable
  matched : Matches state.arrivals state.counting.requests
  routed : ∀ call key, state.keys call = some key → Derives state.arrivals call.val key ∧
    ∃ routingTable, P routingTable ∧ leadsTo routingTable (targets call) key = true
  served : ∀ call, underWay (state.crowd.phases call) = true →
    (∃ host, state.counting.requests[call.val]? = some (.serving host)) ∧
      ∃ key, state.keys call = some key

/-- The routing table that the interceptor gets. -/
def Event.routingTable? : Event b → Option Table
  | .replace routingTable => some routingTable
  | .request _ | .route _ _ | .wait _ => none

def Replaces (P : Table → Prop) (event : Event b) : Prop :=
  ∀ routingTable, event.routingTable? = some routingTable → P routingTable

namespace Held

theorem initial {routingTable : Table} (holds : P routingTable) (postponeDuration : Time)
    (shouldPostpone : Bool) (store : GoMap (String × String) Deployment)
    (notifications : List WatchEvent) :
    Held P targets (State.initial postponeDuration shouldPostpone routingTable store notifications :
      State b) where
  routingTable := holds
  matched := ⟨rfl, by simp [State.initial, Counting.State.initial]⟩
  routed := by simp [State.initial]
  served := by simp [State.initial, Crowd.State.initial, underWay]

theorem request (held : Held P targets state) {event : Counting.Event}
    (stepped : step targets state (.request event) = some next) : Held P targets next := by
  rcases step_request stepped with ⟨admitted, counting, moved, rfl⟩
  refine ⟨held.routingTable, held.matched.preserved moved, ?_, ?_⟩
  · intro call key keyed
    rcases held.routed call key keyed with ⟨derives, leads⟩
    exact ⟨derives.arrivalsAfter event, leads⟩
  · intro call under
    rcases held.served call under with ⟨⟨host, serving⟩, keyed⟩
    refine ⟨⟨host, serving_of_step serving ?_ moved⟩, keyed⟩
    rintro outcome rfl
    simp only [admits, decide_eq_true_eq] at admitted
    simp [admitted call rfl] at under

theorem route (held : Held P targets state) {call : Fin n} {lookupAddr : LookupAddr}
    (stepped : step targets state (.route call lookupAddr) = some next) : Held P targets next := by
  rcases step_route stepped with ⟨request, key, arrived, derived, leads, unrouted, rfl⟩
  refine ⟨held.routingTable, held.matched, ?_, ?_⟩
  · intro other found keyed
    by_cases same : other = call
    · subst same
      simp only [Function.update_self, Option.some.injEq] at keyed
      subst keyed
      exact ⟨⟨request, lookupAddr, arrived, derived⟩, state.routingTable, held.routingTable, leads⟩
    · simp only [Function.update_of_ne same] at keyed
      exact held.routed other found keyed
  · intro other under
    rcases held.served other under with ⟨serving, found, keyed⟩
    have differs : other ≠ call := by
      rintro rfl
      simp [unrouted] at keyed
    exact ⟨serving, found, by simpa [differs] using keyed⟩

theorem wait (held : Held P targets state) {event : Crowd.Event b}
    (stepped : step targets state (.wait event) = some next) : Held P targets next := by
  rcases step_wait stepped with ⟨admitted, crowd, moved, rfl⟩
  refine ⟨held.routingTable, held.matched, held.routed, ?_⟩
  intro call under
  rcases underWay_of_step moved under with before | ⟨failure, rfl⟩
  · exact held.served call before
  · simp only [admits, Bool.and_eq_true] at admitted
    exact ⟨serving_of_servedHost admitted.1, Option.isSome_iff_exists.mp admitted.2⟩

theorem preserved (held : Held P targets state) {event : Event b} (replaces : Replaces P event)
    (stepped : step targets state event = some next) : Held P targets next := by
  cases event with
  | request event => exact held.request stepped
  | replace routingTable =>
      rw [step_replace stepped]
      exact ⟨replaces routingTable rfl, held.matched, held.routed, held.served⟩
  | route call lookupAddr => exact held.route stepped
  | wait event => exact held.wait stepped

theorem of_run {postponeDuration : Time} {shouldPostpone : Bool} {routingTable : Table}
    {store : GoMap (String × String) Deployment} {notifications : List WatchEvent}
    {history : List (Move (State b) (Event b))}
    (run : Run (StepOf (step targets))
      (State.initial postponeDuration shouldPostpone routingTable store notifications) history
      state)
    (holds : P routingTable) (replaces : ∀ move ∈ history, Replaces P move.event) :
    Held P targets state :=
  run.invariant_of_condition (Held P targets) (fun _ event => Replaces P event)
    (initial holds postponeDuration shouldPostpone store notifications)
    (fun _ _ _ held replaced stepped => held.preserved replaced stepped) replaces

end Held

section Projections

variable {postponeDuration : Time} {shouldPostpone : Bool} {routingTable : Table}
  {store : GoMap (String × String) Deployment} {notifications : List WatchEvent}
  {history : List (Move (State b) (Event b))}
  (run : Run (StepOf (step targets))
    (State.initial postponeDuration shouldPostpone routingTable store notifications) history state)

include run

/-- The queue does what it does without the deployment cache. -/
theorem reachable_counting :
    Reachable (StepOf Counting.step) (.initial postponeDuration shouldPostpone)
      state.counting := by
  induction run with
  | start => exact .refl
  | @move history source target event earlier stepped ih =>
      cases event with
      | request event =>
          rcases step_request stepped with ⟨_, counting, moved, rfl⟩
          exact ih.step moved
      | replace routingTable =>
          rw [step_replace stepped]
          exact ih
      | route call lookupAddr =>
          rcases step_route stepped with ⟨_, _, _, _, _, _, rfl⟩
          exact ih
      | wait event =>
          rcases step_wait stepped with ⟨_, crowd, _, rfl⟩
          exact ih

/-- And the cache does what it does without the queue. -/
theorem reachable_crowd :
    Reachable (StepOf (Crowd.step targets)) (.initial store notifications) state.crowd := by
  induction run with
  | start => exact .refl
  | @move history source target event earlier stepped ih =>
      cases event with
      | request event =>
          rcases step_request stepped with ⟨_, counting, _, rfl⟩
          exact ih
      | replace routingTable =>
          rw [step_replace stepped]
          exact ih
      | route call lookupAddr =>
          rcases step_route stepped with ⟨_, _, _, _, _, _, rfl⟩
          exact ih
      | wait event =>
          rcases step_wait stepped with ⟨_, crowd, moved, rfl⟩
          exact ih.step moved

end Projections

theorem inFlight_pos_of_serving {counting : Counting.State} {index : ℕ} {host : String}
    (serving : counting.requests[index]? = some (.serving host)) :
    0 < counting.inFlight host := by
  apply List.countP_pos_iff.mpr
  refine ⟨.serving host, List.mem_of_getElem? serving, ?_⟩
  simp [Counting.Phase.inFlightFor]

end Invariant

section HeldBack

variable {P : Table → Prop} {targets : Fin n → String × String} {state : State b}

end HeldBack

section Return

open Crowd (Attended Proceeds)

variable {targets : Fin n → String × String} {delivers : Delivers b (Crowd.keep targets)}
  {state next : Crowd.State b} {event : Crowd.Event b} {call : Fin n}

theorem store_of_proceeds (proceeds : Proceeds targets state event next) :
    next.store = state.store := by
  rcases proceeds with ⟨internal, stepped⟩
  cases event with
  | put | remove | resync | watch | cancel => simp [Crowd.Event.internal] at internal
  | handle =>
      rcases Crowd.step_handle stepped with ⟨item, rest, bcaster, queued, sent, rfl⟩
      rfl
  | move motion =>
      rcases Crowd.step_move stepped with ⟨bcaster, moved, rfl⟩
      rfl
  | get reader =>
      rcases Crowd.step_get stepped with ⟨calling, watched, ⟨result, rfl⟩ | rfl⟩
      · rfl
      · rfl
  | receive reader =>
      rcases Crowd.step_receive stepped with ⟨waiting, item, bcaster, received, ⟨_, rfl⟩ | ⟨_, rfl⟩⟩
      · rfl
      · rfl

/--
A step that leaves the deployment of a call ready and does not give up the call. Other calls may be
made and given up, and other deployments may change.
-/
structure Spares (targets : Fin n → String × String) (call : Fin n) (source : Crowd.State b)
    (event : Crowd.Event b) (target : Crowd.State b) : Prop where
  stepped : Crowd.step targets source event = some target
  ready : target.Ready targets call
  kept : ∀ err, event ≠ .cancel call err

/-- The call has been made, and has not failed. -/
def unfailed : Crowd.Phase → Bool
  | .calling | .waiting | .returned (.ok _) => true
  | .idle | .returned (.error _) => false

/-- While the deployment can serve, a call fails only if it is given up. -/
theorem unfailed_of_step (ready : state.Ready targets call)
    (before : unfailed (state.phases call) = true)
    (stepped : Crowd.step targets state event = some next)
    (kept : ∀ err, event ≠ .cancel call err) : unfailed (next.phases call) = true := by
  have advances := Crowd.advances_of_step stepped call
  generalize next.phases call = phase at advances
  generalize state.phases call = phase' at advances before
  cases advances with
  | stays => exact before
  | calls | finds | waits | wakes => rfl
  | refused err => simp [unfailed] at before
  | misses missing err =>
      rcases ready with ⟨depl, found, _⟩
      simp [missing] at found
  | givesUp err message => exact absurd rfl (kept err)

/-- The call was made for a deployment that can serve, and has not failed. -/
structure Served (delivers : Delivers b (Crowd.keep targets)) (call : Fin n)
    (state : Crowd.State b) : Prop where
  attended : Attended delivers state
  ready : state.Ready targets call
  unfailed : unfailed (state.phases call) = true

namespace Served

theorem spared (served : Served delivers call state)
    (spares : Spares targets call state event next) :
    Served delivers call next where
  attended := served.attended.preserved spares.stepped
  ready := spares.ready
  unfailed := unfailed_of_step served.ready served.unfailed spares.stepped spares.kept

theorem proceeds (served : Served delivers call state)
    (proceeds : Proceeds targets state event next) : Served delivers call next := by
  apply served.spared
  refine ⟨proceeds.2, ?_, ?_⟩
  · rcases served.ready with ⟨depl, found, serves⟩
    exact ⟨depl, by rw [store_of_proceeds proceeds, found], serves⟩
  · rintro err rfl
    simp [Proceeds, Crowd.Event.internal] at proceeds

/-- The call returns without an error, in whatever order the goroutines go on. -/
theorem inevitable (served : Served delivers call state) (progresses : Progresses delivers) :
    Inevitable (Proceeds targets)
      (fun later => ∃ replicas, later.phases call = .returned (.ok replicas)) state := by
  apply Inevitable.of_stuck (Served delivers call) (Crowd.State.weight progresses)
  · intro source event target served proceeds
    exact served.proceeds proceeds
  · intro source event target served proceeds
    exact Crowd.weight_lt proceeds
  · intro source served stuck
    have unfailed := served.unfailed
    rcases (Crowd.resting_of_stuck progresses served.attended stuck).calls call with
      idle | ⟨_, unready⟩ | ⟨result, returned⟩
    · simp [idle, Gateway.unfailed] at unfailed
    · exact absurd served.ready unready
    · cases result with
      | ok replicas => exact ⟨replicas, returned⟩
      | error message => simp [returned, Gateway.unfailed] at unfailed
  · exact served

/-- A call that is under way has not returned. -/
theorem of_underWay (attended : Attended delivers state) (ready : state.Ready targets call)
    (under : underWay (state.phases call) = true) : Served delivers call state where
  attended := attended
  ready := ready
  unfailed := by
    cases phase : state.phases call <;> simp [phase, underWay, Gateway.unfailed] at under ⊢

end Served

/--
A call that is under way while its deployment can serve returns without an error, in whatever order
the goroutines go on, and whatever has happened before: deployments may have changed, and calls may
have been made and given up, as long as this deployment stayed ready and this call was kept.
-/
theorem inevitable_returned (progresses : Progresses delivers) (attended : Attended delivers state)
    (ready : state.Ready targets call) (under : underWay (state.phases call) = true)
    {later : Crowd.State b} (spared : Reachable (Spares targets call) state later) :
    Inevitable (Proceeds targets)
      (fun final => ∃ replicas, final.phases call = .returned (.ok replicas)) later := by
  have served : Served delivers call later :=
    spared.invariant (.of_underWay attended ready under) fun _ _ _ served spares =>
      served.spared spares
  exact served.inevitable progresses

end Return

end KedaHttp.Interceptor.Gateway
