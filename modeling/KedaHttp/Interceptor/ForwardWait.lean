import KedaHttp.Foundation.Transition
import KedaHttp.Foundation.GoMap

/-!
# Waiting for a deployment

The function that `newDeployReplicasForwardWaitFunc` from `interceptor/forward_wait_func.go` makes,
and the deployment cache of `pkg/k8s/deployment_cache_informer.go` that it waits on.

The cache has an informer behind it, which first changes the stored object and later calls the
event handlers, in the order of the changes. They hand the object to a broadcaster, and the
broadcaster hands it to the watchers that are registered at that time. The watcher of a call is
filtered: a goroutine passes on what is about the deployment the call is for. Channels are queues
here, of any length.

The call registers its watcher before it reads the cache. So a change that the reading did not see
is broadcast to the watcher, and the call cannot wait for a deployment that is ready already
without having an event on its way that says so.
-/

namespace KedaHttp.Interceptor.ForwardWait

open KedaHttp.Foundation

/-- A deployment, by what the interceptor reads of it. -/
structure Deployment where
  ns : String
  name : String
  readyReplicas : Int32
  deriving DecidableEq, Repr

def deploymentCanServe (depl : Deployment) : Bool := decide (depl.readyReplicas > 0)

inductive EventType where
  | added
  | modified
  | deleted
  deriving DecidableEq, Repr

/-- The event handlers only pass deployments on, so that no event is about anything else. -/
structure WatchEvent where
  type : EventType
  object : Deployment
  deriving DecidableEq, Repr

/-- The test of `watch.Filter` in `Watch`. -/
def WatchEvent.isFor (ns name : String) (event : WatchEvent) : Bool :=
  event.object.ns = ns ∧ event.object.name = name

/-- What the broadcaster has sent to a watcher, and what of it has passed the filter. -/
structure Watcher where
  incoming : List WatchEvent
  result : List WatchEvent
  deriving DecidableEq, Repr

/-- How far the call has got. -/
inductive Phase where
  | called
  | watching
  | waiting
  | returned (result : Except String Int)
  deriving DecidableEq

/--
The informer's store, the events of its changes that are still to be broadcast, oldest first, and
the call with its watcher.
-/
structure State where
  store : GoMap (String × String) Deployment
  notifications : List WatchEvent
  watcher : Option Watcher
  phase : Phase
  deriving DecidableEq

inductive Event where
  | put (depl : Deployment)
  /-- The informer may have missed the last state of a deleted object. -/
  | remove (ns name : String) (finalState : Option Deployment)
  | resync (ns name : String)
  | broadcast
  | filter
  | watch (failure : Option String)
  | get
  | receive
  | cancel (err : String)
  deriving DecidableEq

/-- A call is made while the informer is in any state. -/
def State.initial (store : GoMap (String × String) Deployment) (notifications : List WatchEvent) :
    State where
  store := store
  notifications := notifications
  watcher := none
  phase := .called

section Step

/-- `addEvtHandler`, `updateEvtHandler` and `deleteEvtHandler` broadcast what they get. -/
def State.notify (state : State) (type : EventType) (depl : Deployment) : State :=
  { state with notifications := state.notifications ++ [⟨type, depl⟩] }

/-- The function's deferred `watcher.Stop()` runs on its way out. -/
def State.returns (state : State) (result : Except String Int) : State :=
  { state with watcher := none, phase := .returned result }

def step (deployNS deployName : String) (state : State) : Event → Option State
  | .put depl =>
      let type := if (depl.ns, depl.name) ∈ state.store then .modified else .added
      some ({ state with store := state.store.insert (depl.ns, depl.name) depl }.notify type depl)
  | .remove ns name finalState =>
      let removed := { state with store := state.store.erase (ns, name) }
      match finalState with
      | some depl => some (removed.notify .deleted depl)
      | none => some removed
  | .resync ns name =>
      match state.store.lookup (ns, name) with
      | some depl => some (state.notify .modified depl)
      | none => none
  | .broadcast =>
      match state.notifications with
      | [] => none
      | event :: rest =>
          some { state with
            notifications := rest
            watcher := state.watcher.map fun watcher =>
              { watcher with incoming := watcher.incoming ++ [event] } }
  | .filter =>
      match state.watcher with
      | some ⟨event :: rest, result⟩ =>
          let passed := if event.isFor deployNS deployName then result ++ [event] else result
          some { state with watcher := some ⟨rest, passed⟩ }
      | _ => none
  | .watch failure =>
      if state.phase = .called then
        match failure with
        | some err => some (state.returns (.error err))
        | none => some { state with watcher := some ⟨[], []⟩, phase := .watching }
      else none
  | .get =>
      if state.phase = .watching then
        match state.store.lookup (deployNS, deployName) with
        | none =>
            some (state.returns (.error ("error getting state for deployment " ++ deployNS ++ "/" ++
              deployName ++ " (deployment.apps " ++ deployName.quote ++ " not found)")))
        | some deployment =>
            if deploymentCanServe deployment then
              some (state.returns (.ok deployment.readyReplicas.toInt))
            else some { state with phase := .waiting }
      else none
  | .receive =>
      if state.phase = .waiting then
        match state.watcher with
        | some ⟨incoming, event :: rest⟩ =>
            if deploymentCanServe event.object then some (state.returns (.ok 0))
            else some { state with watcher := some ⟨incoming, rest⟩ }
        | _ => none
      else none
  | .cancel err =>
      if state.phase = .waiting then
        some (state.returns (.error ("context marked done while waiting for deployment " ++
          deployName ++ " to reach > 0 replicas (" ++ err ++ ")")))
      else none

variable {deployNS deployName : String} {state next : State}

theorem step_broadcast (stepped : step deployNS deployName state .broadcast = some next) :
    ∃ event rest, state.notifications = event :: rest ∧
      next = { state with
        notifications := rest
        watcher := state.watcher.map fun watcher =>
          { watcher with incoming := watcher.incoming ++ [event] } } := by
  simp only [step] at stepped
  split at stepped
  · simp at stepped
  · next event rest queued => exact ⟨event, rest, queued, (Option.some.inj stepped).symm⟩

theorem step_filter (stepped : step deployNS deployName state .filter = some next) :
    ∃ event rest result, state.watcher = some ⟨event :: rest, result⟩ ∧
      next = { state with
        watcher := some ⟨rest, if event.isFor deployNS deployName then result ++ [event]
          else result⟩ } := by
  simp only [step] at stepped
  split at stepped
  · next event rest result registered =>
      exact ⟨event, rest, result, registered, (Option.some.inj stepped).symm⟩
  · simp at stepped

theorem step_receive (stepped : step deployNS deployName state .receive = some next) :
    ∃ incoming event rest, state.watcher = some ⟨incoming, event :: rest⟩ ∧
      (next = state.returns (.ok 0) ∨ deploymentCanServe event.object = false ∧
        next = { state with watcher := some ⟨incoming, rest⟩ }) := by
  simp only [step] at stepped
  split at stepped
  · split at stepped
    · next incoming event rest registered =>
        refine ⟨incoming, event, rest, registered, ?_⟩
        split at stepped
        · exact .inl (Option.some.inj stepped).symm
        · next notReady =>
            exact .inr ⟨by simpa using notReady, (Option.some.inj stepped).symm⟩
    · simp at stepped
  · simp at stepped

end Step

section Invariant

variable {deployNS deployName : String} {state next : State}

/-- The events that the call has not received yet, wherever they are. -/
def State.inTransit (state : State) : List WatchEvent :=
  state.notifications ++
    (state.watcher.elim [] fun watcher => watcher.incoming ++ watcher.result)

/-- Receiving the event ends the call. -/
structure WatchEvent.Wakes (deployNS deployName : String) (event : WatchEvent) : Prop where
  isFor : event.isFor deployNS deployName = true
  ready : deploymentCanServe event.object = true

/-- The cached deployment can serve. -/
def State.Ready (deployNS deployName : String) (state : State) : Prop :=
  ∃ depl, state.store.lookup (deployNS, deployName) = some depl ∧ deploymentCanServe depl = true

/-- A call has a watcher, and while it waits an event on its way if the deployment can serve. -/
structure Awaited (deployNS deployName : String) (state : State) : Prop where
  registered : state.phase = .watching ∨ state.phase = .waiting → state.watcher ≠ none
  wakes : state.phase = .waiting → state.Ready deployNS deployName →
    ∃ event ∈ state.inTransit, event.Wakes deployNS deployName

namespace Awaited

theorem initial (store : GoMap (String × String) Deployment) (notifications : List WatchEvent) :
    Awaited deployNS deployName (State.initial store notifications) := by
  constructor <;> simp [State.initial]

theorem returns (result : Except String Int) :
    Awaited deployNS deployName (state.returns result) := by
  constructor <;> simp [State.returns]

/-- A change of the store is harmless if it notifies of a deployment it makes ready. -/
theorem of_change (awaited : Awaited deployNS deployName state) (phase : next.phase = state.phase)
    (watcher : next.watcher = state.watcher) (added : List WatchEvent)
    (queued : next.notifications = state.notifications ++ added)
    (changed : next.Ready deployNS deployName → state.Ready deployNS deployName ∨
      ∃ event ∈ added, event.Wakes deployNS deployName) :
    Awaited deployNS deployName next where
  registered := by
    rw [phase, watcher]
    exact awaited.registered
  wakes := by
    intro waiting ready
    rw [phase] at waiting
    rw [State.inTransit, queued, watcher]
    rcases changed ready with before | ⟨event, member, wakes⟩
    · rcases awaited.wakes waiting before with ⟨event, member, wakes⟩
      rw [State.inTransit, List.mem_append] at member
      refine ⟨event, ?_, wakes⟩
      rw [List.mem_append, List.mem_append]
      tauto
    · refine ⟨event, ?_, wakes⟩
      rw [List.mem_append, List.mem_append]
      tauto

theorem put (awaited : Awaited deployNS deployName state) (type : EventType) (depl : Deployment) :
    Awaited deployNS deployName
      ({ state with store := state.store.insert (depl.ns, depl.name) depl }.notify type depl) := by
  refine awaited.of_change rfl rfl [⟨type, depl⟩] rfl ?_
  rintro ⟨found, looked, ready⟩
  simp only [State.notify, GoMap.lookup_insert_ite] at looked
  by_cases same : (deployNS, deployName) = (depl.ns, depl.name)
  · right
    rw [if_pos same, Option.some.injEq] at looked
    rw [Prod.mk.injEq] at same
    refine ⟨_, List.mem_singleton_self _, ?_, looked ▸ ready⟩
    simp [WatchEvent.isFor, same]
  · left
    rw [if_neg same] at looked
    exact ⟨found, looked, ready⟩

/-- A deployment that is taken out of the store is not ready any more. -/
theorem remove (awaited : Awaited deployNS deployName state) (ns name : String)
    (added : List WatchEvent) (phase : next.phase = state.phase)
    (watcher : next.watcher = state.watcher) (store : next.store = state.store.erase (ns, name))
    (queued : next.notifications = state.notifications ++ added) :
    Awaited deployNS deployName next := by
  refine awaited.of_change phase watcher added queued ?_
  rintro ⟨found, looked, ready⟩
  rw [store, GoMap.lookup_erase_ite] at looked
  split at looked
  · simp at looked
  · exact .inl ⟨found, looked, ready⟩

/-- The broadcaster takes an event from the handlers to the watcher. -/
theorem broadcast (awaited : Awaited deployNS deployName state) {event : WatchEvent}
    {rest : List WatchEvent} (queued : state.notifications = event :: rest) :
    Awaited deployNS deployName { state with
      notifications := rest
      watcher := state.watcher.map fun watcher =>
        { watcher with incoming := watcher.incoming ++ [event] } } where
  registered := by
    intro waiting
    simpa using awaited.registered waiting
  wakes := by
    intro waiting ready
    rcases awaited.wakes waiting ready with ⟨found, member, wakes⟩
    refine ⟨found, ?_, wakes⟩
    cases registered : state.watcher with
    | none => exact absurd registered (awaited.registered (.inr waiting))
    | some watcher =>
        simp only [State.inTransit, queued, registered, Option.elim_some, List.mem_append,
          List.mem_cons, Option.map_some, List.not_mem_nil, or_false] at member ⊢
        tauto

/-- The filter does not hold back what the call waits for. -/
theorem filter (awaited : Awaited deployNS deployName state) {event : WatchEvent}
    {rest result : List WatchEvent} (registered : state.watcher = some ⟨event :: rest, result⟩) :
    Awaited deployNS deployName { state with
      watcher := some ⟨rest, if event.isFor deployNS deployName then result ++ [event]
        else result⟩ } where
  registered := by simp
  wakes := by
    intro waiting ready
    rcases awaited.wakes waiting ready with ⟨found, member, wakes⟩
    refine ⟨found, ?_, wakes⟩
    simp only [State.inTransit, registered, Option.elim_some, List.mem_append,
      List.mem_cons] at member ⊢
    by_cases isFor : event.isFor deployNS deployName = true
    · simp only [isFor, if_true, List.mem_append, List.mem_singleton]
      tauto
    · have other : found ≠ event := fun same => isFor (same ▸ wakes.isFor)
      simp only [isFor]
      tauto

/-- An event that the call receives without returning is not one it waits for. -/
theorem receive (awaited : Awaited deployNS deployName state) {event : WatchEvent}
    {incoming rest : List WatchEvent} (registered : state.watcher = some ⟨incoming, event :: rest⟩)
    (notReady : deploymentCanServe event.object = false) :
    Awaited deployNS deployName { state with watcher := some ⟨incoming, rest⟩ } where
  registered := by simp
  wakes := by
    intro waiting ready
    rcases awaited.wakes waiting ready with ⟨found, member, wakes⟩
    have other : found ≠ event := by
      rintro rfl
      simp [wakes.ready] at notReady
    refine ⟨found, ?_, wakes⟩
    simp only [State.inTransit, registered, Option.elim_some, List.mem_append,
      List.mem_cons] at member ⊢
    tauto

theorem preserved (awaited : Awaited deployNS deployName state) {event : Event}
    (stepped : step deployNS deployName state event = some next) :
    Awaited deployNS deployName next := by
  cases event with
  | put depl =>
      rw [← Option.some.inj stepped]
      exact awaited.put _ depl
  | remove ns name finalState =>
      cases finalState with
      | some depl =>
          rw [← Option.some.inj stepped]
          exact awaited.remove ns name [⟨.deleted, depl⟩] rfl rfl rfl rfl
      | none =>
          rw [← Option.some.inj stepped]
          exact awaited.remove ns name [] rfl rfl rfl (List.append_nil _).symm
  | resync ns name =>
      simp only [step] at stepped
      split at stepped
      · rw [← Option.some.inj stepped]
        exact awaited.of_change rfl rfl _ rfl .inl
      · simp at stepped
  | broadcast =>
      rcases step_broadcast stepped with ⟨event, rest, queued, rfl⟩
      exact awaited.broadcast queued
  | filter =>
      rcases step_filter stepped with ⟨event, rest, result, registered, rfl⟩
      exact awaited.filter registered
  | watch failure =>
      simp only [step] at stepped
      split at stepped
      · cases failure with
        | some err =>
            rw [← Option.some.inj stepped]
            exact returns _
        | none =>
            rw [← Option.some.inj stepped]
            constructor <;> simp
      · simp at stepped
  | get =>
      simp only [step] at stepped
      split at stepped
      · next watching =>
          split at stepped
          · rw [← Option.some.inj stepped]
            exact returns _
          · next deployment looked =>
              split at stepped
              · rw [← Option.some.inj stepped]
                exact returns _
              · next notReady =>
                  rw [← Option.some.inj stepped]
                  refine ⟨fun _ => awaited.registered (.inl watching), ?_⟩
                  -- The call only starts to wait for a deployment that it has read as not ready.
                  rintro _ ⟨found, found_looked, ready⟩
                  rw [looked, Option.some.injEq] at found_looked
                  exact absurd (found_looked ▸ ready) notReady
      · simp at stepped
  | receive =>
      rcases step_receive stepped with ⟨incoming, event, rest, registered, rfl | ⟨notReady, rfl⟩⟩
      · exact returns _
      · exact awaited.receive registered notReady
  | cancel err =>
      simp only [step] at stepped
      split at stepped
      · rw [← Option.some.inj stepped]
        exact returns _
      · simp at stepped

theorem of_reachable {store : GoMap (String × String) Deployment} {notifications : List WatchEvent}
    (reachable : Reachable (StepOf (step deployNS deployName))
      (State.initial store notifications) state) :
    Awaited deployNS deployName state :=
  reachable.invariant (initial store notifications) fun _ _ _ awaited stepped =>
    awaited.preserved stepped

end Awaited

end Invariant

/--
Whatever the cache and the pending broadcasts were when the call was made, in every state reached
in which the call waits while the cached deployment has ready replicas: an event for the deployment
with ready replicas is still to be broadcast, or it is in one of the channels of the call's
watcher.
-/
theorem exists_event_of_waiting {deployNS deployName : String}
    {store : GoMap (String × String) Deployment} {notifications : List WatchEvent} {state : State}
    (reachable : Reachable (StepOf (step deployNS deployName))
      (State.initial store notifications) state)
    (waiting : state.phase = .waiting) {depl : Deployment}
    (cached : state.store.lookup (deployNS, deployName) = some depl)
    (ready : depl.readyReplicas > 0) :
    ∃ event, event.object.ns = deployNS ∧ event.object.name = deployName ∧
      event.object.readyReplicas > 0 ∧
      (event ∈ state.notifications ∨
        ∃ watcher, state.watcher = some watcher ∧
          (event ∈ watcher.incoming ∨ event ∈ watcher.result)) := by
  have awaited := Awaited.of_reachable reachable
  have canServe : deploymentCanServe depl = true := by simpa [deploymentCanServe] using ready
  rcases awaited.wakes waiting ⟨depl, cached, canServe⟩ with ⟨event, member, wakes⟩
  have isFor := wakes.isFor
  have eventReady := wakes.ready
  simp only [WatchEvent.isFor, decide_eq_true_eq] at isFor
  simp only [deploymentCanServe, decide_eq_true_eq] at eventReady
  refine ⟨event, isFor.1, isFor.2, eventReady, ?_⟩
  rcases List.mem_append.mp member with queued | sent
  · exact .inl queued
  · cases registered : state.watcher with
    | none => simp [registered] at sent
    | some watcher =>
        rw [registered, Option.elim_some, List.mem_append] at sent
        exact .inr ⟨watcher, rfl, sent⟩

/-- The deployment becomes ready after the call has read the cache, and is broadcast. -/
theorem exists_event_of_waiting_late : ∃ state,
    Reachable (StepOf (step "dp-a" "app"))
        (State.initial ((∅ : GoMap (String × String) Deployment).insert ("dp-a", "app")
          ⟨"dp-a", "app", 0⟩) [⟨.added, ⟨"dp-a", "app", 0⟩⟩]) state ∧
      state.phase = .waiting ∧
      ∃ event, event.object.readyReplicas > 0 ∧ event ∉ state.notifications ∧
        ∃ watcher, state.watcher = some watcher ∧
          (event ∈ watcher.incoming ∨ event ∈ watcher.result) := by
  rcases Reachable.exists_of_record (step "dp-a" "app")
    (State.initial ((∅ : GoMap (String × String) Deployment).insert ("dp-a", "app")
      ⟨"dp-a", "app", 0⟩) [⟨.added, ⟨"dp-a", "app", 0⟩⟩])
    [.watch none, .broadcast, .get, .filter, .put ⟨"dp-a", "app", 2⟩, .broadcast, .receive]
    (fun state => decide (state.phase = .waiting) && decide (state.notifications = []) &&
      decide (state.store.lookup ("dp-a", "app") = some ⟨"dp-a", "app", 2⟩)) (by decide)
    with ⟨state, reachable, passed⟩
  simp only [Bool.and_eq_true, decide_eq_true_eq] at passed
  rcases passed with ⟨⟨waiting, broadcast⟩, cached⟩
  rcases exists_event_of_waiting reachable waiting cached (by decide) with
    ⟨event, _, _, ready, transit⟩
  rw [broadcast] at transit
  refine ⟨state, reachable, waiting, event, ready, ?_, transit.resolve_left (List.not_mem_nil)⟩
  rw [broadcast]
  exact List.not_mem_nil

section Delivery

variable {deployNS deployName : String} {state next : State}

/-- The steps that only move events on, up to their being received. -/
def Delivers (deployNS deployName : String) (source : State) (event : Event) (target : State) :
    Prop :=
  (event = .broadcast ∨ event = .filter ∨ event = .receive) ∧
    step deployNS deployName source event = some target

/-- The steps that the events in transit still have to make. -/
def State.remaining (state : State) : ℕ :=
  3 * state.notifications.length +
    (state.watcher.elim 0 fun watcher => 2 * watcher.incoming.length + watcher.result.length)

/-- Delivering changes neither the store nor, short of ending the call, what the call is at. -/
theorem Delivers.store_and_phase {event : Event}
    (delivers : Delivers deployNS deployName state event next) :
    next.store = state.store ∧
      (next.phase = state.phase ∨ ∃ result, next.phase = .returned result) := by
  rcases delivers with ⟨rfl | rfl | rfl, stepped⟩
  · rcases step_broadcast stepped with ⟨event, rest, queued, rfl⟩
    exact ⟨rfl, .inl rfl⟩
  · rcases step_filter stepped with ⟨event, rest, result, registered, rfl⟩
    exact ⟨rfl, .inl rfl⟩
  · rcases step_receive stepped with ⟨incoming, event, rest, registered, rfl | ⟨notReady, rfl⟩⟩
    · exact ⟨rfl, .inr ⟨_, rfl⟩⟩
    · exact ⟨rfl, .inl rfl⟩

theorem Delivers.remaining_lt {event : Event}
    (delivers : Delivers deployNS deployName state event next) :
    next.remaining < state.remaining := by
  rcases delivers with ⟨rfl | rfl | rfl, stepped⟩
  · rcases step_broadcast stepped with ⟨event, rest, queued, rfl⟩
    cases registered : state.watcher with
    | none =>
        simp only [State.remaining, queued, registered, Option.map_none, Option.elim_none,
          List.length_cons]
        omega
    | some watcher =>
        simp only [State.remaining, queued, registered, Option.map_some, Option.elim_some,
          List.length_append, List.length_cons, List.length_nil]
        omega
  · rcases step_filter stepped with ⟨event, rest, result, registered, rfl⟩
    simp only [State.remaining, registered, Option.elim_some, List.length_cons]
    split
    · rw [List.length_append, List.length_singleton]
      omega
    · omega
  · rcases step_receive stepped with ⟨incoming, event, rest, registered, rfl | ⟨notReady, rfl⟩⟩
    · simp only [State.remaining, State.returns, registered, Option.elim_some, Option.elim_none,
        List.length_cons]
      omega
    · simp only [State.remaining, registered, Option.elim_some, List.length_cons]
      omega

/-- While an event is in transit to a waiting call, it can be moved on. -/
theorem exists_delivers (waiting : state.phase = .waiting) {event : WatchEvent}
    (member : event ∈ state.inTransit) :
    ∃ moved next, Delivers deployNS deployName state moved next := by
  rcases List.mem_append.mp member with queued | sent
  · rcases List.exists_cons_of_ne_nil (List.ne_nil_of_mem queued) with ⟨first, rest, same⟩
    have enabled : (step deployNS deployName state .broadcast).isSome = true := by
      simp [step, same]
    rcases Option.isSome_iff_exists.mp enabled with ⟨next, stepped⟩
    exact ⟨.broadcast, next, .inl rfl, stepped⟩
  · cases registered : state.watcher with
    | none => simp [registered] at sent
    | some watcher =>
        rw [registered, Option.elim_some, List.mem_append] at sent
        rcases watcher with ⟨incoming, result⟩
        rcases sent with unfiltered | filtered
        · rcases List.exists_cons_of_ne_nil (List.ne_nil_of_mem unfiltered) with
            ⟨first, rest, same⟩
          simp only at same
          have enabled : (step deployNS deployName state .filter).isSome = true := by
            simp only [step, registered, same, Option.isSome_some]
          rcases Option.isSome_iff_exists.mp enabled with ⟨next, stepped⟩
          exact ⟨.filter, next, .inr (.inl rfl), stepped⟩
        · rcases List.exists_cons_of_ne_nil (List.ne_nil_of_mem filtered) with ⟨first, rest, same⟩
          simp only at same
          have enabled : (step deployNS deployName state .receive).isSome = true := by
            simp only [step, waiting, registered, same, if_true]
            split <;> rfl
          rcases Option.isSome_iff_exists.mp enabled with ⟨next, stepped⟩
          exact ⟨.receive, next, .inr (.inr rfl), stepped⟩

/--
A call that waits while the cached deployment can serve ends, in whatever order the events are
moved on, unless the deployment changes again or the call is cancelled.
-/
theorem inevitable_returned (awaited : Awaited deployNS deployName state)
    (waiting : state.phase = .waiting) (ready : state.Ready deployNS deployName) :
    Inevitable (Delivers deployNS deployName)
      (fun state => ∃ result, state.phase = .returned result) state := by
  apply Inevitable.of_measure (fun state => Awaited deployNS deployName state ∧
    state.Ready deployNS deployName ∧
      (state.phase = .waiting ∨ ∃ result, state.phase = .returned result)) State.remaining
  · rintro source event target ⟨awaited, ready, phase⟩ delivers
    rcases delivers.store_and_phase with ⟨store, same | returned⟩
    · refine ⟨awaited.preserved delivers.2, ?_, same ▸ phase⟩
      rwa [State.Ready, store]
    · refine ⟨awaited.preserved delivers.2, ?_, .inr returned⟩
      rwa [State.Ready, store]
  · rintro source event target _ delivers
    exact delivers.remaining_lt
  · rintro state ⟨awaited, ready, waiting | returned⟩
    · rcases awaited.wakes waiting ready with ⟨event, member, _⟩
      exact .inr (exists_delivers waiting member)
    · exact .inl returned
  · exact ⟨awaited, ready, .inl waiting⟩

end Delivery

end KedaHttp.Interceptor.ForwardWait
