import KedaHttp.Foundation.Broadcast
import KedaHttp.Interceptor.ForwardWait

/-!
# Any number of requests waiting for deployments

`Interceptor.ForwardWait` follows one call of the forward wait function. Here any number of calls
share the deployment cache of `pkg/k8s/deployment_cache_informer.go` and its broadcaster, which is
that of the package `watch`. Calls come and go while events are handed out, `Watch` takes its time,
and the event handlers of the informer may have to wait for the broadcaster. Of the broadcaster no
more is assumed than `Delivers` says.

`view` is what one of the calls sees of this. It makes no step that `ForwardWait` does not make, so
that what holds for every run there holds for each of the calls here.
-/

namespace KedaHttp.Interceptor.Crowd

open KedaHttp.Foundation
open KedaHttp.Interceptor.ForwardWait (Deployment WatchEvent EventType Watcher deploymentCanServe)

variable {n : ℕ}

/-- How far a call has got. It is `calling` until it has read the cache. -/
inductive Phase where
  | idle
  | calling
  | waiting
  | returned (result : Except String Int)
  deriving DecidableEq

/-- The cache and the calls, which are numbered. -/
structure State (b : Broadcaster (Fin n) WatchEvent) where
  store : GoMap (String × String) Deployment
  notifications : List WatchEvent
  bcaster : b.State
  phases : Fin n → Phase

inductive Event (b : Broadcaster (Fin n) WatchEvent) where
  | put (depl : Deployment)
  | remove (ns name : String) (finalState : Option Deployment)
  | resync (ns name : String)
  /-- The informer's handler calls `Action` with the event that is next. -/
  | handle
  | move (motion : b.Motion)
  /-- A call is made, and calls `Watch`, which may fail. -/
  | watch (call : Fin n) (failure : Option String)
  | get (call : Fin n)
  | receive (call : Fin n)
  | cancel (call : Fin n) (err : String)

variable {b : Broadcaster (Fin n) WatchEvent}

namespace State

def initial (store : GoMap (String × String) Deployment) (notifications : List WatchEvent) :
    State b where
  store := store
  notifications := notifications
  bcaster := b.new
  phases := fun _ => .idle

def notify (state : State b) (type : EventType) (depl : Deployment) : State b :=
  { state with notifications := state.notifications ++ [⟨type, depl⟩] }

def setPhase (state : State b) (call : Fin n) (phase : Phase) : State b :=
  { state with phases := Function.update state.phases call phase }

/-- On its way out, the function stops its watcher. -/
def returns (state : State b) (call : Fin n) (result : Except String Int) : State b :=
  { state.setPhase call (.returned result) with bcaster := b.stop state.bcaster call }

@[simp]
theorem setPhase_phases (state : State b) (call other : Fin n) (phase : Phase) :
    (state.setPhase call phase).phases other = if other = call then phase else state.phases other :=
  Function.update_apply ..

@[simp]
theorem returns_phases (state : State b) (call other : Fin n) (result : Except String Int) :
    (state.returns call result).phases other =
      if other = call then .returned result else state.phases other :=
  Function.update_apply ..

end State

section Step

-- The deployments that the calls are for, by namespace and name.
variable (targets : Fin n → String × String)

/-- The test of the filter that a call has put in front of its watcher. -/
def keep (call : Fin n) (event : WatchEvent) : Bool :=
  event.isFor (targets call).1 (targets call).2

def step (state : State b) : Event b → Option (State b)
  | .put depl =>
      let type := if (depl.ns, depl.name) ∈ state.store then .modified else .added
      some ({ state with store := state.store.insert (depl.ns, depl.name) depl }.notify type depl)
  | .remove ns name finalState =>
      let removed := { state with store := state.store.erase (ns, name) }
      match finalState with
      | some depl => some (removed.notify .deleted depl)
      | none => some removed
  | .resync ns name =>
      match state.store.lookup (ns, name) with
      | some depl => some (state.notify .modified depl)
      | none => none
  | .handle =>
      match state.notifications with
      | [] => none
      | event :: rest =>
          (b.send state.bcaster event).map fun bcaster =>
            { state with notifications := rest, bcaster := bcaster }
  | .move motion =>
      (b.move state.bcaster motion).map fun bcaster => { state with bcaster := bcaster }
  | .watch call failure =>
      if state.phases call = .idle then
        match failure with
        | some err => some (state.setPhase call (.returned (.error err)))
        | none =>
            (b.watch state.bcaster call).map fun bcaster =>
              { state.setPhase call .calling with bcaster := bcaster }
      else none
  | .get call =>
      -- The function goes on when `Watch` has returned.
      if state.phases call = .calling ∧ b.watched state.bcaster call = true then
        match state.store.lookup (targets call) with
        | none =>
            some (state.returns call (.error ("error getting state for deployment " ++
              (targets call).1 ++ "/" ++ (targets call).2 ++ " (deployment.apps " ++
              (targets call).2.quote ++ " not found)")))
        | some deployment =>
            if deploymentCanServe deployment then
              some (state.returns call (.ok deployment.readyReplicas.toInt))
            else some (state.setPhase call .waiting)
      else none
  | .receive call =>
      if state.phases call = .waiting then
        match b.receive state.bcaster call with
        | some (event, bcaster) =>
            let received := { state with bcaster := bcaster }
            if deploymentCanServe event.object then some (received.returns call (.ok 0))
            else some received
        | none => none
      else none
  | .cancel call err =>
      if state.phases call = .waiting then
        some (state.returns call (.error ("context marked done while waiting for deployment " ++
          (targets call).2 ++ " to reach > 0 replicas (" ++ err ++ ")")))
      else none

end Step

section Inversion

variable {targets : Fin n → String × String} {state next : State b} {call : Fin n}

theorem step_handle (stepped : step targets state .handle = some next) :
    ∃ event rest bcaster, state.notifications = event :: rest ∧
      b.send state.bcaster event = some bcaster ∧
        next = { state with notifications := rest, bcaster := bcaster } := by
  simp only [step] at stepped
  split at stepped
  · simp at stepped
  · next event rest queued =>
      rcases Option.map_eq_some_iff.mp stepped with ⟨bcaster, sent, rfl⟩
      exact ⟨event, rest, bcaster, queued, sent, rfl⟩

theorem step_move {motion : b.Motion} (stepped : step targets state (.move motion) = some next) :
    ∃ bcaster, b.move state.bcaster motion = some bcaster ∧
      next = { state with bcaster := bcaster } := by
  rcases Option.map_eq_some_iff.mp stepped with ⟨bcaster, moved, rfl⟩
  exact ⟨bcaster, moved, rfl⟩

theorem step_watch {failure : Option String}
    (stepped : step targets state (.watch call failure) = some next) :
    state.phases call = .idle ∧
      ((∃ err, failure = some err ∧ next = state.setPhase call (.returned (.error err))) ∨
        ∃ bcaster, failure = none ∧ b.watch state.bcaster call = some bcaster ∧
          next = { state.setPhase call .calling with bcaster := bcaster }) := by
  simp only [step] at stepped
  split at stepped
  · next idle =>
      refine ⟨idle, ?_⟩
      cases failure with
      | some err => exact .inl ⟨err, rfl, (Option.some.inj stepped).symm⟩
      | none =>
          rcases Option.map_eq_some_iff.mp stepped with ⟨bcaster, watched, rfl⟩
          exact .inr ⟨bcaster, rfl, watched, rfl⟩
  · simp at stepped

theorem step_get (stepped : step targets state (.get call) = some next) :
    state.phases call = .calling ∧ b.watched state.bcaster call = true ∧
      ((∃ result, next = state.returns call result) ∨ next = state.setPhase call .waiting) := by
  simp only [step] at stepped
  split at stepped
  · next guard =>
      refine ⟨guard.1, guard.2, ?_⟩
      split at stepped
      · exact .inl ⟨_, (Option.some.inj stepped).symm⟩
      · split at stepped
        · exact .inl ⟨_, (Option.some.inj stepped).symm⟩
        · exact .inr (Option.some.inj stepped).symm
  · simp at stepped

theorem step_receive (stepped : step targets state (.receive call) = some next) :
    state.phases call = .waiting ∧ ∃ event bcaster,
      b.receive state.bcaster call = some (event, bcaster) ∧
      (deploymentCanServe event.object = true ∧
          next = State.returns { state with bcaster := bcaster } call (.ok 0) ∨
        deploymentCanServe event.object = false ∧ next = { state with bcaster := bcaster }) := by
  simp only [step] at stepped
  split at stepped
  · next waiting =>
      split at stepped
      · next event bcaster received =>
          refine ⟨waiting, event, bcaster, received, ?_⟩
          split at stepped
          · next ready => exact .inl ⟨ready, (Option.some.inj stepped).symm⟩
          · next notReady =>
              exact .inr ⟨by simpa using notReady, (Option.some.inj stepped).symm⟩
      · simp at stepped
  · simp at stepped

theorem step_cancel {err : String} (stepped : step targets state (.cancel call err) = some next) :
    state.phases call = .waiting ∧
      next = state.returns call (.error ("context marked done while waiting for deployment " ++
        (targets call).2 ++ " to reach > 0 replicas (" ++ err ++ ")")) := by
  simp only [step] at stepped
  split at stepped
  · next waiting => exact ⟨waiting, (Option.some.inj stepped).symm⟩
  · simp at stepped

/-- The informer's own steps leave the broadcaster and the calls alone. -/
structure Informs (state next : State b) : Prop where
  bcaster : next.bcaster = state.bcaster
  phases : next.phases = state.phases

theorem informs_put {depl : Deployment} (stepped : step targets state (.put depl) = some next) :
    Informs state next := by
  rw [← Option.some.inj stepped]
  exact ⟨rfl, rfl⟩

theorem informs_remove {ns name : String} {finalState : Option Deployment}
    (stepped : step targets state (.remove ns name finalState) = some next) :
    Informs state next := by
  cases finalState with
  | some depl =>
      rw [← Option.some.inj stepped]
      exact ⟨rfl, rfl⟩
  | none =>
      rw [← Option.some.inj stepped]
      exact ⟨rfl, rfl⟩

theorem informs_resync {ns name : String}
    (stepped : step targets state (.resync ns name) = some next) : Informs state next := by
  simp only [step] at stepped
  split at stepped
  · rw [← Option.some.inj stepped]
    exact ⟨rfl, rfl⟩
  · simp at stepped

end Inversion

section Phases

variable {targets : Fin n → String × String} {state next : State b} {call : Fin n}

/-- What a step does to the phase of a call. Only the call itself gets on, by what it finds. -/
inductive Advances (targets : Fin n → String × String) (state : State b) (call : Fin n) :
    Event b → Phase → Phase → Prop where
  | stays {event : Event b} (apart : event ≠ .get call) (phase : Phase) :
      Advances targets state call event phase phase
  | calls : Advances targets state call (.watch call none) .idle .calling
  | refused (err : String) :
      Advances targets state call (.watch call (some err)) .idle (.returned (.error err))
  | finds {depl : Deployment} (found : state.store.lookup (targets call) = some depl)
      (serves : deploymentCanServe depl = true) :
      Advances targets state call (.get call) .calling (.returned (.ok depl.readyReplicas.toInt))
  | waits {depl : Deployment} (found : state.store.lookup (targets call) = some depl)
      (idle : deploymentCanServe depl = false) :
      Advances targets state call (.get call) .calling .waiting
  | misses (missing : state.store.lookup (targets call) = none) (err : String) :
      Advances targets state call (.get call) .calling (.returned (.error err))
  | wakes : Advances targets state call (.receive call) .waiting (.returned (.ok 0))
  | givesUp (err message : String) :
      Advances targets state call (.cancel call err) .waiting (.returned (.error message))

theorem advances_update {event : Event b} {moved : Fin n} {phase : Phase}
    (apart : call ≠ moved → event ≠ .get call)
    (own : call = moved → Advances targets state call event (state.phases call) phase) :
    Advances targets state call event (state.phases call)
      (Function.update state.phases moved phase call) := by
  by_cases same : call = moved
  · rw [← same, Function.update_self]
    exact own same
  · rw [Function.update_of_ne same]
    exact .stays (apart same) _

theorem advances_get {reader : Fin n} (stepped : step targets state (.get reader) = some next)
    (call : Fin n) :
    Advances targets state call (.get reader) (state.phases call) (next.phases call) := by
  have apart : call ≠ reader → Event.get reader ≠ (.get call : Event b) := by
    rintro differs ⟨⟩
    exact differs rfl
  simp only [step] at stepped
  split at stepped
  · next guard =>
      split at stepped
      · next missing =>
          rw [← Option.some.inj stepped]
          apply advances_update apart
          rintro rfl
          rw [guard.1]
          exact .misses missing _
      · next depl found =>
          split at stepped
          · next serves =>
              rw [← Option.some.inj stepped]
              apply advances_update apart
              rintro rfl
              rw [guard.1]
              exact .finds found serves
          · next idle =>
              rw [← Option.some.inj stepped]
              apply advances_update apart
              rintro rfl
              rw [guard.1]
              exact .waits found (Bool.eq_false_iff.mpr idle)
  · simp at stepped

theorem advances_of_step {event : Event b} (stepped : step targets state event = some next)
    (call : Fin n) :
    Advances targets state call event (state.phases call) (next.phases call) := by
  cases event with
  | put depl =>
      rw [(informs_put stepped).phases]
      exact .stays (by simp) _
  | remove ns name finalState =>
      rw [(informs_remove stepped).phases]
      exact .stays (by simp) _
  | resync ns name =>
      rw [(informs_resync stepped).phases]
      exact .stays (by simp) _
  | handle =>
      rcases step_handle stepped with ⟨event, rest, bcaster, queued, sent, rfl⟩
      exact .stays (by simp) _
  | move motion =>
      rcases step_move stepped with ⟨bcaster, moved, rfl⟩
      exact .stays (by simp) _
  | watch watching failure =>
      rcases step_watch stepped with ⟨idle, ⟨err, rfl, rfl⟩ | ⟨bcaster, rfl, asked, rfl⟩⟩
      · apply advances_update (by simp)
        rintro rfl
        rw [idle]
        exact .refused err
      · apply advances_update (by simp)
        rintro rfl
        rw [idle]
        exact .calls
  | get reader => exact advances_get stepped call
  | receive reader =>
      rcases step_receive stepped with ⟨waiting, event, bcaster, received, ⟨_, rfl⟩ | ⟨_, rfl⟩⟩
      · apply advances_update (by simp)
        rintro rfl
        rw [waiting]
        exact .wakes
      · exact .stays (by simp) _
  | cancel canceled err =>
      rcases step_cancel stepped with ⟨waiting, rfl⟩
      apply advances_update (by simp)
      rintro rfl
      rw [waiting]
      exact .givesUp err _

end Phases

section Invariant

variable {targets : Fin n → String × String}

/-- What can have become of the watcher of a call. -/
def allows : Phase → Slot WatchEvent → Bool
  | .idle, .unasked => true
  | .calling, .asked | .calling, .registered _ _ _ => true
  | .waiting, .registered returned _ _ => returned
  | .returned _, .unasked | .returned _, .stopped => true
  | _, _ => false

/-- Each call is where its watcher is. -/
def Sound (delivers : Delivers b (keep targets)) (state : State b) : Prop :=
  ∀ call, allows (state.phases call) (delivers.mailbox state.bcaster call).slot = true

theorem watched_of_waiting {delivers : Delivers b (keep targets)} {state : State b} {call : Fin n}
    (sound : Sound delivers state) (waiting : state.phases call = .waiting) :
    b.watched state.bcaster call = true := by
  have agrees := sound call
  rw [waiting] at agrees
  apply delivers.watched.mpr
  cases slot : (delivers.mailbox state.bcaster call).slot with
  | registered returned incoming result =>
      cases returned with
      | true => exact ⟨incoming, result, rfl⟩
      | false => simp [slot, allows] at agrees
  | unasked | asked | stopped => simp [slot, allows] at agrees

namespace Sound

variable {delivers : Delivers b (keep targets)} {state next : State b} {call : Fin n}

theorem initial (store : GoMap (String × String) Deployment) (notifications : List WatchEvent) :
    Sound delivers (State.initial store notifications) := by
  intro call
  simp [State.initial, delivers.new, allows]

/-- Only one call and its watcher go on. -/
theorem update (sound : Sound delivers state) (call : Fin n)
    (phases : ∀ other ≠ call, next.phases other = state.phases other)
    (mailboxes : ∀ other ≠ call,
      delivers.mailbox next.bcaster other = delivers.mailbox state.bcaster other)
    (allowed : allows (next.phases call) (delivers.mailbox next.bcaster call).slot = true) :
    Sound delivers next := by
  intro other
  by_cases same : other = call
  · rw [same]
    exact allowed
  · rw [phases other same, mailboxes other same]
    exact sound other

/-- A call whose watcher it can read from is about to read the cache, or waits. -/
theorem phase_of_watched (sound : Sound delivers state)
    (watched : b.watched state.bcaster call = true) :
    state.phases call = .calling ∨ state.phases call = .waiting := by
  rcases delivers.watched.mp watched with ⟨incoming, result, slot⟩
  have agrees := sound call
  rw [slot] at agrees
  cases phase : state.phases call with
  | calling => exact .inl rfl
  | waiting => exact .inr rfl
  | idle | returned => simp [phase, allows] at agrees

theorem returns (sound : Sound delivers state) (watched : b.watched state.bcaster call = true)
    (result : Except String Int) : Sound delivers (state.returns call result) := by
  rcases delivers.stop watched with ⟨stopped, others⟩
  apply sound.update call
  · intro other differs
    simp [differs]
  · exact others
  · change allows _ (delivers.mailbox (b.stop state.bcaster call) call).slot = true
    rw [stopped]
    simp [allows]

theorem move (sound : Sound delivers state) {motion : b.Motion} {bcaster : b.State}
    (moved : b.move state.bcaster motion = some bcaster) :
    Sound delivers { state with bcaster := bcaster } := by
  intro other
  have agrees := sound other
  have moves := delivers.move moved other
  revert agrees moves
  generalize delivers.mailbox state.bcaster other = before
  generalize delivers.mailbox bcaster other = after
  intro agrees moves
  cases moves with
  | same => exact agrees
  | miss => exact agrees
  | register | returns | pass | filter =>
      cases phase : state.phases other <;> simp_all [allows]

/-- A call that waits has taken an event, and may wait on. -/
theorem receive (sound : Sound delivers state) (waiting : state.phases call = .waiting)
    {event : WatchEvent} {bcaster : b.State}
    (received : b.receive state.bcaster call = some (event, bcaster)) :
    Sound delivers { state with bcaster := bcaster } := by
  rcases delivers.receive received with ⟨⟨queued, returned, incoming, result, before, after⟩,
    others⟩
  have agrees := sound call
  rw [waiting, before] at agrees
  refine sound.update call (fun _ _ => rfl) others ?_
  simpa [waiting, after, allows] using agrees

theorem of_informs (sound : Sound delivers state) (informs : Informs state next) :
    Sound delivers next := by
  intro other
  rw [informs.phases, informs.bcaster]
  exact sound other

theorem preserved (sound : Sound delivers state) {event : Event b}
    (stepped : step targets state event = some next) : Sound delivers next := by
  cases event with
  | put depl => exact sound.of_informs (informs_put stepped)
  | remove ns name finalState => exact sound.of_informs (informs_remove stepped)
  | resync ns name => exact sound.of_informs (informs_resync stepped)
  | handle =>
      rcases step_handle stepped with ⟨event, rest, bcaster, queued, sent, rfl⟩
      intro other
      simp only [delivers.send sent other]
      exact sound other
  | move motion =>
      rcases step_move stepped with ⟨bcaster, moved, rfl⟩
      exact sound.move moved
  | watch call failure =>
      rcases step_watch stepped with ⟨idle, ⟨err, rfl, rfl⟩ | ⟨bcaster, rfl, asked, rfl⟩⟩
      · have agrees := sound call
        apply sound.update call
        · intro other differs
          simp [differs]
        · exact fun _ _ => rfl
        · cases slot : (delivers.mailbox state.bcaster call).slot <;>
            simp_all [allows, State.setPhase]
      · rcases delivers.watch asked with ⟨unasked, watching, others⟩
        apply sound.update call
        · intro other differs
          exact Function.update_of_ne differs _ _
        · exact others
        · simp [State.setPhase, watching, allows]
  | get call =>
      rcases step_get stepped with ⟨calling, watched, ⟨result, rfl⟩ | rfl⟩
      · exact sound.returns watched result
      · rcases delivers.watched.mp watched with ⟨incoming, result, slot⟩
        apply sound.update call
        · intro other differs
          simp [differs]
        · exact fun _ _ => rfl
        · simp [State.setPhase, slot, allows]
  | receive call =>
      rcases step_receive stepped with ⟨waiting, event, bcaster, received, goesOn⟩
      have read := sound.receive waiting received
      rcases goesOn with ⟨_, rfl⟩ | ⟨_, rfl⟩
      · exact read.returns (watched_of_waiting read waiting) _
      · exact read
  | cancel call err =>
      rcases step_cancel stepped with ⟨waiting, rfl⟩
      exact sound.returns (watched_of_waiting sound waiting) _

end Sound

end Invariant

section View

/-- The channels of a watcher that is registered. -/
def watcher? : Slot WatchEvent → Option Watcher
  | .registered _ incoming result => some ⟨incoming, result⟩
  | .unasked | .asked | .stopped => none

/-- A call has its watcher from the moment on in which it is registered. -/
def phaseOf : Phase → Slot WatchEvent → ForwardWait.Phase
  | .idle, _ => .called
  | .calling, .registered _ _ _ => .watching
  | .calling, _ => .called
  | .waiting, _ => .waiting
  | .returned result, _ => .returned result

variable {targets : Fin n → String × String}

/-- What one of the calls sees of the cache. -/
def view (delivers : Delivers b (keep targets)) (call : Fin n) (state : State b) :
    ForwardWait.State where
  store := state.store
  notifications := (delivers.mailbox state.bcaster call).queued ++ state.notifications
  watcher := watcher? (delivers.mailbox state.bcaster call).slot
  phase := phaseOf (state.phases call) (delivers.mailbox state.bcaster call).slot

variable {delivers : Delivers b (keep targets)} {state next : State b} {call : Fin n}

/-- The call sees one step of its own system, or none. -/
def Sees (delivers : Delivers b (keep targets)) (call : Fin n) (state next : State b) : Prop :=
  view delivers call next = view delivers call state ∨
    ∃ seen, StepOf (ForwardWait.step (targets call).1 (targets call).2) (view delivers call state)
      seen (view delivers call next)

theorem view_initial (store : GoMap (String × String) Deployment)
    (notifications : List WatchEvent) (call : Fin n) :
    view delivers call (State.initial store notifications) =
      ForwardWait.State.initial store notifications := by
  simp [view, State.initial, ForwardWait.State.initial, delivers.new, watcher?, phaseOf]

/-- A call does not see what is about another one. -/
theorem view_congr (store : next.store = state.store)
    (notifications : next.notifications = state.notifications)
    (mailbox : delivers.mailbox next.bcaster call = delivers.mailbox state.bcaster call)
    (phase : next.phases call = state.phases call) :
    view delivers call next = view delivers call state := by
  simp only [view, store, notifications, mailbox, phase]

theorem view_returns_self (watched : b.watched state.bcaster call = true)
    (result : Except String Int) :
    view delivers call (state.returns call result) = (view delivers call state).returns result := by
  have stopped := (delivers.stop watched).1
  simp [view, State.returns, State.setPhase, ForwardWait.State.returns, stopped, watcher?, phaseOf]

theorem view_returns {other : Fin n} (watched : b.watched state.bcaster other = true)
    (differs : call ≠ other) (result : Except String Int) :
    view delivers call (state.returns other result) = view delivers call state :=
  view_congr rfl rfl ((delivers.stop watched).2 call differs) (Function.update_of_ne differs _ _)

theorem sees_move (sound : Sound delivers state) {motion : b.Motion} {bcaster : b.State}
    (moved : b.move state.bcaster motion = some bcaster) :
    Sees delivers call state { state with bcaster := bcaster } := by
  have agrees := sound call
  have moves := delivers.move moved call
  simp only [Sees, view]
  revert agrees moves
  generalize delivers.mailbox state.bcaster call = before
  generalize delivers.mailbox bcaster call = after
  intro agrees moves
  cases moves with
  | same => exact .inl rfl
  | register queued =>
      refine .inr ⟨.watch none, ?_⟩
      cases phase : state.phases call <;>
        simp [phase, allows, StepOf, ForwardWait.step, watcher?, phaseOf] at agrees ⊢
  | returns queued incoming result =>
      left
      cases state.phases call <;> rfl
  | pass item returned queued incoming result =>
      refine .inr ⟨.broadcast, ?_⟩
      cases state.phases call <;> rfl
  | @miss item queued slot unregistered =>
      refine .inr ⟨.broadcast, ?_⟩
      have unwatched : watcher? slot = none := by
        cases slot with
        | registered returned incoming result => exact absurd rfl (unregistered _ _ _)
        | unasked | asked | stopped => rfl
      simp [StepOf, ForwardWait.step, unwatched]
  | filter item returned queued incoming result =>
      refine .inr ⟨.filter, ?_⟩
      cases state.phases call <;> rfl

theorem sees_watch (sound : Sound delivers state) {watching : Fin n} {failure : Option String}
    (stepped : step targets state (.watch watching failure) = some next) :
    Sees delivers call state next := by
  rcases step_watch stepped with ⟨idle, ⟨err, rfl, rfl⟩ | ⟨bcaster, rfl, asked, rfl⟩⟩
  · by_cases same : call = watching
    · subst same
      have agrees := sound call
      refine .inr ⟨.watch (some err), ?_⟩
      cases slot : (delivers.mailbox state.bcaster call).slot <;>
        simp_all [allows, StepOf, ForwardWait.step, view, State.setPhase, watcher?, phaseOf,
          ForwardWait.State.returns]
    · exact .inl (view_congr rfl rfl rfl (Function.update_of_ne same _ _))
  -- The call is seen to watch when it is registered.
  · rcases delivers.watch asked with ⟨unasked, watched, others⟩
    left
    by_cases same : call = watching
    · subst same
      simp [view, State.setPhase, unasked, watched, idle, watcher?, phaseOf]
    · exact view_congr rfl rfl (others call same) (Function.update_of_ne same _ _)

theorem sees_get {reader : Fin n} (stepped : step targets state (.get reader) = some next) :
    Sees delivers call state next := by
  rcases step_get stepped with ⟨calling, watched, goesOn⟩
  by_cases same : call = reader
  · subst same
    rcases delivers.watched.mp watched with ⟨incoming, result, slot⟩
    have phase : (view delivers call state).phase = .watching := by
      simp [view, calling, slot, phaseOf]
    have store : (view delivers call state).store = state.store := rfl
    refine .inr ⟨.get, ?_⟩
    simp only [step, calling, watched, and_self, if_true] at stepped
    simp only [StepOf, ForwardWait.step, phase, store, if_true]
    split at stepped
    · next missing =>
        rw [← Option.some.inj stepped, view_returns_self watched]
        simp only [missing]
    · next deployment looked =>
        simp only [looked]
        split at stepped
        · next ready => rw [← Option.some.inj stepped, view_returns_self watched, if_pos ready]
        · next notReady =>
            rw [← Option.some.inj stepped, if_neg notReady]
            simp [view, State.setPhase, phaseOf]
  · left
    rcases goesOn with ⟨result, rfl⟩ | rfl
    · exact view_returns watched same result
    · exact view_congr rfl rfl rfl (Function.update_of_ne same _ _)

theorem sees_receive (sound : Sound delivers state) {reader : Fin n}
    (stepped : step targets state (.receive reader) = some next) :
    Sees delivers call state next := by
  rcases step_receive stepped with ⟨waiting, event, bcaster, received, goesOn⟩
  have watched : b.watched bcaster reader = true :=
    watched_of_waiting (sound.receive waiting received) waiting
  rcases delivers.receive received with ⟨⟨queued, returned, incoming, result, before, after⟩,
    others⟩
  by_cases same : call = reader
  · subst same
    have phase : (view delivers call state).phase = .waiting := by simp [view, waiting, phaseOf]
    have channels : (view delivers call state).watcher = some ⟨incoming, event :: result⟩ := by
      simp [view, before, watcher?]
    refine .inr ⟨.receive, ?_⟩
    simp only [StepOf, ForwardWait.step, phase, channels, if_true]
    rcases goesOn with ⟨ready, rfl⟩ | ⟨notReady, rfl⟩
    · rw [if_pos ready, view_returns_self watched]
      simp [view, ForwardWait.State.returns, before, after]
    · simp [notReady, view, before, after, waiting, watcher?, phaseOf]
  · have read : view delivers call { state with bcaster := bcaster } = view delivers call state :=
      view_congr rfl rfl (others call same) rfl
    left
    rcases goesOn with ⟨_, rfl⟩ | ⟨_, rfl⟩
    · exact (view_returns watched same _).trans read
    · exact read

theorem sees_cancel (sound : Sound delivers state) {canceled : Fin n} {err : String}
    (stepped : step targets state (.cancel canceled err) = some next) :
    Sees delivers call state next := by
  rcases step_cancel stepped with ⟨waiting, rfl⟩
  have watched := watched_of_waiting sound waiting
  by_cases same : call = canceled
  · subst same
    have phase : (view delivers call state).phase = .waiting := by simp [view, waiting, phaseOf]
    refine .inr ⟨.cancel err, ?_⟩
    simp only [StepOf, ForwardWait.step, phase, if_true, view_returns_self watched]
  · exact .inl (view_returns watched same _)

theorem view_notify (type : EventType) (depl : Deployment) :
    view delivers call (state.notify type depl) =
      (view delivers call state).notify type depl := by
  simp [view, State.notify, ForwardWait.State.notify]

/-- Every step is for each call a step of its own system, or none. -/
theorem sees (sound : Sound delivers state) {event : Event b}
    (stepped : step targets state event = some next) : Sees delivers call state next := by
  cases event with
  | put depl =>
      refine .inr ⟨.put depl, ?_⟩
      rw [← Option.some.inj stepped, view_notify]
      rfl
  | remove ns name finalState =>
      refine .inr ⟨.remove ns name finalState, ?_⟩
      cases finalState with
      | some depl =>
          rw [← Option.some.inj stepped, view_notify]
          rfl
      | none =>
          rw [← Option.some.inj stepped]
          rfl
  | resync ns name =>
      refine .inr ⟨.resync ns name, ?_⟩
      simp only [step] at stepped
      split at stepped
      · next depl looked =>
          have store : (view delivers call state).store = state.store := rfl
          rw [← Option.some.inj stepped, view_notify]
          simp only [StepOf, ForwardWait.step, store, looked]
      · simp at stepped
  | handle =>
      rcases step_handle stepped with ⟨event, rest, bcaster, queued, sent, rfl⟩
      left
      simp [view, delivers.send sent call, queued]
  | move motion =>
      rcases step_move stepped with ⟨bcaster, moved, rfl⟩
      exact sees_move sound moved
  | watch watching failure => exact sees_watch sound stepped
  | get reader => exact sees_get stepped
  | receive reader => exact sees_receive sound stepped
  | cancel canceled err => exact sees_cancel sound stepped

end View

/--
However many calls share the cache, and whatever they do: each of them only sees what a call could
see that has the cache for itself, with its events in the same order and none of them lost. This
holds for every broadcaster that delivers.
-/
theorem reachable_view {targets : Fin n → String × String} (delivers : Delivers b (keep targets))
    {store : GoMap (String × String) Deployment} {notifications : List WatchEvent} {state : State b}
    (reachable : Reachable (StepOf (step targets)) (State.initial store notifications) state)
    (call : Fin n) :
    Reachable (StepOf (ForwardWait.step (targets call).1 (targets call).2))
      (ForwardWait.State.initial store notifications) (view delivers call state) := by
  rw [← @view_initial _ _ _ delivers store notifications call]
  exact reachable.simulation (view delivers call) (Sound.initial store notifications)
    (fun _ _ _ sound stepped => sound.preserved stepped)
    fun _ _ _ sound stepped => sees sound stepped

/-- The broadcaster with a lock and a loop, for calls that wait for one deployment. -/
abbrev sampleBcaster (n : ℕ) : Broadcaster (Fin n) WatchEvent :=
  Broadcast.bcaster (keep fun _ => ("dp-a", "app"))

def sampleStore : GoMap (String × String) Deployment :=
  (∅ : GoMap (String × String) Deployment).insert ("dp-a", "app") ⟨"dp-a", "app", 0⟩

/--
Two calls for one deployment. Both are handed the event that it can serve, one after the other, and
one of them has returned while the event is in front of the other.
-/
theorem reachable_view_second : ∃ state : State (sampleBcaster 2),
    Reachable (StepOf (step fun _ => ("dp-a", "app"))) (State.initial sampleStore []) state ∧
      state.phases 0 = .returned (.ok 0) ∧ state.phases 1 = .waiting ∧
      Reachable (StepOf (ForwardWait.step "dp-a" "app"))
        (ForwardWait.State.initial sampleStore []) (view (Broadcast.delivers _) 1 state) := by
  rcases Reachable.exists_of_record (step fun _ : Fin 2 => ("dp-a", "app"))
    (State.initial sampleStore [] : State (sampleBcaster 2))
    [.watch 0 none, .move .push, .move .run, .move (.attach 0), .get 0,
      .watch 1 none, .move .push, .move .run, .move (.attach 1), .get 1,
      .put ⟨"dp-a", "app", 2⟩, .handle, .move .push, .move (.take [1, 0]), .move .hand,
      .move (.filter 1), .move .hand, .move (.filter 0), .receive 0]
    (fun state => decide (state.phases 0 = .returned (.ok 0)) &&
      decide (state.phases 1 = .waiting)) (by decide +kernel)
    with ⟨state, reachable, passed⟩
  simp only [Bool.and_eq_true, decide_eq_true_eq] at passed
  exact ⟨state, reachable, passed.1, passed.2, reachable_view (Broadcast.delivers _) reachable 1⟩

end KedaHttp.Interceptor.Crowd
