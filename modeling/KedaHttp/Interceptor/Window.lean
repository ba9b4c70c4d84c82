import KedaHttp.Interceptor.Counting

/-!
# The cooldown window

`RequestQueueCooldown` is how long the interceptor is meant to wait, after the last request for a
host, before it sets the host's queue size to 0. The runs of this file have a clock that never
goes back, and a record of when the last request for each host ended. A state is warm if every
host whose last request ended within the cooldown still has a count of at least 1. It keeps warm
if it is, and stays so whatever passes the enforcer makes from then on, and at whatever time.

The source arms the cooldown only in the postpone branch. A request that ends while an older entry
exists decrements and leaves that entry alone, so that the host can be reset before the cooldown of
this request is over. Two requests that both read a count of 2 both decrement. And a pass that has
collected a host resets it whatever happens before the pass is applied. `LeavesUnit` says of the end
of a request that none of this does harm. All states of a run keep warm precisely if all requests
of the run end in that way, and the other moves need no condition.
-/

namespace KedaHttp.Interceptor.Counting

open KedaHttp.Foundation KedaHttp.Queue

/-- An interceptor with its clock and the moments at which the last requests ended. -/
structure Timed where
  state : State
  clock : Time
  ended : GoMap String Time

/-- An event at a moment. -/
structure Stamped where
  time : Time
  event : Event

namespace Event

/-- The host of the request that comes to its end. -/
def endedHost (state : State) : Event → Option String
  | .act index (.complete _) => state.requests[index]?.bind Phase.host?
  | .act _ .increment | .act _ (.serve _) | .act _ .check | .arrive _ _ | .scan _ _
  | .applyCollected => none

/-- What an event reads from the clock lies between the moment before it and its own. -/
def OnTime (clock time : Time) : Event → Prop
  | .act _ (.complete now) => clock ≤ time ∧ now = time
  | .scan now order =>
      (clock :: (order.map fun entry => now entry.1) ++ [time]).Pairwise (· ≤ ·)
  | .act _ .increment | .act _ (.serve _) | .act _ .check | .arrive _ _ | .applyCollected =>
      clock ≤ time

instance (clock time : Time) : (event : Event) → Decidable (event.OnTime clock time)
  | .act _ (.complete now) => inferInstanceAs (Decidable (clock ≤ time ∧ now = time))
  | .scan now order =>
      inferInstanceAs (Decidable
        ((clock :: (order.map fun entry => now entry.1) ++ [time]).Pairwise (· ≤ ·)))
  | .act _ .increment | .act _ (.serve _) | .act _ .check | .arrive _ _ | .applyCollected =>
      inferInstanceAs (Decidable (clock ≤ time))

theorem OnTime.clock_le {clock time : Time} {event : Event} (onTime : event.OnTime clock time) :
    clock ≤ time := by
  cases event with
  | act index action =>
      cases action with
      | complete now => exact onTime.1
      | increment | serve | check => exact onTime
  | scan now order =>
      simp only [OnTime, List.cons_append, List.pairwise_cons] at onTime
      exact onTime.1 time (by simp)
  | arrive | applyCollected => exact onTime

theorem OnTime.now_le {clock time : Time} {now : String → Time} {order : List (String × Time)}
    (onTime : (scan now order).OnTime clock time) {host : String} {deadline : Time}
    (visited : (host, deadline) ∈ order) : now host ≤ time := by
  simp only [OnTime, List.cons_append, List.pairwise_cons, List.pairwise_append] at onTime
  exact onTime.2.2.2 (now host) (List.mem_map_of_mem visited) time (by simp)

theorem onTime_scan {clock time : Time} (later : clock ≤ time) (order : List (String × Time)) :
    (scan (fun _ => time) order).OnTime clock time := by
  have same : ∀ read ∈ (order.map fun _ => time) ++ [time], read = time := by
    intro read member
    simp only [List.mem_append, List.mem_map, List.mem_singleton] at member
    rcases member with ⟨_, _, rfl⟩ | rfl <;> rfl
  simp only [OnTime, List.cons_append, List.pairwise_cons]
  constructor
  · intro read member
    rw [same read member]
    exact later
  · apply List.pairwise_of_forall_mem_list
    intro first firstMember second secondMember
    rw [same first firstMember, same second secondMember]

/-- The event is a move of the enforcer. -/
def isPass : Event → Bool
  | .scan _ _ | .applyCollected => true
  | .arrive _ _ | .act _ _ => false

end Event

namespace Timed

def initial (postponeDuration start : Time) : Timed where
  state := .initial postponeDuration true
  clock := start
  ended := ∅

/-- The count of every host stays positive for the cooldown after its last request has ended. -/
def Warm (cooldown : Time) (timed : Timed) : Prop :=
  ∀ host time, timed.ended.lookup host = some time → timed.clock ≤ time + cooldown →
    1 ≤ timed.state.queue.count host

def endedAfter (timed : Timed) (stamped : Stamped) : GoMap String Time :=
  match stamped.event.endedHost timed.state with
  | some host => timed.ended.insert host stamped.time
  | none => timed.ended

end Timed

def timedStep (timed : Timed) (stamped : Stamped) : Option Timed :=
  if stamped.event.OnTime timed.clock stamped.time then
    (step timed.state stamped.event).map fun next =>
      ⟨next, stamped.time, timed.endedAfter stamped⟩
  else none

theorem timedStep_eq {timed next : Timed} {stamped : Stamped}
    (stepped : timedStep timed stamped = some next) :
    stamped.event.OnTime timed.clock stamped.time ∧
      step timed.state stamped.event = some next.state ∧
      next = ⟨next.state, stamped.time, timed.endedAfter stamped⟩ := by
  simp only [timedStep] at stepped
  split at stepped
  · next onTime =>
      rcases Option.map_eq_some_iff.mp stepped with ⟨state, moved, rfl⟩
      exact ⟨onTime, moved, rfl⟩
  · simp at stepped

/-- The state is warm, and stays so whatever the enforcer does next. -/
def Timed.KeepsWarm (cooldown : Time) (timed : Timed) : Prop :=
  ∀ later reached, Run (StepOf timedStep) timed later reached →
    (∀ move ∈ later, move.event.event.isPass = true) → reached.Warm cooldown

/-- What a request leaves for its host when it ends in this phase. -/
def State.LeavesUnit (state : State) (limit : Time) : Phase → Prop
  | .postponing host => 1 ≤ state.queue.count host ∧ host ∉ state.collected.getD []
  | .decrementing host =>
      2 ≤ state.queue.count host ∧ host ∉ state.collected.getD [] ∧
        -- The unit that is left may be the one of an older postponed entry.
        (state.queue.count host = 2 →
          ∀ deadline ∈ state.queue.postponedResizes.lookup host, limit ≤ deadline)
  | .rejected _ | .received _ | .serving _ | .leaving _ | .finished _ => True

instance (state : State) (limit : Time) : (phase : Phase) → Decidable (state.LeavesUnit limit phase)
  | .postponing _ => inferInstanceAs (Decidable (_ ∧ _))
  | .decrementing _ => inferInstanceAs (Decidable (_ ∧ _ ∧ (_ → _)))
  | .rejected _ | .received _ | .serving _ | .leaving _ | .finished _ => .isTrue trivial

/--
A request that ends leaves a unit to its host that no pass takes away within the cooldown: a pass
that is under way has not collected the host, and the last unit has no entry that expires before.
-/
def LeavesUnit (cooldown : Time) (timed : Timed) : Stamped → Prop
  | ⟨time, .act index (.complete _)⟩ =>
      0 ≤ cooldown → ∀ phase ∈ timed.state.requests[index]?,
        timed.state.LeavesUnit (time + cooldown) phase
  | ⟨_, .act _ .increment⟩ | ⟨_, .act _ (.serve _)⟩ | ⟨_, .act _ .check⟩ | ⟨_, .arrive _ _⟩
  | ⟨_, .scan _ _⟩ | ⟨_, .applyCollected⟩ => True

instance (cooldown : Time) (timed : Timed) :
    (stamped : Stamped) → Decidable (LeavesUnit cooldown timed stamped)
  | ⟨time, .act index (.complete _)⟩ =>
      inferInstanceAs (Decidable (0 ≤ cooldown → ∀ phase ∈ timed.state.requests[index]?,
        timed.state.LeavesUnit (time + cooldown) phase))
  | ⟨_, .act _ .increment⟩ | ⟨_, .act _ (.serve _)⟩ | ⟨_, .act _ .check⟩ | ⟨_, .arrive _ _⟩
  | ⟨_, .scan _ _⟩ | ⟨_, .applyCollected⟩ => .isTrue trivial

section Shelter

/-- The enforcer cannot take the last unit of the host up to a moment. -/
structure State.Shelters (state : State) (host : String) (limit : Time) : Prop where
  counted : 1 ≤ state.queue.count host
  uncollected : host ∉ state.collected.getD []
  armed : state.queue.count host = 1 →
    ∀ deadline ∈ state.queue.postponedResizes.lookup host, limit ≤ deadline

def Timed.Sheltered (cooldown : Time) (timed : Timed) : Prop :=
  ∀ host ended, timed.ended.lookup host = some ended → timed.clock ≤ ended + cooldown →
    timed.state.Shelters host (ended + cooldown)

variable {cooldown time : Time} {timed next : Timed} {state : State}

theorem Timed.Sheltered.warm (sheltered : timed.Sheltered cooldown) : timed.Warm cooldown :=
  fun host ended found within => (sheltered host ended found within).counted

/-- Time passes, and every host stays sheltered as long as it was. -/
theorem Timed.Sheltered.of_shelters (sheltered : timed.Sheltered cooldown)
    (later : timed.clock ≤ time)
    (shelters : ∀ host limit, time ≤ limit → timed.state.Shelters host limit →
      state.Shelters host limit) :
    Timed.Sheltered cooldown ⟨state, time, timed.ended⟩ := by
  intro host ended found within
  exact shelters host _ within (sheltered host ended found (le_trans later within))

/-- A request for `host` ends. -/
theorem Timed.Sheltered.insert_iff (sheltered : timed.Sheltered cooldown)
    (later : timed.clock ≤ time) {host : String}
    (others : ∀ other limit, other ≠ host → timed.state.Shelters other limit →
      state.Shelters other limit) :
    Timed.Sheltered cooldown ⟨state, time, timed.ended.insert host time⟩ ↔
      (0 ≤ cooldown → state.Shelters host (time + cooldown)) := by
  constructor
  · intro shelteredAfter nonnegative
    apply shelteredAfter host time (Finmap.lookup_insert _)
    exact Int.le_add_of_nonneg_right nonnegative
  · intro shelters other ended found within
    change time ≤ ended + cooldown at within
    rw [GoMap.lookup_insert_ite] at found
    split at found
    · next same =>
        subst same
        simp only [Option.some.injEq] at found
        subst found
        exact shelters (by simpa using within)
    · next differs =>
        exact others other _ differs (sheltered other ended found (le_trans later within))

/-- Until its last step a request takes nothing away. -/
theorem Advances.shelters {index : ℕ} {phase phase' : Phase} {action : Action} {queue : Memory}
    (advances : Advances state.queue phase action queue phase')
    (unfinished : ∀ now, action ≠ .complete now) {host : String} {limit : Time}
    (shelters : state.Shelters host limit) :
    State.Shelters { state with queue := queue, requests := state.requests.set index phase' } host
      limit := by
  cases advances with
  | increment key =>
      refine ⟨?_, shelters.uncollected, ?_⟩
      · have counted := shelters.counted
        simp only [Memory.count_resize]
        split <;> omega
      · intro single deadline found
        have counted := shelters.counted
        simp only [Memory.count_resize] at single
        split at single
        · omega
        · exact shelters.armed (by simpa using single) deadline found
  | serve | checkLast | checkOther => exact ⟨shelters.counted, shelters.uncollected, shelters.armed⟩
  | postpone key now => exact absurd rfl (unfinished now)
  | decrement key now => exact absurd rfl (unfinished now)

/-- The end of a request shelters its host exactly if it leaves a unit. -/
theorem Advances.shelters_iff {index : ℕ} {phase phase' : Phase} {queue : Memory}
    (advances : Advances state.queue phase (.complete time) queue phase')
    (duration : state.queue.postponeDuration = cooldown) :
    ∃ host, phase.host? = some host ∧
      (∀ other limit, other ≠ host → state.Shelters other limit →
        State.Shelters { state with queue := queue, requests := state.requests.set index phase' }
          other limit) ∧
      (State.Shelters { state with queue := queue, requests := state.requests.set index phase' }
        host (time + cooldown) ↔ state.LeavesUnit (time + cooldown) phase) := by
  cases advances with
  | postpone host now =>
      refine ⟨host, rfl, ?_, ?_⟩
      · intro other limit differs shelters
        refine ⟨shelters.counted, shelters.uncollected, ?_⟩
        simp only [Memory.postponeResize, GoMap.lookup_insert_ite, if_neg differs]
        exact shelters.armed
      · constructor
        · intro shelters
          exact ⟨shelters.counted, shelters.uncollected⟩
        · rintro ⟨counted, uncollected⟩
          refine ⟨counted, uncollected, ?_⟩
          intro _ deadline found
          simp only [Memory.postponeResize, Finmap.lookup_insert, Option.mem_def,
            Option.some.injEq] at found
          rw [← found, duration]
  | decrement host now =>
      refine ⟨host, rfl, ?_, ?_⟩
      · intro other limit differs shelters
        have same : (state.queue.resize host (-1)).count other = state.queue.count other := by
          simp [Memory.count_resize, differs]
        exact ⟨same ▸ shelters.counted, shelters.uncollected, fun single =>
          shelters.armed (same ▸ single)⟩
      · have taken : (state.queue.resize host (-1)).count host = state.queue.count host - 1 := by
          simp [Memory.count_resize, sub_eq_add_neg]
        constructor
        · intro shelters
          have counted : 1 ≤ (state.queue.resize host (-1)).count host := shelters.counted
          refine ⟨by omega, shelters.uncollected, ?_⟩
          intro double
          exact shelters.armed (show (state.queue.resize host (-1)).count host = 1 by omega)
        · rintro ⟨counted, uncollected, armed⟩
          refine ⟨show 1 ≤ (state.queue.resize host (-1)).count host by omega, uncollected, ?_⟩
          intro single
          change (state.queue.resize host (-1)).count host = 1 at single
          exact armed (by omega)

/-- A scan does not collect a host whose entry has not expired. -/
theorem shelters_scan {now : String → Time} {order : List (String × Time)}
    (ranges : state.queue.postponedResizes.Ranges order)
    (onTime : ∀ host deadline, (host, deadline) ∈ order → now host ≤ time) {host : String}
    {limit : Time} (within : time ≤ limit) (shelters : state.Shelters host limit) :
    State.Shelters { state with collected := some (state.queue.hostsToModify now order) } host
      limit := by
  refine ⟨shelters.counted, ?_, shelters.armed⟩
  simp only [Option.getD_some, Memory.mem_hostsToModify ranges]
  rintro ⟨single, deadline, found, expired⟩
  have armed := shelters.armed single deadline found
  have read := onTime host deadline ((ranges.mem_iff host deadline).mpr found)
  exact absurd (lt_of_lt_of_le expired (read.trans within)) (not_lt.mpr armed)

theorem shelters_applyCollected {hosts : List String} (collected : state.collected = some hosts)
    {host : String} {limit : Time} (shelters : state.Shelters host limit) :
    State.Shelters { state with queue := state.queue.applyResizes hosts, collected := none } host
      limit := by
  have spared : host ∉ hosts := by simpa [collected] using shelters.uncollected
  constructor
  · simpa [Memory.count_applyResizes, spared] using shelters.counted
  · simp
  · simpa [Memory.count_applyResizes, Memory.lookup_postponedResizes_applyResizes, spared]
      using shelters.armed

/-- Out of a sheltered state, a move leads to a sheltered one exactly if it leaves a unit. -/
theorem Timed.Sheltered.step_iff {stamped : Stamped} (sheltered : timed.Sheltered cooldown)
    (duration : timed.state.queue.postponeDuration = cooldown)
    (stepped : timedStep timed stamped = some next) :
    next.Sheltered cooldown ↔ LeavesUnit cooldown timed stamped := by
  rcases timedStep_eq stepped with ⟨onTime, moved, same⟩
  have later := onTime.clock_le
  rw [same]
  rcases stamped with ⟨time, event⟩
  cases event with
  | arrive request lookupAddr =>
      rw [step_arrive moved]
      simp only [LeavesUnit, iff_true]
      exact sheltered.of_shelters later fun _ _ _ shelters =>
        ⟨shelters.counted, shelters.uncollected, shelters.armed⟩
  | act index action =>
      rcases step_act moved with ⟨phase, phase', queue, found, advances, afterwards⟩
      rw [afterwards]
      cases action with
      | complete now =>
          rw [onTime.2] at advances
          rcases advances.shelters_iff duration with ⟨host, keyed, others, shelters⟩
          simp only [Timed.endedAfter, Event.endedHost, LeavesUnit, found, Option.bind_some, keyed,
            Option.mem_def, Option.some.injEq, forall_eq']
          rw [sheltered.insert_iff later others]
          exact imp_congr_right fun _ => shelters
      | increment | serve | check =>
          simp only [LeavesUnit, iff_true]
          exact sheltered.of_shelters later fun _ _ _ shelters =>
            advances.shelters (by simp) shelters
  | scan now order =>
      rcases step_scan moved with ⟨_, ranges, afterwards⟩
      rw [afterwards]
      simp only [LeavesUnit, iff_true]
      exact sheltered.of_shelters later fun _ _ within shelters =>
        shelters_scan ranges (fun _ _ visited => onTime.now_le visited) within shelters
  | applyCollected =>
      rcases step_applyCollected moved with ⟨hosts, collected, afterwards⟩
      rw [afterwards]
      simp only [LeavesUnit, iff_true]
      exact sheltered.of_shelters later fun _ _ _ shelters =>
        shelters_applyCollected collected shelters

theorem leavesUnit_of_isPass {stamped : Stamped} (pass : stamped.event.isPass = true) :
    LeavesUnit cooldown timed stamped := by
  rcases stamped with ⟨time, event⟩
  cases event with
  | scan | applyCollected => trivial
  | arrive | act => simp [Event.isPass] at pass

end Shelter

section Duration

theorem Advances.postponeDuration_eq {queue queue' : Memory} {phase phase' : Phase}
    {action : Action} (advances : Advances queue phase action queue' phase') :
    queue'.postponeDuration = queue.postponeDuration := by
  cases advances <;> rfl

theorem postponeDuration_of_step {timed next : Timed} {stamped : Stamped}
    (stepped : timedStep timed stamped = some next) :
    next.state.queue.postponeDuration = timed.state.queue.postponeDuration := by
  rcases timedStep_eq stepped with ⟨_, moved, _⟩
  rcases stamped with ⟨time, event⟩
  cases event with
  | arrive request lookupAddr => rw [step_arrive moved]
  | act index action =>
      rcases step_act moved with ⟨_, _, _, _, advances, afterwards⟩
      rw [afterwards]
      exact advances.postponeDuration_eq
  | scan now order =>
      rcases step_scan moved with ⟨_, _, afterwards⟩
      rw [afterwards]
  | applyCollected =>
      rcases step_applyCollected moved with ⟨_, _, afterwards⟩
      rw [afterwards]
      exact Memory.postponeDuration_applyResizes _ _

/-- What the moves that leave a unit preserve. -/
structure Timed.Steady (cooldown : Time) (timed : Timed) : Prop where
  duration : timed.state.queue.postponeDuration = cooldown
  sheltered : timed.Sheltered cooldown

theorem Timed.Steady.initial (postponeDuration start : Time) :
    (Timed.initial postponeDuration start).Steady postponeDuration where
  duration := rfl
  sheltered := by
    intro host ended found
    simp [Timed.initial] at found

theorem Timed.Steady.step {cooldown : Time} {timed next : Timed} {stamped : Stamped}
    (steady : timed.Steady cooldown) (leaves : LeavesUnit cooldown timed stamped)
    (stepped : timedStep timed stamped = some next) : next.Steady cooldown where
  duration := (postponeDuration_of_step stepped).trans steady.duration
  sheltered := (steady.sheltered.step_iff steady.duration stepped).mpr leaves

end Duration

section Passes

variable {cooldown : Time} {timed : Timed}

/-- A pass that is under way can be applied at once. -/
theorem timedStep_applyCollected {hosts : List String}
    (collected : timed.state.collected = some hosts) :
    timedStep timed ⟨timed.clock, .applyCollected⟩ = some
      ⟨{ timed.state with queue := timed.state.queue.applyResizes hosts, collected := none },
        timed.clock, timed.ended⟩ := by
  simp [timedStep, Event.OnTime, step, collected, Timed.endedAfter, Event.endedHost]

/-- The enforcer brings the pass that is under way to its end. -/
theorem exists_idle (timed : Timed) : ∃ later idle, Run (StepOf timedStep) timed later idle ∧
    (∀ move ∈ later, move.event.event.isPass = true) ∧ idle.state.collected = none ∧
    idle.clock = timed.clock ∧ idle.ended = timed.ended ∧
    ∀ host, host ∉ timed.state.collected.getD [] →
      idle.state.queue.count host = timed.state.queue.count host ∧
        idle.state.queue.postponedResizes.lookup host =
          timed.state.queue.postponedResizes.lookup host := by
  cases collected : timed.state.collected with
  | none => exact ⟨[], timed, .start, by simp, collected, rfl, rfl, fun _ _ => ⟨rfl, rfl⟩⟩
  | some hosts =>
      refine ⟨_, _, .move .start (timedStep_applyCollected collected), by simp [Event.isPass], rfl,
        rfl, rfl, ?_⟩
      intro host spared
      simp only [Option.getD_some] at spared
      simp [Memory.count_applyResizes, Memory.lookup_postponedResizes_applyResizes, spared]

/-- An idle enforcer resets a host with a count of 1 as soon as its entry has expired. -/
theorem exists_reset {timed : Timed} (idle : timed.state.collected = none) {host : String}
    {deadline time : Time} (single : timed.state.queue.count host = 1)
    (found : timed.state.queue.postponedResizes.lookup host = some deadline)
    (later : timed.clock ≤ time) (expired : deadline < time) :
    ∃ passes reached, (∀ start history, Run (StepOf timedStep) start history timed →
        Run (StepOf timedStep) start (passes ++ history) reached) ∧
      (∀ move ∈ passes, move.event.event.isPass = true) ∧ reached.clock = time ∧
      reached.ended = timed.ended ∧ reached.state.queue.count host = 0 := by
  rcases timed.state.queue.postponedResizes.exists_ranges with ⟨order, ranges⟩
  have member : host ∈ timed.state.queue.hostsToModify (fun _ => time) order :=
    (Memory.mem_hostsToModify ranges host).mpr ⟨single, deadline, found, expired⟩
  let scanned : Timed :=
    ⟨{ timed.state with
        collected := some (timed.state.queue.hostsToModify (fun _ => time) order) },
      time, timed.ended⟩
  have scans : timedStep timed ⟨time, .scan (fun _ => time) order⟩ = some scanned := by
    simp [timedStep, Event.onTime_scan later, step, idle, ranges, Timed.endedAfter,
      Event.endedHost, scanned]
  have applies := @timedStep_applyCollected scanned _ rfl
  refine ⟨[_, _], _, fun start history run => (run.move scans).move applies, ?_, rfl, rfl, ?_⟩
  · simp [Event.isPass]
  · simp [scanned, Memory.count_applyResizes, member]

namespace Timed.KeepsWarm

variable {host : String} {ended : Time}

/-- A pass under way would reset a host that it has collected. -/
theorem uncollected (keeps : timed.KeepsWarm cooldown)
    (found : timed.ended.lookup host = some ended) (within : timed.clock ≤ ended + cooldown) :
    host ∉ timed.state.collected.getD [] := by
  intro member
  cases collected : timed.state.collected with
  | none => simp [collected] at member
  | some hosts =>
      have reset := keeps _ _ (.move .start (timedStep_applyCollected collected))
        (by simp [Event.isPass]) host ended found within
      simp only [collected, Option.getD_some] at member
      simp [Memory.count_applyResizes, member] at reset

/-- The next pass would reset a host with a count of 1, if it came right after the deadline. -/
theorem armed (keeps : timed.KeepsWarm cooldown)
    (found : timed.ended.lookup host = some ended) (within : timed.clock ≤ ended + cooldown)
    (single : timed.state.queue.count host = 1) {deadline : Time}
    (entry : timed.state.queue.postponedResizes.lookup host = some deadline) :
    ended + cooldown ≤ deadline := by
  rcases exists_idle timed with ⟨later, idle, run, passes, ready, clock, same, spared⟩
  rcases spared host (keeps.uncollected found within) with ⟨sameCount, sameEntry⟩
  by_contra early
  have onTime : idle.clock ≤ max timed.clock (deadline + 1) := clock ▸ le_max_left _ _
  have expired : deadline < max timed.clock (deadline + 1) :=
    lt_of_lt_of_le (Int.lt_succ deadline) (le_max_right _ _)
  rcases exists_reset ready (sameCount.trans single) (sameEntry.trans entry) onTime expired with
    ⟨resets, reached, continues, resetPasses, clockReached, endedReached, zero⟩
  have allPasses : ∀ move ∈ resets ++ later, move.event.event.isPass = true := by
    intro move member
    rcases List.mem_append.mp member with reset | earlier
    · exact resetPasses move reset
    · exact passes move earlier
  have positive := keeps _ reached (continues timed later run) allPasses host ended
    (by rw [endedReached, same]; exact found)
    (by rw [clockReached]; exact max_le within (Int.add_one_le_of_lt (not_le.mp early)))
  omega

end Timed.KeepsWarm

/-- The enforcer cannot cool a state down exactly if every recent host is sheltered. -/
theorem keepsWarm_iff_sheltered (duration : timed.state.queue.postponeDuration = cooldown) :
    timed.KeepsWarm cooldown ↔ timed.Sheltered cooldown := by
  constructor
  · intro keeps host ended found within
    have counted := keeps [] timed .start (by simp) host ended found within
    refine ⟨counted, keeps.uncollected found within, ?_⟩
    intro single deadline entry
    exact keeps.armed found within single entry
  · intro sheltered later reached run passes
    have steady : timed.Steady cooldown := ⟨duration, sheltered⟩
    have kept := run.invariant_of_condition (Timed.Steady cooldown)
      (fun _ stamped => stamped.event.isPass = true) steady
      (fun _ _ _ before pass stepped => before.step (leavesUnit_of_isPass pass) stepped) passes
    exact kept.sheltered.warm

end Passes

namespace Timed

/-- The record holds the latest end of a request for each host. -/
theorem ended_of_run {start timed : Timed} {history : List (Move Timed Stamped)}
    (run : Run (StepOf timedStep) start history timed) :
    ∀ move ∈ history, move.event.time ≤ timed.clock ∧
      ∀ host, move.event.event.endedHost move.source.state = some host →
        ∃ time, timed.ended.lookup host = some time ∧ move.event.time ≤ time := by
  induction run with
  | start => simp
  | @move history source target stamped earlier stepped ih =>
      rcases timedStep_eq stepped with ⟨onTime, _, same⟩
      have later := onTime.clock_le
      rw [same, List.forall_mem_cons]
      constructor
      · refine ⟨le_rfl, ?_⟩
        intro host ended
        refine ⟨stamped.time, ?_, le_rfl⟩
        simp only [endedAfter, ended, Finmap.lookup_insert]
      · intro move member
        rcases ih move member with ⟨before, recorded⟩
        refine ⟨le_trans before later, ?_⟩
        intro host ended
        rcases recorded host ended with ⟨time, found, bound⟩
        simp only [endedAfter]
        split
        · rw [GoMap.lookup_insert_ite]
          split
          · exact ⟨stamped.time, rfl, le_trans before later⟩
          · exact ⟨time, found, bound⟩
        · exact ⟨time, found, bound⟩

/-- In a warm state no request that has ended leaves an empty queue behind within the cooldown. -/
theorem Warm.count_pos {cooldown : Time} {start timed : Timed}
    {history : List (Move Timed Stamped)} (warm : timed.Warm cooldown)
    (run : Run (StepOf timedStep) start history timed) {move : Move Timed Stamped}
    (member : move ∈ history) {host : String}
    (ended : move.event.event.endedHost move.source.state = some host)
    (within : timed.clock ≤ move.event.time + cooldown) :
    1 ≤ timed.state.queue.count host := by
  rcases (ended_of_run run move member).2 host ended with ⟨time, found, bound⟩
  exact warm host time found (le_trans within (Int.add_le_add_right bound cooldown))

end Timed

/--
With postponement enabled, in every run with a clock that does not go back: after each move, and
whatever passes the enforcer makes from then on, no count falls below 1 within the cooldown after
the last request for its host has ended, if and only if every request that ends leaves a unit
behind which no pass takes away within the cooldown. The latter is read off the count, the collected
hosts and the deadline of the host's entry before the request ends.
-/
theorem keepsWarm_iff_leavesUnit {postponeDuration start : Time}
    {history : List (Move Timed Stamped)} {timed : Timed}
    (run : Run (StepOf timedStep) (Timed.initial postponeDuration start) history timed) :
    (∀ move ∈ history, move.target.KeepsWarm postponeDuration) ↔
      ∀ move ∈ history, LeavesUnit postponeDuration move.source move.event := by
  apply run.forall_iff (fun move => move.target.KeepsWarm postponeDuration)
    (LeavesUnit postponeDuration) (Timed.Steady.initial postponeDuration start)
  · intro source stamped target steady leaves stepped
    exact steady.step leaves stepped
  · intro source stamped target steady stepped
    have duration := (postponeDuration_of_step stepped).trans steady.duration
    exact (keepsWarm_iff_sheltered duration).trans
      (steady.sheltered.step_iff steady.duration stepped)

/--
Two requests overlap. The first one decrements, the second one postpones, and a pass resets their
host after the cooldown.
-/
theorem keepsWarm_iff_leavesUnit_overlap : ∃ history timed,
    Run (StepOf timedStep) (Timed.initial 20 0) history timed ∧
      timed.ended.lookup "app.dp-a" = some 5 ∧ timed.state.queue.count "app.dp-a" = 0 ∧
      ∀ move ∈ history, move.target.KeepsWarm 20 := by
  rcases Run.exists_of_record timedStep (Timed.initial 20 0)
    [⟨1, .arrive sampleRequest sampleLookup⟩, ⟨1, .act 0 .increment⟩,
      ⟨2, .arrive sampleRequest sampleLookup⟩, ⟨2, .act 1 .increment⟩,
      ⟨3, .act 0 (.serve .returned)⟩, ⟨3, .act 0 .check⟩, ⟨4, .act 0 (.complete 4)⟩,
      ⟨4, .act 1 (.serve .returned)⟩, ⟨4, .act 1 .check⟩, ⟨5, .act 1 (.complete 5)⟩,
      ⟨27, .scan (fun _ => 26) [("app.dp-a", 25)]⟩, ⟨28, .applyCollected⟩]
    (fun made => decide (made.2.ended.lookup "app.dp-a" = some 5) &&
      decide (made.2.state.queue.count "app.dp-a" = 0) &&
      made.1.all fun move : Move Timed Stamped => decide (LeavesUnit 20 move.source move.event))
    (by decide) with ⟨history, timed, run, passed⟩
  simp only [Bool.and_eq_true, List.all_eq_true, decide_eq_true_eq] at passed
  rcases passed with ⟨⟨ended, empty⟩, leaves⟩
  exact ⟨history, timed, run, ended, empty, (keepsWarm_iff_leavesUnit run).mpr leaves⟩

/--
A request that ends during the cooldown of an earlier one decrements, and the earlier entry stays.
The pass that finds it expired empties the queue two units of time after the request has ended.
-/
theorem not_warm_of_stale_entry :
    ¬∀ (postponeDuration start : Time) (history : List (Move Timed Stamped)) (timed : Timed),
      Run (StepOf timedStep) (Timed.initial postponeDuration start) history timed →
        ∀ move ∈ history, ∀ host,
          move.event.event.endedHost move.source.state = some host →
          timed.clock ≤ move.event.time + postponeDuration →
          1 ≤ timed.state.queue.count host := by
  intro warm
  rcases Run.exists_of_record timedStep (Timed.initial 20 0)
    [⟨1, .arrive sampleRequest sampleLookup⟩, ⟨1, .act 0 .increment⟩,
      ⟨4, .act 0 (.serve .returned)⟩, ⟨4, .act 0 .check⟩, ⟨5, .act 0 (.complete 5)⟩,
      ⟨20, .arrive sampleRequest sampleLookup⟩, ⟨20, .act 1 .increment⟩,
      ⟨24, .act 1 (.serve .returned)⟩, ⟨24, .act 1 .check⟩, ⟨24, .act 1 (.complete 24)⟩,
      ⟨26, .scan (fun _ => 26) [("app.dp-a", 25)]⟩, ⟨26, .applyCollected⟩]
    (fun made => decide (made.2.clock = 26) &&
      decide (made.2.state.queue.count "app.dp-a" = 0) &&
      made.1.any fun move : Move Timed Stamped =>
        decide (move.event.time = 24) &&
          decide (move.event.event.endedHost move.source.state = some "app.dp-a")) (by decide)
    with ⟨history, timed, run, passed⟩
  simp only [Bool.and_eq_true, List.any_eq_true, decide_eq_true_eq] at passed
  rcases passed with ⟨⟨clock, empty⟩, move, member, time, ended⟩
  have positive := warm 20 0 history timed run move member "app.dp-a" ended
    (by rw [clock, time]; decide)
  omega

end KedaHttp.Interceptor.Counting
