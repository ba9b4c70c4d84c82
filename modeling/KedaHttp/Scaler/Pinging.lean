import KedaHttp.Scaler.FetchOutcome
import KedaHttp.Scaler.Handlers

/-!
# The pinger's counts over a whole run of the scaler

`fetchAndSaveCounts` from `scaler/queue_pinger.go` with all of its callers: `newQueuePinger`, the
ticks and the deployment events in the loop of `start`, the route `/queue_ping`, and the callback
of the routing table. A call holds the pinger's lock from beginning to end, so that there is one at
a time, while the goroutines of its `fetchCounts` run in any order.

A call that succeeds replaces the counts, their aggregate and the time of the last ping together.
So the pinger always shows one complete fetch, the last one that succeeded.
-/

namespace KedaHttp.Scaler.Pinging

open KedaHttp.Foundation
open KedaHttp.Queue

universe u

/-- The callers of `fetchAndSaveCounts`. -/
inductive Site where
  | newQueuePinger
  | tick
  | deploymentEvent
  | queuePing
  | routingTableCallback
  deriving DecidableEq, Repr

/-- The calls that the loop of `start` makes, and that it cannot be stopped during. -/
def Site.inLoop : Site → Bool
  | tick | deploymentEvent => true
  | newQueuePinger | queuePing | routingTableCallback => false

/-- One run of `fetchCounts`, with what its requests to the endpoints result in. -/
structure Fetch (Count : Type u) where
  n : ℕ
  answers : Fin n → Except String (GoMap String Count)
  goroutines : FetchCounts.State Count n

/-- A call of `fetchCounts`, which fails at once if the endpoints cannot be listed. -/
inductive Fetching (Count : Type u) where
  | refused (err : String)
  | started (fetch : Fetch Count)

def Fetching.result? {Count : Type u} :
    Fetching Count → Option (Except String (GoMap String Count × Count))
  | refused err => some (.error err)
  | started fetch =>
      match fetch.goroutines.main with
      | .returned result => some result
      | _ => none

/-- The scaler exits if it cannot create its pinger. Its loop may end before the scaler does. -/
inductive Stage where
  | creating
  | running (looping : Bool)
  | exited
  deriving DecidableEq, Repr

structure State (Count : Type u) where
  pinger : QueuePinger Count
  stage : Stage
  call : Option (Site × Fetching Count)

inductive Event (Count : Type u) where
  | call (site : Site) (endpoints : Except String (List (List String)))
      (getCounts : ℕ → Except String (GoMap String Count))
  | goroutine (n : ℕ) (event : FetchCounts.Event Count n)
  | save (now : Time)
  | stopLoop

def State.initial {Count : Type u} [Zero Count] : State Count := ⟨.new, .creating, none⟩

namespace Stage

def enables : Stage → Site → Bool
  | creating, .newQueuePinger => true
  | running looping, .tick | running looping, .deploymentEvent => looping
  | running _, .queuePing | running _, .routingTableCallback => true
  | _, _ => false

/-- An error ends the loop when a tick meets it, while deployment events only log it. -/
def after (stage : Stage) : Site → Except String Unit → Stage
  | .newQueuePinger, .ok () => running true
  | .newQueuePinger, .error _ => exited
  | .tick, .error _ => running false
  | _, _ => stage

end Stage

section Step

variable {Count : Type u} [AddCommMonoid Count] [DecidableEq Count] {URL : Type}
  (parse : String → Except String URL) (adminPort : String)

/-- `fetchCounts` up to the start of its first goroutine. -/
def startFetch (endpoints : Except String (List (List String)))
    (getCounts : ℕ → Except String (GoMap String Count)) : Fetching Count :=
  match endpointsForService parse adminPort endpoints with
  | .error err => .refused err
  | .ok endpointURLs => .started ⟨endpointURLs.length, fun endpoint => getCounts endpoint, .initial⟩

def step (state : State Count) : Event Count → Option (State Count)
  | .call site endpoints getCounts =>
      match state.call with
      | some _ => none
      | none =>
          if state.stage.enables site then
            some { state with call := some (site, startFetch parse adminPort endpoints getCounts) }
          else none
  | .goroutine n event =>
      match state.call with
      | some (site, .started fetch) =>
          if same : n = fetch.n then
            (FetchCounts.step fetch.answers fetch.goroutines (same ▸ event)).map fun next =>
              { state with call := some (site, .started { fetch with goroutines := next }) }
          else none
      | _ => none
  | .save now =>
      match state.call with
      | none => none
      | some (site, fetching) =>
          fetching.result?.map fun result =>
            let saved := state.pinger.fetchAndSaveCounts result now
            ⟨saved.1, state.stage.after site saved.2, none⟩
  | .stopLoop =>
      if state.stage = .running true ∧ (state.call.any fun call => call.1.inLoop) = false then
        some { state with stage := .running false }
      else none

end Step

section Outcomes

variable {Count : Type u}

/-- How the call ended that the move ends, and with which fetch it was saved when. -/
def outcome? (move : Move (State Count) (Event Count)) :
    Option (Except String (Fetch Count × Time)) :=
  match move.event, move.source.call with
  | .save _, some (_, .refused err) => some (.error err)
  | .save now, some (_, .started fetch) =>
      match fetch.goroutines.main with
      | .returned (.error err) => some (.error err)
      | .returned (.ok _) => some (.ok (fetch, now))
      | _ => none
  | _, _ => none

/-- The latest fetch that was saved in a run. -/
def lastSaved (history : List (Move (State Count) (Event Count))) : Option (Fetch Count × Time) :=
  history.findSome? fun move => (outcome? move).bind Except.toOption

/-- The pinger shows the whole of the fetch: all endpoints have answered and are added up. -/
structure Shows [AddCommMonoid Count] (pinger : QueuePinger Count) (fetch : Fetch Count)
    (now : Time) : Prop where
  answered : ∃ counts : Fin fetch.n → GoMap String Count,
    (∀ endpoint, fetch.answers endpoint = .ok (counts endpoint)) ∧
      (∀ host, host ∈ pinger.counts ↔ ∃ endpoint, host ∈ counts endpoint) ∧
      ∀ host, pinger.counts.get host = ∑ endpoint, (counts endpoint).get host
  aggregate : pinger.aggregate = pinger.counts.sum
  lastPingTime : pinger.lastPingTime = some now

/-- The goroutines of a call that is under way have run as `fetchCounts` lets them. -/
def Sound [AddCommMonoid Count] [DecidableEq Count] (state : State Count) : Prop :=
  ∀ site fetch, state.call = some (site, .started fetch) →
    Reachable (StepOf (FetchCounts.step fetch.answers)) .initial fetch.goroutines

end Outcomes

section Runs

variable {Count : Type u} [AddCommMonoid Count] [DecidableEq Count] {URL : Type}
  {parse : String → Except String URL} {adminPort : String} {source target : State Count}
  {event : Event Count}

/-- What each event takes, and where it leads. -/
inductive Moves (parse : String → Except String URL) (adminPort : String)
    (source : State Count) : Event Count → State Count → Prop where
  | call {site : Site} {endpoints : Except String (List (List String))}
      {getCounts : ℕ → Except String (GoMap String Count)} (free : source.call = none)
      (enabled : source.stage.enables site = true) :
      Moves parse adminPort source (.call site endpoints getCounts)
        { source with call := some (site, startFetch parse adminPort endpoints getCounts) }
  | goroutine {site : Site} {fetch : Fetch Count} {event : FetchCounts.Event Count fetch.n}
      {next : FetchCounts.State Count fetch.n}
      (running : source.call = some (site, .started fetch))
      (moved : FetchCounts.step fetch.answers fetch.goroutines event = some next) :
      Moves parse adminPort source (.goroutine fetch.n event)
        { source with call := some (site, .started { fetch with goroutines := next }) }
  | save {site : Site} {fetching : Fetching Count}
      {result : Except String (GoMap String Count × Count)} {now : Time}
      (running : source.call = some (site, fetching))
      (returned : fetching.result? = some result) :
      Moves parse adminPort source (.save now)
        ⟨(source.pinger.fetchAndSaveCounts result now).1,
          source.stage.after site (source.pinger.fetchAndSaveCounts result now).2, none⟩
  | stopLoop (looping : source.stage = .running true) :
      Moves parse adminPort source .stopLoop { source with stage := .running false }

theorem moves_of_step (stepped : StepOf (step parse adminPort) source event target) :
    Moves parse adminPort source event target := by
  rw [StepOf] at stepped
  cases event with
  | call caller endpoints getCounts =>
      cases free : source.call with
      | some call => simp [step, free] at stepped
      | none =>
          simp only [step, free, Option.ite_none_right_eq_some, Option.some.injEq] at stepped
          rcases stepped with ⟨enabled, rfl⟩
          exact .call free enabled
  | goroutine n event =>
      simp only [step] at stepped
      split at stepped
      · next caller fetch running =>
          split at stepped
          · next same =>
              subst same
              rcases Option.map_eq_some_iff.mp stepped with ⟨next, moved, rfl⟩
              exact .goroutine running moved
          · simp at stepped
      · simp at stepped
  | save now =>
      cases running : source.call with
      | none => simp [step, running] at stepped
      | some call =>
          simp only [step, running] at stepped
          rcases Option.map_eq_some_iff.mp stepped with ⟨result, returned, rfl⟩
          exact .save running returned
  | stopLoop =>
      simp only [step, Option.ite_none_right_eq_some, Option.some.injEq] at stepped
      rcases stepped with ⟨⟨looping, _⟩, rfl⟩
      exact .stopLoop looping

theorem Sound.preserved (sound : Sound source) (moves : Moves parse adminPort source event target) :
    Sound target := by
  intro site fetch running
  cases moves with
  | @call caller endpoints getCounts free enabled =>
      simp only [startFetch, Option.some.injEq, Prod.mk.injEq] at running
      cases listed : endpointsForService parse adminPort endpoints with
      | error err => simp [listed] at running
      | ok endpointURLs =>
          simp only [listed, Fetching.started.injEq] at running
          rw [← running.2]
          exact .refl
  | @goroutine caller before event next underWay moved =>
      simp only [Option.some.injEq, Prod.mk.injEq, Fetching.started.injEq] at running
      rw [← running.2]
      exact (sound caller before underWay).step moved
  | save underWay returned => simp at running
  | stopLoop looping => exact sound site fetch running

/-- Only the end of a call that succeeds changes what the pinger shows. -/
theorem pinger_eq_of_not_saved (moves : Moves parse adminPort source event target)
    (failed : ∀ saved, outcome? ⟨source, event, target⟩ ≠ some (.ok saved)) :
    target.pinger = source.pinger := by
  cases moves with
  | call free enabled => rfl
  | goroutine running moved => rfl
  | stopLoop looping => rfl
  | @save site fetching result now running returned =>
      cases result with
      | error err => rfl
      | ok total =>
          cases fetching with
          | refused err => simp [Fetching.result?] at returned
          | started fetch =>
              simp only [Fetching.result?] at returned
              split at returned
              · next main =>
                  rw [Option.some.inj returned] at main
                  simp [outcome?, running, main] at failed
              · simp at returned

omit [AddCommMonoid Count] [DecidableEq Count] in
theorem exists_of_saved {fetch : Fetch Count} {now : Time}
    (saved : outcome? ⟨source, event, target⟩ = some (.ok (fetch, now))) :
    event = .save now ∧ ∃ site total, source.call = some (site, .started fetch) ∧
      fetch.goroutines.main = .returned (.ok total) := by
  simp only [outcome?] at saved
  split at saved
  · simp at saved
  · next finished caller before call =>
      split at saved
      · simp at saved
      · next total main =>
          simp only [Option.some.injEq, Except.ok.injEq, Prod.mk.injEq] at saved
          rcases saved with ⟨rfl, rfl⟩
          exact ⟨rfl, caller, total, call, main⟩
      · simp at saved
  · simp at saved

/-- A call that succeeds leaves the pinger with the whole of its fetch. -/
theorem shows_of_saved (sound : Sound source)
    (moves : Moves parse adminPort source event target) {fetch : Fetch Count} {now : Time}
    (saved : outcome? ⟨source, event, target⟩ = some (.ok (fetch, now))) :
    Shows target.pinger fetch now := by
  rcases exists_of_saved saved with ⟨rfl, site, total, call, main⟩
  have collected := FetchCounts.Sound.of_reachable (sound site fetch call)
  rcases collected.totals main with ⟨counts, answers, hosts, sums, aggregate⟩
  cases moves with
  | save running returned =>
      rw [call, Option.some.injEq, Prod.mk.injEq] at running
      rcases running with ⟨rfl, rfl⟩
      simp only [Fetching.result?, main, Option.some.injEq] at returned
      subst returned
      exact ⟨⟨counts, answers, hosts, sums⟩, aggregate, rfl⟩

/-- What the pinger shows, by the latest fetch that was saved. -/
def ShowsLast (pinger : QueuePinger Count) : Option (Fetch Count × Time) → Prop
  | none => pinger = .new
  | some (fetch, now) => Shows pinger fetch now

theorem sound_and_showsLast {history : List (Move (State Count) (Event Count))}
    {state : State Count}
    (run : Run (StepOf (step parse adminPort)) .initial history state) :
    Sound state ∧ ShowsLast state.pinger (lastSaved history) := by
  induction run with
  | start => exact ⟨by simp [Sound, State.initial], rfl⟩
  | @move history source target event earlier stepped ih =>
      have moves := moves_of_step stepped
      refine ⟨ih.1.preserved moves, ?_⟩
      rw [lastSaved, List.findSome?_cons]
      rcases outcome : outcome? ⟨source, event, target⟩ with _ | err | ⟨fetch, now⟩
      · have same := pinger_eq_of_not_saved moves (by simp [outcome])
        exact same ▸ ih.2
      · have same := pinger_eq_of_not_saved moves (by simp [outcome])
        exact same ▸ ih.2
      · exact shows_of_saved ih.1 moves outcome

/--
After any run, the aggregate is the sum of the counts, and both are of the latest fetch that was
saved, or none yet: every endpoint of it has answered, and its answers are added up host by host.
Every move but the end of a successful call leaves the pinger as it was, the end of a failed call
included.
-/
theorem pinger_shows_lastSaved {history : List (Move (State Count) (Event Count))}
    {state : State Count}
    (run : Run (StepOf (step parse adminPort)) .initial history state) :
    state.pinger.aggregate = state.pinger.counts.sum ∧
      (lastSaved history = none → state.pinger = .new) ∧
      (∀ fetch now, lastSaved history = some (fetch, now) → Shows state.pinger fetch now) ∧
      ∀ move ∈ history, (∀ saved, outcome? move ≠ some (.ok saved)) →
        move.target.pinger = move.source.pinger := by
  have shown := (sound_and_showsLast run).2
  refine ⟨?_, ?_, ?_, ?_⟩
  · cases last : lastSaved history with
    | none =>
        rw [last, ShowsLast] at shown
        simp [shown, QueuePinger.new, QueuePinger.aggregate, QueuePinger.counts]
    | some saved =>
        rw [last] at shown
        exact shown.aggregate
  · intro last
    rwa [last] at shown
  · intro fetch now last
    rwa [last] at shown
  · intro move member failed
    exact pinger_eq_of_not_saved (moves_of_step (run.mem_history member).2) failed

end Runs

/-- The schedule of a call with one endpoint, which answers a count for one host. -/
def sampleCall (site : Site) (host : String) (count : Int) (now : Time) : List (Event Int) :=
  let only : Fin 1 := ⟨0, Nat.one_pos⟩
  [.call site (.ok [["10.0.0.1"]]) fun _ => .ok ((∅ : GoMap String Int).insert host count),
    .goroutine 1 .add, .goroutine 1 .startFetcher, .goroutine 1 .startForwarder,
    .goroutine 1 .startCloser, .goroutine 1 (.getCounts only), .goroutine 1 (.handOff only),
    .goroutine 1 .wait, .goroutine 1 (.consume only [(host, count)]), .goroutine 1 (.done only),
    .goroutine 1 .close, .goroutine 1 .endRange, .save now]

/-- After the first fetch, a tick cannot list the endpoints, and the pinger keeps the first. -/
theorem pinger_shows_lastSaved_tick : ∃ history state, ∃ fetch : Fetch Int,
    Run (StepOf (step Except.ok "9091")) .initial history state ∧
      (∃ move ∈ history, ∃ err, outcome? move = some (.error err)) ∧
      state.pinger.aggregate = 3 ∧ state.pinger.counts.sum = 3 ∧ Shows state.pinger fetch 7 := by
  rcases Run.exists_of_record (step Except.ok "9091") .initial
    (sampleCall .newQueuePinger "app" 3 7 ++
      [.call .tick (.error "timeout") fun _ => .error "", .save 9])
    (fun made => decide (made.2.pinger.aggregate = 3) &&
      ((lastSaved made.1).any fun saved : Fetch Int × Time => decide (saved.2 = 7)) &&
      made.1.any fun move => (outcome? move).any
        fun outcome : Except String (Fetch Int × Time) => outcome.toOption.isNone)
    (by decide) with ⟨history, state, run, passed⟩
  simp only [Bool.and_eq_true, decide_eq_true_eq, Option.any_eq_true, List.any_eq_true] at passed
  rcases passed with ⟨⟨three, ⟨fetch, now⟩, last, rfl⟩, move, member, outcome, ended, failed⟩
  rcases pinger_shows_lastSaved run with ⟨aggregate, _, shown, _⟩
  refine ⟨history, state, fetch, run, ⟨move, member, ?_⟩, three, aggregate ▸ three, ?_⟩
  · cases outcome with
    | error err => exact ⟨err, ended⟩
    | ok saved => simp [Except.toOption] at failed
  · exact shown fetch 7 last

end KedaHttp.Scaler.Pinging
