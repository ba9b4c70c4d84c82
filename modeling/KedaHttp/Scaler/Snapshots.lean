import KedaHttp.Foundation.Transition
import KedaHttp.Scaler.Handlers

/-!
# Handlers among concurrent fetches

`IsActive` and `GetMetrics` read the counts of the pinger once for each listed host, and
`fetchAndSaveCounts` may replace these counts between two reads. The handlers then add up counts of
different snapshots. The total is that of a single snapshot if nothing is saved between the first
and the last read; a save anywhere in between can make it one that no snapshot has.
-/

namespace KedaHttp.Scaler

open KedaHttp.Foundation
open KedaHttp.Queue
open KedaHttp.Routing

/--
A call of a handler. `reads` has what the reads made so far have found, first read first, and `seen`
the snapshots that have been current during the call.
-/
structure Call where
  pinger : QueuePinger Int
  reads : List (QueuePinger Int)
  seen : List (QueuePinger Int)

namespace Call

inductive Event where
  /-- The handler calls `pinger.counts()` for the next host. -/
  | read
  /-- A `fetchAndSaveCounts` ends. -/
  | save (fetched : Except String (GoMap String Int × Int)) (now : Time)

def initial (pinger : QueuePinger Int) : Call := ⟨pinger, [], [pinger]⟩

/-- A step of a call that makes `n` reads. -/
def step (n : ℕ) (call : Call) : Event → Option Call
  | .read =>
      if call.reads.length < n then some { call with reads := call.reads ++ [call.pinger] }
      else none
  | .save fetched now =>
      let saved := (call.pinger.fetchAndSaveCounts fetched now).1
      some { call with pinger := saved, seen := call.seen ++ [saved] }

/-- The states found by the reads. Those not made yet would find the present one. -/
def pingers (call : Call) (index : ℕ) : QueuePinger Int := call.reads[index]?.getD call.pinger

def Event.saves : Event → Bool
  | .save (.ok _) _ => true
  | _ => false

/-- The event replaces the snapshot after the first and before the last of `n` reads. -/
def Interrupts (n : ℕ) (call : Call) (event : Event) : Prop :=
  event.saves = true ∧ 0 < call.reads.length ∧ call.reads.length < n

instance (n : ℕ) (call : Call) (event : Event) : Decidable (Interrupts n call event) :=
  inferInstanceAs (Decidable (_ ∧ _))

section Runs

variable {n : ℕ} {call next : Call} {event : Event}

/-- What was read has been current during the call. -/
structure Recorded (call : Call) : Prop where
  pinger : call.pinger ∈ call.seen
  reads : ∀ read ∈ call.reads, read ∈ call.seen

theorem Recorded.initial (pinger : QueuePinger Int) : Recorded (.initial pinger) := by
  refine ⟨?_, ?_⟩ <;> simp [Call.initial]

theorem Recorded.step (recorded : Recorded call) (stepped : step n call event = some next) :
    Recorded next := by
  cases event with
  | read =>
      simp only [Call.step, Option.ite_none_right_eq_some, Option.some.injEq] at stepped
      rcases stepped with ⟨_, rfl⟩
      refine ⟨recorded.pinger, ?_⟩
      intro read member
      rcases List.mem_append.mp member with before | new
      · exact recorded.reads read before
      · exact List.mem_singleton.mp new ▸ recorded.pinger
  | save fetched now =>
      simp only [Call.step, Option.some.injEq] at stepped
      subst stepped
      refine ⟨by simp, ?_⟩
      intro read member
      exact List.mem_append_left _ (recorded.reads read member)

theorem Recorded.of_run {start : QueuePinger Int} {history : List (Move Call Event)}
    (run : Run (StepOf (Call.step n)) (.initial start) history call) : Recorded call :=
  run.invariant (.initial start) fun _ _ _ recorded stepped => recorded.step stepped

theorem Recorded.pingers (recorded : Recorded call) (index : ℕ) :
    call.pingers index ∈ call.seen := by
  simp only [Call.pingers]
  cases found : call.reads[index]? with
  | none => exact recorded.pinger
  | some read => exact recorded.reads read (List.mem_of_getElem? found)

/-- All reads have found one snapshot, which is still current while reads are to come. -/
def OneSnapshot (n : ℕ) (call : Call) : Prop :=
  ∃ q ∈ call.seen, (∀ read ∈ call.reads, read = q) ∧ (call.reads.length < n → q = call.pinger)

theorem OneSnapshot.step (one : OneSnapshot n call) (uninterrupted : ¬Interrupts n call event)
    (stepped : step n call event = some next) : OneSnapshot n next := by
  rcases one with ⟨q, seen, same, current⟩
  cases event with
  | read =>
      simp only [Call.step, Option.ite_none_right_eq_some, Option.some.injEq] at stepped
      rcases stepped with ⟨room, rfl⟩
      refine ⟨q, seen, ?_, fun _ => current room⟩
      intro read member
      rcases List.mem_append.mp member with before | new
      · exact same read before
      · rw [List.mem_singleton.mp new, current room]
  | save fetched now =>
      simp only [Call.step, Option.some.injEq] at stepped
      subst stepped
      cases fetched with
      | error err => exact ⟨q, List.mem_append_left _ seen, same, current⟩
      | ok snapshot =>
          by_cases started : 0 < call.reads.length
          · -- all reads are made, and what they found does not depend on the new snapshot
            refine ⟨q, List.mem_append_left _ seen, same, ?_⟩
            intro room
            exact absurd ⟨rfl, started, room⟩ uninterrupted
          · have none : call.reads = [] := List.eq_nil_of_length_eq_zero (by omega)
            refine ⟨_, List.mem_append_right _ (List.mem_singleton_self _), ?_, fun _ => rfl⟩
            simp [none]

theorem oneSnapshot_of_run {start : QueuePinger Int} {history : List (Move Call Event)}
    (run : Run (StepOf (step n)) (.initial start) history call)
    (uninterrupted : ∀ move ∈ history, ¬Interrupts n move.source move.event) :
    OneSnapshot n call := by
  refine run.invariant_of_condition (OneSnapshot n) (fun call event => ¬Interrupts n call event)
    ?_ ?_ uninterrupted
  · refine ⟨start, ?_, ?_, fun _ => rfl⟩ <;> simp [Call.initial]
  · intro source event target one keeps stepped
    exact one.step keeps stepped

/-- The reads of a finished call that has found one snapshot add up to the total of it. -/
theorem OneSnapshot.readTotal_eq {hosts : List String} (one : OneSnapshot n call)
    (finished : call.reads.length = hosts.length) :
    ∃ q ∈ call.seen, readTotal call.pingers hosts 0 = q.total hosts := by
  rcases one with ⟨q, seen, same, _⟩
  refine ⟨q, seen, ?_⟩
  apply readTotal_of_same
  intro index inRange
  rw [Nat.zero_add, pingers, List.getElem?_eq_getElem (finished ▸ inRange), Option.getD_some]
  exact same _ (List.getElem_mem _)

/-- While reads are to come they can be made without an interruption. -/
theorem exists_run_reads {start : Call} {history : List (Move Call Event)}
    (run : Run (StepOf (step n)) start history call) (count : ℕ)
    (room : call.reads.length + count ≤ n) :
    ∃ longer, history ⊆ longer ∧ Run (StepOf (step n)) start longer
      { call with reads := call.reads ++ List.replicate count call.pinger } := by
  induction count with
  | zero =>
      refine ⟨history, List.Subset.refl _, ?_⟩
      rw [List.replicate_zero, List.append_nil]
      exact run
  | succ count ih =>
      rcases ih (by omega) with ⟨longer, contained, reads⟩
      have shorter : call.reads.length + count < n := by omega
      have next : step n
          { call with reads := call.reads ++ List.replicate count call.pinger } .read =
          some { call with reads := call.reads ++ List.replicate (count + 1) call.pinger } := by
        simp [Call.step, shorter, List.replicate_succ']
      exact ⟨_, List.subset_cons_of_subset _ contained, reads.move next⟩

end Runs

end Call

section Torn

variable {hosts : List String} {host : String} {value : Int}

/-- Counts in which all of these hosts have the same count. -/
def constantCounts (hosts : List String) (value : Int) : GoMap String Int :=
  hosts.foldr (fun host counts => counts.insert host value) ∅

theorem lookup_constantCounts (listed : host ∈ hosts) :
    (constantCounts hosts value).lookup host = some value := by
  induction hosts with
  | nil => simp at listed
  | cons other hosts ih =>
      rw [constantCounts, List.foldr_cons, GoMap.lookup_insert_ite]
      split
      · rfl
      · next differs => exact ih ((List.mem_cons.mp listed).resolve_left differs)

theorem total_of_constantCounts {q : QueuePinger Int} {part : List String}
    (constant : q.counts = constantCounts hosts value) (listed : part ⊆ hosts) :
    q.total part = part.length * value := by
  have same : part.map q.counts.get = part.map fun _ => value := by
    apply List.map_congr_left
    intro host member
    rw [constant, GoMap.get, lookup_constantCounts (listed member), Option.getD_some]
  simp [QueuePinger.total, same]

theorem known_of_constantCounts {routingTable : Table} {q : QueuePinger Int}
    (constant : q.counts = constantCounts hosts value) (listed : host ∈ hosts) :
    Known routingTable q host := by
  left
  rw [constant]
  exact Finmap.mem_of_lookup_eq_some (lookup_constantCounts listed)

/-- A call that finds every host at 1 in its first reads, and at 0 in the others. -/
def tornCall (hosts : List String) (reads : ℕ) : Call :=
  let ones : QueuePinger Int := ⟨constantCounts hosts 1, 0, none⟩
  let zeros : QueuePinger Int := ⟨constantCounts hosts 0, 0, some 0⟩
  ⟨zeros, List.replicate reads ones ++ List.replicate (hosts.length - reads) zeros, [ones, zeros]⟩

theorem exists_run_tornCall {reads : ℕ} (started : 0 < reads) (unfinished : reads < hosts.length) :
    ∃ start history, Run (StepOf (Call.step hosts.length)) (.initial start) history
        (tornCall hosts reads) ∧
      ∃ move ∈ history, Call.Interrupts hosts.length move.source move.event ∧
        move.source.reads.length = reads := by
  let ones : QueuePinger Int := ⟨constantCounts hosts 1, 0, none⟩
  have begun : Run (StepOf (Call.step hosts.length)) (.initial ones) [] (.initial ones) := .start
  rcases Call.exists_run_reads begun reads (by simp [Call.initial]; omega) with
    ⟨first, _, firstReads⟩
  have save := firstReads.move
    (show StepOf (Call.step _) _ (.save (.ok (constantCounts hosts 0, 0)) 0) _ from rfl)
  rcases Call.exists_run_reads save (hosts.length - reads) (by simp [Call.initial]; omega) with
    ⟨history, contained, finished⟩
  refine ⟨ones, history, finished, _, contained List.mem_cons_self, ?_, ?_⟩
  · refine ⟨rfl, ?_, ?_⟩ <;> simpa [Call.initial]
  · simp [Call.initial]

theorem readTotal_tornCall {reads : ℕ} (unfinished : reads < hosts.length) :
    readTotal (tornCall hosts reads).pingers hosts 0 = reads := by
  have firstLength : (hosts.take reads).length = reads := List.length_take_of_le unfinished.le
  have ones : readTotal (tornCall hosts reads).pingers (hosts.take reads) 0 = reads := by
    rw [readTotal_of_same (q := ⟨constantCounts hosts 1, 0, none⟩),
      total_of_constantCounts rfl (List.take_subset _ _), firstLength, mul_one]
    intro index inRange
    rw [firstLength] at inRange
    simp [Call.pingers, tornCall, List.getElem?_append, inRange]
  have zeros : readTotal (tornCall hosts reads).pingers (hosts.drop reads) reads = 0 := by
    rw [readTotal_of_same (q := ⟨constantCounts hosts 0, 0, some 0⟩),
      total_of_constantCounts rfl (List.drop_subset _ _), mul_zero]
    intro index inRange
    have later : index < hosts.length - reads := by simpa using inRange
    simp [Call.pingers, tornCall, later]
  calc readTotal (tornCall hosts reads).pingers hosts 0
    _ = readTotal (tornCall hosts reads).pingers (hosts.take reads ++ hosts.drop reads) 0 := by
        rw [List.take_append_drop]
    _ = reads := by rw [readTotal_append, firstLength, Nat.zero_add, ones, zeros, add_zero]

theorem known_of_seen_tornCall {routingTable : Table} {reads : ℕ} {q : QueuePinger Int}
    (seen : q ∈ (tornCall hosts reads).seen) (listed : host ∈ hosts) :
    Known routingTable q host := by
  simp only [tornCall, List.mem_cons, List.not_mem_nil, or_false] at seen
  rcases seen with rfl | rfl
  · exact known_of_constantCounts rfl listed
  · exact known_of_constantCounts rfl listed

/-- The two snapshots have one and none of every host. -/
theorem total_of_seen_tornCall {reads : ℕ} {q : QueuePinger Int}
    (seen : q ∈ (tornCall hosts reads).seen) :
    q.total hosts = hosts.length ∨ q.total hosts = 0 := by
  simp only [tornCall, List.mem_cons, List.not_mem_nil, or_false] at seen
  rcases seen with rfl | rfl
  · left
    rw [total_of_constantCounts rfl (List.Subset.refl _), mul_one]
  · right
    rw [total_of_constantCounts rfl (List.Subset.refl _), mul_zero]

end Torn

/--
Among any concurrent fetches, a handler asked for known hosts reports the total of a single snapshot
that was current during its call, unless counts are saved between its first and its last read. For
every list of hosts and every point between two of its reads there is such a save after which
`GetMetrics` reports a total that no snapshot had.
-/
theorem reports_snapshot {routingTable : Table} {sor : ScaledObjectRef} {hosts : List String}
    (listed : getHostsFromScaledObjectRef sor = .ok hosts) (others : interceptor ∉ hosts) :
    (∀ (start : QueuePinger Int) (history : List (Move Call Call.Event)) (call : Call),
      Run (StepOf (Call.step hosts.length)) (.initial start) history call →
      call.reads.length = hosts.length →
      (∀ q ∈ call.seen, ∀ host ∈ hosts, Known routingTable q host) →
      (∀ move ∈ history, ¬Call.Interrupts hosts.length move.source move.event) →
      ∃ q ∈ call.seen,
        isActive routingTable call.pingers sor = .ok (decide (0 < q.total hosts)) ∧
        getMetrics routingTable call.pingers sor = .ok [⟨httpRequests, q.total hosts⟩]) ∧
    ∀ reads, 0 < reads → reads < hosts.length →
      ∃ start history call,
        Run (StepOf (Call.step hosts.length)) (.initial start) history call ∧
        call.reads.length = hosts.length ∧
        (∀ q ∈ call.seen, ∀ host ∈ hosts, Known routingTable q host) ∧
        (∃ move ∈ history, Call.Interrupts hosts.length move.source move.event ∧
          move.source.reads.length = reads) ∧
        getMetrics routingTable call.pingers sor = .ok [⟨httpRequests, reads⟩] ∧
        ∀ q ∈ call.seen, q.total hosts ≠ reads := by
  refine ⟨?_, ?_⟩
  · intro start history call run finished known uninterrupted
    rcases (Call.oneSnapshot_of_run run uninterrupted).readTotal_eq finished with ⟨q, seen, read⟩
    have knownAtReads : ∀ index, ∀ host ∈ hosts, Known routingTable (call.pingers index) host :=
      fun index => known _ ((Call.Recorded.of_run run).pingers index)
    refine ⟨q, seen, ?_, ?_⟩
    · rw [isActive_of_known listed knownAtReads others, read]
    · rw [getMetrics_of_known listed knownAtReads, read]
  · intro reads started unfinished
    rcases exists_run_tornCall started unfinished with ⟨start, history, run, interrupted⟩
    refine ⟨start, history, tornCall hosts reads, run, ?_, ?_, interrupted, ?_, ?_⟩
    · simp only [tornCall, List.length_append, List.length_replicate]
      omega
    · intro q seen host member
      exact known_of_seen_tornCall seen member
    · rw [getMetrics_of_known listed, readTotal_tornCall unfinished]
      intro index host member
      exact known_of_seen_tornCall ((Call.Recorded.of_run run).pingers index) member
    · intro q seen same
      rcases total_of_seen_tornCall seen with total | total <;> omega

/-- A trigger with two hosts. -/
def twoHosts : ScaledObjectRef := ⟨(∅ : GoMap String String).insert "hosts" "a,b"⟩

def twoCounts (a b : Int) : GoMap String Int := ((∅ : GoMap String Int).insert "a" a).insert "b" b

/-- Counts that are saved after the last read do not change what is reported. -/
theorem reports_snapshot_saved_late : ∃ history call,
    Run (StepOf (Call.step 2)) (.initial ⟨twoCounts 0 1, 1, none⟩) history call ∧
      call.seen.length = 2 ∧ ∃ q ∈ call.seen,
        isActive newTable call.pingers twoHosts = .ok (decide (0 < q.total ["a", "b"])) ∧
        getMetrics newTable call.pingers twoHosts = .ok [⟨httpRequests, q.total ["a", "b"]⟩] := by
  rcases Run.exists_of_record (Call.step 2) (.initial ⟨twoCounts 0 1, 1, none⟩)
    [.read, .read, .save (.ok (twoCounts 1 0, 1)) 5]
    (fun made => decide (made.2.reads.length = 2) && decide (made.2.seen.length = 2) &&
      made.2.seen.all (fun q : QueuePinger Int =>
        decide (∀ host ∈ ["a", "b"], Known newTable q host)) &&
      made.1.all fun move : Move Call Call.Event =>
        decide (¬Call.Interrupts 2 move.source move.event)) (by decide)
    with ⟨history, call, run, passed⟩
  simp only [Bool.and_eq_true, List.all_eq_true, decide_eq_true_eq] at passed
  rcases passed with ⟨⟨⟨finished, snapshots⟩, known⟩, uninterrupted⟩
  have listed : getHostsFromScaledObjectRef twoHosts = .ok ["a", "b"] := by decide
  refine ⟨history, call, run, snapshots, ?_⟩
  exact (reports_snapshot listed (by decide)).1 _ history call run finished known uninterrupted

/-- One request that moves between two hosts is missed when it moves between the reads for them. -/
theorem not_reports_snapshot_moved :
    ¬∀ (routingTable : Table) (sor : ScaledObjectRef) (hosts : List String)
        (start : QueuePinger Int) (history : List (Move Call Call.Event)) (call : Call),
      getHostsFromScaledObjectRef sor = .ok hosts → interceptor ∉ hosts →
      Run (StepOf (Call.step hosts.length)) (.initial start) history call →
      call.reads.length = hosts.length →
      (∀ q ∈ call.seen, ∀ host ∈ hosts, Known routingTable q host) →
      ∃ q ∈ call.seen,
        isActive routingTable call.pingers sor = .ok (decide (0 < q.total hosts)) := by
  intro always
  rcases Run.exists_of_record (Call.step 2) (.initial ⟨twoCounts 0 1, 1, none⟩)
    [.read, .save (.ok (twoCounts 1 0, 1)) 5, .read]
    (fun made => decide (made.2.reads.length = 2) &&
      decide (isActive newTable made.2.pingers twoHosts = .ok false) &&
      made.2.seen.all fun q : QueuePinger Int =>
        decide (∀ host ∈ ["a", "b"], Known newTable q host) && decide (q.total ["a", "b"] = 1))
    (by decide)
    with ⟨history, call, run, passed⟩
  simp only [Bool.and_eq_true, List.all_eq_true, decide_eq_true_eq] at passed
  rcases passed with ⟨⟨finished, inactive⟩, snapshots⟩
  rcases always newTable twoHosts ["a", "b"] _ history call (by decide) (by decide) run finished
    (fun q seen => (snapshots q seen).1) with ⟨q, seen, active⟩
  rw [inactive, (snapshots q seen).2] at active
  exact absurd active (by decide)

end KedaHttp.Scaler
