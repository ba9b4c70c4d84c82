import KedaHttp.Foundation.Transition
import KedaHttp.Queue.Memory
import KedaHttp.Routing.Table

/-!
# How an interceptor gets its routing table

`GetTable` from `pkg/routing/config_map.go` fetches the ConfigMap and replaces the live table with
what it decodes from it. It runs when the interceptor starts, and again in every `/routing_ping`
handler. Beside it `StartConfigMapRoutingTableUpdater` replaces the live table on every event of an
informer.

Two things are documented or meant about this that the code does not do. `GetTable` does not touch
the queue that it is given, so that queue and table are in step afterwards only if they were
before. And a writer of the live table does not look at the version that is installed, so that one
that was overtaken between its read and its write installs an older version over a newer one.
-/

namespace KedaHttp.Routing

open KedaHttp.Foundation
open KedaHttp.Queue

def Table.replace (_t newTable : Table) : Table := ⟨newTable.m⟩

section GetTable

/-- `GetTable` from the answer of the API server to the decoded table. -/
def decodeTable (got : Except String ConfigMap) : Except String Table :=
  match got with
  | .error err => .error ("failed to fetch ConfigMap " ++ configMapRoutingTableName ++ ": " ++ err)
  | .ok cm =>
      match fetchTableFromConfigMap cm with
      | .error err =>
          .error ("failed decoding ConfigMap " ++ configMapRoutingTableName ++
            " into a routing table: " ++ err)
      | .ok newTable => .ok newTable

/-- What a call of `GetTable` leaves in the live table and in the queue, and its result. -/
structure Refresh where
  table : Table
  queue : Memory
  result : Except String Unit

def getTable (got : Except String ConfigMap) (table : Table) (q : Memory) : Refresh :=
  match decodeTable got with
  | .error err => ⟨table, q, .error err⟩
  | .ok newTable => ⟨table.replace newTable, q, .ok ()⟩

/-- The queue has the hosts of the table. New ones start at 0, and the others keep their counts. -/
structure InStep (before after : Memory) (table : Table) : Prop where
  hosts : ∀ host, host ∈ after.current ↔ table.hasHost host = true
  added : ∀ host, table.hasHost host = true → host ∉ before.current →
    after.current.lookup host = some 0
  kept : ∀ host count, table.hasHost host = true → before.current.lookup host = some count →
    after.current.lookup host = some count

theorem getTable_of_ok {got : Except String ConfigMap} {table : Table} {q : Memory}
    (returned : (getTable got table q).result = .ok ()) :
    ∃ newTable, decodeTable got = .ok newTable ∧
      getTable got table q = ⟨newTable, q, .ok ()⟩ := by
  cases decoded : decodeTable got with
  | error err => simp [getTable, decoded] at returned
  | ok newTable =>
      refine ⟨newTable, rfl, ?_⟩
      simp [getTable, decoded, Table.replace]

/--
Whenever `GetTable` succeeds it has installed the fetched table, and the queue is in step with that
table if and only if it had precisely the hosts of the table before the call.
-/
theorem inStep_getTable_iff {got : Except String ConfigMap} {table : Table} {q : Memory}
    (returned : (getTable got table q).result = .ok ()) :
    ∃ newTable, decodeTable got = .ok newTable ∧ (getTable got table q).table = newTable ∧
      (InStep q (getTable got table q).queue newTable ↔
        ∀ host, host ∈ q.current ↔ newTable.hasHost host = true) := by
  rcases getTable_of_ok returned with ⟨newTable, decoded, refreshed⟩
  rw [refreshed]
  refine ⟨newTable, decoded, rfl, ?_⟩
  constructor
  · intro inStep
    exact inStep.hosts
  · intro hosts
    refine ⟨hosts, ?_, ?_⟩
    · intro host known missing
      exact absurd ((hosts host).mpr known) missing
    · intro host count _ found
      exact found

def sampleTable (host : String) : Table :=
  ⟨(∅ : GoMap String Target).insert host (newTarget "default" "app" 8080 "app" 100)⟩

/-- A host that has been counted keeps its count when its route is fetched. -/
theorem inStep_getTable_iff_counted :
    let configMap : ConfigMap := ⟨some ((∅ : GoMap String Document).insert
      configMapRoutingTableKey (sampleTable "a").marshalJSON)⟩
    let q := (newMemory 0 false).resize "a" 2
    let refreshed := getTable (.ok configMap) newTable q
    refreshed.result = .ok () ∧ InStep q refreshed.queue refreshed.table ∧
      refreshed.table.hasHost "a" = true ∧ refreshed.queue.current.lookup "a" = some 2 := by
  intro configMap q refreshed
  have returned : refreshed.result = .ok () := by decide
  rcases inStep_getTable_iff returned with ⟨fetched, _, installed, inStep⟩
  refine ⟨returned, ?_, by decide, by decide⟩
  have table : fetched = sampleTable "a" := by
    rw [← installed]
    rfl
  have hosts : ∀ host, host ∈ q.current ↔ fetched.hasHost host = true := by
    intro host
    rw [table]
    simp [q, Memory.current, Memory.resize, newMemory, GoMap.addAt, sampleTable, Table.hasHost,
      Finmap.mem_insert, Finmap.notMem_empty]
  rw [show refreshed.table = fetched from installed]
  exact inStep.mpr hosts

/-- A host that was counted before it had a route stays in the queue when the table is empty. -/
theorem not_inStep_getTable_unknown :
    ¬∀ (configMap : ConfigMap) (table : Table) (q : Memory),
      (getTable (.ok configMap) table q).result = .ok () →
        InStep q (getTable (.ok configMap) table q).queue
          (getTable (.ok configMap) table q).table := by
  intro always
  have inStep := always shippedConfigMap newTable ((newMemory 0 false).resize "unknown" 1)
    (by decide)
  have wrong := (inStep.hosts "unknown").mp (by decide)
  exact absurd wrong (by decide)

end GetTable

namespace Updater

/-- A `/routing_ping` handler, between its `Get` and its `Replace` or after its `GetTable`. -/
inductive Handler where
  | fetched (version : ℕ) (newTable : Table)
  | finished (result : Except String Unit)

def Handler.version? : Handler → Option ℕ
  | fetched version _ => some version
  | finished _ => none

/--
`versions` has all versions of the ConfigMap, oldest first. `watch` has the events that the informer
has broadcast and the updater has not handled, and `installs` the versions that `Replace` has
installed, latest first.
-/
structure State where
  versions : List ConfigMap
  cached : ℕ
  watch : List ℕ
  running : Bool
  handlers : List Handler
  table : Table
  installs : List ℕ

/-- The updater and the ping route start when `GetTable` has installed a first table. -/
def State.initial (configMap : ConfigMap) (table : Table) : State where
  versions := [configMap]
  cached := 0
  watch := []
  running := true
  handlers := []
  table
  installs := [0]

inductive Event where
  /-- Someone writes the ConfigMap. -/
  | update (configMap : ConfigMap)
  /-- The informer brings its cache to this version, or sends it again, and broadcasts it. -/
  | notify (version : ℕ)
  /-- The updater handles the next event. -/
  | handle
  /-- The context of the updater ends. -/
  | stop
  /-- A new ping handler calls `GetTable` and gets the ConfigMap, or this error. -/
  | get (fault : Option String)
  /-- The ping handler at this index calls `Replace`. -/
  | replace (index : ℕ)

namespace State

def current (state : State) : ℕ := state.versions.length - 1

def decode (state : State) (version : ℕ) : Option Table :=
  state.versions[version]?.bind fun configMap => (fetchTableFromConfigMap configMap).toOption

/-- What the API server answers to a `Get`. -/
def answer (state : State) : Option String → Option (Except String ConfigMap)
  | some err => some (.error err)
  | none => state.versions[state.current]?.map .ok

def install (state : State) (version : ℕ) (newTable : Table) : State :=
  { state with table := state.table.replace newTable, installs := version :: state.installs }

def startHandler (state : State) (got : Except String ConfigMap) : State :=
  match decodeTable got with
  | .ok newTable => { state with handlers := state.handlers ++ [.fetched state.current newTable] }
  | .error err => { state with handlers := state.handlers ++ [.finished (.error err)] }

end State

def step (state : State) : Event → Option State
  | .update configMap => some { state with versions := state.versions ++ [configMap] }
  | .notify version =>
      if state.cached ≤ version ∧ version < state.versions.length then
        some { state with cached := version, watch := state.watch ++ [version] }
      else none
  | .handle =>
      match state.running, state.watch with
      | true, version :: watch =>
          match state.decode version with
          | some newTable => some ({ state with watch }.install version newTable)
          -- the updater returns the error, and handles no further event
          | none => some { state with watch, running := false }
      | _, _ => none
  | .stop => some { state with running := false }
  | .get fault => (state.answer fault).map state.startHandler
  | .replace index =>
      match state.handlers[index]? with
      | some (.fetched version newTable) =>
          some ({ state with handlers := state.handlers.set index (.finished (.ok ())) }.install
            version newTable)
      | _ => none

/-- A handler that nobody gets in between of does what `getTable` does. -/
theorem table_of_uninterrupted {state fetched replaced : State} {fault : Option String}
    {got : Except String ConfigMap} (answered : state.answer fault = some got)
    (first : step state (.get fault) = some fetched)
    (second : step fetched (.replace state.handlers.length) = some replaced) (q : Memory) :
    replaced.table = (getTable got state.table q).table := by
  simp only [step, answered, Option.map_some, Option.some.injEq] at first
  subst first
  cases decoded : decodeTable got with
  | error err => simp [step, State.startHandler, decoded] at second
  | ok newTable =>
      simp only [step, State.startHandler, decoded, List.getElem?_concat_length,
        Option.some.injEq] at second
      subst second
      simp [State.install, getTable, decoded]

/-- What a step can do. -/
inductive Moves (state : State) : Event → State → Prop where
  | update (configMap : ConfigMap) :
      Moves state (.update configMap) { state with versions := state.versions ++ [configMap] }
  | notify {version : ℕ} (later : state.cached ≤ version)
      (written : version < state.versions.length) :
      Moves state (.notify version)
        { state with cached := version, watch := state.watch ++ [version] }
  | handle {version : ℕ} {watch : List ℕ} {newTable : Table} (running : state.running = true)
      (next : state.watch = version :: watch) (decoded : state.decode version = some newTable) :
      Moves state .handle ({ state with watch }.install version newTable)
  | fail {version : ℕ} {watch : List ℕ} (next : state.watch = version :: watch) :
      Moves state .handle { state with watch, running := false }
  | stop : Moves state .stop { state with running := false }
  | fetch {newTable : Table} (decoded : state.decode state.current = some newTable) :
      Moves state (.get none)
        { state with handlers := state.handlers ++ [.fetched state.current newTable] }
  | refuse (fault : Option String) (err : String) :
      Moves state (.get fault) { state with handlers := state.handlers ++ [.finished (.error err)] }
  | replace {index version : ℕ} {newTable : Table}
      (fetched : state.handlers[index]? = some (.fetched version newTable)) :
      Moves state (.replace index)
        ({ state with handlers := state.handlers.set index (.finished (.ok ())) }.install
          version newTable)

section Moves

variable {state next : State} {event : Event} {version : ℕ} {newTable : Table}

theorem decodeTable_ok_iff {configMap : ConfigMap} :
    decodeTable (.ok configMap) = .ok newTable ↔
      (fetchTableFromConfigMap configMap).toOption = some newTable := by
  simp only [decodeTable]
  cases fetchTableFromConfigMap configMap <;> simp [Except.toOption]

theorem moves_startHandler {fault : Option String} {got : Except String ConfigMap}
    (answered : state.answer fault = some got) :
    Moves state (.get fault) (state.startHandler got) := by
  simp only [State.startHandler]
  cases decoded : decodeTable got with
  | error err => exact .refuse fault err
  | ok newTable =>
      cases fault with
      | some err =>
          simp only [State.answer, Option.some.injEq] at answered
          subst answered
          simp [decodeTable] at decoded
      | none =>
          simp only [State.answer, Option.map_eq_some_iff] at answered
          rcases answered with ⟨configMap, written, rfl⟩
          refine .fetch ?_
          rw [State.decode, written]
          exact decodeTable_ok_iff.mp decoded

theorem step_handle {watch : List ℕ} (running : state.running = true)
    (next : state.watch = version :: watch) (decoded : state.decode version = some newTable) :
    step state .handle = some ({ state with watch }.install version newTable) := by
  simp [step, running, next, decoded]

theorem step_replace {index : ℕ}
    (found : state.handlers[index]? = some (.fetched version newTable)) :
    step state (.replace index) =
      some ({ state with handlers := state.handlers.set index (.finished (.ok ())) }.install
        version newTable) := by
  simp [step, found]

theorem moves_of_step (stepped : step state event = some next) : Moves state event next := by
  cases event with
  | update configMap =>
      simp only [step, Option.some.injEq] at stepped
      exact stepped ▸ .update configMap
  | notify version =>
      simp only [step, Option.ite_none_right_eq_some, Option.some.injEq] at stepped
      rcases stepped with ⟨⟨later, written⟩, rfl⟩
      exact .notify later written
  | handle =>
      cases running : state.running with
      | false => simp [step, running] at stepped
      | true =>
          cases next : state.watch with
          | nil => simp [step, running, next] at stepped
          | cons version watch =>
              cases decoded : state.decode version with
              | some newTable =>
                  rw [step_handle running next decoded, Option.some.injEq] at stepped
                  exact stepped ▸ .handle running next decoded
              | none =>
                  simp only [step, running, next, decoded, Option.some.injEq] at stepped
                  exact stepped ▸ .fail next
  | stop =>
      simp only [step, Option.some.injEq] at stepped
      exact stepped ▸ .stop
  | get fault =>
      simp only [step, Option.map_eq_some_iff] at stepped
      rcases stepped with ⟨got, answered, rfl⟩
      exact moves_startHandler answered
  | replace index =>
      cases found : state.handlers[index]? with
      | none => simp [step, found] at stepped
      | some handler =>
          cases handler with
          | fetched version newTable =>
              rw [step_replace found, Option.some.injEq] at stepped
              exact stepped ▸ .replace found
          | finished result => simp [step, found] at stepped

end Moves

section Order

variable {state next : State} {event : Event} {version : ℕ} {newTable : Table}

namespace State

theorem lt_of_decode (decoded : state.decode version = some newTable) :
    version < state.versions.length := by
  rw [decode, Option.bind_eq_some_iff] at decoded
  rcases decoded with ⟨configMap, written, _⟩
  exact (List.getElem?_eq_some_iff.mp written).1

/-- A version stays what it is when another one is written. -/
theorem decode_update (configMap : ConfigMap) (written : version < state.versions.length) :
    { state with versions := state.versions ++ [configMap] }.decode version =
      state.decode version := by
  simp only [decode]
  rw [List.getElem?_append_left written]

end State

/-- Events are of versions in the cache, and tables are those of the versions they stand for. -/
structure Tracked (state : State) : Prop where
  watch_le : ∀ version ∈ state.watch, version ≤ state.cached
  cached_lt : state.cached < state.versions.length
  fetched : ∀ version newTable, .fetched version newTable ∈ state.handlers →
    state.decode version = some newTable
  installed : ∃ version, state.installs.head? = some version ∧
    state.decode version = some state.table

namespace Tracked

theorem initial {configMap : ConfigMap} {table : Table}
    (decoded : fetchTableFromConfigMap configMap = .ok table) :
    Tracked (.initial configMap table) := by
  refine ⟨by simp [State.initial], by simp [State.initial], by simp [State.initial], 0, rfl, ?_⟩
  simp [State.initial, State.decode, decoded, Except.toOption]

theorem moves (tracked : Tracked state) (moves : Moves state event next) : Tracked next := by
  rcases tracked with ⟨watch_le, cached_lt, fetched, last, head, decodedLast⟩
  cases moves with
  | update configMap =>
      refine ⟨watch_le, ?_, ?_, last, head, ?_⟩
      · simp only [List.length_append, List.length_singleton]
        omega
      · intro version newTable held
        have decoded := fetched version newTable held
        rw [State.decode_update configMap (State.lt_of_decode decoded)]
        exact decoded
      · rw [State.decode_update configMap (State.lt_of_decode decodedLast)]
        exact decodedLast
  | @notify version later written =>
      refine ⟨?_, written, fetched, last, head, decodedLast⟩
      intro other member
      rcases List.mem_append.mp member with waiting | new
      · exact le_trans (watch_le other waiting) later
      · exact le_of_eq (List.mem_singleton.mp new)
  | @handle version watch newTable running next decoded =>
      refine ⟨?_, cached_lt, fetched, version, rfl, decoded⟩
      intro other member
      exact watch_le other (next ▸ List.mem_cons_of_mem version member)
  | @fail version watch next =>
      refine ⟨?_, cached_lt, fetched, last, head, decodedLast⟩
      intro other member
      exact watch_le other (next ▸ List.mem_cons_of_mem version member)
  | stop => exact ⟨watch_le, cached_lt, fetched, last, head, decodedLast⟩
  | @fetch newTable decoded =>
      refine ⟨watch_le, cached_lt, ?_, last, head, decodedLast⟩
      intro version heldTable held
      rcases List.mem_append.mp held with before | new
      · exact fetched version heldTable before
      · simp only [List.mem_singleton, Handler.fetched.injEq] at new
        rcases new with ⟨rfl, rfl⟩
        exact decoded
  | refuse fault err =>
      refine ⟨watch_le, cached_lt, ?_, last, head, decodedLast⟩
      intro version heldTable held
      simp only [List.mem_append, List.mem_singleton, reduceCtorEq, or_false] at held
      exact fetched version heldTable held
  | @replace index version newTable found =>
      refine ⟨watch_le, cached_lt, ?_, version, rfl, ?_⟩
      · intro other heldTable held
        rcases List.mem_or_eq_of_mem_set held with before | new
        · exact fetched other heldTable before
        · simp at new
      · exact fetched version newTable (List.mem_of_getElem? found)

end Tracked

/-- A version that a handler holds, or that the updater handles or may be sent as its next event. -/
def State.MayInstall (state : State) (version : ℕ) : Prop :=
  (∃ handler ∈ state.handlers, handler.version? = some version) ∨
    state.running = true ∧ (state.decode version).isSome = true ∧
      (state.watch.head? = some version ∨ state.watch = [] ∧ state.cached ≤ version)

instance (state : State) (version : ℕ) : Decidable (state.MayInstall version) :=
  inferInstanceAs (Decidable (_ ∨ _))

/-- The event installs a version while an older one can still be installed after it. -/
def Overtakes (state : State) (event : Event) : Prop :=
  ∃ next ∈ step state event, next.installs ≠ state.installs ∧
    ∃ version ∈ next.installs.head?, ∃ older < version, next.MayInstall older

instance (state : State) (event : Event) : Decidable (Overtakes state event) :=
  inferInstanceAs (Decidable (∃ next ∈ step state event, _ ∧ ∃ version ∈ _, ∃ older < version, _))

/-- Versions, latest first, never go back. -/
def InOrder (installs : List ℕ) : Prop := installs.Pairwise fun later earlier => earlier ≤ later

instance (installs : List ℕ) : Decidable (InOrder installs) :=
  inferInstanceAs (Decidable (installs.Pairwise _))

/-- Nothing that may be installed is older than what is. -/
def UpToDate (state : State) : Prop :=
  ∀ version ∈ state.installs.head?, ∀ older, state.MayInstall older → version ≤ older

/-- A step that installs nothing brings up no version but the newest. -/
theorem State.MayInstall.of_moves (moves : Moves state event next)
    (same : next.installs = state.installs) (may : next.MayInstall version) :
    state.MayInstall version ∨ state.versions.length ≤ version + 1 := by
  cases moves with
  | update configMap =>
      rcases may with held | ⟨running, decoded, waiting⟩
      · exact .inl (.inl held)
      · by_cases written : version < state.versions.length
        · rw [State.decode_update configMap written] at decoded
          exact .inl (.inr ⟨running, decoded, waiting⟩)
        · -- only the version just written is new, and it is the newest
          right
          omega
  | @notify notified later written =>
      rcases may with held | ⟨running, decoded, head | ⟨empty, _⟩⟩
      · exact .inl (.inl held)
      · refine .inl (.inr ⟨running, decoded, ?_⟩)
        -- an event that waits behind others is not the next one
        cases watch : state.watch with
        | nil =>
            simp only [watch, List.nil_append, List.head?_cons, Option.some.injEq] at head
            exact .inr ⟨rfl, head ▸ later⟩
        | cons first rest =>
            simp only [watch, List.cons_append, List.head?_cons] at head
            exact .inl head
      · simp at empty
  | handle running next decoded => simp [State.install] at same
  | fail next =>
      rcases may with held | ⟨running, _⟩
      · exact .inl (.inl held)
      · simp at running
  | stop =>
      rcases may with held | ⟨running, _⟩
      · exact .inl (.inl held)
      · simp at running
  | fetch decoded =>
      rcases may with ⟨handler, member, held⟩ | waiting
      · rcases List.mem_append.mp member with before | new
        · exact .inl (.inl ⟨handler, before, held⟩)
        · rw [List.mem_singleton.mp new, Handler.version?, Option.some.injEq, State.current] at held
          right
          omega
      · exact .inl (.inr waiting)
  | refuse fault err =>
      rcases may with ⟨handler, member, held⟩ | waiting
      · rcases List.mem_append.mp member with before | new
        · exact .inl (.inl ⟨handler, before, held⟩)
        · simp [List.mem_singleton.mp new, Handler.version?] at held
      · exact .inl (.inr waiting)
  | replace found => simp [State.install] at same

theorem UpToDate.step (tracked : Tracked state) (upToDate : UpToDate state)
    (stepped : step state event = some next) (keepsUp : ¬Overtakes state event) :
    UpToDate next := by
  intro version head older may
  by_cases same : next.installs = state.installs
  · rw [same] at head
    rcases may.of_moves (moves_of_step stepped) same with before | newest
    · exact upToDate version head older before
    · rcases tracked.installed with ⟨last, headLast, decoded⟩
      have written := State.lt_of_decode decoded
      rw [headLast, Option.mem_some_iff] at head
      omega
  · by_contra overtaken
    exact keepsUp ⟨next, stepped, same, version, head, older, not_le.mp overtaken, may⟩

theorem installs_of_moves (moves : Moves state event next) :
    next.installs = state.installs ∨
      ∃ version, state.MayInstall version ∧ next.installs = version :: state.installs := by
  cases moves with
  | update | notify | fail | stop | fetch | refuse => exact .inl rfl
  | @handle version watch newTable running next decoded =>
      refine .inr ⟨version, .inr ⟨running, ?_, .inl ?_⟩, rfl⟩
      · rw [decoded, Option.isSome_some]
      · rw [next, List.head?_cons]
  | @replace index version newTable found =>
      exact .inr ⟨version, .inl ⟨_, List.mem_of_getElem? found, rfl⟩, rfl⟩

theorem InOrder.cons {installs : List ℕ} (inOrder : InOrder installs)
    (newest : ∀ last ∈ installs.head?, last ≤ version) : InOrder (version :: installs) := by
  refine List.pairwise_cons.mpr ⟨?_, inOrder⟩
  intro earlier member
  cases installs with
  | nil => simp at member
  | cons last rest =>
      have below := newest last rfl
      rcases List.mem_cons.mp member with rfl | older
      · exact below
      · exact le_trans (List.rel_of_pairwise_cons inOrder older) below

theorem InOrder.moves (inOrder : InOrder state.installs) (upToDate : UpToDate state)
    (moves : Moves state event next) : InOrder next.installs := by
  rcases installs_of_moves moves with same | ⟨version, may, installed⟩
  · rw [same]
    exact inOrder
  · rw [installed]
    apply inOrder.cons
    intro last head
    exact upToDate last head version may

/-- The invariant of runs in which no install overtakes an older version. -/
structure Ordered (state : State) : Prop where
  tracked : Tracked state
  upToDate : UpToDate state
  inOrder : InOrder state.installs

namespace Ordered

theorem initial {configMap : ConfigMap} {table : Table}
    (decoded : fetchTableFromConfigMap configMap = .ok table) :
    Ordered (.initial configMap table) := by
  refine ⟨.initial decoded, ?_, List.pairwise_singleton _ _⟩
  intro version head older _
  simp only [State.initial, List.head?_cons, Option.mem_some_iff] at head
  omega

theorem step (ordered : Ordered state) (keepsUp : ¬Overtakes state event)
    (stepped : step state event = some next) : Ordered next where
  tracked := ordered.tracked.moves (moves_of_step stepped)
  upToDate := ordered.upToDate.step ordered.tracked stepped keepsUp
  inOrder := ordered.inOrder.moves ordered.upToDate (moves_of_step stepped)

end Ordered

/-- What may be installed is installed within two steps. -/
theorem State.MayInstall.exists_run (may : state.MayInstall version) :
    ∃ history later, Run (StepOf step) state history later ∧
      later.installs = version :: state.installs := by
  rcases may with ⟨handler, member, held⟩ | ⟨running, decodes, head | ⟨empty, later⟩⟩
  · cases handler with
    | finished result => simp [Handler.version?] at held
    | fetched fetchedVersion newTable =>
        rw [Handler.version?, Option.some.injEq] at held
        subst held
        rcases List.mem_iff_getElem?.mp member with ⟨index, found⟩
        exact ⟨_, _, Run.start.move (step_replace found), rfl⟩
  · rcases Option.isSome_iff_exists.mp decodes with ⟨newTable, decoded⟩
    rcases List.head?_eq_some_iff.mp head with ⟨watch, next⟩
    exact ⟨_, _, Run.start.move (step_handle running next decoded), rfl⟩
  · -- the informer has to send the version first
    rcases Option.isSome_iff_exists.mp decodes with ⟨newTable, decoded⟩
    have written := State.lt_of_decode decoded
    have notified : step state (.notify version) =
        some { state with cached := version, watch := [version] } := by
      simp [step, empty, later, written]
    have handled := @step_handle { state with cached := version, watch := [version] } version
      newTable [] running rfl decoded
    exact ⟨_, _, (Run.start.move notified).move handled, rfl⟩

/--
The live table is always that of the version installed last. As long as no install overtakes an
older version that can still be installed, the versions installed never go back; and after any
install that does, the run can go on to install the older version over the newer one.
-/
theorem installs_inOrder {configMap : ConfigMap} {table : Table}
    (decoded : fetchTableFromConfigMap configMap = .ok table)
    {history : List (Move State Event)} {state : State}
    (run : Run (StepOf step) (.initial configMap table) history state) :
    (∃ version, state.installs.head? = some version ∧
        state.decode version = some state.table) ∧
      ((∀ move ∈ history, ¬Overtakes move.source move.event) → InOrder state.installs) ∧
      ∀ move ∈ history, Overtakes move.source move.event →
        ∃ continued later, Run (StepOf step) move.target continued later ∧
          ¬InOrder later.installs := by
  have tracked : Tracked state := run.invariant (Tracked.initial decoded)
    fun _ _ _ tracked stepped => tracked.moves (moves_of_step stepped)
  refine ⟨tracked.installed, ?_, ?_⟩
  · intro keepsUp
    have ordered := run.invariant_of_condition Ordered (fun source event => ¬Overtakes source event)
      (.initial decoded) (fun _ _ _ ordered keeps stepped => ordered.step keeps stepped) keepsUp
    exact ordered.inOrder
  · intro move member ⟨next, stepped, _, version, head, older, overtaken, may⟩
    have moved := (run.mem_history member).2
    have target : next = move.target := by
      simpa [StepOf, Option.mem_def.mp stepped] using moved
    subst target
    rcases may.exists_run with ⟨continued, later, onwards, installed⟩
    refine ⟨continued, later, onwards, ?_⟩
    intro inOrder
    rw [installed] at inOrder
    have newer := List.rel_of_pairwise_cons inOrder (List.mem_of_mem_head? head)
    omega

end Order

/-- A version of the ConfigMap with a route. -/
def sampleConfigMap : ConfigMap :=
  ⟨some ((∅ : GoMap String Document).insert configMapRoutingTableKey
    (.encoded (newTable.addTargets ["a"] (newTarget "ns" "svc" 80 "depl" 100))))⟩

/-- A ping that reads what the updater has installed installs the same version again. -/
theorem installs_inOrder_ping : ∃ history state,
    Run (StepOf step) (.initial shippedConfigMap newTable) history state ∧
      state.installs = [1, 1, 0] ∧ InOrder state.installs := by
  rcases Run.exists_of_record step (.initial shippedConfigMap newTable)
    [.update sampleConfigMap, .notify 1, .handle, .get none, .replace 0]
    (fun made => decide (made.2.installs = [1, 1, 0]) &&
      made.1.all fun move : Move State Event => decide (¬Overtakes move.source move.event))
    (by decide)
    with ⟨history, state, run, passed⟩
  simp only [Bool.and_eq_true, List.all_eq_true, decide_eq_true_eq] at passed
  rcases passed with ⟨installs, keepsUp⟩
  exact ⟨history, state, run, installs, (installs_inOrder (by decide) run).2.1 keepsUp⟩

/-- A ping that is slower than the updater takes the route away that the updater has installed. -/
theorem not_inOrder_of_slow_ping :
    ¬∀ (configMap : ConfigMap) (table : Table) (history : List (Move State Event)) (state : State),
      fetchTableFromConfigMap configMap = .ok table →
        Run (StepOf step) (.initial configMap table) history state → InOrder state.installs := by
  intro always
  rcases Run.exists_of_record step (.initial shippedConfigMap newTable)
    [.get none, .update sampleConfigMap, .notify 1, .handle, .replace 0]
    (fun made => decide (¬InOrder made.2.installs)) (by decide)
    with ⟨history, state, run, passed⟩
  rw [decide_eq_true_eq] at passed
  exact passed (always shippedConfigMap newTable history state (by decide) run)

end Updater

end KedaHttp.Routing
