import KedaHttp.Routing.Updater

/-!
# How a written routing table gets to an interceptor

The operator writes the ConfigMap, and from there on it is up to the informer, to the updater and
to the `/routing_ping` handlers that are in between of their `Get` and their `Replace`. None of
them compares versions. Once nobody writes and nobody pings any more, what is left to be done is
done after finitely many steps, in whatever order. But the order may decide which version is
installed last. It is the current one in all of them if and only if no handler holds an older
version, and the current version is installed, or on its way.
-/

namespace KedaHttp.Routing.Updater

open KedaHttp.Foundation

/-- What goes on without a write, a new ping or the end of the updater. -/
def Event.remaining (state : State) : Event → Bool
  | .notify version => decide (state.cached < version)
  | .handle | .replace _ => true
  | .update _ | .stop | .get _ => false

def Proceeds (state : State) (event : Event) (next : State) : Prop :=
  event.remaining state = true ∧ step state event = some next

/-- The last event that waits is of the version that the informer has. -/
def EndsCached (state : State) : Prop :=
  ∀ last ∈ state.watch.getLast?, last = state.cached

theorem EndsCached.moves {state next : State} {event : Event} (ends : EndsCached state)
    (moves : Moves state event next) : EndsCached next := by
  have rest : ∀ {version watch}, state.watch = version :: watch →
      ∀ last ∈ watch.getLast?, last = state.cached := by
    intro version watch queued last member
    apply ends
    rw [queued, List.getLast?_cons, Option.mem_def.mp member]
    rfl
  cases moves with
  | update configMap => exact ends
  | notify later written =>
      intro last member
      simpa [List.getLast?_concat] using member.symm
  | handle running queued decoded => exact rest queued
  | fail queued => exact rest queued
  | stop => exact ends
  | fetch decoded => exact ends
  | refuse fault err => exact ends
  | replace fetched => exact ends

/-- The updater runs, and will not come to a version that it cannot decode. -/
structure Flowing (state : State) : Prop where
  tracked : Tracked state
  ends : EndsCached state
  running : state.running = true
  decodes : ∀ version, version ∈ state.watch ∨
    state.cached < version ∧ version < state.versions.length →
      (state.decode version).isSome = true

theorem Flowing.of_reachable {configMap : ConfigMap} {table : Table}
    (decoded : fetchTableFromConfigMap configMap = .ok table) {state : State}
    (reachable : Reachable (StepOf step) (.initial configMap table) state)
    (running : state.running = true)
    (decodes : ∀ version, version ∈ state.watch ∨
      state.cached < version ∧ version < state.versions.length →
        (state.decode version).isSome = true) : Flowing state := by
  have initial : EndsCached (.initial configMap table) := by simp [EndsCached, State.initial]
  have ends : EndsCached state := by
    apply reachable.invariant initial
    intro source event target ends stepped
    exact ends.moves (moves_of_step stepped)
  have tracked : Tracked state := by
    apply reachable.invariant (Tracked.initial decoded)
    intro source event target tracked stepped
    exact tracked.moves (moves_of_step stepped)
  exact ⟨tracked, ends, running, decodes⟩

section Steps

variable {state next : State} {event : Event}

/-- What is left to be done. -/
inductive Advances (state : State) : Event → State → Prop where
  | notify {version : ℕ} (later : state.cached < version)
      (written : version < state.versions.length) :
      Advances state (.notify version)
        { state with cached := version, watch := state.watch ++ [version] }
  | handle {version : ℕ} {watch : List ℕ} {newTable : Table}
      (queued : state.watch = version :: watch) (decoded : state.decode version = some newTable) :
      Advances state .handle ({ state with watch }.install version newTable)
  | replace {index version : ℕ} {newTable : Table}
      (fetched : state.handlers[index]? = some (.fetched version newTable)) :
      Advances state (.replace index)
        ({ state with handlers := state.handlers.set index (.finished (.ok ())) }.install
          version newTable)

theorem Flowing.advances (flowing : Flowing state) (proceeds : Proceeds state event next) :
    Advances state event next := by
  rcases proceeds with ⟨remaining, stepped⟩
  cases event with
  | update | stop | get => simp [Event.remaining] at remaining
  | notify version =>
      simp only [Event.remaining, decide_eq_true_eq] at remaining
      cases moves_of_step stepped with
      | notify later written => exact .notify remaining written
  | handle =>
      cases queued : state.watch with
      | nil => simp [step, queued] at stepped
      | cons version watch =>
          have decodes := flowing.decodes version (.inl (by simp [queued]))
          rcases Option.isSome_iff_exists.mp decodes with ⟨newTable, decoded⟩
          rw [step_handle flowing.running queued decoded, Option.some.injEq] at stepped
          exact stepped ▸ .handle queued decoded
  | replace index =>
      cases moves_of_step stepped with
      | replace fetched => exact .replace fetched

theorem Flowing.proceeds (flowing : Flowing state) (advances : Advances state event next) :
    Proceeds state event next := by
  cases advances with
  | notify later written =>
      refine ⟨by simpa [Event.remaining] using later, ?_⟩
      simp [step, later.le, written]
  | handle queued decoded => exact ⟨rfl, step_handle flowing.running queued decoded⟩
  | replace fetched => exact ⟨rfl, step_replace fetched⟩

theorem Flowing.preserved (flowing : Flowing state) (proceeds : Proceeds state event next) :
    Flowing next ∧ next.versions = state.versions := by
  have moves := moves_of_step proceeds.2
  have tracked := flowing.tracked.moves moves
  have ends := flowing.ends.moves moves
  have advances := flowing.advances proceeds
  cases advances with
  | notify later written =>
      refine ⟨⟨tracked, ends, flowing.running, ?_⟩, rfl⟩
      intro version waiting
      apply flowing.decodes version
      rcases waiting with member | ⟨newer, bound⟩
      · rcases List.mem_append.mp member with before | new
        · exact .inl before
        · rw [List.mem_singleton.mp new]
          exact .inr ⟨later, written⟩
      · exact .inr ⟨later.trans newer, bound⟩
  | handle queued decoded =>
      refine ⟨⟨tracked, ends, flowing.running, ?_⟩, rfl⟩
      intro version waiting
      apply flowing.decodes version
      rcases waiting with member | newer
      · exact .inl (queued ▸ List.mem_cons_of_mem _ member)
      · exact .inr newer
  | replace fetched => exact ⟨⟨tracked, ends, flowing.running, flowing.decodes⟩, rfl⟩

end Steps

section Measure

variable {state next : State} {event : Event}

def Handler.inFlight (handler : Handler) : Bool := handler.version?.isSome

/-- A bound on the steps that are left. -/
def State.weight (state : State) : ℕ :=
  2 * (state.versions.length - state.cached) + state.watch.length +
    state.handlers.countP Handler.inFlight

theorem countP_set_lt {handlers : List Handler} {index version : ℕ} {newTable : Table}
    (fetched : handlers[index]? = some (.fetched version newTable)) :
    (handlers.set index (.finished (.ok ()))).countP Handler.inFlight <
      handlers.countP Handler.inFlight := by
  rcases List.getElem?_eq_some_iff.mp fetched with ⟨bound, found⟩
  have positive : 0 < handlers.countP Handler.inFlight :=
    List.countP_pos_iff.mpr ⟨_, List.mem_of_getElem? fetched, rfl⟩
  rw [List.countP_set bound, found]
  simp only [Handler.inFlight, Handler.version?, Option.isSome_some, Option.isSome_none, if_true,
    Bool.false_eq_true, if_false]
  omega

theorem weight_lt (flowing : Flowing state) (proceeds : Proceeds state event next) :
    next.weight < state.weight := by
  cases flowing.advances proceeds with
  | notify later written =>
      simp only [State.weight, List.length_append, List.length_singleton]
      omega
  | handle queued decoded =>
      simp only [State.weight, State.install, queued, List.length_cons]
      omega
  | replace fetched =>
      have fewer := countP_set_lt fetched
      simp only [State.weight, State.install]
      omega

end Measure

section Settled

variable {state final : State}

/-- Nothing is left to be done. -/
structure Settled (state : State) : Prop where
  cached : state.cached = state.current
  watch : state.watch = []
  handlers : ∀ handler ∈ state.handlers, handler.version? = none

theorem settled_of_stuck (flowing : Flowing state)
    (stuck : ∀ event next, ¬Proceeds state event next) : Settled state := by
  have cached_lt := flowing.tracked.cached_lt
  refine ⟨?_, ?_, ?_⟩
  · by_contra behind
    have later : state.cached < state.current := by
      simp only [State.current] at behind ⊢
      omega
    have written : state.current < state.versions.length := by
      simp only [State.current]
      omega
    exact stuck _ _ (flowing.proceeds (.notify later written))
  · cases queued : state.watch with
    | nil => rfl
    | cons version watch =>
        have decodes := flowing.decodes version (.inl (by simp [queued]))
        rcases Option.isSome_iff_exists.mp decodes with ⟨newTable, decoded⟩
        exact absurd (flowing.proceeds (.handle queued decoded)) (stuck _ _)
  · intro handler member
    cases handler with
    | finished result => rfl
    | fetched version newTable =>
        rcases List.mem_iff_getElem?.mp member with ⟨index, fetched⟩
        exact absurd (flowing.proceeds (.replace fetched)) (stuck _ _)

end Settled

section Delivery

variable {state next : State} {event : Event}

/-- The current version is installed or on its way, and no older one comes after it. -/
structure Delivers (state : State) : Prop where
  fresh : ∀ handler ∈ state.handlers, ∀ version, handler.version? = some version →
    version = state.current
  onItsWay : state.installs.head? = some state.current ∨ state.cached < state.current ∨
    state.watch ≠ [] ∨ ∃ handler ∈ state.handlers, handler.version? = some state.current

theorem Delivers.preserved (delivers : Delivers state) (flowing : Flowing state)
    (proceeds : Proceeds state event next) : Delivers next := by
  rcases flowing.preserved proceeds with ⟨_, versions⟩
  have current : next.current = state.current := by rw [State.current, versions, State.current]
  cases flowing.advances proceeds with
  | notify later written => exact ⟨delivers.fresh, .inr (.inr (.inl (by simp)))⟩
  | @handle version watch newTable queued decoded =>
      refine ⟨delivers.fresh, ?_⟩
      rw [current]
      cases watch with
      | cons first rest => exact .inr (.inr (.inl (by simp [State.install])))
      | nil =>
          -- This was the last event, so that it is the version that the informer has.
          have last : version = state.cached := flowing.ends version (by simp [queued])
          have cached_lt := flowing.tracked.cached_lt
          by_cases behind : state.cached < state.current
          · exact .inr (.inl behind)
          · left
            simp only [State.install, List.head?_cons, Option.some.injEq]
            simp only [State.current] at behind ⊢
            omega
  | @replace index version newTable fetched =>
      have held : version = state.current :=
        delivers.fresh _ (List.mem_of_getElem? fetched) version rfl
      refine ⟨?_, .inl (by rw [current, ← held]; rfl)⟩
      intro handler member other found
      rw [current]
      rcases List.mem_or_eq_of_mem_set member with before | new
      · exact delivers.fresh handler before other found
      · simp [new, Handler.version?] at found

theorem Delivers.current_of_settled (delivers : Delivers state) (settled : Settled state) :
    state.installs.head? = some state.current := by
  rcases delivers.onItsWay with installed | behind | waiting | ⟨handler, member, held⟩
  · exact installed
  · have cached := settled.cached
    omega
  · exact absurd settled.watch waiting
  · simp [settled.handlers handler member] at held

/-- All steps that are left but one. -/
def ProceedsBut (index : ℕ) (state : State) (event : Event) (next : State) : Prop :=
  Proceeds state event next ∧ event ≠ .replace index

/-- The handler at an index waits until nothing else is left to be done. -/
structure Delays (start : State) (index version : ℕ) (newTable : Table) (state : State) :
    Prop where
  flowing : Flowing state
  versions : state.versions = start.versions
  fetched : state.handlers[index]? = some (.fetched version newTable)
  reachable : Reachable Proceeds start state

theorem Delays.preserved {start : State} {index version : ℕ} {newTable : Table}
    (delays : Delays start index version newTable state)
    (proceeds : ProceedsBut index state event next) :
    Delays start index version newTable next := by
  rcases delays.flowing.preserved proceeds.1 with ⟨flowing, versions⟩
  refine ⟨flowing, versions.trans delays.versions, ?_, delays.reachable.step proceeds.1⟩
  cases delays.flowing.advances proceeds.1 with
  | notify later written => exact delays.fetched
  | handle queued decoded => exact delays.fetched
  | @replace other _ _ fetched =>
      have differs : other ≠ index := by
        rintro rfl
        exact proceeds.2 rfl
      exact (List.getElem?_set_ne differs).trans delays.fetched

/-- A handler may install what it holds after everything else. -/
theorem exists_settled_of_fetched (flowing : Flowing state) {index version : ℕ} {newTable : Table}
    (fetched : state.handlers[index]? = some (.fetched version newTable)) :
    ∃ final, Reachable Proceeds state final ∧ Settled final ∧ final.current = state.current ∧
      final.installs.head? = some version := by
  have delays : Delays state index version newTable state := ⟨flowing, rfl, fetched, .refl⟩
  have started : Reachable (ProceedsBut index) state state := .refl
  rcases started.exists_stuck (Delays state index version newTable) State.weight
    (fun _ _ _ delays proceeds => delays.preserved proceeds)
    (fun _ _ _ delays proceeds => weight_lt delays.flowing proceeds.1) delays with
    ⟨last, reached, stuck⟩
  have delayed : Delays state index version newTable last :=
    reached.invariant delays fun _ _ _ delays proceeds => delays.preserved proceeds
  have replaces := delayed.flowing.proceeds (.replace delayed.fetched)
  rcases delayed.flowing.preserved replaces with ⟨flows, versions⟩
  refine ⟨_, delayed.reachable.step replaces, ?_, ?_, rfl⟩
  · apply settled_of_stuck flows
    intro event next proceeds
    cases flows.advances proceeds with
    | notify later written =>
        exact stuck _ _ ⟨delayed.flowing.proceeds (.notify later written), by simp⟩
    | handle queued decoded =>
        exact stuck _ _ ⟨delayed.flowing.proceeds (.handle queued decoded), by simp⟩
    | @replace other held heldTable found =>
        by_cases same : index = other
        · subst same
          simp [State.install, List.getElem?_set] at found
        · have before : last.handlers[other]? = some (.fetched held heldTable) := by
            rw [← found]
            exact (List.getElem?_set_ne same).symm
          refine stuck _ _ ⟨delayed.flowing.proceeds (.replace before), ?_⟩
          simpa using Ne.symm same
  · rw [State.current, versions, delayed.versions, State.current]

theorem delivers_of_always (flowing : Flowing state)
    (always : ∀ final, Reachable Proceeds state final → Settled final →
      final.installs.head? = some final.current) : Delivers state := by
  have fresh : ∀ handler ∈ state.handlers, ∀ version, handler.version? = some version →
      version = state.current := by
    intro handler member version held
    cases handler with
    | finished result => simp [Handler.version?] at held
    | fetched heldVersion newTable =>
        rw [Handler.version?, Option.some.injEq] at held
        rcases List.mem_iff_getElem?.mp member with ⟨index, fetched⟩
        rcases exists_settled_of_fetched flowing fetched with
          ⟨final, reached, settled, current, head⟩
        rw [always final reached settled, current, Option.some.injEq] at head
        rw [← held, head]
  refine ⟨fresh, ?_⟩
  by_contra nothing
  simp only [not_or, not_not, not_exists, not_and] at nothing
  rcases nothing with ⟨stale, caughtUp, empty, unheld⟩
  apply stale
  apply always state .refl
  refine ⟨?_, empty, ?_⟩
  · have cached_lt := flowing.tracked.cached_lt
    simp only [State.current] at caughtUp ⊢
    omega
  · intro handler member
    cases held : handler.version? with
    | none => rfl
    | some version =>
        rw [fresh handler member version held] at held
        exact absurd held (unheld handler member)

end Delivery

/--
From every state that an interceptor gets to, by any writes, events and pings, and in which its
updater runs and will be able to decode what is still to come: what is left to be done gets done,
in whatever order. The current version is installed last in all of the orders if and only if no
handler holds an older version, and the current one is installed or on its way.
-/
theorem installs_current_iff {configMap : ConfigMap} {table : Table}
    (decoded : fetchTableFromConfigMap configMap = .ok table) {state : State}
    (reachable : Reachable (StepOf step) (.initial configMap table) state)
    (running : state.running = true)
    (decodes : ∀ version, version ∈ state.watch ∨
      state.cached < version ∧ version < state.versions.length →
        (state.decode version).isSome = true) :
    Inevitable Proceeds Settled state ∧
      ((∀ final, Reachable Proceeds state final → Settled final →
          final.installs.head? = some final.current ∧
            final.decode final.current = some final.table) ↔
        Delivers state) := by
  have flowing := Flowing.of_reachable decoded reachable running decodes
  refine ⟨?_, ?_, ?_⟩
  · apply Inevitable.of_stuck Flowing State.weight _ _ _ flowing
    · intro source event target flowing proceeds
      exact (flowing.preserved proceeds).1
    · intro source event target flowing proceeds
      exact weight_lt flowing proceeds
    · intro source flowing stuck
      exact settled_of_stuck flowing stuck
  · intro always
    exact delivers_of_always flowing fun final reached settled => (always final reached settled).1
  · intro delivers final reached settled
    have holds : Flowing final ∧ Delivers final := by
      apply reached.invariant ⟨flowing, delivers⟩
      intro source event target holds proceeds
      exact ⟨(holds.1.preserved proceeds).1, holds.2.preserved holds.1 proceeds⟩
    have current := holds.2.current_of_settled settled
    rcases holds.1.tracked.installed with ⟨version, head, decoded⟩
    rw [current, Option.some.injEq] at head
    exact ⟨current, head ▸ decoded⟩

/-- A version with a route has been written and the informer has it. The updater installs it. -/
theorem installs_current_iff_written : ∃ state : State,
    Reachable (StepOf step) (.initial shippedConfigMap newTable) state ∧
      state.installs = [0] ∧ state.current = 1 ∧ Inevitable Proceeds Settled state ∧
      ∀ final, Reachable Proceeds state final → Settled final →
        final.installs.head? = some final.current ∧
          final.decode final.current = some final.table := by
  rcases Reachable.exists_of_record step (.initial shippedConfigMap newTable)
    [.update sampleConfigMap, .notify 1]
    (fun state => decide (state.installs = [0]) && decide (state.versions.length = 2) &&
      decide (state.cached = 1) && decide (state.watch = [1]) && state.running &&
      state.handlers.isEmpty && (state.decode 1).isSome)
    (by decide) with ⟨state, reachable, passed⟩
  simp only [Bool.and_eq_true, decide_eq_true_eq, List.isEmpty_iff] at passed
  rcases passed with ⟨⟨⟨⟨⟨⟨installs, length⟩, cached⟩, watch⟩, running⟩, idle⟩, decodes⟩
  have pending : ∀ version, version ∈ state.watch ∨
      state.cached < version ∧ version < state.versions.length →
        (state.decode version).isSome = true := by
    intro version waiting
    rw [watch, cached, length, List.mem_singleton] at waiting
    have one : version = 1 := by omega
    exact one ▸ decodes
  have delivers : Delivers state := by
    refine ⟨by simp [idle], .inr (.inr (.inl ?_))⟩
    simp [watch]
  rcases installs_current_iff (by decide) reachable running pending with ⟨ends, always⟩
  refine ⟨state, reachable, installs, ?_, ends, always.mpr delivers⟩
  rw [State.current, length]

end KedaHttp.Routing.Updater
