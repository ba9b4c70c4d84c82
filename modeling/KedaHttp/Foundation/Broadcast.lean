import KedaHttp.Foundation.Broadcaster
import Mathlib.Data.List.Perm.Basic
import Mathlib.Logic.Function.Basic

/-!
# A broadcaster with a lock and a loop

One way to build a broadcaster that delivers, and that is made for waiting: `bcaster` has no queues
for its watchers, and waits for each of them.

Whoever has something for the broadcaster takes its lock and sends to its channel, which holds 25
entries. An item is sent by `Action`. `Watch` and `Stop` send functions, which add a watcher and
remove it, and keep the lock until the broadcaster's loop has run them. So a function is always the
last entry of the channel: `incoming` has the items only, and the lock tells of the function behind
them.

The loop takes one entry after the other. An item is handed to each watcher in turn, in an order
that the runtime chooses, and the loop waits until the goroutine of the watcher's filter is there to
take it, unless the watcher has been stopped. The filter drops the items it is not made for and
waits for its reader to take the others.
-/

namespace KedaHttp.Foundation.Broadcast

/-- The capacity of the broadcaster's channel. -/
def incomingQueueLength : ℕ := 25

/-- A function to be run by the broadcaster's loop. -/
inductive Request (Id : Type) where
  | add (id : Id)
  | remove (id : Id)
  deriving DecidableEq

/-- What the holder of the broadcaster's lock is at. -/
inductive Holder (Id Item : Type) where
  | sending (item : Item)
  | asking (request : Request Id)
  | awaiting (request : Request Id)
  | served (request : Request Id)
  deriving DecidableEq

/-- How far a watcher has got. -/
inductive Stage where
  | new
  | adding
  | added
  | live
  | stopped
  | removing
  | removed
  deriving DecidableEq, Repr

/-- The broadcaster's map has the watcher. -/
def Stage.registered : Stage → Bool
  | .added | .live | .stopped | .removing => true
  | .new | .adding | .removed => false

/-- The goroutine of the watcher's filter has been started. -/
def Stage.filtered : Stage → Bool
  | .live | .stopped | .removing | .removed => true
  | .new | .adding | .added => false

/-- The goroutine of a watcher's filter. -/
inductive Filter (Item : Type) where
  | absent
  | idle
  | holding (item : Item)
  | sending (item : Item)
  | finished
  deriving DecidableEq

structure Machine (Id Item : Type) where
  lock : Option (Holder Id Item)
  incoming : List Item
  /-- The item that the loop is handing out, with the watchers that are still to get it. -/
  distributing : Option (Item × List Id)
  watchers : List Id
  stages : Id → Stage
  filters : Id → Filter Item

inductive Action (Id Item : Type) where
  | send (item : Item)
  | subscribe (id : Id)
  | unsubscribe (id : Id)
  | push
  | take (order : List Id)
  | run
  | attach (id : Id)
  | detach (id : Id)
  | hand
  | skip
  | finish
  | filter (id : Id)
  | endFilter (id : Id)
  | receive (id : Id)
  | stop (id : Id)

/-- What goroutines do without being asked to, and without an event from outside. -/
def Action.internal {Id Item : Type} : Action Id Item → Bool
  | .unsubscribe _ | .push | .take _ | .run | .attach _ | .detach _ | .hand | .skip | .finish
  | .filter _ | .endFilter _ => true
  | .send _ | .subscribe _ | .receive _ | .stop _ => false

namespace Machine

variable {Id Item : Type} [DecidableEq Id]

def new : Machine Id Item where
  lock := none
  incoming := []
  distributing := none
  watchers := []
  stages := fun _ => .new
  filters := fun _ => .absent

def setStage (b : Machine Id Item) (id : Id) (stage : Stage) : Machine Id Item :=
  { b with stages := Function.update b.stages id stage }

def setFilter (b : Machine Id Item) (id : Id) (filter : Filter Item) : Machine Id Item :=
  { b with filters := Function.update b.filters id filter }

section Fields

variable (b : Machine Id Item) (id other : Id) (stage : Stage) (filter : Filter Item)

@[simp]
theorem setStage_stages :
    (b.setStage id stage).stages other = if other = id then stage else b.stages other :=
  Function.update_apply ..

@[simp]
theorem setStage_filters : (b.setStage id stage).filters = b.filters := rfl

@[simp]
theorem setStage_watchers : (b.setStage id stage).watchers = b.watchers := rfl

@[simp]
theorem setStage_incoming : (b.setStage id stage).incoming = b.incoming := rfl

@[simp]
theorem setStage_distributing : (b.setStage id stage).distributing = b.distributing := rfl

@[simp]
theorem setStage_lock : (b.setStage id stage).lock = b.lock := rfl

@[simp]
theorem setFilter_filters :
    (b.setFilter id filter).filters other = if other = id then filter else b.filters other :=
  Function.update_apply ..

@[simp]
theorem setFilter_stages : (b.setFilter id filter).stages = b.stages := rfl

@[simp]
theorem setFilter_watchers : (b.setFilter id filter).watchers = b.watchers := rfl

@[simp]
theorem setFilter_incoming : (b.setFilter id filter).incoming = b.incoming := rfl

@[simp]
theorem setFilter_distributing : (b.setFilter id filter).distributing = b.distributing := rfl

@[simp]
theorem setFilter_lock : (b.setFilter id filter).lock = b.lock := rfl

end Fields

/-- The stopped channel of a watcher has been closed. -/
def isStopped (b : Machine Id Item) (id : Id) : Bool :=
  match b.stages id with
  | .stopped | .removing | .removed => true
  | _ => false

/-- The functions that the loop runs. The second one closes the watcher's channel. -/
def serve (b : Machine Id Item) : Request Id → Machine Id Item
  | .add id => { b.setStage id .added with watchers := b.watchers ++ [id] }
  | .remove id => { b.setStage id .removed with watchers := b.watchers.erase id }

/-- The steps, with the test of each watcher's filter. -/
def step (keep : Id → Item → Bool) (b : Machine Id Item) :
    Action Id Item → Option (Machine Id Item)
  | .send item => if b.lock.isNone then some { b with lock := some (.sending item) } else none
  | .subscribe id =>
      if b.lock.isNone ∧ b.stages id = .new then
        some { b.setStage id .adding with lock := some (.asking (.add id)) }
      else none
  | .unsubscribe id =>
      if b.lock.isNone ∧ b.stages id = .stopped then
        some { b.setStage id .removing with lock := some (.asking (.remove id)) }
      else none
  | .push =>
      if b.incoming.length < incomingQueueLength then
        match b.lock with
        | some (.sending item) => some { b with lock := none, incoming := b.incoming ++ [item] }
        | some (.asking request) => some { b with lock := some (.awaiting request) }
        | _ => none
      else none
  | .take order =>
      match b.distributing, b.incoming with
      | none, item :: rest =>
          if order.isPerm b.watchers then
            some { b with incoming := rest, distributing := some (item, order) }
          else none
      | _, _ => none
  | .run =>
      match b.distributing, b.incoming, b.lock with
      | none, [], some (.awaiting request) =>
          some { b.serve request with lock := some (.served request) }
      | _, _, _ => none
  -- `Watch` gives the lock back, and the goroutine of the filter is started.
  | .attach id =>
      match b.lock with
      | some (.served (.add added)) =>
          if added = id then some { (b.setStage id .live).setFilter id .idle with lock := none }
          else none
      | _ => none
  | .detach id =>
      match b.lock with
      | some (.served (.remove removed)) =>
          if removed = id then some { b with lock := none } else none
      | _ => none
  | .hand =>
      match b.distributing with
      | some (item, id :: rest) =>
          match b.filters id with
          | .idle => some { b.setFilter id (.holding item) with distributing := some (item, rest) }
          | _ => none
      | _ => none
  | .skip =>
      match b.distributing with
      | some (item, id :: rest) =>
          if b.isStopped id then some { b with distributing := some (item, rest) } else none
      | _ => none
  | .finish =>
      match b.distributing with
      | some (_, []) => some { b with distributing := none }
      | _ => none
  | .filter id =>
      match b.filters id with
      | .holding item => some (b.setFilter id (if keep id item then .sending item else .idle))
      | _ => none
  | .endFilter id =>
      match b.filters id, b.stages id with
      | .idle, .removed => some (b.setFilter id .finished)
      | _, _ => none
  | .receive id =>
      match b.filters id with
      | .sending _ => some (b.setFilter id .idle)
      | _ => none
  | .stop id => if b.stages id = .live then some (b.setStage id .stopped) else none

/-- What the steps do, with the conditions under which they are made. -/
inductive Moves (keep : Id → Item → Bool) :
    Machine Id Item → Action Id Item → Machine Id Item → Prop where
  | send {b : Machine Id Item} {item : Item} (free : b.lock = none) :
      Moves keep b (.send item) { b with lock := some (.sending item) }
  | subscribe {b : Machine Id Item} {id : Id} (free : b.lock = none)
      (stage : b.stages id = .new) :
      Moves keep b (.subscribe id)
        { b.setStage id .adding with lock := some (.asking (.add id)) }
  | unsubscribe {b : Machine Id Item} {id : Id} (free : b.lock = none)
      (stage : b.stages id = .stopped) :
      Moves keep b (.unsubscribe id)
        { b.setStage id .removing with lock := some (.asking (.remove id)) }
  | pushItem {b : Machine Id Item} {item : Item}
      (room : b.incoming.length < incomingQueueLength) (held : b.lock = some (.sending item)) :
      Moves keep b .push { b with lock := none, incoming := b.incoming ++ [item] }
  | pushRequest {b : Machine Id Item} {request : Request Id}
      (room : b.incoming.length < incomingQueueLength) (held : b.lock = some (.asking request)) :
      Moves keep b .push { b with lock := some (.awaiting request) }
  | take {b : Machine Id Item} {item : Item} {rest : List Item} {order : List Id}
      (idle : b.distributing = none) (queued : b.incoming = item :: rest)
      (perm : order.Perm b.watchers) :
      Moves keep b (.take order)
        { b with incoming := rest, distributing := some (item, order) }
  | run {b : Machine Id Item} {request : Request Id} (idle : b.distributing = none)
      (empty : b.incoming = []) (held : b.lock = some (.awaiting request)) :
      Moves keep b .run { b.serve request with lock := some (.served request) }
  | attach {b : Machine Id Item} {id : Id} (held : b.lock = some (.served (.add id))) :
      Moves keep b (.attach id) { (b.setStage id .live).setFilter id .idle with lock := none }
  | detach {b : Machine Id Item} {id : Id} (held : b.lock = some (.served (.remove id))) :
      Moves keep b (.detach id) { b with lock := none }
  | hand {b : Machine Id Item} {item : Item} {id : Id} {rest : List Id}
      (distributing : b.distributing = some (item, id :: rest)) (idle : b.filters id = .idle) :
      Moves keep b .hand
        { b.setFilter id (.holding item) with distributing := some (item, rest) }
  | skip {b : Machine Id Item} {item : Item} {id : Id} {rest : List Id}
      (distributing : b.distributing = some (item, id :: rest))
      (stopped : b.isStopped id = true) :
      Moves keep b .skip { b with distributing := some (item, rest) }
  | finish {b : Machine Id Item} {item : Item}
      (distributing : b.distributing = some (item, [])) :
      Moves keep b .finish { b with distributing := none }
  | filter {b : Machine Id Item} {id : Id} {item : Item}
      (holding : b.filters id = .holding item) :
      Moves keep b (.filter id) (b.setFilter id (if keep id item then .sending item else .idle))
  | endFilter {b : Machine Id Item} {id : Id} (idle : b.filters id = .idle)
      (stage : b.stages id = .removed) : Moves keep b (.endFilter id) (b.setFilter id .finished)
  | receive {b : Machine Id Item} {id : Id} {item : Item}
      (sending : b.filters id = .sending item) : Moves keep b (.receive id) (b.setFilter id .idle)
  | stop {b : Machine Id Item} {id : Id} (stage : b.stages id = .live) :
      Moves keep b (.stop id) (b.setStage id .stopped)

variable {keep : Id → Item → Bool} {b next : Machine Id Item} {action : Action Id Item}

theorem step_of_moves (moves : Moves keep b action next) : step keep b action = some next := by
  cases moves with
  | send free => simp [step, free]
  | subscribe free stage => simp [step, free, stage]
  | unsubscribe free stage => simp [step, free, stage]
  | pushItem room held => simp [step, room, held]
  | pushRequest room held => simp [step, room, held]
  | take idle queued perm => simp [step, idle, queued, List.isPerm_iff.mpr perm]
  | run idle empty held => simp [step, idle, empty, held]
  | attach held => simp [step, held]
  | detach held => simp [step, held]
  | hand distributing idle => simp [step, distributing, idle]
  | skip distributing stopped => simp [step, distributing, stopped]
  | finish distributing => simp [step, distributing]
  | filter holding => simp [step, holding]
  | endFilter idle stage => simp [step, idle, stage]
  | receive sending => simp [step, sending]
  | stop stage => simp [step, stage]

theorem moves_of_step (stepped : step keep b action = some next) : Moves keep b action next := by
  cases action with
  | send item =>
      simp only [step, Option.isNone_iff_eq_none] at stepped
      split at stepped
      · next free =>
          rw [← Option.some.inj stepped]
          exact .send free
      · simp at stepped
  | subscribe id =>
      simp only [step, Option.isNone_iff_eq_none] at stepped
      split at stepped
      · next guard =>
          rw [← Option.some.inj stepped]
          exact .subscribe guard.1 guard.2
      · simp at stepped
  | unsubscribe id =>
      simp only [step, Option.isNone_iff_eq_none] at stepped
      split at stepped
      · next guard =>
          rw [← Option.some.inj stepped]
          exact .unsubscribe guard.1 guard.2
      · simp at stepped
  | push =>
      simp only [step] at stepped
      split at stepped
      · next room =>
          split at stepped
          · next item held =>
              rw [← Option.some.inj stepped]
              exact .pushItem room held
          · next request held =>
              rw [← Option.some.inj stepped]
              exact .pushRequest room held
          · simp at stepped
      · simp at stepped
  | take order =>
      simp only [step] at stepped
      split at stepped
      · next item rest idle queued =>
          split at stepped
          · next perm =>
              rw [← Option.some.inj stepped]
              exact .take idle queued (List.isPerm_iff.mp perm)
          · simp at stepped
      · simp at stepped
  | run =>
      simp only [step] at stepped
      split at stepped
      · next request idle empty held =>
          rw [← Option.some.inj stepped]
          exact .run idle empty held
      · simp at stepped
  | attach id =>
      simp only [step] at stepped
      split at stepped
      · next added held =>
          split at stepped
          · next same =>
              rw [← Option.some.inj stepped]
              exact .attach (same ▸ held)
          · simp at stepped
      · simp at stepped
  | detach id =>
      simp only [step] at stepped
      split at stepped
      · next removed held =>
          split at stepped
          · next same =>
              rw [← Option.some.inj stepped]
              exact .detach (same ▸ held)
          · simp at stepped
      · simp at stepped
  | hand =>
      simp only [step] at stepped
      split at stepped
      · next item id rest distributing =>
          split at stepped
          · next idle =>
              rw [← Option.some.inj stepped]
              exact .hand distributing idle
          · simp at stepped
      · simp at stepped
  | skip =>
      simp only [step] at stepped
      split at stepped
      · next item id rest distributing =>
          split at stepped
          · next stopped =>
              rw [← Option.some.inj stepped]
              exact .skip distributing stopped
          · simp at stepped
      · simp at stepped
  | finish =>
      simp only [step] at stepped
      split at stepped
      · next item distributing =>
          rw [← Option.some.inj stepped]
          exact .finish distributing
      · simp at stepped
  | filter id =>
      simp only [step] at stepped
      split at stepped
      · next item holding =>
          rw [← Option.some.inj stepped]
          exact .filter holding
      · simp at stepped
  | endFilter id =>
      simp only [step] at stepped
      split at stepped
      · next idle stage =>
          rw [← Option.some.inj stepped]
          exact .endFilter idle stage
      · simp at stepped
  | receive id =>
      simp only [step] at stepped
      split at stepped
      · next item sending =>
          rw [← Option.some.inj stepped]
          exact .receive sending
      · simp at stepped
  | stop id =>
      simp only [step] at stepped
      split at stepped
      · next stage =>
          rw [← Option.some.inj stepped]
          exact .stop stage
      · simp at stepped

section WellFormed

/-- The request has been made and not been served yet. -/
def Asks (lock : Option (Holder Id Item)) (request : Request Id) : Prop :=
  lock = some (.asking request) ∨ lock = some (.awaiting request)

/--
The stage of a watcher agrees with the lock, with the broadcaster's map and with the goroutine of
its filter.
-/
structure Placed (b : Machine Id Item) (id : Id) : Prop where
  registered : id ∈ b.watchers ↔ (b.stages id).registered
  adding : b.stages id = .adding ↔ Asks b.lock (.add id)
  added : b.stages id = .added ↔ b.lock = some (.served (.add id))
  removing : b.stages id = .removing ↔ Asks b.lock (.remove id)
  absent : b.filters id = .absent ↔ (b.stages id).filtered = false
  finished : b.filters id = .finished → b.stages id = .removed

/-- Every watcher has its place, and what is handed out goes once to each watcher in the map. -/
structure WellFormed (b : Machine Id Item) : Prop where
  placed : ∀ id, b.Placed id
  nodup : b.watchers.Nodup
  order : ∀ item rest, b.distributing = some (item, rest) →
    rest.Nodup ∧ ∀ id ∈ rest, id ∈ b.watchers

omit [DecidableEq Id] in
/-- A move keeps a watcher in its place whose stage and filter it does not change. -/
theorem Placed.congr {id : Id} (placed : b.Placed id) (stage : next.stages id = b.stages id)
    (filter : next.filters id = b.filters id) (watchers : id ∈ next.watchers ↔ id ∈ b.watchers)
    (asksAdd : Asks next.lock (.add id) ↔ Asks b.lock (.add id))
    (served : next.lock = some (.served (.add id)) ↔ b.lock = some (.served (.add id)))
    (asksRemove : Asks next.lock (.remove id) ↔ Asks b.lock (.remove id)) : next.Placed id where
  registered := by rw [watchers, stage, placed.registered]
  adding := by rw [stage, asksAdd, placed.adding]
  added := by rw [stage, served, placed.added]
  removing := by rw [stage, asksRemove, placed.removing]
  absent := by rw [filter, stage, placed.absent]
  finished := by
    rw [filter, stage]
    exact placed.finished

namespace WellFormed

omit [DecidableEq Id] in
theorem new : WellFormed (new : Machine Id Item) where
  placed := by
    intro id
    constructor <;> simp [Machine.new, Stage.registered, Stage.filtered, Asks]
  nodup := List.nodup_nil
  order := by simp [Machine.new]

omit [DecidableEq Id] in
/-- The moves of the lock that are not about a watcher. -/
theorem of_lock (wf : WellFormed b) {lock : Option (Holder Id Item)}
    (asks : ∀ request, Asks lock request ↔ Asks b.lock request)
    (served : ∀ id, lock = some (.served (.add id)) ↔ b.lock = some (.served (.add id)))
    (incoming : List Item) : WellFormed { b with lock := lock, incoming := incoming } where
  placed := fun id => (wf.placed id).congr rfl rfl Iff.rfl (asks _) (served id) (asks _)
  nodup := wf.nodup
  order := wf.order

omit [DecidableEq Id] in
theorem of_distributing (wf : WellFormed b) (incoming : List Item)
    {distributing : Option (Item × List Id)}
    (order : ∀ item rest, distributing = some (item, rest) →
      rest.Nodup ∧ ∀ id ∈ rest, id ∈ b.watchers) :
    WellFormed { b with incoming := incoming, distributing := distributing } where
  placed := fun id => (wf.placed id).congr rfl rfl Iff.rfl Iff.rfl Iff.rfl Iff.rfl
  nodup := wf.nodup
  order := order

/-- A goroutine that has been started goes on. -/
theorem setFilter (wf : WellFormed b) {id : Id} {filter : Filter Item}
    (started : b.filters id ≠ .absent) (goesOn : filter ≠ .absent)
    (finished : filter = .finished → b.stages id = .removed) :
    WellFormed (b.setFilter id filter) where
  placed := by
    intro other
    by_cases same : other = id
    · subst same
      have placed := wf.placed other
      have filtered := mt placed.absent.mpr started
      refine ⟨placed.registered, placed.adding, placed.added, placed.removing, ?_, ?_⟩
      · simp [goesOn, filtered]
      · simpa using finished
    · exact (wf.placed other).congr rfl (by simp [same]) Iff.rfl Iff.rfl Iff.rfl Iff.rfl
  nodup := wf.nodup
  order := wf.order

omit [DecidableEq Id] in
theorem order_rest (wf : WellFormed b) {item : Item} {id : Id} {rest : List Id}
    (distributing : b.distributing = some (item, id :: rest)) :
    ∀ given left, some (item, rest) = some (given, left) →
      left.Nodup ∧ ∀ id ∈ left, id ∈ b.watchers := by
  rintro given left ⟨⟩
  rcases wf.order item (id :: rest) distributing with ⟨nodup, registered⟩
  exact ⟨(List.nodup_cons.mp nodup).2,
    fun other member => registered other (List.mem_cons_of_mem _ member)⟩

theorem subscribe (wf : WellFormed b) {id : Id} (free : b.lock = none)
    (stage : b.stages id = .new) :
    WellFormed { b.setStage id .adding with lock := some (.asking (.add id)) } where
  placed := by
    intro other
    have placed := wf.placed other
    by_cases same : other = id
    · subst same
      rcases placed with ⟨registered, _, _, _, absent, finished⟩
      rw [stage] at registered absent finished
      constructor <;> simp_all [Asks, Stage.registered, Stage.filtered]
    · exact placed.congr (by simp [same]) rfl Iff.rfl (by simp [Asks, free, Ne.symm same])
        (by simp [free]) (by simp [Asks, free])
  nodup := wf.nodup
  order := wf.order

theorem unsubscribe (wf : WellFormed b) {id : Id} (free : b.lock = none)
    (stage : b.stages id = .stopped) :
    WellFormed { b.setStage id .removing with lock := some (.asking (.remove id)) } where
  placed := by
    intro other
    have placed := wf.placed other
    by_cases same : other = id
    · subst same
      rcases placed with ⟨registered, _, _, _, absent, finished⟩
      rw [stage] at registered absent finished
      constructor <;> simp_all [Asks, Stage.registered, Stage.filtered]
    · exact placed.congr (by simp [same]) rfl Iff.rfl (by simp [Asks, free])
        (by simp [free]) (by simp [Asks, free, Ne.symm same])
  nodup := wf.nodup
  order := wf.order

theorem runAdd (wf : WellFormed b) {id : Id} (idle : b.distributing = none)
    (held : b.lock = some (.awaiting (.add id))) :
    WellFormed { b.serve (.add id) with lock := some (.served (.add id)) } := by
  have stage : b.stages id = .adding := (wf.placed id).adding.mpr (.inr held)
  have fresh : id ∉ b.watchers := by
    rw [(wf.placed id).registered, stage]
    decide
  refine ⟨?_, ?_, ?_⟩
  · intro other
    have placed := wf.placed other
    by_cases same : other = id
    · subst same
      rcases placed with ⟨registered, _, _, _, absent, finished⟩
      rw [stage] at registered absent finished
      constructor <;> simp_all [serve, Asks, Stage.registered, Stage.filtered]
    · exact placed.congr (by simp [serve, same]) rfl (by simp [serve, same])
        (by simp [Asks, held, Ne.symm same]) (by simp [held, Ne.symm same]) (by simp [Asks, held])
  · have others : ∀ other ∈ b.watchers, other ≠ id := fun other member same =>
      fresh (same ▸ member)
    simpa [serve, List.nodup_append] using ⟨wf.nodup, others⟩
  · simp [serve, idle]

theorem runRemove (wf : WellFormed b) {id : Id} (idle : b.distributing = none)
    (held : b.lock = some (.awaiting (.remove id))) :
    WellFormed { b.serve (.remove id) with lock := some (.served (.remove id)) } := by
  have stage : b.stages id = .removing := (wf.placed id).removing.mpr (.inr held)
  refine ⟨?_, ?_, ?_⟩
  · intro other
    have placed := wf.placed other
    by_cases same : other = id
    · subst same
      rcases placed with ⟨registered, _, _, _, absent, finished⟩
      rw [stage] at registered absent finished
      constructor <;>
        simp_all [serve, Asks, Stage.registered, Stage.filtered, wf.nodup.mem_erase_iff]
    · exact placed.congr (by simp [serve, same]) rfl (by simp [serve, same, wf.nodup.mem_erase_iff])
        (by simp [Asks, held]) (by simp [held]) (by simp [Asks, held, Ne.symm same])
  · exact wf.nodup.erase id
  · simp [serve, idle]

theorem attach (wf : WellFormed b) {id : Id} (held : b.lock = some (.served (.add id))) :
    WellFormed { (b.setStage id .live).setFilter id .idle with lock := none } where
  placed := by
    have stage : b.stages id = .added := (wf.placed id).added.mpr held
    intro other
    have placed := wf.placed other
    by_cases same : other = id
    · subst same
      rcases placed with ⟨registered, _, _, _, absent, finished⟩
      rw [stage] at registered absent finished
      constructor <;> simp_all [Asks, Stage.registered, Stage.filtered]
    · exact placed.congr (by simp [same]) (by simp [same]) Iff.rfl (by simp [Asks, held])
        (by simp [held, Ne.symm same]) (by simp [Asks, held])
  nodup := wf.nodup
  order := wf.order

theorem stop (wf : WellFormed b) {id : Id} (stage : b.stages id = .live) :
    WellFormed (b.setStage id .stopped) where
  placed := by
    intro other
    have placed := wf.placed other
    by_cases same : other = id
    · subst same
      rcases placed with ⟨registered, adding, added, removing, absent, finished⟩
      rw [stage] at registered adding added removing absent finished
      constructor <;> simp_all [Stage.registered, Stage.filtered]
    · exact placed.congr (by simp [same]) rfl Iff.rfl Iff.rfl Iff.rfl Iff.rfl
  nodup := wf.nodup
  order := wf.order

theorem preserved (wf : WellFormed b) (moves : Moves keep b action next) : WellFormed next := by
  cases moves with
  | send free => exact wf.of_lock (by simp [Asks, free]) (by simp [free]) b.incoming
  | subscribe free stage => exact wf.subscribe free stage
  | unsubscribe free stage => exact wf.unsubscribe free stage
  | pushItem room held => exact wf.of_lock (by simp [Asks, held]) (by simp [held]) _
  | pushRequest room held =>
      exact wf.of_lock (by simp [Asks, held]) (by simp [held]) b.incoming
  | take idle queued perm =>
      apply wf.of_distributing
      rintro item rest ⟨⟩
      exact ⟨perm.nodup_iff.mpr wf.nodup, fun id => perm.mem_iff.mp⟩
  | @run request idle empty held =>
      cases request with
      | add id => exact wf.runAdd idle held
      | remove id => exact wf.runRemove idle held
  | attach held => exact wf.attach held
  | detach held => exact wf.of_lock (by simp [Asks, held]) (by simp [held]) b.incoming
  | hand distributing idle =>
      exact (wf.setFilter (by simp [idle]) (by simp) (by simp)).of_distributing b.incoming
        (wf.order_rest distributing)
  | skip distributing stopped =>
      exact wf.of_distributing b.incoming (wf.order_rest distributing)
  | finish distributing => exact wf.of_distributing b.incoming (by simp)
  | filter holding =>
      apply wf.setFilter
      · simp [holding]
      · split <;> simp
      · split <;> simp
  | endFilter idle stage => exact wf.setFilter (by simp [idle]) (by simp) fun _ => stage
  | receive sending => exact wf.setFilter (by simp [sending]) (by simp) (by simp)
  | stop stage => exact wf.stop stage

end WellFormed

end WellFormed

section Undelivered

/-- The item being handed out, if the watcher is still to get it. -/
def current (b : Machine Id Item) (id : Id) : List Item :=
  match b.distributing with
  | some (item, rest) => if id ∈ rest then [item] else []
  | none => []

/-- The item that the holder of the lock is about to send. -/
def inHand (lock : Option (Holder Id Item)) : List Item :=
  match lock with
  | some (.sending item) => [item]
  | _ => []

/-- The items on their way to a watcher, oldest first. -/
def undelivered (b : Machine Id Item) (id : Id) : List Item :=
  b.current id ++ (b.incoming ++ inHand b.lock)

variable {id : Id}

theorem undelivered_congr (distributing : next.distributing = b.distributing)
    (incoming : next.incoming = b.incoming) (lock : inHand next.lock = inHand b.lock) :
    next.undelivered id = b.undelivered id := by
  rw [undelivered, undelivered, current, current, distributing, incoming, lock]

theorem undelivered_send (free : b.lock = none) (item : Item) :
    undelivered { b with lock := some (.sending item) } id = b.undelivered id ++ [item] := by
  simp [undelivered, current, inHand, free]

theorem undelivered_push {item : Item} (held : b.lock = some (.sending item)) :
    undelivered { b with lock := none, incoming := b.incoming ++ [item] } id =
      b.undelivered id := by
  simp [undelivered, current, inHand, held]

/-- To take an item from the channel changes nothing for the watchers that are to get it. -/
theorem undelivered_take {item : Item} {rest : List Item} {order : List Id}
    (idle : b.distributing = none) (queued : b.incoming = item :: rest) :
    b.undelivered id =
      (if id ∈ order then [] else [item]) ++
        undelivered { b with incoming := rest, distributing := some (item, order) } id := by
  by_cases member : id ∈ order <;> simp [undelivered, current, idle, queued, member]

/-- One watcher gets the item that is being handed out, or is passed over. -/
theorem undelivered_pass (wf : WellFormed b) {item : Item} {target : Id} {rest : List Id}
    (distributing : b.distributing = some (item, target :: rest))
    (passed : next.distributing = some (item, rest)) (incoming : next.incoming = b.incoming)
    (lock : next.lock = b.lock) :
    b.undelivered id = (if id = target then [item] else []) ++ next.undelivered id := by
  have once := (List.nodup_cons.mp (wf.order _ _ distributing).1).1
  by_cases same : id = target
  · subst same
    simp [undelivered, current, distributing, passed, incoming, lock, once]
  · simp [undelivered, current, distributing, passed, incoming, lock, same]

theorem undelivered_finish {item : Item} (distributing : b.distributing = some (item, [])) :
    undelivered { b with distributing := none } id = b.undelivered id := by
  simp [undelivered, current, distributing]

end Undelivered

section Mailboxes

/-- The items in front of a filter, of which it takes one at a time, and behind it. -/
def channels : Filter Item → List Item × List Item
  | .holding item => ([item], [])
  | .sending item => ([], [item])
  | .absent | .idle | .finished => ([], [])

def slotOf (stage : Stage) (filter : Filter Item) : Slot Item :=
  match stage with
  | .new => .unasked
  | .adding => .asked
  | .added => .registered false [] []
  | .live => .registered true (channels filter).1 (channels filter).2
  | .stopped | .removing | .removed => .stopped

def mailbox (b : Machine Id Item) (id : Id) : Mailbox Item :=
  ⟨b.undelivered id, slotOf (b.stages id) (b.filters id)⟩

variable {id : Id}

omit [DecidableEq Id] in
theorem slotOf_of_isStopped (stopped : b.isStopped id = true) (filter : Filter Item) :
    slotOf (b.stages id) filter = .stopped := by
  cases stage : b.stages id <;> simp [isStopped, stage, slotOf] at stopped ⊢

/-- A watcher that is not in the map has not been added yet, or has been stopped. -/
theorem slotOf_of_not_registered {stage : Stage} {filter : Filter Item}
    (missing : stage.registered = false) (returned : Bool) (incoming result : List Item) :
    slotOf stage filter ≠ .registered returned incoming result := by
  cases stage <;> simp [Stage.registered, slotOf] at missing ⊢

/-- A move that only changes how items are on their way. -/
theorem moves_of_undelivered (queued : next.undelivered id = b.undelivered id)
    (slot : slotOf (next.stages id) (next.filters id) = slotOf (b.stages id) (b.filters id)) :
    (b.mailbox id).Moves (keep id) (next.mailbox id) := by
  have same : next.mailbox id = b.mailbox id := by rw [mailbox, mailbox, queued, slot]
  rw [same]
  exact .same _

/-- An item passes a watcher by that is not registered. -/
theorem moves_of_missed {item : Item} (queued : b.undelivered id = item :: next.undelivered id)
    (slot : slotOf (next.stages id) (next.filters id) = slotOf (b.stages id) (b.filters id))
    (missing : ∀ returned incoming result,
      slotOf (b.stages id) (b.filters id) ≠ .registered returned incoming result) :
    (b.mailbox id).Moves (keep id) (next.mailbox id) := by
  rw [mailbox, mailbox, queued, slot]
  exact .miss item _ missing

theorem moves_hand (wf : WellFormed b) {item : Item} {target : Id} {rest : List Id}
    (distributing : b.distributing = some (item, target :: rest))
    (idle : b.filters target = .idle) :
    (b.mailbox id).Moves (keep id) (mailbox
      { b.setFilter target (.holding item) with distributing := some (item, rest) } id) := by
  have passed := @undelivered_pass _ _ _ b
    { b.setFilter target (.holding item) with distributing := some (item, rest) } id wf item target
    rest distributing rfl rfl rfl
  by_cases same : id = target
  · subst same
    rw [if_pos rfl, List.singleton_append] at passed
    cases stage : b.stages id with
    | live =>
        have moves := @Mailbox.Moves.pass _ (keep id) item true
          (undelivered { b.setFilter id (.holding item) with distributing := some (item, rest) } id)
          [] []
        simpa [mailbox, passed, stage, slotOf, channels, idle] using moves
    | stopped | removing | removed =>
        exact moves_of_missed passed (by simp [stage, slotOf]) (by simp [stage, slotOf])
    | new | adding | added =>
        have absent := (wf.placed id).absent.mpr (by simp [stage, Stage.filtered])
        simp [absent] at idle
  · rw [if_neg same, List.nil_append] at passed
    exact moves_of_undelivered passed.symm (by simp [same])

theorem moves_skip (wf : WellFormed b) {item : Item} {target : Id} {rest : List Id}
    (distributing : b.distributing = some (item, target :: rest))
    (stopped : b.isStopped target = true) :
    (b.mailbox id).Moves (keep id)
      (mailbox { b with distributing := some (item, rest) } id) := by
  have passed := @undelivered_pass _ _ _ b { b with distributing := some (item, rest) } id wf item
    target rest distributing rfl rfl rfl
  by_cases same : id = target
  · subst same
    rw [if_pos rfl, List.singleton_append] at passed
    exact moves_of_missed passed rfl (by simp [slotOf_of_isStopped stopped])
  · rw [if_neg same, List.nil_append] at passed
    exact moves_of_undelivered passed.symm rfl

theorem moves_take (wf : WellFormed b) {item : Item} {rest : List Item} {order : List Id}
    (idle : b.distributing = none) (queued : b.incoming = item :: rest)
    (perm : order.Perm b.watchers) :
    (b.mailbox id).Moves (keep id)
      (mailbox { b with incoming := rest, distributing := some (item, order) } id) := by
  have taken := @undelivered_take _ _ _ b id item rest order idle queued
  by_cases member : id ∈ order
  · rw [if_pos member, List.nil_append] at taken
    exact moves_of_undelivered taken.symm rfl
  · rw [if_neg member, List.singleton_append] at taken
    have missing : ¬(b.stages id).registered = true := by
      rw [← (wf.placed id).registered, ← perm.mem_iff]
      exact member
    exact moves_of_missed taken rfl (slotOf_of_not_registered (by simpa using missing))

theorem moves_run (wf : WellFormed b) {request : Request Id}
    (held : b.lock = some (.awaiting request)) :
    (b.mailbox id).Moves (keep id)
      (mailbox { b.serve request with lock := some (.served request) } id) := by
  cases request with
  | add added =>
      have queued : undelivered
          { b.serve (.add added) with lock := some (.served (.add added)) } id =
            b.undelivered id :=
        undelivered_congr rfl rfl (by simp [inHand, held])
      by_cases same : id = added
      · subst same
        have stage := (wf.placed id).adding.mpr (.inr held)
        have moves := @Mailbox.Moves.register _ (keep id) (b.undelivered id)
        rw [mailbox, mailbox, queued]
        simpa [stage, slotOf, serve] using moves
      · exact moves_of_undelivered queued (by simp [serve, same])
  | remove removed =>
      refine moves_of_undelivered (undelivered_congr rfl rfl (by simp [inHand, held])) ?_
      have stage := (wf.placed removed).removing.mpr (.inr held)
      by_cases same : id = removed
      · simp [serve, same, stage, slotOf]
      · simp [serve, same]

theorem moves_attach (wf : WellFormed b) {attached : Id}
    (held : b.lock = some (.served (.add attached))) :
    (b.mailbox id).Moves (keep id)
      (mailbox { (b.setStage attached .live).setFilter attached .idle with lock := none } id) := by
  have queued : undelivered
      { (b.setStage attached .live).setFilter attached .idle with lock := none } id =
        b.undelivered id :=
    undelivered_congr rfl rfl (by simp [inHand, held])
  by_cases same : id = attached
  · subst same
    have stage := (wf.placed id).added.mpr held
    have moves := @Mailbox.Moves.returns _ (keep id) (b.undelivered id) [] []
    rw [mailbox, mailbox, queued]
    simpa [stage, slotOf, channels] using moves
  · exact moves_of_undelivered queued (by simp [same])

theorem moves_filter {filtered : Id} {item : Item}
    (holding : b.filters filtered = .holding item) :
    (b.mailbox id).Moves (keep id) (mailbox
      (b.setFilter filtered (if keep filtered item then .sending item else .idle)) id) := by
  by_cases same : id = filtered
  · subst same
    cases stage : b.stages id with
    | live =>
        have moves := @Mailbox.Moves.filter _ (keep id) item true (b.undelivered id) [] []
        by_cases kept : keep id item = true
        · simpa [mailbox, undelivered, current, stage, slotOf, channels, holding, kept] using moves
        · simpa [mailbox, undelivered, current, stage, slotOf, channels, holding, kept] using moves
    | new | adding | added | stopped | removing | removed =>
        exact moves_of_undelivered rfl (by simp [stage, slotOf])
  · exact moves_of_undelivered rfl (by simp [same])

/-- What the goroutines do on their own. -/
theorem mailbox_of_moves (wf : WellFormed b) (internal : action.internal = true)
    (moves : Moves keep b action next) : (b.mailbox id).Moves (keep id) (next.mailbox id) := by
  cases moves with
  | send | subscribe | receive | stop => simp [Action.internal] at internal
  | @unsubscribe stopped free stage =>
      refine moves_of_undelivered (undelivered_congr rfl rfl (by simp [inHand, free])) ?_
      by_cases same : id = stopped
      · simp [same, stage, slotOf]
      · simp [same]
  | pushItem room held => exact moves_of_undelivered (undelivered_push held) rfl
  | pushRequest room held =>
      exact moves_of_undelivered (undelivered_congr rfl rfl (by simp [inHand, held])) rfl
  | take idle queued perm => exact moves_take wf idle queued perm
  | run idle empty held => exact moves_run wf held
  | attach held => exact moves_attach wf held
  | detach held =>
      exact moves_of_undelivered (undelivered_congr rfl rfl (by simp [inHand, held])) rfl
  | hand distributing idle => exact moves_hand wf distributing idle
  | skip distributing stopped => exact moves_skip wf distributing stopped
  | finish distributing => exact moves_of_undelivered (undelivered_finish distributing) rfl
  | filter holding => exact moves_filter holding
  | @endFilter ended idle stage =>
      refine moves_of_undelivered rfl ?_
      by_cases same : id = ended
      · simp [same, stage, slotOf]
      · simp [same]

end Mailboxes

end Machine

section Instance

variable {Id Item : Type} [DecidableEq Id] (keep : Id → Item → Bool)

/-- A step from a state that is in order leads to one that is. -/
def advance (b : { b : Machine Id Item // b.WellFormed }) (action : Action Id Item) :
    Option { b : Machine Id Item // b.WellFormed } :=
  (b.val.step keep action).pmap Subtype.mk fun _ stepped =>
    b.property.preserved (Machine.moves_of_step stepped)

def bcaster : Broadcaster Id Item where
  State := { b : Machine Id Item // b.WellFormed }
  Motion := Action Id Item
  new := ⟨.new, .new⟩
  send := fun b item => advance keep b (.send item)
  watch := fun b id => advance keep b (.subscribe id)
  watched := fun b id => decide (b.val.stages id = .live)
  move := fun b action => if action.internal then advance keep b action else none
  receive := fun b id =>
    match b.val.stages id, b.val.filters id with
    | .live, .sending item => (advance keep b (.receive id)).map fun next => (item, next)
    | _, _ => none
  stop := fun b id => (advance keep b (.stop id)).getD b

variable {keep}

variable {b next : { b : Machine Id Item // b.WellFormed }} {action : Action Id Item}

theorem moves_of_advance (advanced : advance keep b action = some next) :
    Machine.Moves keep b.val action next.val := by
  rcases Option.pmap_eq_some_iff.mp advanced with ⟨stepped, wf, found, rfl⟩
  exact Machine.moves_of_step found

theorem exists_advance {stepped : Machine Id Item}
    (moves : Machine.Moves keep b.val action stepped) :
    ∃ wf, advance keep b action = some ⟨stepped, wf⟩ :=
  ⟨b.property.preserved moves,
    Option.pmap_eq_some_iff.mpr ⟨stepped, _, Machine.step_of_moves moves, rfl⟩⟩

theorem receive_eq_some {id : Id} {item : Item}
    (received : (bcaster keep).receive b id = some (item, next)) :
    b.val.stages id = .live ∧ b.val.filters id = .sending item ∧
      next.val = b.val.setFilter id .idle := by
  simp only [bcaster] at received
  split at received
  · next sent live sending =>
      rcases Option.map_eq_some_iff.mp received with ⟨taken, advanced, same⟩
      rcases Prod.mk.inj same with ⟨rfl, rfl⟩
      have moves := moves_of_advance advanced
      generalize taken.val = after at moves
      cases moves with
      | receive => exact ⟨live, sending, rfl⟩
  · simp at received

theorem stop_val {id : Id} (live : b.val.stages id = .live) :
    ((bcaster keep).stop b id).val = b.val.setStage id .stopped := by
  rcases exists_advance (@Machine.Moves.stop _ _ _ keep _ id live) with ⟨wf, advanced⟩
  simp [bcaster, advanced]

/-- The mailboxes of the other watchers are left alone. -/
theorem mailbox_setStage_of_ne {m : Machine Id Item} {id other : Id} (differs : other ≠ id)
    (stage : Stage) : (m.setStage id stage).mailbox other = m.mailbox other := by
  simp [Machine.mailbox, Machine.undelivered, Machine.current, differs]

theorem mailbox_setFilter_of_ne {m : Machine Id Item} {id other : Id} (differs : other ≠ id)
    (filter : Filter Item) : (m.setFilter id filter).mailbox other = m.mailbox other := by
  simp [Machine.mailbox, Machine.undelivered, Machine.current, differs]

def delivers (keep : Id → Item → Bool) : Delivers (bcaster keep) keep where
  mailbox := fun b => b.val.mailbox
  new := fun _ => rfl
  watched := by
    intro b id
    simp only [bcaster, decide_eq_true_eq, Machine.mailbox]
    cases b.val.stages id <;> simp [Machine.slotOf]
  send := by
    rintro b item ⟨next, wf⟩ sent id
    cases (moves_of_advance sent : Machine.Moves keep b.val _ next) with
    | send free => simp only [Machine.mailbox, Machine.undelivered_send free]
  watch := by
    rintro b id ⟨next, wf⟩ asked
    cases (moves_of_advance asked : Machine.Moves keep b.val _ next) with
    | subscribe free stage =>
        refine ⟨by simp [Machine.mailbox, stage, Machine.slotOf], ?_, ?_⟩
        · simp [Machine.mailbox, Machine.undelivered, Machine.current, Machine.inHand, free,
            Machine.slotOf]
        · intro other differs
          simp [Machine.mailbox, Machine.undelivered, Machine.current, Machine.inHand, free,
            differs]
  move := by
    intro b action next moved id
    simp only [bcaster] at moved
    split at moved
    · next internal => exact Machine.mailbox_of_moves b.property internal (moves_of_advance moved)
    · simp at moved
  receive := by
    intro b id item next received
    rcases receive_eq_some received with ⟨live, sending, taken⟩
    simp only [taken]
    refine ⟨⟨b.val.undelivered id, true, [], [], ?_, ?_⟩, ?_⟩
    · simp [Machine.mailbox, live, sending, Machine.slotOf, Machine.channels]
    · simp [Machine.mailbox, Machine.undelivered, Machine.current, live, Machine.slotOf,
        Machine.channels]
    · exact fun other differs => mailbox_setFilter_of_ne differs _
  stop := by
    intro b id watched
    simp only [stop_val (of_decide_eq_true watched)]
    refine ⟨?_, fun other differs => mailbox_setStage_of_ne differs _⟩
    simp [Machine.mailbox, Machine.undelivered, Machine.current, Machine.slotOf]

end Instance

end KedaHttp.Foundation.Broadcast
