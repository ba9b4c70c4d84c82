import KedaHttp.Foundation.Broadcast
import Mathlib.Algebra.BigOperators.Group.Finset.Basic
import Mathlib.Data.Fintype.Card

/-!
# The broadcaster comes to rest

With finitely many watchers whose readers read, the goroutines around the broadcaster can make
finitely many moves only (`weight_lt`), and when none of them can move, everything has arrived
(`settled_of_stuck`). A watcher that has been stopped holds nobody up, although the goroutine of its
filter may be left with an item that nobody takes.
-/

namespace KedaHttp.Foundation.Broadcast

namespace Machine

variable {Id Item : Type} [DecidableEq Id] {keep : Id → Item → Bool}
  {b next : Machine Id Item} {action : Action Id Item}

/-- Nothing is on its way, and what has been asked of the broadcaster has been done. -/
structure Settled (b : Machine Id Item) : Prop where
  lock : b.lock = none
  incoming : b.incoming = []
  distributing : b.distributing = none
  stages : ∀ id, b.stages id = .new ∨ b.stages id = .live ∨ b.stages id = .removed
  live : ∀ id, b.stages id = .live → b.filters id = .idle

section Stuck

variable (wf : WellFormed b) (stuck : ∀ action next, action.internal → ¬Moves keep b action next)
  (read : ∀ id item, b.stages id = .live → b.filters id ≠ .sending item)

include wf stuck

/-- The goroutine of a filter only waits for items, or for a reader. -/
theorem filter_of_stuck (id : Id) (started : (b.stages id).filtered = true) :
    b.filters id = .idle ∨ (∃ item, b.filters id = .sending item) ∨ b.filters id = .finished := by
  cases filter : b.filters id with
  | absent => simp [(wf.placed id).absent.mp filter] at started
  | idle => exact .inl rfl
  | holding item => exact absurd (.filter filter) (stuck (.filter id) _ rfl)
  | sending item => exact .inr (.inl ⟨item, rfl⟩)
  | finished => exact .inr (.inr rfl)

include read

/-- The loop does not wait for a watcher, unless the watcher's reader does not read. -/
theorem distributing_of_stuck : b.distributing = none := by
  cases distributing : b.distributing with
  | none => rfl
  | some handing =>
      rcases handing with ⟨item, order⟩
      cases order with
      | nil => exact absurd (.finish distributing) (stuck .finish _ rfl)
      | cons id rest =>
          have member := (wf.order _ _ distributing).2 id List.mem_cons_self
          have placed := wf.placed id
          rw [placed.registered] at member
          have skips : b.isStopped id = true → False := fun stopped =>
            stuck .skip _ rfl (.skip distributing stopped)
          cases stage : b.stages id with
          | new | adding | removed => simp [stage, Stage.registered] at member
          | added => exact absurd (.attach (placed.added.mp stage)) (stuck (.attach id) _ rfl)
          | stopped | removing => exact (skips (by simp [isStopped, stage])).elim
          | live =>
              rcases filter_of_stuck wf stuck id (by simp [stage, Stage.filtered]) with
                idle | ⟨sent, sending⟩ | finished
              · exact absurd (.hand distributing idle) (stuck .hand _ rfl)
              · exact absurd sending (read id sent stage)
              · simp [placed.finished finished] at stage

/-- If nothing moves although readers read, everything has arrived. -/
theorem settled_of_stuck : b.Settled := by
  have distributing := distributing_of_stuck wf stuck read
  have incoming : b.incoming = [] := by
    cases queued : b.incoming with
    | nil => rfl
    | cons item rest =>
        exact absurd (.take distributing queued (List.Perm.refl _)) (stuck (.take _) _ rfl)
  have room : b.incoming.length < incomingQueueLength := by
    simp [incoming, incomingQueueLength]
  have lock : b.lock = none := by
    cases held : b.lock with
    | none => rfl
    | some holder =>
        cases holder with
        | sending item => exact absurd (.pushItem room held) (stuck .push _ rfl)
        | asking request => exact absurd (.pushRequest room held) (stuck .push _ rfl)
        | awaiting request => exact absurd (.run distributing incoming held) (stuck .run _ rfl)
        | served request =>
            cases request with
            | add id => exact absurd (.attach held) (stuck (.attach id) _ rfl)
            | remove id => exact absurd (.detach held) (stuck (.detach id) _ rfl)
  refine ⟨lock, incoming, distributing, ?_, ?_⟩
  · intro id
    have placed := wf.placed id
    cases stage : b.stages id with
    | new => exact .inl rfl
    | live => exact .inr (.inl rfl)
    | removed => exact .inr (.inr rfl)
    | adding =>
        have asks := placed.adding.mp stage
        simp [Asks, lock] at asks
    | added =>
        have served := placed.added.mp stage
        simp [lock] at served
    | stopped => exact absurd (.unsubscribe lock stage) (stuck (.unsubscribe id) _ rfl)
    | removing =>
        have asks := placed.removing.mp stage
        simp [Asks, lock] at asks
  · intro id stage
    rcases filter_of_stuck wf stuck id (by simp [stage, Stage.filtered]) with
      idle | ⟨item, sending⟩ | finished
    · exact idle
    · exact absurd sending (read id item stage)
    · simp [(wf.placed id).finished finished] at stage

end Stuck

/-- What is settled has nothing for any watcher. -/
theorem Settled.mailbox (settled : b.Settled) (id : Id) : (b.mailbox id).Settled := by
  refine ⟨?_, ?_⟩
  · simp [Machine.mailbox, undelivered, current, inHand, settled.distributing, settled.incoming,
      settled.lock]
  · rcases settled.stages id with new | live | removed
    · exact .inl (by simp [Machine.mailbox, new, slotOf])
    · exact .inr (.inl (by simp [Machine.mailbox, live, settled.live id live, slotOf, channels]))
    · exact .inr (.inr (by simp [Machine.mailbox, removed, slotOf]))

end Machine

section Weights

/-- The weights of stages leave room for the weights of the lock. -/
def Stage.weight : Stage → ℕ
  | .new => 0
  | .adding => 24
  | .added => 20
  | .live => 16
  | .stopped => 12
  | .removing => 8
  | .removed => 4

def Filter.weight {Item : Type} : Filter Item → ℕ
  | .absent | .finished => 0
  | .idle => 1
  | .sending _ => 2
  | .holding _ => 3

/-- An item in the channel, where `count` watchers may be there to get it. -/
def itemWeight (count : ℕ) : ℕ := 3 * count + 2

def Holder.weight {Id Item : Type} (count : ℕ) : Holder Id Item → ℕ
  | .sending _ => itemWeight count + 1
  | .asking _ => 3
  | .awaiting _ => 2
  | .served _ => 1

end Weights

namespace Machine

variable {Id Item : Type} [DecidableEq Id] [Fintype Id] {keep : Id → Item → Bool}
  {b next : Machine Id Item} {action : Action Id Item}

/-- The weight of a watcher and of its filter. -/
def watcherWeight (b : Machine Id Item) (id : Id) : ℕ :=
  (b.stages id).weight + (b.filters id).weight

/-- The weight of the lock, the channel and the loop. -/
def channelWeight (b : Machine Id Item) : ℕ :=
  b.lock.elim 0 (Holder.weight (Fintype.card Id)) +
    itemWeight (Fintype.card Id) * b.incoming.length +
    b.distributing.elim 0 fun handing => 3 * handing.2.length + 1

/-- A bound on the moves that the goroutines can still make. -/
def weight (b : Machine Id Item) : ℕ := b.channelWeight + ∑ id, b.watcherWeight id

omit [DecidableEq Id] in
theorem weight_lt_of_channel (stages : next.stages = b.stages) (filters : next.filters = b.filters)
    (channel : next.channelWeight < b.channelWeight) : next.weight < b.weight := by
  simp only [weight, watcherWeight, stages, filters]
  omega

theorem weight_lt_of_watcher (id : Id)
    (others : ∀ other ≠ id, next.watcherWeight other = b.watcherWeight other)
    (lt : next.channelWeight + next.watcherWeight id < b.channelWeight + b.watcherWeight id) :
    next.weight < b.weight := by
  have same : ∑ other ∈ Finset.univ.erase id, next.watcherWeight other =
      ∑ other ∈ Finset.univ.erase id, b.watcherWeight other :=
    Finset.sum_congr rfl fun other member => others other (Finset.ne_of_mem_erase member)
  rw [weight, weight, ← Finset.add_sum_erase _ next.watcherWeight (Finset.mem_univ id), same,
    ← Finset.add_sum_erase _ b.watcherWeight (Finset.mem_univ id)]
  omega

/-- Every move but those that bring in an item or a watcher makes the weight smaller. -/
theorem weight_lt (wf : WellFormed b) (moves : Moves keep b action next)
    (noItem : ∀ item, action ≠ .send item) (noWatcher : ∀ id, action ≠ .subscribe id) :
    next.weight < b.weight := by
  cases moves with
  | send free => exact absurd rfl (noItem _)
  | subscribe free stage => exact absurd rfl (noWatcher _)
  | @unsubscribe id free stage =>
      apply weight_lt_of_watcher id
      · intro other differs
        simp [watcherWeight, differs]
      · simp only [channelWeight, watcherWeight, setStage_incoming, setStage_distributing,
          setStage_stages, setStage_filters, if_true, free, stage, Option.elim_some,
          Option.elim_none, Holder.weight, Stage.weight]
        omega
  | pushItem room held =>
      apply weight_lt_of_channel (by rfl) (by rfl)
      simp only [channelWeight, held, Option.elim_some, Option.elim_none, Holder.weight,
        List.length_append, List.length_singleton, Nat.mul_add, Nat.mul_one]
      omega
  | pushRequest room held =>
      apply weight_lt_of_channel (by rfl) (by rfl)
      simp only [channelWeight, held, Option.elim_some, Holder.weight]
      omega
  | take idle queued perm =>
      have few : _ ≤ Fintype.card Id := (perm.nodup_iff.mpr wf.nodup).length_le_card
      apply weight_lt_of_channel (by rfl) (by rfl)
      simp only [channelWeight, idle, queued, Option.elim_some, Option.elim_none,
        List.length_cons, Nat.mul_add, Nat.mul_one, itemWeight]
      omega
  | @run request idle empty held =>
      cases request with
      | add id =>
          have stage : b.stages id = .adding := (wf.placed id).adding.mpr (.inr held)
          apply weight_lt_of_watcher id
          · intro other differs
            simp [watcherWeight, serve, differs]
          · simp only [channelWeight, watcherWeight, serve, setStage_incoming,
              setStage_distributing, setStage_stages, setStage_filters, if_true, held, stage,
              Option.elim_some, Holder.weight, Stage.weight]
            omega
      | remove id =>
          have stage : b.stages id = .removing := (wf.placed id).removing.mpr (.inr held)
          apply weight_lt_of_watcher id
          · intro other differs
            simp [watcherWeight, serve, differs]
          · simp only [channelWeight, watcherWeight, serve, setStage_incoming,
              setStage_distributing, setStage_stages, setStage_filters, if_true, held, stage,
              Option.elim_some, Holder.weight, Stage.weight]
            omega
  | @attach id held =>
      have placed := wf.placed id
      have stage : b.stages id = .added := placed.added.mpr held
      have filter : b.filters id = .absent := placed.absent.mpr (by simp [stage, Stage.filtered])
      apply weight_lt_of_watcher id
      · intro other differs
        simp [watcherWeight, differs]
      · simp only [channelWeight, watcherWeight, setFilter_incoming, setFilter_distributing,
          setFilter_stages, setFilter_filters, setStage_incoming, setStage_distributing,
          setStage_stages, if_true, held, stage, filter, Option.elim_some, Option.elim_none,
          Holder.weight, Stage.weight, Filter.weight]
        omega
  | detach held =>
      apply weight_lt_of_channel (by rfl) (by rfl)
      simp only [channelWeight, held, Option.elim_some, Option.elim_none, Holder.weight]
      omega
  | @hand item id rest distributing idle =>
      apply weight_lt_of_watcher id
      · intro other differs
        simp [watcherWeight, differs]
      · simp only [channelWeight, watcherWeight, setFilter_lock, setFilter_incoming,
          setFilter_stages, setFilter_filters, if_true, distributing, idle, Option.elim_some,
          List.length_cons, Filter.weight]
        omega
  | skip distributing stopped =>
      apply weight_lt_of_channel (by rfl) (by rfl)
      simp only [channelWeight, distributing, Option.elim_some, List.length_cons]
      omega
  | finish distributing =>
      apply weight_lt_of_channel (by rfl) (by rfl)
      simp only [channelWeight, distributing, Option.elim_some, Option.elim_none]
      omega
  | @filter id item holding =>
      apply weight_lt_of_watcher id
      · intro other differs
        simp [watcherWeight, differs]
      · simp only [channelWeight, watcherWeight, setFilter_lock, setFilter_incoming,
          setFilter_distributing, setFilter_stages, setFilter_filters, holding, if_true]
        split
        · simp only [Filter.weight]
          omega
        · simp only [Filter.weight]
          omega
  | @endFilter id idle stage =>
      apply weight_lt_of_watcher id
      · intro other differs
        simp [watcherWeight, differs]
      · simp [channelWeight, watcherWeight, idle, Filter.weight]
  | @receive id item sending =>
      apply weight_lt_of_watcher id
      · intro other differs
        simp [watcherWeight, differs]
      · simp [channelWeight, watcherWeight, sending, Filter.weight]
  | @stop id stage =>
      apply weight_lt_of_watcher id
      · intro other differs
        simp [watcherWeight, differs]
      · simp [channelWeight, watcherWeight, stage, Stage.weight]

omit [DecidableEq Id] in
/-- What an item adds to the weight when it is brought in. -/
theorem weight_send (free : b.lock = none) (item : Item) :
    weight { b with lock := some (.sending item) } =
      b.weight + (itemWeight (Fintype.card Id) + 1) := by
  simp only [weight, channelWeight, free, Option.elim_some, Option.elim_none, Holder.weight]
  have same : ∀ id, watcherWeight { b with lock := some (.sending item) } id =
      b.watcherWeight id := fun _ => rfl
  simp only [same]
  omega

end Machine

variable {Id Item : Type} [DecidableEq Id] [Fintype Id]

def progresses (keep : Id → Item → Bool) : Progresses (delivers keep) where
  weight := fun b => b.val.weight
  cost := itemWeight (Fintype.card Id) + 1
  send := by
    rintro b item ⟨next, wf⟩ sent
    cases (moves_of_advance sent : Machine.Moves keep b.val _ next) with
    | send free => exact (Machine.weight_send free item).le
  move := by
    intro b action next moved
    simp only [bcaster] at moved
    split at moved
    · next internal =>
        apply Machine.weight_lt b.property (moves_of_advance moved)
        · rintro item rfl
          simp [Action.internal] at internal
        · rintro id rfl
          simp [Action.internal] at internal
    · simp at moved
  receive := by
    intro b id item next received
    rcases receive_eq_some received with ⟨live, sending, taken⟩
    rw [taken]
    exact Machine.weight_lt b.property (@Machine.Moves.receive _ _ _ keep _ id item sending)
      (by simp) (by simp)
  stop := by
    intro b id
    simp only [bcaster]
    cases advanced : advance keep b (.stop id) with
    | none => exact Nat.le_refl _
    | some next =>
        exact (Machine.weight_lt b.property (moves_of_advance advanced) (by simp) (by simp)).le
  rests := by
    intro b stuck read
    have settled : b.val.Settled := by
      refine @Machine.settled_of_stuck _ _ _ keep _ b.property ?_ ?_
      · intro action next internal moves
        rcases exists_advance moves with ⟨wf, advanced⟩
        have still := stuck action
        simp [bcaster, internal, advanced] at still
      · intro id item live sending
        rcases exists_advance (@Machine.Moves.receive _ _ _ keep _ id item sending) with
          ⟨wf, advanced⟩
        have unread := read id (decide_eq_true live)
        simp [bcaster, live, sending, advanced] at unread
    refine ⟨?_, fun id => settled.mailbox id⟩
    intro item
    rcases exists_advance (@Machine.Moves.send _ _ _ keep _ item settled.lock) with ⟨wf, advanced⟩
    exact ⟨_, advanced⟩

end KedaHttp.Foundation.Broadcast
