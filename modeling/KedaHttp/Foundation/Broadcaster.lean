import Mathlib.Data.Nat.Notation

/-!
# What users of a broadcaster rely on

A broadcaster passes the items that are sent to it on to its watchers, each of which has a filter in
front of its reader. It is given by what its users can do, and by the moves that its goroutines make
on their own. How it is built is left open: its locks, the channels and their lengths, the order in
which it serves its watchers.

What users rely on is said in two structures, and results about users take these as hypotheses.
`Delivers` is about what arrives: a watcher is registered before the call of `Watch` returns, and
from then on every item goes through the filter to the reader, in the order in which items were
sent, and none is lost. `Progresses` is about that it arrives: the goroutines cannot go on for ever,
and when they are at rest although readers read, nothing is left to pass on.
-/

namespace KedaHttp.Foundation

/-- A broadcaster with the watchers `Id`, by the calls that its users make. -/
structure Broadcaster (Id Item : Type) where
  State : Type
  /-- What the goroutines of the broadcaster and of its watchers do on their own. -/
  Motion : Type
  new : State
  /-- `Action` is called with an item. It may have to wait. -/
  send : State → Item → Option State
  /-- `Watch` is called, and will be a while until it returns. -/
  watch : State → Id → Option State
  /-- `Watch` has returned, and the watcher has not been stopped. -/
  watched : State → Id → Bool
  move : State → Motion → Option State
  /-- The reader takes an item that has passed the filter. -/
  receive : State → Id → Option (Item × State)
  stop : State → Id → State

/--
What has become of a watcher. One that is registered has items in front of its filter and behind it,
and the call of `Watch` may have returned.
-/
inductive Slot (Item : Type) where
  | unasked
  | asked
  | registered (returned : Bool) (incoming result : List Item)
  | stopped
  deriving DecidableEq

/-- What a broadcaster has for a watcher: the items that have not got to it yet, oldest first. -/
structure Mailbox (Item : Type) where
  queued : List Item
  slot : Slot Item
  deriving DecidableEq

namespace Mailbox

variable {Item : Type}

/-- What the broadcaster's own moves do to the mailbox of a watcher. -/
inductive Moves (keep : Item → Bool) : Mailbox Item → Mailbox Item → Prop where
  | same (mailbox : Mailbox Item) : Moves keep mailbox mailbox
  | register (queued : List Item) : Moves keep ⟨queued, .asked⟩ ⟨queued, .registered false [] []⟩
  | returns (queued incoming result : List Item) :
      Moves keep ⟨queued, .registered false incoming result⟩
        ⟨queued, .registered true incoming result⟩
  | pass (item : Item) (returned : Bool) (queued incoming result : List Item) :
      Moves keep ⟨item :: queued, .registered returned incoming result⟩
        ⟨queued, .registered returned (incoming ++ [item]) result⟩
  /-- The watcher is not registered, and the item passes it by. -/
  | miss (item : Item) (queued : List Item) {slot : Slot Item}
      (unregistered : ∀ returned incoming result, slot ≠ .registered returned incoming result) :
      Moves keep ⟨item :: queued, slot⟩ ⟨queued, slot⟩
  | filter (item : Item) (returned : Bool) (queued incoming result : List Item) :
      Moves keep ⟨queued, .registered returned (item :: incoming) result⟩
        ⟨queued, .registered returned incoming (if keep item then result ++ [item] else result)⟩

/-- Nothing is on its way to the watcher, and what it has asked for has been done. -/
structure Settled (mailbox : Mailbox Item) : Prop where
  queued : mailbox.queued = []
  slot : mailbox.slot = .unasked ∨ mailbox.slot = .registered true [] [] ∨ mailbox.slot = .stopped

end Mailbox

section Laws

variable {Id Item : Type}

/-- Items arrive in order, and none is lost. -/
structure Delivers (b : Broadcaster Id Item) (keep : Id → Item → Bool) where
  mailbox : b.State → Id → Mailbox Item
  new : ∀ id, mailbox b.new id = ⟨[], .unasked⟩
  watched : ∀ {state id}, b.watched state id = true ↔
    ∃ incoming result, (mailbox state id).slot = .registered true incoming result
  send : ∀ {state item next}, b.send state item = some next →
    ∀ id, mailbox next id = ⟨(mailbox state id).queued ++ [item], (mailbox state id).slot⟩
  watch : ∀ {state id next}, b.watch state id = some next →
    (mailbox state id).slot = .unasked ∧ mailbox next id = ⟨(mailbox state id).queued, .asked⟩ ∧
      ∀ other ≠ id, mailbox next other = mailbox state other
  move : ∀ {state motion next}, b.move state motion = some next →
    ∀ id, (mailbox state id).Moves (keep id) (mailbox next id)
  receive : ∀ {state id item next}, b.receive state id = some (item, next) →
    (∃ queued returned incoming result,
      mailbox state id = ⟨queued, .registered returned incoming (item :: result)⟩ ∧
      mailbox next id = ⟨queued, .registered returned incoming result⟩) ∧
    ∀ other ≠ id, mailbox next other = mailbox state other
  stop : ∀ {state id}, b.watched state id = true →
    mailbox (b.stop state id) id = ⟨(mailbox state id).queued, .stopped⟩ ∧
      ∀ other ≠ id, mailbox (b.stop state id) other = mailbox state other

/-- The broadcaster comes to rest, and then has passed on all items. -/
structure Progresses {b : Broadcaster Id Item} {keep : Id → Item → Bool}
    (delivers : Delivers b keep) where
  /-- A bound on the moves that can still be made. -/
  weight : b.State → ℕ
  /-- What one item adds to the weight. -/
  cost : ℕ
  send : ∀ {state item next}, b.send state item = some next → weight next ≤ weight state + cost
  move : ∀ {state motion next}, b.move state motion = some next → weight next < weight state
  receive : ∀ {state id item next}, b.receive state id = some (item, next) →
    weight next < weight state
  stop : ∀ state id, weight (b.stop state id) ≤ weight state
  /-- If nothing moves although readers read, everything has arrived. -/
  rests : ∀ {state}, (∀ motion, b.move state motion = none) →
    (∀ id, b.watched state id = true → b.receive state id = none) →
      (∀ item, ∃ next, b.send state item = some next) ∧
        ∀ id, (delivers.mailbox state id).Settled

end Laws

end KedaHttp.Foundation
