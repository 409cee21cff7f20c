import MiniKernel.Proofs.Schedule.ReadyQueue

/-! The ready queue as a machine keeps it: the slots stand in a buffer of which only the contract is known,
and a flag that is written may lie outside the row of flags. It gives the answers of the queue that is a
list, without a trap. -/

namespace MiniKernel.ReadyQueue

structure Buffer (Store : Type) where
  push : Store → Nat → Option Store
  pop : Store → Option (Nat × Store)
  length : Store → Nat
  isEmpty : Store → Bool

variable {Store : Type} {buffer : Buffer Store} {contents : Store → List Nat} {room : Store → Nat}

/-- First in, first out, and full exactly when as many slots as it has room for are in it. -/
structure Buffer.Bounded (buffer : Buffer Store) (contents : Store → List Nat) (room : Store → Nat) :
    Prop where
  push : ∀ store slot, (contents store).length < room store →
    ∃ next, buffer.push store slot = some next ∧ contents next = contents store ++ [slot] ∧
      room next = room store
  full : ∀ store slot, room store ≤ (contents store).length → buffer.push store slot = none
  pop : ∀ store slot rest, contents store = slot :: rest →
    ∃ next, buffer.pop store = some (slot, next) ∧ contents next = rest ∧ room next = room store
  vacant : ∀ store, contents store = [] → buffer.pop store = none
  length : ∀ store, buffer.length store = (contents store).length
  isEmpty : ∀ store, buffer.isEmpty store = (contents store).isEmpty

def listBuffer (bound : Nat) : Buffer (List Nat) where
  push waiting slot := if waiting.length < bound then some (waiting ++ [slot]) else none
  pop
    | [] => none
    | slot :: rest => some (slot, rest)
  length := List.length
  isEmpty := List.isEmpty

theorem listBuffer_bounded (bound : Nat) : (listBuffer bound).Bounded id fun _ => bound where
  push waiting slot fits := ⟨waiting ++ [slot], if_pos fits, rfl, rfl⟩
  full waiting slot full := if_neg (Nat.not_lt_of_le full)
  pop waiting slot rest entries := by
    obtain rfl : waiting = slot :: rest := entries
    exact ⟨rest, rfl, rfl, rfl⟩
  vacant waiting entries := by
    obtain rfl : waiting = [] := entries
    rfl
  length _ := rfl
  isEmpty _ := rfl

structure Buffered (Store : Type) where
  store : Store
  queued : Array Bool

namespace Buffered

def mark (queued : Array Bool) (slot : Nat) (waits : Bool) : Except Trap (Array Bool) :=
  if bound : slot < queued.size then .ok (queued.set slot waits)
  else .error (.indexOutOfBounds queued.size slot)

def contains (queue : Buffered Store) (slot : Nat) : Bool := queue.queued[slot]?.getD false

def push (buffer : Buffer Store) (queue : Buffered Store) (slot : Nat) :
    Except Trap (Bool × Buffered Store) :=
  if queue.queued[slot]? = some false then
    match buffer.push queue.store slot with
    | none => .ok (false, queue)
    | some store => (mark queue.queued slot true).map fun queued => (true, ⟨store, queued⟩)
  else .ok (false, queue)

def pop (buffer : Buffer Store) (queue : Buffered Store) : Except Trap (Option (Nat × Buffered Store)) :=
  match buffer.pop queue.store with
  | none => .ok none
  | some (slot, store) =>
      (mark queue.queued slot false).map fun queued => some (slot, ⟨store, queued⟩)

theorem mark_ok {queued : Array Bool} {slot : Nat} (bound : slot < queued.size) (waits : Bool) :
    mark queued slot waits = .ok (queued.setIfInBounds slot waits) := by
  simp [mark, Array.setIfInBounds, bound]

structure Stores (contents : Store → List Nat) (room : Store → Nat) (held : Buffered Store)
    (queue : ReadyQueue) : Prop where
  waiting : contents held.store = queue.waiting
  room : room held.store = queue.capacity
  queued : held.queued = queue.queued

variable {held : Buffered Store} {queue : ReadyQueue}

theorem Stores.push (bounded : buffer.Bounded contents room) (stores : held.Stores contents room queue)
    (slot : Nat) : ∃ next, held.push buffer slot = .ok ((queue.push slot).1, next) ∧
      next.Stores contents room (queue.push slot).2 ∧ ((queue.push slot).1 = false → next = held) := by
  unfold Buffered.push ReadyQueue.push
  rw [stores.queued]
  by_cases free : queue.queued[slot]? = some false
  · rw [if_pos free, if_pos free]
    by_cases fits : queue.waiting.length < queue.capacity
    · obtain ⟨store, pushed, waiting, sized⟩ :=
        bounded.push held.store slot (by rwa [stores.waiting, stores.room])
      obtain ⟨inside, -⟩ := Array.getElem?_eq_some_iff.mp free
      rw [pushed, if_pos fits, mark_ok inside]
      refine ⟨_, rfl, ⟨by rw [waiting, stores.waiting], ?_, rfl⟩, nofun⟩
      rw [sized, stores.room]
      simp [ReadyQueue.capacity]
    · have refused := bounded.full held.store slot
        (by rw [stores.waiting, stores.room]; exact Nat.le_of_not_lt fits)
      rw [refused, if_neg fits]
      exact ⟨held, rfl, stores, fun _ => rfl⟩
  · rw [if_neg free, if_neg free]
    exact ⟨held, rfl, stores, fun _ => rfl⟩

theorem Stores.pop (bounded : buffer.Bounded contents room) (stores : held.Stores contents room queue)
    (faithful : queue.Faithful) :
    ∃ next, held.pop buffer = .ok (queue.pop.map fun found => (found.1, next)) ∧
      next.Stores contents room ((queue.pop.map Prod.snd).getD queue) := by
  unfold Buffered.pop ReadyQueue.pop
  cases waiting : queue.waiting with
  | nil =>
      rw [bounded.vacant held.store (stores.waiting.trans waiting)]
      exact ⟨held, rfl, stores⟩
  | cons slot rest =>
      obtain ⟨store, popped, left, sized⟩ :=
        bounded.pop held.store slot rest (stores.waiting.trans waiting)
      have inside : slot < queue.queued.size := faithful.lt_capacity (waiting ▸ List.mem_cons_self)
      rw [popped, stores.queued]
      dsimp only
      rw [mark_ok inside]
      refine ⟨_, rfl, left, ?_, rfl⟩
      rw [sized, stores.room]
      simp [ReadyQueue.capacity]

structure Agrees (buffer : Buffer Store) (held : Buffered Store) (queue : ReadyQueue) : Prop where
  push : ∀ slot, ∃ next, held.push buffer slot = .ok ((queue.push slot).1, next) ∧
    ((queue.push slot).1 = false → next = held)
  pop : ∃ next, held.pop buffer = .ok (queue.pop.map fun found => (found.1, next))
  contains : ∀ slot, held.contains slot = queue.contains slot
  length : buffer.length held.store = queue.length
  isEmpty : buffer.isEmpty held.store = queue.isEmpty
  takes : ∀ slot, held.queued[slot]? = some false → buffer.push held.store slot ≠ none

theorem Stores.agrees (bounded : buffer.Bounded contents room) (stores : held.Stores contents room queue)
    (faithful : queue.Faithful) : held.Agrees buffer queue where
  push slot := by
    obtain ⟨next, pushed, -, refused⟩ := stores.push bounded slot
    exact ⟨next, pushed, refused⟩
  pop := by
    obtain ⟨next, popped, -⟩ := stores.pop bounded faithful
    exact ⟨next, popped⟩
  contains slot := by rw [Buffered.contains, stores.queued, ReadyQueue.contains]
  length := by rw [bounded.length, stores.waiting, ReadyQueue.length]
  isEmpty := by rw [bounded.isEmpty, stores.waiting, ReadyQueue.isEmpty]
  takes slot free := by
    rw [stores.queued] at free
    obtain ⟨bound, absent⟩ := faithful.free_iff.mp free
    obtain ⟨next, pushed, -⟩ := bounded.push held.store slot
      (by rw [stores.waiting, stores.room]; exact faithful.length_lt bound absent)
    rw [pushed]
    exact Option.some_ne_none next

end Buffered

end MiniKernel.ReadyQueue
