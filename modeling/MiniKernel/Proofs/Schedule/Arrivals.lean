import Mathlib.Data.List.Basic
import MiniKernel.Proofs.Schedule.Buffered

/-! Runs of the ready queue. Who waits is read off the history of a run: the slots that were taken in and
have not been given out since. They leave in the order in which they came, each waits once, and there is
room for every slot that may join. -/

namespace MiniKernel.ReadyQueue

inductive Action
  | push (slot : Nat)
  | pop
  deriving DecidableEq, Repr

def next (queue : ReadyQueue) : Action → ReadyQueue
  | .push slot => (queue.push slot).2
  | .pop => (queue.pop.map Prod.snd).getD queue

def accepted (queue : ReadyQueue) : Action → List Nat
  | .push slot => if (queue.push slot).1 then [slot] else []
  | .pop => []

def served (queue : ReadyQueue) : Action → List Nat
  | .push _ => []
  | .pop => (queue.pop.map Prod.fst).toList

def after (start : ReadyQueue) : List Action → ReadyQueue
  | [] => start
  | action :: earlier => (start.after earlier).next action

def arrivals (start : ReadyQueue) : List Action → List Nat
  | [] => []
  | action :: earlier => start.arrivals earlier ++ (start.after earlier).accepted action

def departures (start : ReadyQueue) : List Action → List Nat
  | [] => []
  | action :: earlier => start.departures earlier ++ (start.after earlier).served action

def line (start : ReadyQueue) (actions : List Action) : List Nat :=
  (start.arrivals actions).diff (start.departures actions)

/-! A single action. -/

variable {queue : ReadyQueue} {slot : Nat}

theorem Faithful.push_cases (faithful : queue.Faithful) (slot : Nat) :
    (∃ next, queue.push slot = (true, next) ∧ next.waiting = queue.waiting ++ [slot] ∧
        next.capacity = queue.capacity ∧ next.Faithful) ∨
      (queue.capacity ≤ slot ∨ slot ∈ queue.waiting) ∧ queue.push slot = (false, queue) := by
  by_cases free : slot < queue.capacity ∧ slot ∉ queue.waiting
  · exact Or.inl (faithful.push free.1 free.2)
  · have refused : queue.capacity ≤ slot ∨ slot ∈ queue.waiting := by
      rwa [not_and_or, Nat.not_lt, not_not] at free
    exact Or.inr ⟨refused, faithful.push_refused refused⟩

theorem Faithful.accepts_iff (faithful : queue.Faithful) (slot : Nat) :
    (queue.push slot).1 = true ↔ slot < queue.capacity ∧ slot ∉ queue.waiting := by
  constructor
  · intro accepted
    by_contra refused
    rw [not_and_or, Nat.not_lt, not_not] at refused
    rw [faithful.push_refused refused] at accepted
    cases accepted
  · rintro ⟨bound, absent⟩
    obtain ⟨next, pushed, -⟩ := faithful.push bound absent
    rw [pushed]

/-- What waits and what comes in is what goes out and what waits then. -/
theorem Faithful.next (faithful : queue.Faithful) (action : Action) :
    (queue.next action).Faithful ∧ (queue.next action).capacity = queue.capacity ∧
      queue.waiting ++ queue.accepted action = queue.served action ++ (queue.next action).waiting := by
  cases action with
  | push slot =>
      rw [ReadyQueue.next, accepted, served]
      rcases faithful.push_cases slot with ⟨next, pushed, waiting, capacity, kept⟩ | ⟨-, refused⟩
      · rw [pushed]
        exact ⟨kept, capacity, waiting.symm⟩
      · rw [refused]
        exact ⟨faithful, rfl, List.append_nil _⟩
  | pop =>
      rw [ReadyQueue.next, accepted, served, List.append_nil]
      cases waiting : queue.waiting with
      | nil =>
          have idle : queue.pop = none := by rw [ReadyQueue.pop, waiting]
          rw [idle]
          exact ⟨faithful, rfl, waiting.symm⟩
      | cons slot rest =>
          obtain ⟨next, popped, left, capacity, kept⟩ := faithful.pop waiting
          rw [popped]
          refine ⟨kept, capacity, ?_⟩
          simp [left]

/-! Runs. -/

theorem after_conserves {start : ReadyQueue} (faithful : start.Faithful) (vacant : start.waiting = [])
    (actions : List Action) :
    (start.after actions).Faithful ∧ (start.after actions).capacity = start.capacity ∧
      start.arrivals actions = start.departures actions ++ (start.after actions).waiting := by
  induction actions with
  | nil => exact ⟨faithful, rfl, vacant.symm⟩
  | cons action earlier ih =>
      obtain ⟨faithful, capacity, conserved⟩ := ih
      obtain ⟨kept, sized, step⟩ := faithful.next action
      refine ⟨kept, sized.trans capacity, ?_⟩
      -- What the latest action takes in joins behind all who wait, and what it gives out is at their head.
      rw [arrivals, departures, conserved, List.append_assoc, step, List.append_assoc, after]

theorem append_diff_left (gone left : List Nat) : (gone ++ left).diff gone = left := by
  induction gone with
  | nil => simp
  | cons slot gone ih => simp [ih]

theorem line_eq {start : ReadyQueue} (faithful : start.Faithful) (vacant : start.waiting = [])
    (actions : List Action) : start.line actions = (start.after actions).waiting := by
  obtain ⟨-, -, conserved⟩ := after_conserves faithful vacant actions
  rw [line, conserved, append_diff_left]

/-- After a run of actions the queue is the line of those that wait, each of them once, and joining it and
leaving it are the only changes of that line. There is room whenever a slot may join. -/
structure FirstCome (start : ReadyQueue) (capacity : Nat) (actions : List Action) : Prop where
  inOrder : start.arrivals actions = start.departures actions ++ start.line actions
  distinct : (start.line actions).Nodup
  bounded : (start.line actions).length ≤ capacity
  contains : ∀ slot, (start.after actions).contains slot = true ↔ slot ∈ start.line actions
  accepts : ∀ slot, ((start.after actions).push slot).1 = true ↔ slot < capacity ∧ slot ∉ start.line actions
  joins : ∀ slot, slot < capacity → slot ∉ start.line actions →
    start.line (.push slot :: actions) = start.line actions ++ [slot]
  refuses : ∀ slot, capacity ≤ slot ∨ slot ∈ start.line actions →
    (start.after actions).push slot = (false, start.after actions)
  serves : (start.after actions).pop.map Prod.fst = (start.line actions).head?
  leaves : start.line (.pop :: actions) = (start.line actions).tail
  length : (start.after actions).length = (start.line actions).length
  isEmpty : (start.after actions).isEmpty = true ↔ start.line actions = []
  room : ∀ slot : Nat, (start.after actions).queued[slot]? = some false →
    (start.after actions).waiting.length < (start.after actions).capacity

theorem Faithful.firstCome {start : ReadyQueue} (new : start.Faithful) (vacant : start.waiting = [])
    (actions : List Action) : start.FirstCome start.capacity actions := by
  obtain ⟨faithful, sized, conserved⟩ := after_conserves new vacant actions
  have now := line_eq new vacant
  constructor
  case inOrder => rw [now, conserved]
  case distinct => rw [now]; exact faithful.distinct
  case bounded => rw [now, ← sized]; exact faithful.length_le
  case contains => rw [now]; exact faithful.flagged
  case accepts => rw [now, ← sized]; exact faithful.accepts_iff
  case joins =>
    intro slot bound absent
    rw [now] at absent
    rw [← sized] at bound
    obtain ⟨next, pushed, waiting, -⟩ := faithful.push bound absent
    rw [now, now, after, ReadyQueue.next, pushed, waiting]
  case refuses => rw [now, ← sized]; exact fun slot => faithful.push_refused
  case serves =>
    rw [now, ReadyQueue.pop]
    cases (start.after actions).waiting <;> rfl
  case leaves =>
    rw [now, now, after, ReadyQueue.next, ReadyQueue.pop]
    cases waiting : (start.after actions).waiting with
    | nil => exact waiting
    | cons slot rest => rfl
  case length => rw [now, ReadyQueue.length]
  case isEmpty => rw [now, ReadyQueue.isEmpty, List.isEmpty_iff]
  case room =>
    intro slot free
    obtain ⟨bound, absent⟩ := faithful.free_iff.mp free
    exact faithful.length_lt bound absent

/-! Runs of a queue whose slots stand in a buffer. -/

variable {Store : Type} {buffer : Buffer Store} {contents : Store → List Nat} {room : Store → Nat}

def Buffered.next (buffer : Buffer Store) (held : Buffered Store) : Action → Except Trap (Buffered Store)
  | .push slot => (held.push buffer slot).map Prod.snd
  | .pop => (held.pop buffer).map fun found => (found.map Prod.snd).getD held

def Buffered.after (buffer : Buffer Store) (start : Buffered Store) :
    List Action → Except Trap (Buffered Store)
  | [] => .ok start
  | action :: earlier => (start.after buffer earlier).bind fun held => held.next buffer action

theorem Buffered.Stores.next {held : Buffered Store} (bounded : buffer.Bounded contents room)
    (stores : held.Stores contents room queue) (faithful : queue.Faithful) (action : Action) :
    ∃ next, held.next buffer action = .ok next ∧ next.Stores contents room (queue.next action) := by
  cases action with
  | push slot =>
      obtain ⟨next, pushed, kept, -⟩ := stores.push bounded slot
      refine ⟨next, ?_, kept⟩
      rw [Buffered.next, pushed, Except.map]
  | pop =>
      obtain ⟨next, popped, kept⟩ := stores.pop bounded faithful
      rw [Buffered.next, popped, Except.map, ReadyQueue.next]
      cases served : queue.pop with
      | none => exact ⟨held, rfl, stores⟩
      | some found =>
          rw [served] at kept
          exact ⟨next, rfl, kept⟩

theorem Buffered.Stores.after {held : Buffered Store} (bounded : buffer.Bounded contents room)
    (stores : held.Stores contents room queue) (faithful : queue.Faithful) (vacant : queue.waiting = [])
    (actions : List Action) :
    ∃ last, held.after buffer actions = .ok last ∧ last.Stores contents room (queue.after actions) := by
  induction actions with
  | nil => exact ⟨held, rfl, stores⟩
  | cons action earlier ih =>
      obtain ⟨last, ran, kept⟩ := ih
      obtain ⟨faithful, -⟩ := after_conserves faithful vacant earlier
      rw [Buffered.after, ran]
      exact kept.next bounded faithful action

/-- A queue is made for every number of slots that can be asked for. In each of its runs it is first come,
first served, with no slot twice and always room, and so it is with any bounded buffer in the place of the
list. -/
theorem after_firstCome (bounded : buffer.Bounded contents room) {capacity : Nat} (positive : 0 < capacity)
    {store : Store} (vacant : contents store = []) (sized : room store = capacity) :
    (capacity * entryBytes < 0x8000000000000000 → create capacity = .ok (empty capacity)) ∧
      ∀ actions, (empty capacity).FirstCome capacity actions ∧
        ∃ held, (Buffered.mk store (Array.replicate capacity false)).after buffer actions = .ok held ∧
          held.Agrees buffer ((empty capacity).after actions) := by
  have new := faithful_empty capacity
  refine ⟨fun fits => ?created, fun actions => ⟨?firstCome, ?agrees⟩⟩
  case created => rw [create, if_neg (Nat.ne_of_gt positive), Word.buffer, if_pos fits, Except.map]
  case firstCome =>
    have firstCome := new.firstCome rfl actions
    rwa [capacity_empty] at firstCome
  case agrees =>
    have stores : (Buffered.mk store (Array.replicate capacity false)).Stores contents room (empty capacity) :=
      ⟨vacant, sized.trans (capacity_empty capacity).symm, rfl⟩
    obtain ⟨held, ran, kept⟩ := stores.after bounded new rfl actions
    obtain ⟨faithful, -⟩ := after_conserves new rfl actions
    exact ⟨held, ran, kept.agrees bounded faithful⟩

theorem after_firstCome_twoSlots :
    let actions : List Action := [.push 1, .pop, .push 2, .push 1, .push 0, .push 1]
    create 2 = .ok (empty 2) ∧ (empty 2).FirstCome 2 actions ∧ (empty 2).line actions = [0, 1] ∧
      ∃ held, (Buffered.mk [] (Array.replicate 2 false)).after (listBuffer 2) actions = .ok held ∧
        held.Agrees (listBuffer 2) ((empty 2).after actions) := by
  intro actions
  have vacant : id ([] : List Nat) = [] := rfl
  obtain ⟨created, runs⟩ := after_firstCome (listBuffer_bounded 2) (show 0 < 2 by decide) vacant rfl
  obtain ⟨firstCome, agrees⟩ := runs actions
  exact ⟨created (by decide), firstCome, by decide, agrees⟩

end MiniKernel.ReadyQueue
