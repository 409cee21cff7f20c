import Mathlib.Data.List.Perm.Subperm
import MiniKernel.Schedule.ReadyQueue

/-! The ready queue as a list of distinct slots. Its flags say who waits, so a slot below the
capacity that does not wait always finds room. -/

namespace MiniKernel.ReadyQueue

structure Faithful (queue : ReadyQueue) : Prop where
  flagged : ∀ slot, queue.contains slot = true ↔ slot ∈ queue.waiting
  distinct : queue.waiting.Nodup

variable {queue : ReadyQueue} {slot : Nat}

theorem faithful_empty (capacity : Nat) : (empty capacity).Faithful := by
  constructor
  · intro slot
    simp only [contains, empty, Array.getElem?_replicate]
    split <;> simp
  · exact List.nodup_nil

@[simp]
theorem capacity_empty (capacity : Nat) : (empty capacity).capacity = capacity := by
  simp [ReadyQueue.capacity, empty]

theorem Faithful.lt_capacity (faithful : queue.Faithful) (waits : slot ∈ queue.waiting) :
    slot < queue.capacity := by
  have flag := (faithful.flagged slot).mpr waits
  by_contra outside
  simp [contains, Array.getElem?_eq_none (Nat.le_of_not_lt outside)] at flag

theorem length_le_of_below {slots : List Nat} {capacity : Nat} (distinct : slots.Nodup)
    (below : ∀ slot ∈ slots, slot < capacity) : slots.length ≤ capacity := by
  have subset : slots ⊆ List.range capacity := fun slot member => List.mem_range.mpr (below slot member)
  have length := (List.subperm_of_subset distinct subset).length_le
  rwa [List.length_range] at length

theorem Faithful.length_le (faithful : queue.Faithful) : queue.waiting.length ≤ queue.capacity :=
  length_le_of_below faithful.distinct fun _ => faithful.lt_capacity

theorem Faithful.length_lt (faithful : queue.Faithful) (bound : slot < queue.capacity)
    (absent : slot ∉ queue.waiting) : queue.waiting.length < queue.capacity := by
  have distinct : (slot :: queue.waiting).Nodup := List.nodup_cons.mpr ⟨absent, faithful.distinct⟩
  refine length_le_of_below distinct ?_
  rintro member (_ | ⟨_, waits⟩)
  · exact bound
  · exact faithful.lt_capacity waits

theorem Faithful.free_iff (faithful : queue.Faithful) :
    queue.queued[slot]? = some false ↔ slot < queue.capacity ∧ slot ∉ queue.waiting := by
  rw [← faithful.flagged, ReadyQueue.capacity, contains]
  by_cases inside : slot < queue.queued.size <;> simp [inside]

theorem Faithful.push (faithful : queue.Faithful) (bound : slot < queue.capacity)
    (absent : slot ∉ queue.waiting) :
    ∃ next, queue.push slot = (true, next) ∧ next.waiting = queue.waiting ++ [slot] ∧
      next.capacity = queue.capacity ∧ next.Faithful := by
  have inside : slot < queue.queued.size := bound
  have free := faithful.free_iff.mpr ⟨bound, absent⟩
  have room := faithful.length_lt bound absent
  refine ⟨⟨queue.waiting ++ [slot], queue.queued.setIfInBounds slot true⟩, ?_, rfl, ?_, ?_, ?_⟩
  · simp [ReadyQueue.push, free, room]
  · simp [ReadyQueue.capacity]
  · intro other
    have known := faithful.flagged other
    by_cases same : slot = other
    · subst other
      simp [contains, inside]
    · simpa [contains, Array.getElem?_setIfInBounds_ne, same, Ne.symm same] using known
  · rw [List.nodup_append]
    refine ⟨faithful.distinct, by simp, ?_⟩
    intro waiting waits other single same
    rw [List.mem_singleton.mp single] at same
    exact absent (same ▸ waits)

theorem Faithful.push_refused (faithful : queue.Faithful)
    (refused : queue.capacity ≤ slot ∨ slot ∈ queue.waiting) : queue.push slot = (false, queue) := by
  have flag : queue.queued[slot]? ≠ some false := by
    rw [ne_eq, faithful.free_iff, not_and_or, Nat.not_lt, not_not]
    exact refused
  rw [ReadyQueue.push, if_neg flag]

theorem Faithful.pop (faithful : queue.Faithful) {rest : List Nat}
    (waiting : queue.waiting = slot :: rest) :
    ∃ next, queue.pop = some (slot, next) ∧ next.waiting = rest ∧
      next.capacity = queue.capacity ∧ next.Faithful := by
  have distinct := faithful.distinct
  rw [waiting, List.nodup_cons] at distinct
  refine ⟨⟨rest, queue.queued.setIfInBounds slot false⟩, ?_, rfl, ?_, ?_, distinct.2⟩
  · simp [ReadyQueue.pop, waiting]
  · simp [ReadyQueue.capacity]
  · intro other
    have known := faithful.flagged other
    by_cases same : slot = other
    · subst other
      have bound := faithful.lt_capacity (waiting ▸ List.mem_cons_self)
      simp [contains, show slot < queue.queued.size from bound, distinct.1]
    · rw [waiting, List.mem_cons] at known
      simpa [contains, Array.getElem?_setIfInBounds_ne, same, Ne.symm same] using known

theorem Faithful.ext {left right : ReadyQueue} (leftFaithful : left.Faithful)
    (rightFaithful : right.Faithful) (waiting : left.waiting = right.waiting)
    (capacity : left.capacity = right.capacity) : left = right := by
  have queued : left.queued = right.queued := by
    apply Array.ext
    · exact capacity
    · intro slot leftBound rightBound
      have same : left.contains slot = right.contains slot := by
        rw [Bool.eq_iff_iff, leftFaithful.flagged, rightFaithful.flagged, waiting]
      simpa [contains, leftBound, rightBound] using same
  cases left
  cases right
  simp_all

end MiniKernel.ReadyQueue
