import Mathlib.Algebra.BigOperators.Intervals
import Mathlib.Data.List.Perm.Basic
import MiniKernel.Process.Table

/-! The process table as a partial map from slots to processes: what each operation does to every
slot, and what the searches over the slots find. -/

namespace MiniKernel.ProcessTable

variable {table : ProcessTable} {slot other : Nat} {process : ControlBlock} {pid : Pid}

theorem get?_lt (found : table.get? slot = some process) : slot < table.capacity := by
  by_contra outside
  simp [get?, List.getElem?_eq_none (Nat.le_of_not_lt outside)] at found

@[simp]
theorem capacity_put (table : ProcessTable) (slot : Nat) (process : ControlBlock) :
    (table.put slot process).capacity = table.capacity := List.length_set

@[simp]
theorem capacity_clear (table : ProcessTable) (slot : Nat) :
    (table.clear slot).capacity = table.capacity := List.length_set

@[simp]
theorem capacity_modify (table : ProcessTable) (slot : Nat) (change : ControlBlock → ControlBlock) :
    (table.modify slot change).capacity = table.capacity := List.length_modify ..

@[simp]
theorem capacity_modifyAll (table : ProcessTable) (change : ControlBlock → ControlBlock) :
    (table.modifyAll change).capacity = table.capacity := List.length_map _

theorem get?_put (bound : slot < table.capacity) (other : Nat) :
    (table.put slot process).get? other = if other = slot then some process else table.get? other := by
  by_cases same : other = slot
  · subst other
    simp [get?, put, List.getElem?_set_self bound]
  · simp [get?, put, List.getElem?_set_ne (Ne.symm same), same]

theorem get?_clear (table : ProcessTable) (slot other : Nat) :
    (table.clear slot).get? other = if other = slot then none else table.get? other := by
  by_cases same : other = slot
  · subst other
    by_cases bound : slot < table.slots.length
    · simp [get?, clear, List.getElem?_set_self bound]
    · simp [get?, clear, Nat.le_of_not_lt bound]
  · simp [get?, clear, List.getElem?_set_ne (Ne.symm same), same]

theorem get?_clear_some : (table.clear slot).get? other = some process ↔
    other ≠ slot ∧ table.get? other = some process := by
  rw [get?_clear]
  by_cases same : other = slot <;> simp [same]

theorem get?_modify (table : ProcessTable) (slot : Nat) (change : ControlBlock → ControlBlock)
    (other : Nat) :
    (table.modify slot change).get? other =
      (table.get? other).map fun process => if other = slot then change process else process := by
  simp only [get?, modify, List.getElem?_modify]
  by_cases same : slot = other
  · subst other
    rcases table.slots[slot]? with _ | _ | process <;> simp
  · rcases table.slots[other]? with _ | _ | process <;> simp [same, Ne.symm same]

theorem get?_modifyAll (table : ProcessTable) (change : ControlBlock → ControlBlock) (slot : Nat) :
    (table.modifyAll change).get? slot = (table.get? slot).map change := by
  simp only [get?, modifyAll, List.getElem?_map]
  rcases table.slots[slot]? with _ | _ | process <;> rfl

theorem get?_empty (config : Config) (slot : Nat) : (empty config).get? slot = none := by
  simp only [get?, empty, List.getElem?_replicate]
  split <;> rfl

theorem put_self (held : table.get? slot = some process) : table.put slot process = table := by
  have bound : slot < table.slots.length := get?_lt held
  have entry : table.slots[slot] = some process := by simpa [get?, bound] using held
  rw [put, ← entry, List.set_getElem_self]

theorem ext_get? {left right : ProcessTable} (frame : left = { right with slots := left.slots })
    (capacity : left.capacity = right.capacity)
    (entries : ∀ slot, left.get? slot = right.get? slot) : left = right := by
  have slots : left.slots = right.slots := by
    refine List.ext_getElem capacity fun slot bound rightBound => ?_
    simpa [get?, bound, rightBound] using entries slot
  rw [frame, slots]

theorem clear_modifyAll (table : ProcessTable) (change : ControlBlock → ControlBlock) (slot : Nat) :
    (table.clear slot).modifyAll change = (table.modifyAll change).clear slot := by
  simp [clear, modifyAll, List.map_set]

theorem clear_comm (table : ProcessTable) (slot other : Nat) :
    (table.clear slot).clear other = (table.clear other).clear slot := by
  refine ext_get? rfl (by simp) fun third => ?_
  simp only [get?_clear]
  by_cases first : third = slot <;> by_cases second : third = other <;> simp [first, second]

/-! Searches. -/

theorem freeSlot?_some (found : table.freeSlot? = some slot) :
    slot < table.capacity ∧ table.get? slot = none ∧
      ∀ earlier < slot, ∃ process, table.get? earlier = some process := by
  obtain ⟨bound, vacant, earlier⟩ := List.findIdx?_eq_some_iff_getElem.mp found
  refine ⟨bound, ?_, ?_⟩
  · simpa [get?, bound] using vacant
  · intro before below
    have beforeBound : before < table.slots.length := by omega
    have occupied := earlier before below
    simp only [Bool.not_eq_true, Option.isNone_eq_false_iff] at occupied
    obtain ⟨process, held⟩ := Option.isSome_iff_exists.mp occupied
    exact ⟨process, by simp [get?, beforeBound, held]⟩

theorem freeSlot?_eq_none_iff : table.freeSlot? = none ↔
    ∀ slot < table.capacity, ∃ process, table.get? slot = some process := by
  constructor
  · intro missing slot bound
    have entryBound : slot < table.slots.length := bound
    have occupied := List.findIdx?_eq_none_iff.mp missing _ (List.getElem_mem entryBound)
    simp only [Option.isNone_eq_false_iff] at occupied
    obtain ⟨process, held⟩ := Option.isSome_iff_exists.mp occupied
    exact ⟨process, by simpa [get?, entryBound] using held⟩
  · intro occupied
    cases found : table.freeSlot? with
    | none => rfl
    | some slot =>
        obtain ⟨bound, vacant, -⟩ := freeSlot?_some found
        obtain ⟨process, held⟩ := occupied slot bound
        rw [vacant] at held
        cases held

theorem lookup_some (found : table.lookup pid = some slot) :
    (∃ process, table.get? slot = some process ∧ process.pid = pid) ∧
      ∀ earlier < slot, ∀ process, table.get? earlier = some process → process.pid ≠ pid := by
  obtain ⟨bound, matched, earlier⟩ := List.findIdx?_eq_some_iff_getElem.mp found
  constructor
  · obtain ⟨process, held, same⟩ := (Option.any_eq_true ..).mp matched
    exact ⟨process, by simp [get?, bound, held], by simpa using same⟩
  · intro before below process held same
    have beforeBound : before < table.slots.length := by omega
    have entry : table.slots[before] = some process := by
      simpa [get?, beforeBound] using held
    have different := earlier before below
    simp [entry, same] at different

theorem lookup_none_iff : table.lookup pid = none ↔
    ∀ slot process, table.get? slot = some process → process.pid ≠ pid := by
  constructor
  · intro missing slot process held same
    have bound : slot < table.slots.length := get?_lt held
    have entry : table.slots[slot] = some process := by simpa [get?, bound] using held
    have different := List.findIdx?_eq_none_iff.mp missing _ (List.getElem_mem bound)
    simp [entry, same] at different
  · intro absent
    cases found : table.lookup pid with
    | none => rfl
    | some slot =>
        obtain ⟨⟨process, held, same⟩, -⟩ := lookup_some found
        exact absurd same (absent slot process held)

theorem lookup_modifyAll {change : ControlBlock → ControlBlock}
    (pids : ∀ process, (change process).pid = process.pid) (pid : Pid) :
    (table.modifyAll change).lookup pid = table.lookup pid := by
  rw [lookup, modifyAll, List.findIdx?_map, lookup]
  congr 1
  funext entry
  cases entry <;> simp [pids]

theorem freeSlot?_modifyAll (change : ControlBlock → ControlBlock) :
    (table.modifyAll change).freeSlot? = table.freeSlot? := by
  rw [freeSlot?, modifyAll, List.findIdx?_map, freeSlot?]
  congr 1
  funext entry
  cases entry <;> rfl

/-! The listing. -/

theorem processes_eq_range (table : ProcessTable) :
    table.processes = (List.range table.capacity).filterMap fun slot =>
      (table.get? slot).map fun process => (slot, process) := by
  have indexed : table.slots.zipIdx =
      (List.range table.capacity).map fun slot => (table.get? slot, slot) := by
    apply List.ext_getElem
    · simp [capacity]
    · intro slot leftBound rightBound
      have bound : slot < table.slots.length := by simpa using leftBound
      simp [get?, bound]
  rw [processes, indexed, List.filterMap_map]
  rfl

theorem mem_processes : (slot, process) ∈ table.processes ↔ table.get? slot = some process := by
  rw [processes_eq_range, List.mem_filterMap]
  constructor
  · rintro ⟨found, -, listed⟩
    obtain ⟨held, get, same⟩ := Option.map_eq_some_iff.mp listed
    cases same
    exact get
  · intro held
    exact ⟨slot, List.mem_range.mpr (get?_lt held), by rw [held, Option.map_some]⟩

theorem processes_modifyAll (change : ControlBlock → ControlBlock) :
    (table.modifyAll change).processes =
      table.processes.map fun (slot, process) => (slot, change process) := by
  rw [processes_eq_range, processes_eq_range, List.map_filterMap, capacity_modifyAll]
  simp only [get?_modifyAll, Option.map_map]
  rfl

theorem processes_pairwise (table : ProcessTable) :
    table.processes.Pairwise fun left right => left.1 < right.1 := by
  rw [processes_eq_range, List.pairwise_filterMap]
  apply List.pairwise_lt_range.imp
  intro left right before leftPair leftEq rightPair rightEq
  obtain ⟨leftProcess, -, rfl⟩ := Option.map_eq_some_iff.mp leftEq
  obtain ⟨rightProcess, -, rfl⟩ := Option.map_eq_some_iff.mp rightEq
  exact before

theorem nodup_processes (table : ProcessTable) : (table.processes.map Prod.fst).Nodup := by
  rw [List.nodup_iff_pairwise_ne, List.pairwise_map]
  exact (processes_pairwise table).imp Nat.ne_of_lt

/-- A list of slots counts the processes of a kind if it names each of their slots once. -/
theorem countP_processes (kind : ControlBlock → Bool) {slots : List Nat} (distinct : slots.Nodup)
    (named : ∀ slot, slot ∈ slots ↔ ∃ process, table.get? slot = some process ∧ kind process) :
    (table.processes.countP fun (_, process) => kind process) = slots.length := by
  rw [List.countP_eq_length_filter, ← List.length_map Prod.fst]
  apply List.Perm.length_eq
  rw [List.perm_ext_iff_of_nodup _ distinct]
  · intro slot
    rw [named]
    simp [mem_processes]
  · have listed := nodup_processes table
    exact listed.sublist (List.filter_sublist.map Prod.fst)

theorem sum_processes (table : ProcessTable) (measure : ControlBlock → Nat) :
    (table.processes.map fun (_, process) => measure process).sum =
      ∑ slot ∈ Finset.range table.capacity, ((table.get? slot).map measure).getD 0 := by
  rw [processes_eq_range]
  induction table.capacity with
  | zero => rfl
  | succ count ih =>
      rw [List.range_succ, List.filterMap_append, List.map_append, List.sum_append, ih,
        Finset.sum_range_succ]
      cases held : table.get? count <;> simp [held]

end MiniKernel.ProcessTable
