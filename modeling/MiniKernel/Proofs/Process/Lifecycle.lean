import MiniKernel.Process.Lifecycle
import MiniKernel.Proofs.Outcome
import MiniKernel.Proofs.Process.Table

/-! What a creation and a reap do to the table, for any page allocator whatever. -/

namespace MiniKernel

namespace ProcessTable

def newborn (table : ProcessTable) (name : String) (kind : ProcessKind) (footing : Footing)
    (parent : Option ParentLink) : ControlBlock :=
  { ControlBlock.new table.nextPid name kind footing.context with
    kernelStack := footing.kernelStack
    userStack := footing.userStack
    parent }

def Uncreated (table : ProcessTable) (memory : PageAllocator) (entry : VirtAddr) (kind : ProcessKind)
    (failure : Failure) (left : PageAllocator) : Prop :=
  failure = .refused .tableFull ∧ table.freeSlot? = none ∧ left = memory ∨
    (∃ slot, table.freeSlot? = some slot) ∧
      left = (table.allocFooting memory entry kind).state ∧
      ((table.allocFooting memory entry kind).result = .error failure ∨
        (∃ footing, (table.allocFooting memory entry kind).result = .ok footing) ∧
          failure = .trapped .addOverflow ∧ Word.max < table.nextPid + 1)

/-- A creation enters one process into the lowest empty slot and counts one pid up, or it leaves the
table alone. -/
theorem create_ensures (table : ProcessTable) (memory : PageAllocator) (entry : VirtAddr)
    (kind : ProcessKind) (name : String) (parent : Option ParentLink) :
    (table.create memory entry kind name parent).Ensures
      (fun entered next => entered.2 = table.nextPid ∧ table.freeSlot? = some entered.1 ∧
        table.nextPid + 1 ≤ Word.max ∧ next.2 = (table.allocFooting memory entry kind).state ∧
        ∃ footing, (table.allocFooting memory entry kind).result = .ok footing ∧
          next.1 = { table.put entered.1 (table.newborn name kind footing parent) with
            nextPid := table.nextPid + 1 })
      fun failure next => next.1 = table ∧ table.Uncreated memory entry kind failure next.2 := by
  unfold create Uncreated
  cases vacant : table.freeSlot? with
  | none => exact ⟨rfl, Or.inl ⟨rfl, rfl, rfl⟩⟩
  | some slot =>
      obtain ⟨left, result, log⟩ := table.allocFooting memory entry kind
      cases result with
      | error failure => exact ⟨rfl, Or.inr ⟨⟨slot, rfl⟩, rfl, Or.inl rfl⟩⟩
      | ok footing =>
          by_cases room : table.nextPid + 1 ≤ Word.max
          · have counted : Word.add table.nextPid 1 = .ok (table.nextPid + 1) := Word.add_ok room
            simp only [Outcome.within, Outcome.andThen, Outcome.ofMachine, counted]
            exact ⟨rfl, rfl, room, rfl, footing, rfl, rfl⟩
          · have counted : Word.add table.nextPid 1 = .error .addOverflow := if_neg room
            simp only [Outcome.within, Outcome.andThen, Outcome.ofMachine, counted]
            exact ⟨rfl, Or.inr ⟨⟨slot, rfl⟩, rfl, Or.inr ⟨⟨footing, rfl⟩, rfl, Nat.lt_of_not_le room⟩⟩⟩

structure Exited (table : ProcessTable) (pid : Pid) (slot : Nat) (process : ControlBlock) : Prop where
  found : table.lookup pid = some slot
  holds : table.get? slot = some process
  named : process.pid = pid
  zombie : process.state = .zombie

def Unreaped (table : ProcessTable) (pid : Pid) (failure : Failure) : Prop :=
  failure = .refused .notFound ∧ table.lookup pid = none ∨
    ∃ slot process, table.lookup pid = some slot ∧ table.get? slot = some process ∧
      process.state ≠ .zombie ∧ failure = .fatal (.reapOfLive pid process.state)

/-- A reap empties the slot of a process that has exited, also when its stacks cannot be freed; any
other reap leaves everything alone and closes nothing. -/
theorem reap_ensures (table : ProcessTable) (memory : PageAllocator) (pid : Pid) :
    (∃ slot process, table.Exited pid slot process ∧
      (table.reap memory pid).closed = process.files.handles ∧
      (table.reap memory pid).outcome.Ensures
        (fun info next => next = (table.clear slot, (table.freeStacks memory process).state) ∧
          (table.freeStacks memory process).result = .ok () ∧
          info = { table.snapshotOf process with state := .dead })
        fun failure next => next = (table.clear slot, (table.freeStacks memory process).state) ∧
          (table.freeStacks memory process).result = .error failure) ∨
    (table.reap memory pid).closed = [] ∧
      (table.reap memory pid).outcome.Ensures (fun _ _ => False) fun failure next =>
        next = (table, memory) ∧ table.Unreaped pid failure := by
  unfold reap
  cases found : table.lookup pid with
  | none => exact Or.inr ⟨rfl, rfl, Or.inl ⟨rfl, found⟩⟩
  | some slot =>
      obtain ⟨⟨process, held, named⟩, -⟩ := lookup_some found
      simp only [Option.bind_some, held, Option.map_some]
      by_cases zombie : process.state = .zombie
      · rw [if_pos zombie]
        refine Or.inl ⟨slot, process, ⟨found, held, named, zombie⟩, rfl, ?_⟩
        obtain ⟨left, result, log⟩ := table.freeStacks memory process
        cases result with
        | ok value => exact ⟨rfl, rfl, rfl⟩
        | error failure => exact ⟨rfl, rfl⟩
      · rw [if_neg zombie]
        exact Or.inr ⟨rfl, rfl, Or.inr ⟨slot, process, found, held, zombie, rfl⟩⟩

theorem Exited.reap {table : ProcessTable} {pid : Pid} {slot : Nat} {process : ControlBlock}
    (exited : table.Exited pid slot process) (memory : PageAllocator) :
    (table.reap memory pid).closed = process.files.handles ∧
      (table.reap memory pid).outcome.state.1 = table.clear slot := by
  simp [ProcessTable.reap, exited.found, exited.holds, exited.zombie, Outcome.within]

theorem reap_table (table : ProcessTable) (memory other : PageAllocator) (pid : Pid) :
    (table.reap memory pid).outcome.state.1 = (table.reap other pid).outcome.state.1 := by
  unfold reap
  split
  · rfl
  · dsimp only
    split <;> rfl

theorem reap_vacant {table : ProcessTable} {pid : Pid} (missing : table.lookup pid = none)
    (memory : PageAllocator) : (table.reap memory pid).closed = [] := by
  simp [reap, missing]

end ProcessTable

/-! A reap that fails says why. -/

def Failure.Unreapable (failure : Failure) : Prop :=
  failure = .refused .notFound ∨ ∃ pid state, failure = .fatal (.reapOfLive pid state)

namespace PageAllocator

variable {memory : PageAllocator}

inductive Unfreed (started : Bool) : Failure → Prop
  | silent (silent : started = false) : Unfreed started (.fatal .allocatorNotStarted)
  | unaligned (addr : Nat) : Unfreed started (.fatal (.unalignedFree addr))
  | outside (addr : Nat) : Unfreed started (.fatal (.freeOutsideMemory addr))
  | leaves (count addr : Nat) : Unfreed started (.fatal (.runLeavesMemory count addr))
  | twice (addr : Nat) : Unfreed started (.fatal (.doubleFree addr))
  | trapped (cause : Trap) : Unfreed started (.trapped cause)

theorem Unfreed.unlike {started : Bool} {failure : Failure} (unfreed : Unfreed started failure) :
    ¬ failure.Unreapable := by
  cases unfreed <;> simp [Failure.Unreapable]

theorem release_fails (memory : PageAllocator) (first count : Nat) :
    (memory.release first count).Ensures (fun _ next => next.started = memory.started)
      fun failure _ => Unfreed memory.started failure := by
  rw [release, Outcome.ensures_andThen, Outcome.ensures_ofMachine]
  exact ⟨fun _ _ => rfl, fun cause _ => .trapped cause⟩

theorem pageToFree_fails {addr : PhysAddr} {violation : Violation}
    (refused : memory.pageToFree addr = .error violation) : Unfreed memory.started (.fatal violation) := by
  unfold pageToFree at refused
  split at refused
  · rename_i silent
    cases refused
    exact .silent (by simpa using silent)
  · split at refused
    · cases refused
      exact .unaligned _
    · split at refused
      · cases refused
        exact .outside _
      · cases refused

theorem freeStack_fails (memory : PageAllocator) (base : PhysAddr) (pages : Nat) :
    (memory.freeStack base pages).Ensures (fun _ next => next.started = memory.started)
      fun failure _ => Unfreed memory.started failure := by
  unfold freeStack
  split
  · unfold free
    split
    · rename_i refused
      exact pageToFree_fails refused
    · split
      · exact release_fails ..
      · exact .twice _
  · unfold freeRun
    split
    · rename_i refused
      exact pageToFree_fails refused
    · split
      · exact .leaves _ _
      · split
        · exact release_fails ..
        · rw [Outcome.ensures_andThen, Outcome.ensures_ofMachine]
          exact ⟨fun _ _ => .twice _, fun cause _ => .trapped cause⟩

theorem freeStackAt_fails (memory : PageAllocator) (base pages : Nat) :
    (memory.freeStackAt base pages).Ensures (fun _ next => next.started = memory.started)
      fun failure _ => Unfreed memory.started failure := by
  rw [freeStackAt, Outcome.ensures_andThen, Outcome.ensures_ofMachine]
  exact ⟨fun addr _ => freeStack_fails memory addr pages, fun cause _ => .trapped cause⟩

end PageAllocator

namespace ProcessTable

theorem freeStacks_fails (table : ProcessTable) (memory : PageAllocator) (process : ControlBlock) :
    (table.freeStacks memory process).Ensures (fun _ _ => True)
      fun failure _ => PageAllocator.Unfreed memory.started failure := by
  rw [freeStacks, Outcome.ensures_andThen]
  refine (PageAllocator.freeStackAt_fails ..).imp ?_ fun _ _ unfreed => unfreed
  intro _ left started
  cases process.kind with
  | kernelThread => exact trivial
  | user =>
      exact (PageAllocator.freeStackAt_fails ..).imp (fun _ _ _ => trivial)
        fun _ _ unfreed => started ▸ unfreed

theorem reap_unreapable {table : ProcessTable} {memory : PageAllocator} {pid : Pid} {failure : Failure}
    (failed : (table.reap memory pid).outcome.result = .error failure)
    (unreapable : failure.Unreapable) : (table.reap memory pid).closed = [] := by
  rcases table.reap_ensures memory pid with ⟨slot, process, -, -, ensured⟩ | ⟨closed, -⟩
  · obtain ⟨-, stuck⟩ := ensured.of_error failed
    exact absurd unreapable ((table.freeStacks_fails memory process).of_error stuck).unlike
  · exact closed

end ProcessTable

end MiniKernel
