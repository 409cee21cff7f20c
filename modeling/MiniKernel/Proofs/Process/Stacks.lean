import MiniKernel.Process.Lifecycle
import MiniKernel.Proofs.Page.Allocator

/-! Where the stacks of a process come from and go to. A creation that cannot have both of them gives
the first one back, and a reap takes exactly the runs back that the creation was granted. -/

namespace MiniKernel

namespace PageAllocator

variable {memory next : PageAllocator} {base : PhysAddr} {count : Nat}

theorem Granted.releasable (granted : memory.Granted base count next) : next.Releasable base count := by
  have fits := granted.fits
  refine ⟨granted.aligned, ?_, ?_, ?_⟩
  · rw [granted.total]
    have nonempty := granted.nonempty
    omega
  · rw [granted.total]
    exact fits
  · rw [granted.members]
    exact Finset.subset_union_right

theorem Granted.end_le (granted : memory.Granted base count next) (sound : memory.Sound) :
    base.toNat + count * pageSize ≤ 0x10000000000000 := by
  rw [PhysAddr.toNat_of_isAligned granted.aligned, ← Nat.add_mul]
  exact (Nat.mul_le_mul_right pageSize granted.fits).trans sound.addressable

theorem allocStack_ensures (sound : memory.Sound) (pages : Nat) :
    (memory.allocStack pages).Ensures
      (fun base next => match base with
        | none => next = memory ∧ memory.Exhausted pages
        | some base => memory.Granted base pages next)
      fun failure next => failure = .fatal .allocatorNotStarted ∧ memory.started = false ∧
        next = memory := by
  unfold allocStack
  cases started : memory.started with
  | false =>
      split
      · rw [alloc_unstarted started]
        exact ⟨rfl, rfl, rfl⟩
      · rw [allocRun_unstarted started]
        exact ⟨rfl, rfl, rfl⟩
  | true =>
      split
      · rename_i single
        subst single
        exact (alloc_ensures sound started).imp (fun _ _ handed => handed)
          fun _ _ impossible => impossible.elim
      · exact (allocRun_ensures sound started pages).imp (fun _ _ handed => handed)
          fun _ _ impossible => impossible.elim

theorem freeStack_ensures (sound : memory.Sound) (base : PhysAddr) (pages : Nat) :
    (memory.freeStack base pages).Ensures (fun _ next => memory.Released base pages next)
      fun failure next => memory.Untouched failure next ∧ ¬ memory.Releasable base pages := by
  unfold freeStack
  split
  · rename_i single
    subst single
    exact free_ensures sound base
  · exact freeRun_ensures sound base pages

theorem freeStack_ok (sound : memory.Sound) (contract : memory.Releasable base count) :
    (memory.freeStack base count).Ensures (fun _ next => memory.Released base count next)
      fun _ _ => False :=
  (freeStack_ensures sound base count).imp (fun _ _ released => released)
    fun _ _ refused => refused.2 contract

theorem freeStackAt_eq (memory : PageAllocator) (base : PhysAddr) (pages : Nat) :
    memory.freeStackAt base.toNat pages = memory.freeStack base pages := by
  have same : PhysAddr.ofNat base.toNat = .ok base := dif_pos base.bound
  rw [freeStackAt, same]
  rfl

end PageAllocator

theorem Registers.stackTop_ok {base pages : Nat} (bound : base + pages * pageSize ≤ 0x10000000000000) :
    Registers.stackTop base pages =
      .ok (base + pages * pageSize - (base + pages * pageSize) % 16) := by
  have product : Word.mul pages pageSize = .ok (pages * pageSize) := if_pos (by
    simp only [Word.max]
    omega)
  have sum : Word.add base (pages * pageSize) = .ok (base + pages * pageSize) := if_pos (by
    simp only [Word.max]
    omega)
  simp [stackTop, product, sum, bind, Except.bind, pure, Except.pure]

namespace ProcessTable

variable {table : ProcessTable} {memory next : PageAllocator}

inductive Footed (table : ProcessTable) (memory : PageAllocator) (entry : VirtAddr) :
    ProcessKind → Footing → PageAllocator → Prop
  | kernelThread {base context next} (granted : memory.Granted base table.kernelStackPages next)
      (built : Registers.kernelThread entry base.toNat table.kernelStackPages = .ok context) :
      Footed table memory entry .kernelThread ⟨base.toNat, 0, context⟩ next
  | user {kernelBase userBase context middle next}
      (granted : memory.Granted kernelBase table.kernelStackPages middle)
      (userGranted : middle.Granted userBase table.userStackPages next)
      (built : Registers.userProcess entry kernelBase.toNat table.kernelStackPages userBase.toNat
        table.userStackPages = .ok context) :
      Footed table memory entry .user ⟨kernelBase.toNat, userBase.toNat, context⟩ next

def NoFooting (table : ProcessTable) (memory : PageAllocator) (kind : ProcessKind) : Prop :=
  memory.Exhausted table.kernelStackPages ∨
    kind = .user ∧ ∃ base middle, memory.Granted base table.kernelStackPages middle ∧
      middle.Exhausted table.userStackPages

structure Restored (memory next : PageAllocator) : Prop where
  members : next.pages.members = memory.pages.members
  total : next.total = memory.total
  started : next.started = memory.started
  sound : next.Sound

def Unfooted (table : ProcessTable) (memory : PageAllocator) (kind : ProcessKind) (failure : Failure)
    (next : PageAllocator) : Prop :=
  failure = .refused .outOfMemory ∧ table.NoFooting memory kind ∧ Restored memory next ∨
    failure = .fatal .allocatorNotStarted ∧ memory.started = false ∧ next = memory

theorem kernelThread_ok (entry : VirtAddr) {base pages : Nat}
    (bound : base + pages * pageSize ≤ 0x10000000000000) :
    ∃ context, Registers.kernelThread entry base pages = .ok context := by
  simp [Registers.kernelThread, Registers.stackTop_ok bound, bind, Except.bind, pure, Except.pure]

theorem userProcess_ok (entry : VirtAddr) {kernelBase kernelPages userBase userPages : Nat}
    (kernelBound : kernelBase + kernelPages * pageSize ≤ 0x10000000000000)
    (userBound : userBase + userPages * pageSize ≤ 0x10000000000000) :
    ∃ context,
      Registers.userProcess entry kernelBase kernelPages userBase userPages = .ok context := by
  simp [Registers.userProcess, Registers.stackTop_ok kernelBound, Registers.stackTop_ok userBound,
    bind, Except.bind, pure, Except.pure]

theorem restored_of_granted {base : PhysAddr} {count : Nat} {middle : PageAllocator}
    (granted : memory.Granted base count middle) (released : middle.Released base count next) :
    Restored memory next := by
  refine ⟨?_, released.total.trans granted.total, released.started.trans granted.started,
    released.sound⟩
  rw [released.members, granted.members, Finset.union_sdiff_right,
    Finset.sdiff_eq_self_of_disjoint granted.fresh]

theorem allocKernelFooting_ensures (sound : memory.Sound) (entry : VirtAddr) :
    (table.allocKernelFooting memory entry).Ensures (table.Footed memory entry .kernelThread)
      (table.Unfooted memory .kernelThread) := by
  rw [allocKernelFooting, Outcome.ensures_andThen]
  refine (PageAllocator.allocStack_ensures sound _).imp ?_ fun _ _ failed => Or.inr failed
  rintro (_ | base) middle handed
  · obtain ⟨rfl, exhausted⟩ := handed
    exact Or.inl ⟨rfl, Or.inl exhausted, rfl, rfl, rfl, sound⟩
  · obtain ⟨context, built⟩ := kernelThread_ok entry (PageAllocator.Granted.end_le handed sound)
    rw [Outcome.ensures_map, built]
    exact .kernelThread handed built

theorem allocUserFooting_ensures (sound : memory.Sound) (entry : VirtAddr) :
    (table.allocUserFooting memory entry).Ensures (table.Footed memory entry .user)
      (table.Unfooted memory .user) := by
  rw [allocUserFooting, Outcome.ensures_andThen]
  refine (PageAllocator.allocStack_ensures sound _).imp ?_ fun _ _ failed => Or.inr failed
  rintro (_ | kernelBase) middle handed
  · obtain ⟨rfl, exhausted⟩ := handed
    exact Or.inl ⟨rfl, Or.inl exhausted, rfl, rfl, rfl, sound⟩
  have kernelGranted : memory.Granted kernelBase table.kernelStackPages middle := handed
  rw [Outcome.ensures_andThen]
  refine (PageAllocator.allocStack_ensures kernelGranted.sound _).imp ?_ ?_
  · rintro (_ | userBase) last userHanded
    · obtain ⟨rfl, exhausted⟩ := userHanded
      rw [Outcome.ensures_andThen]
      refine (PageAllocator.freeStack_ok kernelGranted.sound kernelGranted.releasable).imp ?_
        fun _ _ impossible => impossible.elim
      intro _ left released
      exact Or.inl ⟨rfl, Or.inr ⟨rfl, kernelBase, last, kernelGranted, exhausted⟩,
        restored_of_granted kernelGranted released⟩
    · have userGranted : middle.Granted userBase table.userStackPages last := userHanded
      obtain ⟨context, built⟩ := userProcess_ok entry (kernelGranted.end_le sound)
        (userGranted.end_le kernelGranted.sound)
      rw [Outcome.ensures_map, built]
      exact .user kernelGranted userGranted built
  · -- The kernel stack was handed out, so the allocator had been started.
    rintro failure last ⟨-, silent, -⟩
    have nonempty := kernelGranted.nonempty
    have fits := kernelGranted.fits
    rw [kernelGranted.started] at silent
    have empty := sound.silent silent
    omega

/-- A process gets the stacks of its kind, or no page stays allocated for it. -/
theorem allocFooting_ensures (table : ProcessTable) (sound : memory.Sound) (entry : VirtAddr)
    (kind : ProcessKind) :
    (table.allocFooting memory entry kind).Ensures (table.Footed memory entry kind)
      (table.Unfooted memory kind) := by
  cases kind with
  | kernelThread => exact allocKernelFooting_ensures sound entry
  | user => exact allocUserFooting_ensures sound entry

inductive Owns (table : ProcessTable) (memory : PageAllocator) (process : ControlBlock) : Prop
  | kernelThread {base : PhysAddr} (kind : process.kind = .kernelThread)
      (address : process.kernelStack = base.toNat)
      (contract : memory.Releasable base table.kernelStackPages) : Owns table memory process
  | user {kernelBase userBase : PhysAddr} (kind : process.kind = .user)
      (address : process.kernelStack = kernelBase.toNat)
      (userAddress : process.userStack = userBase.toNat)
      (contract : memory.Releasable kernelBase table.kernelStackPages)
      (userContract : memory.Releasable userBase table.userStackPages)
      (apart : Disjoint (kernelBase.run table.kernelStackPages) (userBase.run table.userStackPages)) :
      Owns table memory process

inductive Freed (table : ProcessTable) (memory : PageAllocator) (process : ControlBlock) :
    PageAllocator → Prop
  | kernelThread {base next} (kind : process.kind = .kernelThread)
      (address : process.kernelStack = base.toNat)
      (released : memory.Released base table.kernelStackPages next) : Freed table memory process next
  | user {kernelBase userBase middle next} (kind : process.kind = .user)
      (address : process.kernelStack = kernelBase.toNat)
      (userAddress : process.userStack = userBase.toNat)
      (released : memory.Released kernelBase table.kernelStackPages middle)
      (userReleased : middle.Released userBase table.userStackPages next) :
      Freed table memory process next

theorem releasable_after {base other : PhysAddr} {count otherCount : Nat}
    (contract : memory.Releasable other otherCount) (released : memory.Released base count next)
    (apart : Disjoint (base.run count) (other.run otherCount)) : next.Releasable other otherCount := by
  refine ⟨contract.aligned, ?_, ?_, ?_⟩
  · rw [released.total]
    exact contract.inside
  · rw [released.total]
    exact contract.fits
  · rw [released.members, Finset.subset_sdiff]
    exact ⟨contract.allocated, apart.symm⟩

theorem freeStacks_ensures (sound : memory.Sound) {process : ControlBlock}
    (owns : table.Owns memory process) :
    (table.freeStacks memory process).Ensures (fun _ next => table.Freed memory process next)
      fun _ _ => False := by
  rw [freeStacks, Outcome.ensures_andThen]
  cases owns with
  | kernelThread kind address contract =>
      rw [address, PageAllocator.freeStackAt_eq]
      refine (PageAllocator.freeStack_ok sound contract).imp ?_ fun _ _ impossible => impossible
      intro _ next released
      rw [kind]
      exact .kernelThread kind address released
  | user kind address userAddress contract userContract apart =>
      rw [address, PageAllocator.freeStackAt_eq]
      refine (PageAllocator.freeStack_ok sound contract).imp ?_ fun _ _ impossible => impossible
      intro _ middle released
      rw [kind, userAddress, PageAllocator.freeStackAt_eq]
      refine (PageAllocator.freeStack_ok released.sound
        (releasable_after userContract released apart)).imp ?_ fun _ _ impossible => impossible
      intro _ next userReleased
      exact .user kind address userAddress released userReleased

end ProcessTable

end MiniKernel
