import MiniKernel.Proofs.Page.Keeping
import MiniKernel.Proofs.Process.Stacks

/-! Stacks in a memory of any size. A creation that fails may lose pages there, but none of those that
were allocated before; what it was lent it can give back. -/

namespace MiniKernel

namespace PageAllocator

variable {memory next : PageAllocator} {base : PhysAddr} {count : Nat}

theorem allocStack_lends (consistent : memory.Consistent) (pages : Nat) :
    (memory.allocStack pages).Ensures (memory.Lends pages) fun _ next => memory.Keeps ∅ next := by
  unfold allocStack
  split
  · rename_i single
    exact single ▸ alloc_lends consistent
  · exact allocRun_lends consistent pages

theorem freeStack_cases (consistent : memory.Consistent) (base : PhysAddr) (count : Nat) :
    (memory.freeStack base count).Ensures
      (fun _ next => memory.Releasable base count ∧ memory.Frees (base.run count) next)
      fun _ next => next = memory ∧ ¬ memory.Releasable base count := by
  unfold freeStack
  split
  · rename_i single
    subst single
    exact free_frees consistent base
  · exact freeRun_frees consistent base count

theorem freeStack_frees (consistent : memory.Consistent) (contract : memory.Releasable base count) :
    (memory.freeStack base count).Ensures (fun _ next => memory.Frees (base.run count) next)
      fun _ _ => False :=
  (freeStack_cases consistent base count).imp (fun _ _ released => released.2)
    fun _ _ refused => refused.2 contract

theorem freeStackAt_keeps (consistent : memory.Consistent) (address pages : Nat) :
    (memory.freeStackAt address pages).Ensures (fun _ next => ∃ given, memory.Keeps given next)
      fun _ next => ∃ given, memory.Keeps given next := by
  rw [freeStackAt, Outcome.ensures_andThen, Outcome.ensures_ofMachine]
  refine ⟨fun base _ => ?_, fun _ _ => ⟨∅, consistent.keeps_self⟩⟩
  refine (freeStack_cases consistent base pages).imp (fun _ _ released => ⟨_, released.2.keeps⟩) ?_
  rintro _ _ ⟨rfl, -⟩
  exact ⟨∅, consistent.keeps_self⟩

theorem Lent.given_back (lent : memory.Lent base count next) {last : PageAllocator}
    (keeps : next.Keeps (base.run count) last) : memory.Keeps ∅ last := by
  have through := lent.keeps.trans keeps
  rw [Finset.empty_union] at through
  exact through.of_fresh lent.fresh

theorem Keeps.then_lent {middle : PageAllocator} (keeps : memory.Keeps ∅ middle)
    (lent : middle.Lent base count next) : memory.Lent base count next := by
  refine ⟨keeps.trans lent.keeps, lent.contract, ?_⟩
  have members := keeps.members
  rw [Finset.sdiff_empty] at members
  exact Finset.disjoint_of_subset_left members lent.fresh

end PageAllocator

namespace ProcessTable

variable {table : ProcessTable} {memory : PageAllocator}

inductive Lodged (table : ProcessTable) (memory : PageAllocator) :
    ProcessKind → Footing → PageAllocator → Prop
  | kernelThread {base context next} (lent : memory.Lent base table.kernelStackPages next) :
      Lodged table memory .kernelThread ⟨base.toNat, 0, context⟩ next
  | user {kernelBase userBase context middle next}
      (lent : memory.Lent kernelBase table.kernelStackPages middle)
      (userLent : middle.Lent userBase table.userStackPages next) :
      Lodged table memory .user ⟨kernelBase.toNat, userBase.toNat, context⟩ next

theorem allocKernelFooting_lodges (consistent : memory.Consistent) (entry : VirtAddr) :
    (table.allocKernelFooting memory entry).Ensures (table.Lodged memory .kernelThread)
      fun _ next => memory.Keeps ∅ next := by
  rw [allocKernelFooting, Outcome.ensures_andThen]
  refine (PageAllocator.allocStack_lends consistent _).imp ?_ fun _ _ keeps => keeps
  rintro (_ | base) next lends
  · exact lends.keeps consistent
  · have lent : memory.Lent base table.kernelStackPages next := lends
    rw [Outcome.ensures_map, Outcome.ensures_ofMachine]
    exact ⟨fun _ _ => .kernelThread lent, fun _ _ => lent.keeps⟩

theorem allocUserFooting_lodges (consistent : memory.Consistent) (entry : VirtAddr) :
    (table.allocUserFooting memory entry).Ensures (table.Lodged memory .user)
      fun _ next => memory.Keeps ∅ next := by
  rw [allocUserFooting, Outcome.ensures_andThen]
  refine (PageAllocator.allocStack_lends consistent _).imp ?_ fun _ _ keeps => keeps
  rintro (_ | kernelBase) middle lends
  · exact lends.keeps consistent
  have lent : memory.Lent kernelBase table.kernelStackPages middle := lends
  rw [Outcome.ensures_andThen]
  refine (PageAllocator.allocStack_lends lent.keeps.consistent _).imp ?_
    fun _ _ keeps => lent.keeps.trans keeps
  rintro (_ | userBase) next userLends
  · -- There is no room for the user stack, so the kernel stack goes back.
    obtain rfl : next = middle := userLends
    rw [Outcome.ensures_andThen]
    refine (PageAllocator.freeStack_frees lent.keeps.consistent lent.contract).imp ?_
      fun _ _ impossible => impossible.elim
    exact fun _ _ frees => lent.given_back frees.keeps
  · have userLent : middle.Lent userBase table.userStackPages next := userLends
    rw [Outcome.ensures_map, Outcome.ensures_ofMachine]
    exact ⟨fun _ _ => .user lent userLent, fun _ _ => lent.keeps.trans userLent.keeps⟩

theorem allocFooting_lodges (table : ProcessTable) (consistent : memory.Consistent) (entry : VirtAddr)
    (kind : ProcessKind) :
    (table.allocFooting memory entry kind).Ensures (table.Lodged memory kind)
      fun _ next => memory.Keeps ∅ next := by
  cases kind with
  | kernelThread => exact allocKernelFooting_lodges consistent entry
  | user => exact allocUserFooting_lodges consistent entry

theorem Lodged.keeps {kind : ProcessKind} {footing : Footing} {next : PageAllocator}
    (lodged : table.Lodged memory kind footing next) : memory.Keeps ∅ next := by
  cases lodged with
  | kernelThread lent => exact lent.keeps
  | user lent userLent => exact lent.keeps.trans userLent.keeps

theorem allocFooting_keeps (table : ProcessTable) (consistent : memory.Consistent) (entry : VirtAddr)
    (kind : ProcessKind) : memory.Keeps ∅ (table.allocFooting memory entry kind).state :=
  ((allocFooting_lodges table consistent entry kind).imp (fun _ _ lodged => lodged.keeps)
    fun _ _ keeps => keeps).state

theorem freeStacks_keeps (table : ProcessTable) (consistent : memory.Consistent)
    (process : ControlBlock) :
    ∃ given, memory.Keeps given (table.freeStacks memory process).state := by
  suffices ensured : (table.freeStacks memory process).Ensures
      (fun _ next => ∃ given, memory.Keeps given next) fun _ next => ∃ given, memory.Keeps given next
    from ensured.state
  rw [freeStacks, Outcome.ensures_andThen]
  refine (PageAllocator.freeStackAt_keeps consistent ..).imp ?_ fun _ _ kept => kept
  rintro _ middle ⟨given, keeps⟩
  cases process.kind with
  | kernelThread => exact ⟨given, keeps⟩
  | user =>
      refine (PageAllocator.freeStackAt_keeps keeps.consistent ..).imp ?_ ?_
      · rintro _ _ ⟨later, after⟩
        exact ⟨_, keeps.trans after⟩
      · rintro _ _ ⟨later, after⟩
        exact ⟨_, keeps.trans after⟩

end ProcessTable

end MiniKernel
