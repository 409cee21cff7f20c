import MiniKernel.Proofs.Page.Allocator

/-! Runs of allocator calls, the refused ones included. What a run leaves allocated is read off its
history: the pages that were reserved or handed out and not taken back since. -/

namespace MiniKernel

inductive PageCall
  | start (bytes : Nat) (reservedEnd : PhysAddr)
  | alloc
  | allocRun (count : Nat)
  | free (addr : PhysAddr)
  | freeRun (base : PhysAddr) (count : Nat)
  deriving DecidableEq, Repr

namespace PageCall

def Addressable : PageCall → Prop
  | start bytes _ => bytes ≤ 0x10000000000000
  | _ => True

def reserved : PageCall → Except Failure (Option PhysAddr) → Finset Nat
  | start _ reservedEnd, .ok _ => Finset.range (PageAllocator.reservedBelow reservedEnd)
  | _, _ => ∅

def granted : PageCall → Except Failure (Option PhysAddr) → Finset Nat
  | alloc, .ok (some base) => base.run 1
  | allocRun count, .ok (some base) => base.run count
  | _, _ => ∅

def released : PageCall → Except Failure (Option PhysAddr) → Finset Nat
  | free addr, .ok _ => addr.run 1
  | freeRun base count, .ok _ => base.run count
  | _, _ => ∅

def totalAfter : PageCall → Nat → Nat
  | start bytes _, _ => bytes / pageSize
  | _, total => total

@[simp]
theorem reserved_error (call : PageCall) (failure : Failure) :
    call.reserved (.error failure) = ∅ := by cases call <;> rfl

@[simp]
theorem granted_error (call : PageCall) (failure : Failure) :
    call.granted (.error failure) = ∅ := by cases call <;> rfl

@[simp]
theorem released_error (call : PageCall) (failure : Failure) :
    call.released (.error failure) = ∅ := by cases call <;> rfl

end PageCall

namespace PageAllocator

def perform (memory : PageAllocator) : PageCall → Outcome PageAllocator (Option PhysAddr)
  | .start bytes reservedEnd => (memory.start bytes reservedEnd).map fun _ => none
  | .alloc => memory.alloc
  | .allocRun count => memory.allocRun count
  | .free addr => (memory.free addr).map fun _ => none
  | .freeRun base count => (memory.freeRun base count).map fun _ => none

structure Performed (memory : PageAllocator) (call : PageCall) (answer : Option PhysAddr)
    (next : PageAllocator) : Prop where
  members : next.pages.members =
    (memory.pages.members ∪ call.reserved (.ok answer) ∪ call.granted (.ok answer)) \
      call.released (.ok answer)
  vacant : call.reserved (.ok answer) ≠ ∅ → memory.pages.members = ∅
  fresh : Disjoint memory.pages.members (call.granted (.ok answer))
  allocated : call.released (.ok answer) ⊆ memory.pages.members
  total : next.total = call.totalAfter memory.total
  sound : next.Sound

theorem members_unstarted {memory : PageAllocator} (sound : memory.Sound)
    (silent : memory.started = false) : memory.pages.members = ∅ := by
  apply Finset.subset_empty.mp
  intro page member
  have inside := PageSet.members_lt member
  have empty := sound.silent silent
  simp only [total] at empty
  omega

theorem Granted.performed {memory next : PageAllocator} {base : PhysAddr} {count : Nat}
    (grant : memory.Granted base count next) {call : PageCall}
    (granted : call.granted (.ok (some base)) = base.run count)
    (reserved : call.reserved (.ok (some base)) = ∅) (released : call.released (.ok (some base)) = ∅)
    (total : next.total = call.totalAfter memory.total) :
    memory.Performed call (some base) next := by
  refine ⟨?_, fun occupied => absurd reserved occupied, ?_, ?_, total, grant.sound⟩
  · rw [grant.members, granted, reserved, released, Finset.union_empty, Finset.sdiff_empty]
  · rw [granted]
    exact grant.fresh
  · rw [released]
    exact Finset.empty_subset _

theorem Released.performed {memory next : PageAllocator} {base : PhysAddr} {count : Nat}
    (release : memory.Released base count next) {call : PageCall}
    (released : call.released (.ok none) = base.run count)
    (reserved : call.reserved (.ok none) = ∅) (granted : call.granted (.ok none) = ∅)
    (total : next.total = call.totalAfter memory.total) :
    memory.Performed call none next := by
  refine ⟨?_, fun occupied => absurd reserved occupied, ?_, ?_, total, release.sound⟩
  · rw [release.members, granted, reserved, released, Finset.union_empty, Finset.union_empty]
  · rw [granted]
    exact Finset.disjoint_empty_right _
  · rw [released]
    exact release.contract.allocated

theorem Sound.performed {memory : PageAllocator} (sound : memory.Sound) {call : PageCall}
    (reserved : call.reserved (.ok none) = ∅) (granted : call.granted (.ok none) = ∅)
    (released : call.released (.ok none) = ∅) (total : memory.total = call.totalAfter memory.total) :
    memory.Performed call none memory := by
  refine ⟨?_, fun occupied => absurd reserved occupied, ?_, ?_, total, sound⟩
  · rw [granted, reserved, released, Finset.union_empty, Finset.union_empty, Finset.sdiff_empty]
  · rw [granted]
    exact Finset.disjoint_empty_right _
  · rw [released]
    exact Finset.empty_subset _

theorem perform_ensures {memory : PageAllocator} (sound : memory.Sound) {call : PageCall}
    (addressable : call.Addressable) :
    (memory.perform call).Ensures (memory.Performed call) memory.Untouched := by
  cases call with
  | start bytes reservedEnd =>
      rw [perform, Outcome.ensures_map]
      refine (start_ensures addressable reservedEnd).imp ?_ fun _ _ untouched => untouched
      intro _ next begun
      have empty := members_unstarted sound begun.silent
      refine ⟨?_, fun _ => empty, ?_, ?_, begun.total, begun.sound⟩
      · rw [begun.members, empty]
        simp [PageCall.reserved, PageCall.granted, PageCall.released]
      · exact Finset.disjoint_empty_right _
      · exact Finset.empty_subset _
  | alloc =>
      rw [perform]
      cases started : memory.started with
      | false =>
          rw [alloc_unstarted started]
          exact ⟨rfl, _, rfl⟩
      | true =>
          refine (alloc_ensures sound started).imp ?_ fun _ _ impossible => impossible.elim
          rintro (_ | base) next handed
          · obtain ⟨rfl, -⟩ := handed
            exact sound.performed rfl rfl rfl rfl
          · exact Granted.performed handed rfl rfl rfl handed.total
  | allocRun count =>
      rw [perform]
      cases started : memory.started with
      | false =>
          rw [allocRun_unstarted started]
          exact ⟨rfl, _, rfl⟩
      | true =>
          refine (allocRun_ensures sound started count).imp ?_ fun _ _ impossible => impossible.elim
          rintro (_ | base) next handed
          · obtain ⟨rfl, -⟩ := handed
            exact sound.performed rfl rfl rfl rfl
          · exact Granted.performed handed rfl rfl rfl handed.total
  | free addr =>
      rw [perform, Outcome.ensures_map]
      refine (free_ensures sound addr).imp ?_ fun _ _ refused => refused.1
      intro _ next released
      exact released.performed rfl rfl rfl released.total
  | freeRun base count =>
      rw [perform, Outcome.ensures_map]
      refine (freeRun_ensures sound base count).imp ?_ fun _ _ refused => refused.1
      intro _ next released
      exact released.performed rfl rfl rfl released.total

end PageAllocator

namespace PageAllocator

def after : List PageCall → PageAllocator
  | [] => unstarted
  | call :: earlier => ((after earlier).perform call).state

/-- The pages that were reserved or handed out in a run and not taken back since. -/
def owned : List PageCall → Finset Nat
  | [] => ∅
  | call :: earlier =>
      let result := ((after earlier).perform call).result
      (owned earlier ∪ call.reserved result ∪ call.granted result) \ call.released result

def managed : List PageCall → Nat
  | [] => 0
  | call :: earlier =>
      match call, ((after earlier).perform call).result with
      | .start bytes _, .ok _ => bytes
      | _, _ => managed earlier

theorem managed_cons (call : PageCall) (earlier : List PageCall) (total : Nat)
    (known : total = managed earlier / pageSize) :
    managed (call :: earlier) / pageSize =
      match ((after earlier).perform call).result with
      | .ok _ => call.totalAfter total
      | .error _ => total := by
  cases found : ((after earlier).perform call).result <;> cases call <;>
    simp [managed, found, PageCall.totalAfter, known]

theorem after_invariant (calls : List PageCall) (addressable : ∀ call ∈ calls, call.Addressable) :
    (after calls).Sound ∧ (after calls).pages.members = owned calls ∧
      (after calls).total = managed calls / pageSize := by
  induction calls with
  | nil => exact ⟨sound_unstarted, PageSet.members_empty 0, rfl⟩
  | cons call earlier ih =>
      obtain ⟨sound, members, total⟩ :=
        ih fun other member => addressable other (List.mem_cons_of_mem _ member)
      have ensured := perform_ensures sound (addressable call List.mem_cons_self)
      rw [managed_cons call earlier _ total, owned, ← members, after]
      cases found : ((after earlier).perform call).result with
      | ok answer =>
          have performed := ensured.of_ok found
          exact ⟨performed.sound, performed.members, performed.total⟩
      | error failure =>
          obtain ⟨same, -⟩ := ensured.of_error found
          rw [same]
          simpa using sound

/-- The allocator is the set `owned` of pages of a memory of `bytes` bytes: it answers every
question from the set, hands out no page of it, and takes back pages of it only. -/
structure Represents (memory : PageAllocator) (owned : Finset Nat) (bytes : Nat) : Prop where
  inside : ∀ page ∈ owned, page < memory.total
  isAllocated : ∀ addr : PhysAddr, memory.isAllocated addr = true ↔
    memory.total ≤ addr.toNat / pageSize ∨ addr.toNat / pageSize ∈ owned
  used : memory.used = memory.pages.count ∧ memory.used = owned.card
  bytes : memory.usedBytes + memory.freeBytes = memory.totalBytes ∧
    memory.totalBytes = pageSize * (bytes / pageSize)
  fresh : ∀ call : PageCall, Disjoint owned (call.granted (memory.perform call).result)
  free : ∀ addr : PhysAddr, (memory.free addr).result = .ok () ↔
    addr.toNat % pageSize = 0 ∧ addr.page < memory.total ∧ addr.page ∈ owned
  freeRun : ∀ (base : PhysAddr) (count : Nat), (memory.freeRun base count).result = .ok () ↔
    base.toNat % pageSize = 0 ∧ base.page < memory.total ∧ base.page + count ≤ memory.total ∧
      ∀ page, base.page ≤ page → page < base.page + count → page ∈ owned
  refusedFree : ∀ (addr : PhysAddr) (failure : Failure),
    (memory.free addr).result = .error failure →
      (∃ violation, failure = .fatal violation) ∧ (memory.free addr).state = memory
  refusedFreeRun : ∀ (base : PhysAddr) (count : Nat) (failure : Failure),
    (memory.freeRun base count).result = .error failure →
      (∃ violation, failure = .fatal violation) ∧ (memory.freeRun base count).state = memory

theorem free_ok_iff {memory : PageAllocator} (sound : memory.Sound) (addr : PhysAddr) :
    (memory.free addr).result = .ok () ↔ memory.Releasable addr 1 := by
  have ensured := free_ensures sound addr
  cases found : (memory.free addr).result with
  | ok answer => exact ⟨fun _ => (ensured.of_ok found).contract, fun _ => rfl⟩
  | error failure => simpa using (ensured.of_error found).2

theorem freeRun_ok_iff {memory : PageAllocator} (sound : memory.Sound) (base : PhysAddr)
    (count : Nat) :
    (memory.freeRun base count).result = .ok () ↔ memory.Releasable base count := by
  have ensured := freeRun_ensures sound base count
  cases found : (memory.freeRun base count).result with
  | ok answer => exact ⟨fun _ => (ensured.of_ok found).contract, fun _ => rfl⟩
  | error failure => simpa using (ensured.of_error found).2

/-- The pages that a call answers with were free, also when the call is out of the question. -/
theorem granted_fresh {memory : PageAllocator} (sound : memory.Sound) (call : PageCall) :
    Disjoint memory.pages.members (call.granted (memory.perform call).result) := by
  by_cases addressable : call.Addressable
  · cases found : (memory.perform call).result with
    | ok answer => exact ((perform_ensures sound addressable).of_ok found).fresh
    | error failure => simp
  · cases call with
    | start bytes reservedEnd => exact Finset.disjoint_empty_right _
    | _ => exact absurd trivial addressable

/-- In every run the allocator is exactly the set of pages that the run leaves allocated. -/
theorem after_represents (calls : List PageCall) (addressable : ∀ call ∈ calls, call.Addressable) :
    (after calls).Represents (owned calls) (managed calls) := by
  obtain ⟨sound, members, total⟩ := after_invariant calls addressable
  generalize after calls = memory at sound members total ⊢
  have usedTotal := sound.used_le
  rw [← members]
  constructor
  · intro page member
    exact PageSet.members_lt member
  · intro addr
    exact PageSet.contains_iff memory.pages addr.page
  · exact ⟨sound.counted.trans sound.clean.count_eq.symm, sound.counted⟩
  · constructor
    · rw [usedBytes, freeBytes, totalBytes, ← Nat.add_mul, Nat.add_sub_cancel' usedTotal]
    · rw [totalBytes, total, Nat.mul_comm]
  · exact granted_fresh sound
  · intro addr
    rw [free_ok_iff sound]
    constructor
    · intro contract
      have member : addr.page ∈ memory.pages.members := by
        apply contract.allocated
        rw [PhysAddr.run_one, Finset.mem_singleton]
      exact ⟨by simpa [PhysAddr.isAligned] using contract.aligned, contract.inside, member⟩
    · rintro ⟨aligned, inside, member⟩
      refine ⟨by simpa [PhysAddr.isAligned] using aligned, inside, inside, ?_⟩
      rwa [PhysAddr.run_one, Finset.singleton_subset_iff]
  · intro base count
    rw [freeRun_ok_iff sound]
    constructor
    · intro contract
      refine ⟨by simpa [PhysAddr.isAligned] using contract.aligned, contract.inside, contract.fits, ?_⟩
      intro page lower upper
      exact contract.allocated (PhysAddr.mem_run.mpr ⟨lower, upper⟩)
    · rintro ⟨aligned, inside, fits, allocated⟩
      refine ⟨by simpa [PhysAddr.isAligned] using aligned, inside, fits, ?_⟩
      intro page member
      obtain ⟨lower, upper⟩ := PhysAddr.mem_run.mp member
      exact allocated page lower upper
  · intro addr failure found
    obtain ⟨⟨same, fatal⟩, -⟩ := (free_ensures sound addr).of_error found
    exact ⟨fatal, same⟩
  · intro base count failure found
    obtain ⟨⟨same, fatal⟩, -⟩ := (freeRun_ensures sound base count).of_error found
    exact ⟨fatal, same⟩

theorem after_represents_twiceFreed :
    (after [.free ⟨8192, by decide⟩, .free ⟨8192, by decide⟩, .allocRun 2,
      .start 16384 ⟨4096, by decide⟩]).Represents {0, 1} 16384 := by
  have represents := after_represents [.free ⟨8192, by decide⟩, .free ⟨8192, by decide⟩,
    .allocRun 2, .start 16384 ⟨4096, by decide⟩] (by simp [PageCall.Addressable])
  have left : owned [.free ⟨8192, by decide⟩, .free ⟨8192, by decide⟩, .allocRun 2,
      .start 16384 ⟨4096, by decide⟩] = {0, 1} := by
    decide +kernel
  rwa [left] at represents

end PageAllocator

end MiniKernel
