import Mathlib.Algebra.Order.Interval.Finset.SuccPred
import Mathlib.Data.Nat.SuccPred
import MiniKernel.Proofs.Page.Keeping

/-! A run that is freed at once against the same run freed page by page. Both are taken back or refused
alike, but where the pages come one by one, those before the bad one are gone by the time it shows. -/

namespace MiniKernel.PageAllocator

variable {memory next : PageAllocator} {base : PhysAddr} {count : Nat}

def freeAt (memory : PageAllocator) (address : Nat) : Outcome PageAllocator Unit :=
  (Outcome.ofMachine memory (PhysAddr.ofNat address)).andThen fun addr memory => memory.free addr

def freeEach (memory : PageAllocator) (address : Nat) : (count : Nat) → Outcome PageAllocator Unit
  | 0 => .done memory ()
  | count + 1 =>
      (memory.freeAt address).andThen fun _ memory => memory.freeEach (address + pageSize) count

theorem freeAt_addr (memory : PageAllocator) (addr : PhysAddr) :
    memory.freeAt addr.toNat = memory.free addr := by
  rw [freeAt, PhysAddr.ofNat, dif_pos addr.bound]
  rfl

theorem Sound.freeAt_page (sound : memory.Sound) (page : Nat) :
    (memory.freeAt (page * pageSize)).Ensures
      (fun _ next => page ∈ memory.pages.members ∧ memory.Frees {page} next)
      fun _ next => next = memory ∧ page ∉ memory.pages.members := by
  by_cases bound : page * pageSize < 0x10000000000000
  · have number := PhysAddr.page_ofPage bound
    have single : (⟨page * pageSize, bound⟩ : PhysAddr).run 1 = {page} := by
      rw [PhysAddr.run_one, number]
    rw [memory.freeAt_addr ⟨page * pageSize, bound⟩]
    refine (free_frees sound.consistent _).imp ?_ ?_
    · rintro _ next ⟨contract, frees⟩
      have allocated := contract.allocated
      rw [single] at allocated frees
      exact ⟨Finset.singleton_subset_iff.mp allocated, frees⟩
    · rintro _ _ ⟨same, broken⟩
      refine ⟨same, fun member => broken (.of_allocated (PhysAddr.isAligned_ofPage bound) Nat.one_pos ?_)⟩
      rw [single]
      exact Finset.singleton_subset_iff.mpr member
  · rw [freeAt, PhysAddr.ofNat, dif_neg bound]
    refine ⟨rfl, fun member => ?_⟩
    exact bound (sound.addr_bound (PageSet.members_lt member))

theorem Consistent.frees_nothing (consistent : memory.Consistent) (page : Nat) :
    Finset.Ico page (page + 0) ⊆ memory.pages.members ∧
      memory.Frees (Finset.Ico page (page + 0)) memory := by
  rw [Nat.add_zero, Finset.Ico_self]
  exact ⟨Finset.empty_subset _, consistent, Finset.sdiff_empty.symm, rfl, rfl, rfl⟩

theorem Frees.behind {middle : PageAllocator} {page : Nat} (member : page ∈ memory.pages.members)
    (first : memory.Frees {page} middle)
    (allocated : Finset.Ico (page + 1) (page + 1 + count) ⊆ middle.pages.members)
    (rest : middle.Frees (Finset.Ico (page + 1) (page + 1 + count)) next) :
    Finset.Ico page (page + (count + 1)) ⊆ memory.pages.members ∧
      memory.Frees (Finset.Ico page (page + (count + 1))) next := by
  have run : Finset.Ico page (page + (count + 1)) =
      insert page (Finset.Ico (page + 1) (page + 1 + count)) := by
    rw [Finset.insert_Ico_add_one_left_eq_Ico (by omega), Nat.add_right_comm]
    rfl
  rw [Finset.insert_eq] at run
  rw [run]
  refine ⟨Finset.union_subset (Finset.singleton_subset_iff.mpr member) ?_, first.trans rest⟩
  rw [first.members] at allocated
  exact allocated.trans Finset.sdiff_subset

theorem Sound.freeEach_pages (sound : memory.Sound) (page count : Nat) :
    (memory.freeEach (page * pageSize) count).Ensures
      (fun _ next => Finset.Ico page (page + count) ⊆ memory.pages.members ∧
        memory.Frees (Finset.Ico page (page + count)) next)
      fun _ next => ∃ freed < count, page + freed ∉ memory.pages.members ∧
        Finset.Ico page (page + freed) ⊆ memory.pages.members ∧
        memory.Frees (Finset.Ico page (page + freed)) next := by
  induction count generalizing memory page with
  | zero => exact sound.consistent.frees_nothing page
  | succ count ih =>
      rw [freeEach, Outcome.ensures_andThen]
      refine (sound.freeAt_page page).imp ?_ ?_
      · rintro _ middle ⟨member, frees⟩
        have following := ih (frees.keeps.sound sound) (page + 1)
        rw [Nat.add_mul, Nat.one_mul] at following
        refine following.imp (fun _ _ ⟨allocated, rest⟩ => frees.behind member allocated rest) ?_
        rintro _ _ ⟨freed, short, missing, allocated, rest⟩
        refine ⟨freed + 1, Nat.succ_lt_succ short, ?_, frees.behind member allocated rest⟩
        -- The page that ends the run is another one than the page that is gone.
        rw [frees.members, Finset.mem_sdiff, Finset.mem_singleton] at missing
        intro present
        exact missing ⟨by rwa [Nat.add_right_comm], by omega⟩
      · rintro _ _ ⟨rfl, missing⟩
        exact ⟨0, Nat.succ_pos _, missing, sound.consistent.frees_nothing page⟩

theorem Sound.freeEach_ensures (sound : memory.Sound) (base : PhysAddr) (nonempty : 0 < count) :
    (memory.freeEach base.toNat count).Ensures
      (fun _ next => memory.Releasable base count ∧ memory.Frees (base.run count) next)
      fun _ next => ∃ freed < count, ¬ memory.Releasable base (freed + 1) ∧
        base.run freed ⊆ memory.pages.members ∧ memory.Frees (base.run freed) next := by
  by_cases aligned : base.isAligned = true
  · rw [PhysAddr.toNat_of_isAligned aligned]
    refine (sound.freeEach_pages base.page count).imp ?_ ?_
    · rintro _ _ ⟨allocated, frees⟩
      exact ⟨.of_allocated aligned nonempty allocated, frees⟩
    · rintro _ _ ⟨freed, short, missing, allocated, frees⟩
      refine ⟨freed, short, fun contract => missing ?_, allocated, frees⟩
      exact contract.allocated (PhysAddr.mem_run.mpr ⟨Nat.le_add_right _ _, Nat.lt_succ_self _⟩)
  · obtain ⟨others, rfl⟩ := Nat.exists_eq_add_one_of_ne_zero nonempty.ne'
    rw [freeEach, freeAt_addr, Outcome.ensures_andThen]
    refine (free_frees sound.consistent base).imp ?_ ?_
    · rintro _ _ ⟨contract, -⟩
      exact absurd contract.aligned aligned
    · rintro _ _ ⟨rfl, broken⟩
      exact ⟨0, nonempty, broken, sound.consistent.frees_nothing base.page⟩

theorem Releasable.part (contract : memory.Releasable base count) {fewer : Nat} (less : fewer ≤ count) :
    memory.Releasable base fewer := by
  have fits := contract.fits
  refine ⟨contract.aligned, contract.inside, by omega, ?_⟩
  exact (Finset.Ico_subset_Ico_right (by omega)).trans contract.allocated

theorem Sound.freeEach_ok_iff (sound : memory.Sound) (base : PhysAddr) (nonempty : 0 < count) :
    (memory.freeEach base.toNat count).result = .ok () ↔ memory.Releasable base count := by
  have ensured := sound.freeEach_ensures base nonempty
  cases found : (memory.freeEach base.toNat count).result with
  | ok answer => exact iff_of_true rfl (ensured.of_ok found).1
  | error failure =>
      obtain ⟨freed, short, broken, -⟩ := ensured.of_error found
      exact iff_of_false nofun fun contract => broken (contract.part short)

/-- A run that begins at a page that may be freed is counted and addressed without leaving the range of
a word. -/
theorem Sound.run_exact (sound : memory.Sound) {first : Nat}
    (accepted : memory.pageToFree base = .ok first) :
    Word.sub memory.total first = .ok (memory.total - first) ∧
      (count ≤ memory.total - first → Word.add first count = .ok (first + count) ∧
        ∀ page < first + count, Word.mul page pageSize = .ok (page * pageSize) ∧
          ∃ addr, PhysAddr.ofPage page = .ok addr) := by
  obtain ⟨-, -, inside, rfl⟩ := (pageToFree_ok_iff ..).mp accepted
  have small := sound.total_le
  refine ⟨Word.sub_ok inside.le, fun short => ⟨Word.add_ok ?_, fun page below => ?_⟩⟩
  · rw [Word.max]
    omega
  · have bound := sound.addr_bound (show page < memory.total by omega)
    exact ⟨if_pos (bound.le.trans (by decide)), _, PhysAddr.ofPage_ok bound⟩

/-- Freeing `count` pages from `base` on at once is freeing them one by one, but for what is left when
that fails: all of the run against the part of it from the first page that cannot be freed. Nothing
that is computed on the way is too large for a word. -/
structure FreesAsOne (memory : PageAllocator) (base : PhysAddr) (count : Nat) : Prop where
  returns : (memory.freeRun base count).result = .ok () ↔
    (memory.freeEach base.toNat count).result = .ok ()
  agrees : (memory.freeRun base count).result = .ok () →
    (memory.freeRun base count).state = (memory.freeEach base.toNat count).state
  refused : ∀ failure, (memory.freeEach base.toNat count).result = .error failure →
    (∃ violation, (memory.freeRun base count).result = .error (.fatal violation)) ∧
      (memory.freeRun base count).state = memory
  stopped : ∀ failure, (memory.freeEach base.toNat count).result = .error failure →
    ∃ freed < count, ¬ memory.Releasable base (freed + 1) ∧
      base.run freed ⊆ memory.pages.members ∧
      memory.Frees (base.run freed) (memory.freeEach base.toNat count).state
  inRange : ∀ first, memory.pageToFree base = .ok first →
    Word.sub memory.total first = .ok (memory.total - first) ∧
      (count ≤ memory.total - first → Word.add first count = .ok (first + count) ∧
        ∀ page < first + count, Word.mul page pageSize = .ok (page * pageSize) ∧
          ∃ addr, PhysAddr.ofPage page = .ok addr)

theorem Sound.freesAsOne (sound : memory.Sound) (base : PhysAddr) (nonempty : 0 < count) :
    memory.FreesAsOne base count := by
  have each := sound.freeEach_ensures base nonempty
  have returns : (memory.freeRun base count).result = .ok () ↔
      (memory.freeEach base.toNat count).result = .ok () :=
    (freeRun_ok_iff sound base count).trans (sound.freeEach_ok_iff base nonempty).symm
  refine ⟨returns, fun returned => ?_, fun failure failed => ?_,
    fun failure failed => each.of_error failed, fun first accepted => sound.run_exact accepted⟩
  · obtain ⟨-, whole⟩ := (freeRun_frees sound.consistent base count).of_ok returned
    obtain ⟨-, pieces⟩ := each.of_ok (returns.mp returned)
    exact whole.unique pieces
  · cases found : (memory.freeRun base count).result with
    | ok answer =>
        rw [returns.mp found] at failed
        cases failed
    | error failure =>
        obtain ⟨⟨same, violation, rfl⟩, -⟩ := (freeRun_ensures sound base count).of_error found
        exact ⟨⟨violation, rfl⟩, same⟩

/-- In every state that a run of calls reaches, a run of pages can be freed at once exactly if its pages
can be freed one by one, with the same end, and a run that is refused is left alone. -/
theorem after_freesAsOne (calls : List PageCall) (small : (after calls).totalBytes ≤ 0x10000000000000)
    (base : PhysAddr) (count : Nat) (nonempty : 0 < count) :
    (after calls).FreesAsOne base count :=
  (after_sound small).freesAsOne base nonempty

/-- The second of three pages is free: nothing is freed at once, and the first one if they are freed one
by one. -/
theorem after_freesAsOne_gap :
    let memory := after [.free ⟨8192, by decide⟩, .allocRun 3, .start 32768 ⟨4096, by decide⟩]
    let base : PhysAddr := ⟨4096, by decide⟩
    memory.FreesAsOne base 3 ∧
      (memory.freeRun base 3).state.pages.members = {0, 1, 3} ∧
      (memory.freeEach 4096 3).state.pages.members = {0, 3} := by
  intro memory base
  refine ⟨after_freesAsOne _ (by decide +kernel) base 3 (by decide), ?_, ?_⟩ <;> decide +kernel

end MiniKernel.PageAllocator
