import MiniKernel.Proofs.Page.Run

/-! What an allocator keeps. A call takes back only what it was given, also when it fails and also
in a memory with more pages than addresses, where a page may be lost but is never handed out twice. -/

namespace MiniKernel.PageAllocator

variable {memory middle next : PageAllocator} {given later : Finset Nat} {base : PhysAddr}
  {first count : Nat}

structure Keeps (memory : PageAllocator) (given : Finset Nat) (next : PageAllocator) : Prop where
  consistent : next.Consistent
  total : next.total = memory.total
  members : memory.pages.members \ given ⊆ next.pages.members

theorem Consistent.keeps_self (consistent : memory.Consistent) : memory.Keeps ∅ memory :=
  ⟨consistent, rfl, Finset.sdiff_subset⟩

theorem Keeps.trans (keeps : memory.Keeps given middle) (after : middle.Keeps later next) :
    memory.Keeps (given ∪ later) next := by
  refine ⟨after.consistent, after.total.trans keeps.total, ?_⟩
  intro page member
  simp only [Finset.mem_sdiff, Finset.mem_union, not_or] at member
  obtain ⟨present, notGiven, notLater⟩ := member
  exact after.members
    (Finset.mem_sdiff.mpr ⟨keeps.members (Finset.mem_sdiff.mpr ⟨present, notGiven⟩), notLater⟩)

theorem Keeps.of_fresh (keeps : memory.Keeps given next)
    (fresh : Disjoint memory.pages.members given) : memory.Keeps ∅ next := by
  refine ⟨keeps.consistent, keeps.total, ?_⟩
  rw [Finset.sdiff_empty, ← Finset.sdiff_eq_self_of_disjoint fresh]
  exact keeps.members

theorem Keeps.mono (keeps : memory.Keeps given next) (included : given ⊆ later) :
    memory.Keeps later next :=
  ⟨keeps.consistent, keeps.total, (Finset.sdiff_subset_sdiff subset_rfl included).trans keeps.members⟩

theorem Keeps.retains {pages : Finset Nat} (keeps : memory.Keeps given next)
    (allocated : pages ⊆ memory.pages.members) (spared : Disjoint pages given) :
    pages ⊆ next.pages.members :=
  subset_trans (Finset.subset_sdiff.mpr ⟨allocated, spared⟩) keeps.members

theorem Keeps.releasable (keeps : memory.Keeps given next) (contract : memory.Releasable base count)
    (apart : Disjoint given (base.run count)) : next.Releasable base count := by
  refine ⟨contract.aligned, ?_, ?_, ?_⟩
  · rw [keeps.total]
    exact contract.inside
  · rw [keeps.total]
    exact contract.fits
  · exact keeps.retains contract.allocated apart.symm

theorem Keeps.sound (keeps : memory.Keeps given next) (sound : memory.Sound) : next.Sound :=
  keeps.consistent.sound (keeps.total ▸ sound.addressable)

structure Frees (memory : PageAllocator) (given : Finset Nat) (next : PageAllocator) : Prop where
  consistent : next.Consistent
  members : next.pages.members = memory.pages.members \ given
  total : next.total = memory.total
  cursor : next.cursor = memory.cursor
  started : next.started = memory.started

theorem Frees.keeps (frees : memory.Frees given next) : memory.Keeps given next :=
  ⟨frees.consistent, frees.total, frees.members.superset⟩

theorem Frees.trans (frees : memory.Frees given middle) (after : middle.Frees later next) :
    memory.Frees (given ∪ later) next := by
  refine ⟨after.consistent, ?_, after.total.trans frees.total, after.cursor.trans frees.cursor,
    after.started.trans frees.started⟩
  rw [after.members, frees.members, sdiff_sdiff_left]
  rfl

theorem Frees.unique {other : PageAllocator} (frees : memory.Frees given next)
    (others : memory.Frees given other) : next = other := by
  have members := frees.members.trans others.members.symm
  have pages : next.pages = other.pages := by
    refine PageSet.Clean.ext frees.consistent.clean others.consistent.clean ?_ members
    exact frees.total.trans others.total.symm
  have used : next.used = other.used := by
    rw [frees.consistent.counted, others.consistent.counted, members]
  have cursor := frees.cursor.trans others.cursor.symm
  have started := frees.started.trans others.started.symm
  cases next
  cases other
  simp_all

/-! Handing out. -/

structure Lent (memory : PageAllocator) (base : PhysAddr) (count : Nat) (next : PageAllocator) :
    Prop where
  keeps : memory.Keeps ∅ next
  contract : next.Releasable base count
  fresh : Disjoint memory.pages.members (base.run count)

def Lends (memory : PageAllocator) (count : Nat) (answer : Option PhysAddr) (next : PageAllocator) :
    Prop :=
  match answer with
  | none => next = memory
  | some base => memory.Lent base count next

theorem Consistent.keeps_withRun (consistent : memory.Consistent) (started : memory.started = true)
    (nonempty : 0 < count) (free : memory.pages.FreeRun count first) (cursor : Nat) :
    memory.Keeps ∅ (memory.withRun first count cursor) := by
  refine ⟨consistent.withRun started nonempty free cursor, total_withRun .., ?_⟩
  rw [Finset.sdiff_empty]
  change _ ⊆ (memory.pages.insertRun first count).members
  rw [PageSet.members_insertRun _ _ _ (free.inside nonempty)]
  exact Finset.subset_union_left

theorem Consistent.lends (consistent : memory.Consistent) (started : memory.started = true)
    (nonempty : 0 < count) (free : memory.pages.FreeRun count first) (cursor : Nat) :
    ((Outcome.ofMachine (memory.withRun first count cursor) (PhysAddr.ofPage first)).map some).Ensures
      (memory.Lends count) fun _ next => memory.Keeps ∅ next := by
  have keeps := consistent.keeps_withRun started nonempty free cursor
  rw [Outcome.ensures_map, Outcome.ensures_ofMachine]
  -- Without an address the run stays allocated, though nobody was lent it.
  refine ⟨?_, fun _ _ => keeps⟩
  intro base found
  have bound : first * pageSize < 0x10000000000000 := by
    by_contra outside
    rw [PhysAddr.ofPage, PhysAddr.ofNat, dif_neg outside] at found
    cases found
  rw [PhysAddr.ofPage_ok bound] at found
  obtain rfl := Except.ok.inj found
  have fits := free.inside nonempty
  have run : (⟨first * pageSize, bound⟩ : PhysAddr).run count =
      Finset.Ico first (first + count) := by
    rw [PhysAddr.run, PhysAddr.page_ofPage]
  refine ⟨keeps, ⟨PhysAddr.isAligned_ofPage bound, ?_, ?_, ?_⟩, run ▸ free.fresh⟩
  · rw [PhysAddr.page_ofPage, total_withRun, total]
    omega
  · rw [PhysAddr.page_ofPage, total_withRun]
    exact fits
  · rw [run]
    change _ ⊆ (memory.pages.insertRun first count).members
    rw [PageSet.members_insertRun _ _ _ fits]
    exact Finset.subset_union_right

theorem alloc_lends (consistent : memory.Consistent) :
    memory.alloc.Ensures (memory.Lends 1) fun _ next => memory.Keeps ∅ next := by
  cases started : memory.started with
  | false =>
      rw [alloc_unstarted started]
      exact consistent.keeps_self
  | true =>
      cases found : memory.nextFree with
      | none =>
          rw [alloc_denied started found]
          rfl
      | some page =>
          rw [alloc_eq consistent started found]
          exact consistent.lends started Nat.one_pos (freeRun_of_nextFree found) _

theorem allocRun_lends (consistent : memory.Consistent) (count : Nat) :
    (memory.allocRun count).Ensures (memory.Lends count) fun _ next => memory.Keeps ∅ next := by
  cases started : memory.started with
  | false =>
      rw [allocRun_unstarted started]
      exact consistent.keeps_self
  | true =>
      cases found : memory.pages.firstFreeRun count with
      | none =>
          rw [allocRun_denied started found]
          rfl
      | some first =>
          obtain ⟨nonempty, least⟩ := (PageSet.firstFreeRun_eq_some_iff ..).mp found
          rw [allocRun_eq consistent started found]
          exact consistent.lends started nonempty least.1 _

theorem Lends.keeps {answer : Option PhysAddr} (lends : memory.Lends count answer next)
    (consistent : memory.Consistent) : memory.Keeps ∅ next := by
  cases answer with
  | none =>
      obtain rfl : next = memory := lends
      exact consistent.keeps_self
  | some base => exact Lent.keeps lends

/-! Taking back. -/

theorem Consistent.frees_withoutRun (consistent : memory.Consistent)
    (contract : memory.Releasable base count) :
    memory.Frees (base.run count) (memory.withoutRun base count) :=
  ⟨consistent.withoutRun contract, members_withoutRun .., total_withoutRun .., rfl, rfl⟩

theorem free_frees (consistent : memory.Consistent) (addr : PhysAddr) :
    (memory.free addr).Ensures
      (fun _ next => memory.Releasable addr 1 ∧ memory.Frees (addr.run 1) next)
      fun _ next => next = memory ∧ ¬ memory.Releasable addr 1 := by
  refine (free_cases consistent addr).imp ?_ fun _ _ ⟨untouched, broken⟩ => ⟨untouched.1, broken⟩
  rintro _ _ ⟨contract, rfl⟩
  exact ⟨contract, consistent.frees_withoutRun contract⟩

theorem freeRun_frees (consistent : memory.Consistent) (base : PhysAddr) (count : Nat) :
    (memory.freeRun base count).Ensures
      (fun _ next => memory.Releasable base count ∧ memory.Frees (base.run count) next)
      fun _ next => next = memory ∧ ¬ memory.Releasable base count := by
  refine (freeRun_cases consistent base count).imp ?_ fun _ _ ⟨same, _, broken⟩ => ⟨same, broken⟩
  rintro _ _ ⟨contract, rfl⟩
  exact ⟨contract, consistent.frees_withoutRun contract⟩

/-- A call takes back what its result says and nothing else, unless it begins the service. -/
theorem perform_keeps (consistent : memory.Consistent) (call : PageCall) :
    memory.Keeps (call.released (memory.perform call).result) (memory.perform call).state ∨
      memory.started = false ∧ (memory.perform call).state.Consistent ∧
        ∃ bytes reservedEnd, call = .start bytes reservedEnd ∧
          (memory.perform call).state.total = bytes / pageSize := by
  suffices ensured : (memory.perform call).Ensures
      (fun answer next => memory.Keeps (call.released (.ok answer)) next ∨
        memory.started = false ∧ next.Consistent ∧
          ∃ bytes reservedEnd, call = .start bytes reservedEnd ∧ next.total = bytes / pageSize)
      fun _ next => memory.Keeps ∅ next by
    cases found : (memory.perform call).result with
    | ok answer => exact ensured.of_ok found
    | error failure => exact Or.inl ((PageCall.released_error ..).symm ▸ ensured.of_error found)
  cases call with
  | start bytes reservedEnd =>
      rw [perform, Outcome.ensures_map]
      refine (start_cases memory bytes reservedEnd).imp ?_ ?_
      · rintro _ next ⟨silent, -, begun, total, -⟩
        exact Or.inr ⟨silent, begun, bytes, reservedEnd, rfl, total⟩
      · rintro _ _ ⟨rfl, -⟩
        exact consistent.keeps_self
  | alloc =>
      exact (alloc_lends consistent).imp (fun _ _ lends => Or.inl (lends.keeps consistent))
        fun _ _ keeps => keeps
  | allocRun count =>
      exact (allocRun_lends consistent count).imp (fun _ _ lends => Or.inl (lends.keeps consistent))
        fun _ _ keeps => keeps
  | free addr =>
      rw [perform, Outcome.ensures_map]
      refine (free_frees consistent addr).imp (fun _ _ released => Or.inl released.2.keeps) ?_
      rintro _ _ ⟨rfl, -⟩
      exact consistent.keeps_self
  | freeRun base count =>
      rw [perform, Outcome.ensures_map]
      refine (freeRun_frees consistent base count).imp (fun _ _ released => Or.inl released.2.keeps) ?_
      rintro _ _ ⟨rfl, -⟩
      exact consistent.keeps_self

theorem perform_unstarted (silent : memory.started = false) (call : PageCall) :
    (∃ bytes reservedEnd, call = .start bytes reservedEnd) ∨ (memory.perform call).state = memory := by
  cases call with
  | start bytes reservedEnd => exact Or.inl ⟨bytes, reservedEnd, rfl⟩
  | alloc =>
      rw [perform, alloc_unstarted silent]
      exact Or.inr rfl
  | allocRun count =>
      rw [perform, allocRun_unstarted silent]
      exact Or.inr rfl
  | free addr =>
      rw [perform, free_unstarted silent]
      exact Or.inr rfl
  | freeRun base count =>
      rw [perform, freeRun_unstarted silent]
      exact Or.inr rfl

/-! Runs. -/

theorem after_consistent (calls : List PageCall) : (after calls).Consistent := by
  induction calls with
  | nil => exact sound_unstarted.consistent
  | cons call earlier ih =>
      rcases perform_keeps ih call with keeps | ⟨-, begun, -⟩
      · exact keeps.consistent
      · exact begun

theorem total_le_perform (consistent : memory.Consistent) (call : PageCall) :
    memory.total ≤ (memory.perform call).state.total := by
  rcases perform_keeps consistent call with keeps | ⟨silent, -⟩
  · exact keeps.total.ge
  · exact (consistent.silent silent).trans_le (Nat.zero_le _)

theorem after_sound {calls : List PageCall} (small : (after calls).totalBytes ≤ 0x10000000000000) :
    (after calls).Sound := (after_consistent calls).sound small

theorem small_of_cons {call : PageCall} {earlier : List PageCall}
    (small : (after (call :: earlier)).totalBytes ≤ 0x10000000000000) :
    (after earlier).totalBytes ≤ 0x10000000000000 :=
  (Nat.mul_le_mul_right _ (total_le_perform (after_consistent earlier) call)).trans small

end MiniKernel.PageAllocator
