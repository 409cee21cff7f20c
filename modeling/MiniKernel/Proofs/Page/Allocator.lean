import MiniKernel.Page.Allocator
import MiniKernel.Proofs.Outcome
import MiniKernel.Proofs.Page.Search

/-! What each allocator call does to the set of allocated pages. A call that hands out or takes
back pages changes exactly these, and every other call leaves the allocator as it was. -/

namespace MiniKernel

namespace PhysAddr

def run (base : PhysAddr) (count : Nat) : Finset Nat := Finset.Ico base.page (base.page + count)

theorem mem_run {base : PhysAddr} {count page : Nat} :
    page ∈ base.run count ↔ base.page ≤ page ∧ page < base.page + count := Finset.mem_Ico

@[simp]
theorem card_run (base : PhysAddr) (count : Nat) : (base.run count).card = count := by
  simp [run]

theorem run_one (base : PhysAddr) : base.run 1 = {base.page} := by
  ext page
  rw [mem_run, Finset.mem_singleton]
  omega

theorem ofPage_ok {page : Nat} (bound : page * pageSize < 0x10000000000000) :
    ofPage page = .ok ⟨page * pageSize, bound⟩ := dif_pos bound

theorem page_ofPage {page : Nat} (bound : page * pageSize < 0x10000000000000) :
    (⟨page * pageSize, bound⟩ : PhysAddr).page = page :=
  Nat.mul_div_cancel _ (by decide)

theorem isAligned_ofPage {page : Nat} (bound : page * pageSize < 0x10000000000000) :
    (⟨page * pageSize, bound⟩ : PhysAddr).isAligned = true := by
  simp [isAligned]

theorem toNat_of_isAligned {base : PhysAddr} (aligned : base.isAligned = true) :
    base.toNat = base.page * pageSize := by
  simp only [isAligned, decide_eq_true_eq] at aligned
  exact (Nat.div_mul_cancel (Nat.dvd_of_mod_eq_zero aligned)).symm

end PhysAddr

namespace PageAllocator

structure Sound (memory : PageAllocator) : Prop where
  clean : memory.pages.Clean
  counted : memory.used = memory.pages.members.card
  addressable : memory.total * pageSize ≤ 0x10000000000000
  silent : memory.started = false → memory.total = 0

structure Consistent (memory : PageAllocator) : Prop where
  clean : memory.pages.Clean
  counted : memory.used = memory.pages.members.card
  bounded : memory.total ≤ Word.max
  silent : memory.started = false → memory.total = 0

theorem Consistent.sound {memory : PageAllocator} (consistent : memory.Consistent)
    (addressable : memory.total * pageSize ≤ 0x10000000000000) : memory.Sound :=
  ⟨consistent.clean, consistent.counted, addressable, consistent.silent⟩

theorem sound_unstarted : unstarted.Sound where
  clean := PageSet.clean_empty 0
  counted := by simp [unstarted]
  addressable := Nat.zero_le _
  silent := fun _ => rfl

def Exhausted (memory : PageAllocator) (count : Nat) : Prop :=
  count = 0 ∨ ∀ first, ¬ memory.pages.FreeRun count first

structure Granted (memory : PageAllocator) (base : PhysAddr) (count : Nat)
    (next : PageAllocator) : Prop where
  nonempty : 0 < count
  aligned : base.isAligned = true
  fits : base.page + count ≤ memory.total
  fresh : Disjoint memory.pages.members (base.run count)
  members : next.pages.members = memory.pages.members ∪ base.run count
  total : next.total = memory.total
  started : next.started = memory.started
  sound : next.Sound

structure Releasable (memory : PageAllocator) (base : PhysAddr) (count : Nat) : Prop where
  aligned : base.isAligned = true
  inside : base.page < memory.total
  fits : base.page + count ≤ memory.total
  allocated : base.run count ⊆ memory.pages.members

structure Released (memory : PageAllocator) (base : PhysAddr) (count : Nat)
    (next : PageAllocator) : Prop where
  contract : memory.Releasable base count
  members : next.pages.members = memory.pages.members \ base.run count
  total : next.total = memory.total
  started : next.started = memory.started
  cursor : next.cursor = memory.cursor
  sound : next.Sound

def Untouched (memory : PageAllocator) (failure : Failure) (next : PageAllocator) : Prop :=
  next = memory ∧ ∃ violation, failure = .fatal violation

theorem Sound.total_le {memory : PageAllocator} (sound : memory.Sound) : memory.total ≤ 0x10000000000 := by
  have addressable := sound.addressable
  simp only [pageSize] at addressable
  omega

theorem Sound.consistent {memory : PageAllocator} (sound : memory.Sound) : memory.Consistent where
  clean := sound.clean
  counted := sound.counted
  bounded := sound.total_le.trans (by decide)
  silent := sound.silent

theorem Consistent.used_le {memory : PageAllocator} (consistent : memory.Consistent) :
    memory.used ≤ memory.total := by
  rw [consistent.counted, total, ← Finset.card_range memory.pages.size]
  exact Finset.card_le_card memory.pages.members_subset_range

theorem Sound.used_le {memory : PageAllocator} (sound : memory.Sound) :
    memory.used ≤ memory.total := sound.consistent.used_le

theorem Sound.addr_bound {memory : PageAllocator} (sound : memory.Sound) {page : Nat}
    (inside : page < memory.total) : page * pageSize < 0x10000000000000 := by
  have addressable := sound.addressable
  simp only [pageSize] at addressable ⊢
  omega

/-! Handing out. -/

theorem nextFree_some {memory : PageAllocator} {page : Nat} (found : memory.nextFree = some page) :
    page < memory.total ∧ memory.pages.contains page = false := by
  have free : memory.pages.contains page = false := by
    rw [nextFree, Option.or_eq_some_iff] at found
    rcases found with found | ⟨-, found⟩
    · exact ((PageSet.firstFree_eq_some_iff ..).mp found).1.2.2
    · exact ((PageSet.firstFree_eq_some_iff ..).mp found).1.2.2
  exact ⟨PageSet.lt_size_of_free free, free⟩

theorem nextFree_none {memory : PageAllocator} (missing : memory.nextFree = none) :
    memory.Exhausted 1 := by
  rw [nextFree, Option.or_eq_none_iff, PageSet.firstFree_eq_none_iff,
    PageSet.firstFree_eq_none_iff] at missing
  refine Or.inr fun first run => ?_
  have free := run first (Nat.le_refl _) (Nat.lt_succ_self _)
  have taken : memory.pages.contains first = true := by
    by_cases before : first < memory.cursor
    · exact missing.2 first (Nat.zero_le _) before
    · by_cases inside : first < memory.total
      · exact missing.1 first (by omega) inside
      · exact PageSet.contains_of_size_le _ (Nat.le_of_not_lt inside)
  rw [taken] at free
  cases free

def withRun (memory : PageAllocator) (first count cursor : Nat) : PageAllocator :=
  { memory with pages := memory.pages.insertRun first count, used := memory.used + count, cursor }

@[simp]
theorem total_withRun (memory : PageAllocator) (first count cursor : Nat) :
    (memory.withRun first count cursor).total = memory.total := PageSet.size_insertRun ..

theorem Consistent.withRun {memory : PageAllocator} (consistent : memory.Consistent)
    {first count : Nat} (started : memory.started = true) (nonempty : 0 < count)
    (free : memory.pages.FreeRun count first) (cursor : Nat) :
    (memory.withRun first count cursor).Consistent := by
  have members := PageSet.members_insertRun memory.pages first count (free.inside nonempty)
  constructor
  · exact consistent.clean.insertRun first count
  · change memory.used + count = (memory.pages.insertRun first count).members.card
    rw [members, Finset.card_union_of_disjoint free.fresh, Nat.card_Ico, consistent.counted]
    omega
  · rw [total_withRun]
    exact consistent.bounded
  · intro silent
    exact absurd (started.symm.trans silent) (by simp)

theorem Consistent.countable {memory : PageAllocator} (consistent : memory.Consistent)
    {first count : Nat} (started : memory.started = true) (nonempty : 0 < count)
    (free : memory.pages.FreeRun count first) : memory.used + count ≤ Word.max := by
  have next := consistent.withRun started nonempty free memory.cursor
  exact next.used_le.trans next.bounded

theorem Sound.granted {memory : PageAllocator} (sound : memory.Sound) {first count : Nat}
    (started : memory.started = true) (nonempty : 0 < count) (free : memory.pages.FreeRun count first)
    (cursor : Nat) (bound : first * pageSize < 0x10000000000000) :
    memory.Granted ⟨first * pageSize, bound⟩ count (memory.withRun first count cursor) := by
  have fits : first + count ≤ memory.pages.size := free.inside nonempty
  have run : (⟨first * pageSize, bound⟩ : PhysAddr).run count =
      Finset.Ico first (first + count) := by
    rw [PhysAddr.run, PhysAddr.page_ofPage]
  constructor
  · exact nonempty
  · exact PhysAddr.isAligned_ofPage bound
  · rw [PhysAddr.page_ofPage]
    exact fits
  · rw [run]
    exact free.fresh
  · rw [run]
    exact PageSet.members_insertRun memory.pages first count fits
  · exact total_withRun ..
  · rfl
  · refine (sound.consistent.withRun started nonempty free cursor).sound ?_
    rw [total_withRun]
    exact sound.addressable

theorem freeRun_of_nextFree {memory : PageAllocator} {page : Nat}
    (found : memory.nextFree = some page) : memory.pages.FreeRun 1 page := by
  intro other lower upper
  obtain rfl : other = page := by omega
  exact (nextFree_some found).2

theorem alloc_eq {memory : PageAllocator} (consistent : memory.Consistent)
    (started : memory.started = true) {page : Nat} (found : memory.nextFree = some page) :
    memory.alloc =
      (Outcome.ofMachine (memory.withRun page 1 (page + 1)) (PhysAddr.ofPage page)).map some := by
  have counted := consistent.countable started Nat.one_pos (freeRun_of_nextFree found)
  rw [alloc, if_pos started, found]
  simp only [Word.add_ok counted, Outcome.ofMachine, Outcome.done_andThen]
  rfl

theorem allocRun_eq {memory : PageAllocator} (consistent : memory.Consistent)
    (started : memory.started = true) {first count : Nat}
    (found : memory.pages.firstFreeRun count = some first) :
    memory.allocRun count =
      (Outcome.ofMachine (memory.withRun first count memory.cursor) (PhysAddr.ofPage first)).map
        some := by
  obtain ⟨nonempty, least⟩ := (PageSet.firstFreeRun_eq_some_iff ..).mp found
  rw [allocRun, if_pos started, found]
  simp only [Word.add_ok (consistent.countable started nonempty least.1), Outcome.ofMachine,
    Outcome.done_andThen]
  rfl

structure Placed (memory : PageAllocator) (first count : Nat) (base : PhysAddr)
    (next : PageAllocator) : Prop extends memory.Granted base count next where
  address : base.toNat = first * pageSize
  used : next.used = memory.used + count

theorem Sound.placed {memory : PageAllocator} {first count : Nat} (sound : memory.Sound)
    (started : memory.started = true) (nonempty : 0 < count) (free : memory.pages.FreeRun count first)
    (cursor : Nat) :
    ∃ base, (Outcome.ofMachine (memory.withRun first count cursor) (PhysAddr.ofPage first)).map some =
        .done (memory.withRun first count cursor) (some base) ∧
      memory.Placed first count base (memory.withRun first count cursor) := by
  have inside := free.inside nonempty
  have bound := sound.addr_bound (show first < memory.total by simp only [total]; omega)
  refine ⟨⟨first * pageSize, bound⟩, ?_, sound.granted started nonempty free cursor bound, rfl, rfl⟩
  rw [PhysAddr.ofPage_ok bound]
  rfl

theorem Sound.alloc_placed {memory : PageAllocator} (sound : memory.Sound)
    (started : memory.started = true) {page : Nat} (found : memory.nextFree = some page) :
    ∃ base, memory.alloc = .done (memory.withRun page 1 (page + 1)) (some base) ∧
      memory.Placed page 1 base (memory.withRun page 1 (page + 1)) := by
  rw [alloc_eq sound.consistent started found]
  exact sound.placed started Nat.one_pos (freeRun_of_nextFree found) (page + 1)

theorem Sound.allocRun_placed {memory : PageAllocator} (sound : memory.Sound)
    (started : memory.started = true) {first count : Nat}
    (found : memory.pages.firstFreeRun count = some first) :
    ∃ base, memory.allocRun count = .done (memory.withRun first count memory.cursor) (some base) ∧
      memory.Placed first count base (memory.withRun first count memory.cursor) := by
  obtain ⟨nonempty, run, -⟩ := (PageSet.firstFreeRun_eq_some_iff ..).mp found
  rw [allocRun_eq sound.consistent started found]
  exact sound.placed started nonempty run memory.cursor

theorem alloc_denied {memory : PageAllocator} (started : memory.started = true)
    (missing : memory.nextFree = none) :
    memory.alloc = .after (.outOfPages memory.used) (.done memory none) := by
  rw [alloc, if_pos started, missing]

theorem allocRun_denied {memory : PageAllocator} (started : memory.started = true) {count : Nat}
    (missing : memory.pages.firstFreeRun count = none) :
    memory.allocRun count = .after (.noFreeRun count) (.done memory none) := by
  rw [allocRun, if_pos started, missing]

theorem alloc_ensures {memory : PageAllocator} (sound : memory.Sound)
    (started : memory.started = true) :
    memory.alloc.Ensures
      (fun base next => match base with
        | none => next = memory ∧ memory.Exhausted 1
        | some base => memory.Granted base 1 next)
      fun _ _ => False := by
  cases found : memory.nextFree with
  | none =>
      rw [alloc_denied started found]
      exact ⟨rfl, nextFree_none found⟩
  | some page =>
      obtain ⟨base, allocated, placed⟩ := sound.alloc_placed started found
      rw [allocated]
      exact placed.toGranted

theorem allocRun_ensures {memory : PageAllocator} (sound : memory.Sound)
    (started : memory.started = true) (count : Nat) :
    (memory.allocRun count).Ensures
      (fun base next => match base with
        | none => next = memory ∧ memory.Exhausted count
        | some base => memory.Granted base count next)
      fun _ _ => False := by
  cases found : memory.pages.firstFreeRun count with
  | none =>
      rw [allocRun_denied started found]
      exact ⟨rfl, (PageSet.firstFreeRun_eq_none_iff ..).mp found⟩
  | some first =>
      obtain ⟨base, allocated, placed⟩ := sound.allocRun_placed started found
      rw [allocated]
      exact placed.toGranted

theorem alloc_unstarted {memory : PageAllocator} (silent : memory.started = false) :
    memory.alloc = .fatal memory .allocatorNotStarted := by
  simp [alloc, silent]

theorem allocRun_unstarted {memory : PageAllocator} (silent : memory.started = false) (count : Nat) :
    memory.allocRun count = .fatal memory .allocatorNotStarted := by
  simp [allocRun, silent]

/-! Taking back. -/

theorem pageToFree_unstarted {memory : PageAllocator} (silent : memory.started = false)
    (addr : PhysAddr) : memory.pageToFree addr = .error .allocatorNotStarted := by
  simp [pageToFree, silent]

theorem free_unstarted {memory : PageAllocator} (silent : memory.started = false) (addr : PhysAddr) :
    memory.free addr = .fatal memory .allocatorNotStarted := by
  rw [free, pageToFree_unstarted silent]

theorem freeRun_unstarted {memory : PageAllocator} (silent : memory.started = false)
    (base : PhysAddr) (count : Nat) :
    memory.freeRun base count = .fatal memory .allocatorNotStarted := by
  rw [freeRun, pageToFree_unstarted silent]

theorem pageToFree_ok_iff (memory : PageAllocator) (addr : PhysAddr) (page : Nat) :
    memory.pageToFree addr = .ok page ↔
      memory.started = true ∧ addr.isAligned = true ∧ addr.page < memory.total ∧ addr.page = page := by
  unfold pageToFree
  cases memory.started
  · simp
  cases addr.isAligned
  · simp
  by_cases inside : addr.page < memory.total
  · simp [inside, Nat.not_le.mpr inside]
  · simp [inside, Nat.le_of_not_lt inside]

theorem Releasable.started {memory : PageAllocator} {base : PhysAddr} {count : Nat}
    (contract : memory.Releasable base count) (consistent : memory.Consistent) :
    memory.started = true := by
  by_contra silent
  have empty := consistent.silent (by simpa using silent)
  have inside := contract.inside
  omega

theorem Releasable.of_allocated {memory : PageAllocator} {base : PhysAddr} {count : Nat}
    (aligned : base.isAligned = true) (nonempty : 0 < count)
    (allocated : base.run count ⊆ memory.pages.members) : memory.Releasable base count := by
  have last : base.page + (count - 1) ∈ base.run count :=
    PhysAddr.mem_run.mpr ⟨Nat.le_add_right _ _, by omega⟩
  have inside : base.page + (count - 1) < memory.total := PageSet.members_lt (allocated last)
  exact ⟨aligned, by omega, by omega, allocated⟩

theorem Consistent.not_releasable {memory : PageAllocator} (consistent : memory.Consistent)
    {addr : PhysAddr} {violation : Violation} (refused : memory.pageToFree addr = .error violation)
    (count : Nat) : ¬ memory.Releasable addr count := by
  intro contract
  have accepted := (pageToFree_ok_iff memory addr addr.page).mpr
    ⟨contract.started consistent, contract.aligned, contract.inside, rfl⟩
  rw [refused] at accepted
  cases accepted

def withoutRun (memory : PageAllocator) (base : PhysAddr) (count : Nat) : PageAllocator :=
  { memory with pages := memory.pages.eraseRun base.page count, used := memory.used - count }

@[simp]
theorem total_withoutRun (memory : PageAllocator) (base : PhysAddr) (count : Nat) :
    (memory.withoutRun base count).total = memory.total := PageSet.size_eraseRun ..

theorem members_withoutRun (memory : PageAllocator) (base : PhysAddr) (count : Nat) :
    (memory.withoutRun base count).pages.members = memory.pages.members \ base.run count :=
  PageSet.members_eraseRun memory.pages base.page count

theorem release_eq {memory : PageAllocator} (consistent : memory.Consistent) {base : PhysAddr}
    {count : Nat} (contract : memory.Releasable base count) :
    memory.release base.page count = .done (memory.withoutRun base count) () := by
  have counted : count ≤ memory.used := by
    rw [consistent.counted, ← PhysAddr.card_run base count]
    exact Finset.card_le_card contract.allocated
  simp [release, Word.sub_ok counted, Outcome.ofMachine, withoutRun]

theorem Consistent.withoutRun {memory : PageAllocator} (consistent : memory.Consistent)
    {base : PhysAddr} {count : Nat} (contract : memory.Releasable base count) :
    (memory.withoutRun base count).Consistent := by
  constructor
  · exact consistent.clean.eraseRun base.page count
  · rw [members_withoutRun, Finset.card_sdiff_of_subset contract.allocated, PhysAddr.card_run,
      ← consistent.counted]
    rfl
  · rw [total_withoutRun]
    exact consistent.bounded
  · rw [total_withoutRun]
    exact consistent.silent

theorem Sound.released {memory : PageAllocator} (sound : memory.Sound) {base : PhysAddr} {count : Nat}
    (contract : memory.Releasable base count) :
    memory.Released base count (memory.withoutRun base count) := by
  refine ⟨contract, members_withoutRun .., total_withoutRun .., rfl, rfl, ?_⟩
  refine (sound.consistent.withoutRun contract).sound ?_
  rw [total_withoutRun]
  exact sound.addressable

theorem free_cases {memory : PageAllocator} (consistent : memory.Consistent) (addr : PhysAddr) :
    (memory.free addr).Ensures
      (fun _ next => memory.Releasable addr 1 ∧ next = memory.withoutRun addr 1)
      fun failure next => memory.Untouched failure next ∧ ¬ memory.Releasable addr 1 := by
  unfold free
  split
  · rename_i violation refused
    exact ⟨⟨rfl, violation, rfl⟩, consistent.not_releasable refused 1⟩
  · rename_i page accepted
    obtain ⟨started, aligned, inside, rfl⟩ := (pageToFree_ok_iff memory addr page).mp accepted
    split
    · rename_i present
      have contract : memory.Releasable addr 1 := by
        refine ⟨aligned, inside, inside, ?_⟩
        rw [PhysAddr.run_one, Finset.singleton_subset_iff]
        exact PageSet.mem_members.mpr ⟨inside, present⟩
      rw [release_eq consistent contract]
      exact ⟨contract, rfl⟩
    · rename_i missing
      refine ⟨⟨rfl, _, rfl⟩, fun contract => missing ?_⟩
      have member := contract.allocated (PhysAddr.mem_run.mpr ⟨Nat.le_refl _, Nat.lt_succ_self _⟩)
      exact (PageSet.mem_members.mp member).2

theorem free_ensures {memory : PageAllocator} (sound : memory.Sound) (addr : PhysAddr) :
    (memory.free addr).Ensures (fun _ next => memory.Released addr 1 next)
      fun failure next => memory.Untouched failure next ∧ ¬ memory.Releasable addr 1 := by
  refine (free_cases sound.consistent addr).imp ?_ fun _ _ refused => refused
  rintro _ _ ⟨contract, rfl⟩
  exact sound.released contract

/-- A run is taken back exactly if the contract holds for all of it. A page that has no address
cannot be reported, and the operation traps on it. -/
theorem freeRun_cases {memory : PageAllocator} (consistent : memory.Consistent) (base : PhysAddr)
    (count : Nat) :
    (memory.freeRun base count).Ensures
      (fun _ next => memory.Releasable base count ∧ next = memory.withoutRun base count)
      fun failure next => next = memory ∧
        (memory.total * pageSize ≤ 0x10000000000000 → ∃ violation, failure = .fatal violation) ∧
        ¬ memory.Releasable base count := by
  unfold freeRun
  split
  · rename_i violation refused
    exact ⟨rfl, fun _ => ⟨violation, rfl⟩, consistent.not_releasable refused count⟩
  · rename_i first accepted
    obtain ⟨started, aligned, inside, rfl⟩ := (pageToFree_ok_iff memory base first).mp accepted
    by_cases long : memory.total - base.page < count
    · rw [if_pos long]
      refine ⟨rfl, fun _ => ⟨_, rfl⟩, fun contract => ?_⟩
      have fits := contract.fits
      omega
    · rw [if_neg long]
      split
      · rename_i taken
        rw [PageSet.firstFree_eq_none_iff] at taken
        have contract : memory.Releasable base count := by
          refine ⟨aligned, inside, by omega, ?_⟩
          intro page member
          obtain ⟨lower, upper⟩ := PhysAddr.mem_run.mp member
          have bound : page < memory.total := by omega
          exact PageSet.mem_members.mpr ⟨bound, taken page lower upper⟩
        rw [release_eq consistent contract]
        exact ⟨contract, rfl⟩
      · rename_i page found
        obtain ⟨lower, upper, free⟩ := ((PageSet.firstFree_eq_some_iff ..).mp found).1
        have broken : ¬ memory.Releasable base count := by
          intro contract
          have member := contract.allocated (PhysAddr.mem_run.mpr ⟨lower, upper⟩)
          rw [(PageSet.mem_members.mp member).2] at free
          cases free
        have bound : page < memory.total := by omega
        rw [Outcome.ensures_andThen, Outcome.ensures_ofMachine]
        refine ⟨fun addr _ => ⟨rfl, fun _ => ⟨_, rfl⟩, broken⟩, fun cause trapped => ⟨rfl, ?_, broken⟩⟩
        intro addressable
        rw [PhysAddr.ofPage_ok ((consistent.sound addressable).addr_bound bound)] at trapped
        cases trapped

theorem freeRun_ensures {memory : PageAllocator} (sound : memory.Sound) (base : PhysAddr)
    (count : Nat) :
    (memory.freeRun base count).Ensures (fun _ next => memory.Released base count next)
      fun failure next => memory.Untouched failure next ∧ ¬ memory.Releasable base count := by
  refine (freeRun_cases sound.consistent base count).imp ?_ ?_
  · rintro _ _ ⟨contract, rfl⟩
    exact sound.released contract
  · rintro failure _ ⟨same, violation, broken⟩
    exact ⟨⟨same, violation sound.addressable⟩, broken⟩

/-! Starting. -/

def reservedBelow (reservedEnd : PhysAddr) : Nat := (reservedEnd.toNat + pageSize - 1) / pageSize

structure Started (memory : PageAllocator) (bytes : Nat) (reservedEnd : PhysAddr)
    (next : PageAllocator) : Prop where
  silent : memory.started = false
  members : next.pages.members = Finset.range (reservedBelow reservedEnd)
  reserved : reservedBelow reservedEnd < next.total
  total : next.total = bytes / pageSize
  started : next.started = true
  sound : next.Sound

theorem start_cases (memory : PageAllocator) (bytes : Nat) (reservedEnd : PhysAddr) :
    (memory.start bytes reservedEnd).Ensures
      (fun _ next => memory.started = false ∧ next.started = true ∧ next.Consistent ∧
        next.total = bytes / pageSize ∧ reservedBelow reservedEnd < bytes / pageSize ∧
        next.pages.members = Finset.range (reservedBelow reservedEnd) ∧
        next.cursor = reservedBelow reservedEnd)
      fun failure next => next = memory ∧
        (bytes ≤ 0x10000000000000 → ∃ violation, failure = .fatal violation) := by
  unfold start
  by_cases again : memory.started = true
  · rw [if_pos again]
    exact ⟨rfl, fun _ => ⟨_, rfl⟩⟩
  rw [if_neg again]
  split
  · exact ⟨rfl, fun _ => ⟨_, rfl⟩⟩
  rename_i room
  have reserved : reservedBelow reservedEnd < bytes / pageSize := Nat.lt_of_not_le room
  by_cases words : bytes / pageSize + 64 ≤ Word.max
  · have members : ((PageSet.empty (bytes / pageSize)).insertRun 0
        (reservedBelow reservedEnd)).members = Finset.range (reservedBelow reservedEnd) := by
      rw [PageSet.members_insertRun _ _ _ (by simpa using reserved.le), PageSet.members_empty,
        Finset.empty_union, Nat.zero_add, Nat.Ico_zero_eq_range]
    have counted := congrArg Finset.card members
    rw [Finset.card_range] at counted
    simp only [PageSet.create_ok words, Outcome.ensures_after, Outcome.ensures_done]
    refine ⟨by simpa using again, trivial, ⟨?_, counted.symm, ?_, by rintro ⟨⟩⟩, ?_, reserved, members,
      rfl⟩
    · exact (PageSet.clean_empty _).insertRun 0 _
    · simp only [total, PageSet.size_insertRun, PageSet.size_empty]
      omega
    · simp only [total, PageSet.size_insertRun, PageSet.size_empty]
  · rw [PageSet.create_error words]
    refine ⟨rfl, fun addressable => absurd ?_ words⟩
    simp only [pageSize, Word.max]
    omega

theorem start_ensures {memory : PageAllocator} {bytes : Nat} (addressable : bytes ≤ 0x10000000000000)
    (reservedEnd : PhysAddr) :
    (memory.start bytes reservedEnd).Ensures (fun _ next => memory.Started bytes reservedEnd next)
      memory.Untouched := by
  refine (start_cases memory bytes reservedEnd).imp ?_ ?_
  · rintro _ next ⟨silent, started, consistent, total, reserved, members, -⟩
    refine ⟨silent, members, total ▸ reserved, total, started, consistent.sound ?_⟩
    rw [total]
    simp only [pageSize]
    omega
  · exact fun failure _ ⟨same, violation⟩ => ⟨same, violation addressable⟩

end PageAllocator

end MiniKernel
