import MiniKernel.Proofs.Page.Keeping

/-! Which answers an allocator gives in a memory of any size. Every address that it hands out lies in
memory, and a request that is not answered has met a page without an address. Whether there are such
pages depends on nothing but the size of the memory that the allocator took charge of. -/

namespace MiniKernel

/-- How many pages have an address. An address has 52 bits, 12 of them within its page. -/
def addressedPages : Nat := 0x10000000000

theorem PhysAddr.ofPage_error {page : Nat} (outside : addressedPages ≤ page) :
    ofPage page = .error .physAddrRange := by
  have unaddressed : ¬ page * pageSize < 0x10000000000000 := by
    simp only [addressedPages, pageSize] at outside ⊢
    omega
  exact dif_neg unaddressed

namespace PageAllocator

variable {memory : PageAllocator} {bytes count first : Nat} {reservedEnd : PhysAddr}

/-! The memory that was taken charge of stays the same. -/

theorem start_ok (silent : memory.started = false)
    (room : reservedBelow reservedEnd < bytes / pageSize) (words : bytes / pageSize + 64 ≤ Word.max) :
    (memory.start bytes reservedEnd).result = .ok () := by
  have enough : ¬ bytes / pageSize ≤ (reservedEnd.toNat + pageSize - 1) / pageSize := Nat.not_le.mpr room
  simp only [start, silent, Bool.false_eq_true, if_false, if_neg enough, PageSet.create_ok words]
  rfl

structure Manages (memory : PageAllocator) (bytes : Nat) : Prop where
  consistent : memory.Consistent
  started : memory.started = true
  total : memory.total = bytes / pageSize

theorem Manages.perform (manages : memory.Manages bytes) (nonempty : 0 < bytes / pageSize)
    (call : PageCall) : (memory.perform call).state.Manages bytes := by
  rcases perform_keeps manages.consistent call with keeps | ⟨silent, -⟩
  · have total := keeps.total.trans manages.total
    refine ⟨keeps.consistent, ?_, total⟩
    by_contra silent
    have empty := keeps.consistent.silent (by simpa using silent)
    omega
  · rw [manages.started] at silent
    cases silent

/-! What a request is answered with. -/

def Answers (bytes count : Nat) (found : Option Nat) : Except Failure (Option PhysAddr) → Prop
  | .ok none => found = none
  | .ok (some base) =>
      found = some base.page ∧ base.isAligned = true ∧ base.toNat + count * pageSize ≤ bytes
  | .error failure =>
      failure = .trapped .physAddrRange ∧ ∃ page, found = some page ∧ addressedPages ≤ page

theorem answers_withRun (fits : first + count ≤ bytes / pageSize) (next : PageAllocator) :
    Answers bytes count (some first)
      ((Outcome.ofMachine next (PhysAddr.ofPage first)).map some).result := by
  by_cases addressed : first < addressedPages
  · have bound : first * pageSize < 0x10000000000000 := by
      simp only [addressedPages, pageSize] at addressed ⊢
      omega
    have inMemory : first * pageSize + count * pageSize ≤ bytes := by
      rw [← Nat.add_mul]
      exact (Nat.mul_le_mul_right _ fits).trans (Nat.div_mul_le_self ..)
    rw [PhysAddr.ofPage_ok bound]
    exact ⟨congrArg some (PhysAddr.page_ofPage bound).symm, PhysAddr.isAligned_ofPage bound, inMemory⟩
  · rw [PhysAddr.ofPage_error (Nat.le_of_not_lt addressed)]
    exact ⟨rfl, first, rfl, Nat.le_of_not_lt addressed⟩

theorem Manages.alloc_answers (manages : memory.Manages bytes) :
    Answers bytes 1 memory.nextFree memory.alloc.result := by
  cases found : memory.nextFree with
  | none =>
      rw [alloc_denied manages.started found]
      exact rfl
  | some page =>
      rw [alloc_eq manages.consistent manages.started found]
      exact answers_withRun ((nextFree_some found).1.trans_eq manages.total) _

theorem Manages.allocRun_answers (manages : memory.Manages bytes) (count : Nat) :
    Answers bytes count (memory.pages.firstFreeRun count) (memory.allocRun count).result := by
  cases found : memory.pages.firstFreeRun count with
  | none =>
      rw [allocRun_denied manages.started found]
      exact rfl
  | some first =>
      obtain ⟨nonempty, run, -⟩ := (PageSet.firstFreeRun_eq_some_iff ..).mp found
      rw [allocRun_eq manages.consistent manages.started found]
      exact answers_withRun ((run.inside nonempty).trans_eq manages.total) _

theorem Answers.returns {found : Option Nat} {result : Except Failure (Option PhysAddr)}
    (answers : Answers bytes count found result)
    (addressed : ∀ page, found = some page → page < addressedPages) :
    ∃ answer, result = .ok answer := by
  cases result with
  | ok answer => exact ⟨answer, rfl⟩
  | error failure =>
      obtain ⟨-, page, present, outside⟩ := answers
      exact absurd (addressed page present) (Nat.not_lt.mpr outside)

structure Forthright (memory : PageAllocator) (bytes : Nat) : Prop where
  single : Answers bytes 1 memory.nextFree memory.alloc.result
  run : ∀ count, Answers bytes count (memory.pages.firstFreeRun count) (memory.allocRun count).result

theorem Manages.forthright (manages : memory.Manages bytes) : memory.Forthright bytes :=
  ⟨manages.alloc_answers, manages.allocRun_answers⟩

structure Responsive (memory : PageAllocator) : Prop where
  single : ∃ answer, memory.alloc.result = .ok answer
  run : ∀ count, ∃ answer, (memory.allocRun count).result = .ok answer

theorem Forthright.responsive (forthright : memory.Forthright bytes)
    (addressed : memory.total ≤ addressedPages) : memory.Responsive := by
  refine ⟨forthright.single.returns ?_, fun count => (forthright.run count).returns ?_⟩
  · intro page found
    exact (nextFree_some found).1.trans_le addressed
  · intro first found
    obtain ⟨nonempty, run, -⟩ := (PageSet.firstFreeRun_eq_some_iff ..).mp found
    have inside : first + count ≤ memory.total := run.inside nonempty
    omega

/-! Filling memory up. -/

structure Filled (memory : PageAllocator) (bytes first : Nat) : Prop extends memory.Manages bytes where
  members : memory.pages.members = Finset.range first
  behind : memory.cursor ≤ first

theorem Filled.contains_iff (filled : memory.Filled bytes first) {page : Nat}
    (inside : page < memory.total) : memory.pages.contains page = true ↔ page < first := by
  rw [← Finset.mem_range, ← filled.members, PageSet.mem_members]
  exact (and_iff_right inside).symm

theorem Filled.nextFree (filled : memory.Filled bytes first) (inside : first < bytes / pageSize) :
    memory.nextFree = some first := by
  rw [← filled.total] at inside
  have found : memory.pages.firstFree memory.cursor memory.total = some first := by
    rw [PageSet.firstFree_eq_some_iff]
    refine ⟨⟨filled.behind, inside, ?_⟩, ?_⟩
    · rw [Bool.eq_false_iff, Ne, filled.contains_iff inside]
      exact Nat.lt_irrefl _
    · rintro page ⟨-, below, free⟩
      by_contra before
      rw [(filled.contains_iff below).mpr (Nat.lt_of_not_le before)] at free
      cases free
  rw [PageAllocator.nextFree, found, Option.some_or]

theorem Filled.firstFreeRun (filled : memory.Filled bytes first) (nonempty : 0 < count)
    (fits : first + count ≤ bytes / pageSize) : memory.pages.firstFreeRun count = some first := by
  rw [← filled.total] at fits
  rw [PageSet.firstFreeRun_eq_some_iff]
  refine ⟨nonempty, fun page lower upper => ?_, fun page run => ?_⟩
  · rw [Bool.eq_false_iff, Ne, filled.contains_iff (by omega)]
    omega
  · by_contra before
    have free := run page (Nat.le_refl _) (by omega)
    rw [(filled.contains_iff (by omega)).mpr (by omega)] at free
    cases free

theorem Filled.allocRun (filled : memory.Filled bytes first) (fits : first + count ≤ bytes / pageSize) :
    (memory.allocRun count).state.Filled bytes (first + count) := by
  rcases count.eq_zero_or_pos with rfl | nonempty
  · have missing := (PageSet.firstFreeRun_eq_none_iff memory.pages 0).mpr (Or.inl rfl)
    rw [allocRun_denied filled.started missing]
    exact filled
  · have manages := filled.toManages.perform (by omega) (.allocRun count)
    rw [perform] at manages
    have found := filled.firstFreeRun nonempty fits
    rw [allocRun_eq filled.consistent filled.started found] at manages ⊢
    have handed : ∀ next : PageAllocator,
        ((Outcome.ofMachine next (PhysAddr.ofPage first)).map some).state = next := by
      intro next
      cases PhysAddr.ofPage first <;> rfl
    rw [handed] at manages ⊢
    refine ⟨manages, ?_, filled.behind.trans (Nat.le_add_right ..)⟩
    change (memory.pages.insertRun first count).members = _
    rw [PageSet.members_insertRun _ _ _ (fits.trans filled.total.ge), filled.members,
      ← Nat.Ico_zero_eq_range, ← Nat.Ico_zero_eq_range,
      Finset.Ico_union_Ico_eq_Ico (Nat.zero_le _) (Nat.le_add_right ..)]

theorem Filled.alloc_unaddressed (filled : memory.Filled bytes addressedPages)
    (beyond : addressedPages < bytes / pageSize) :
    memory.alloc.result = .error (.trapped .physAddrRange) := by
  rw [alloc_eq filled.consistent filled.started (filled.nextFree beyond),
    PhysAddr.ofPage_error (Nat.le_refl _)]
  rfl

/-! Runs that go on after a start. -/

variable {earlier : List PageCall}

theorem after_filled (accepted : ((after earlier).start bytes reservedEnd).result = .ok ()) :
    (after (.start bytes reservedEnd :: earlier)).Filled bytes (reservedBelow reservedEnd) ∧
      reservedBelow reservedEnd < bytes / pageSize := by
  obtain ⟨-, started, consistent, total, room, members, cursor⟩ :=
    (start_cases (after earlier) bytes reservedEnd).of_ok accepted
  exact ⟨⟨⟨consistent, started, total⟩, members, cursor.le⟩, room⟩

theorem after_manages (accepted : ((after earlier).start bytes reservedEnd).result = .ok ())
    (later : List PageCall) : (after (later ++ .start bytes reservedEnd :: earlier)).Manages bytes := by
  obtain ⟨filled, room⟩ := after_filled accepted
  induction later with
  | nil => exact filled.toManages
  | cons call later ih => exact ih.perform (by omega) call

theorem reservedBelow_le (reservedEnd : PhysAddr) : reservedBelow reservedEnd ≤ addressedPages := by
  have bound := reservedEnd.bound
  simp only [reservedBelow, addressedPages, pageSize]
  omega

theorem exists_filled (accepted : ((after earlier).start bytes reservedEnd).result = .ok ())
    (beyond : addressedPages < bytes / pageSize) :
    ∃ later, (after (later ++ .start bytes reservedEnd :: earlier)).Filled bytes addressedPages := by
  have whole := Nat.add_sub_cancel' (reservedBelow_le reservedEnd)
  have filled := (after_filled accepted).1.allocRun (whole.trans_le beyond.le)
  rw [whole] at filled
  exact ⟨[.allocRun (addressedPages - reservedBelow reservedEnd)], filled⟩

/-- After a start that succeeded every address that is handed out lies in memory, whatever the calls since,
and the only request that is not answered is one that meets a page without an address. There is none in
any state that calls can reach exactly if the memory ends before the first such page does. -/
theorem after_answers (accepted : ((after earlier).start bytes reservedEnd).result = .ok ()) :
    (∀ later, (after (later ++ .start bytes reservedEnd :: earlier)).Forthright bytes) ∧
    ((∀ later, (after (later ++ .start bytes reservedEnd :: earlier)).Responsive) ↔
      bytes < 0x10000000000000 + pageSize) := by
  have forthright : ∀ later, (after (later ++ .start bytes reservedEnd :: earlier)).Forthright bytes :=
    fun later => (after_manages accepted later).forthright
  refine ⟨forthright, ?_⟩
  have ends : bytes < 0x10000000000000 + pageSize ↔ bytes / pageSize ≤ addressedPages := by
    simp only [pageSize, addressedPages]
    omega
  rw [ends]
  constructor
  · intro responsive
    by_contra beyond
    obtain ⟨later, filled⟩ := exists_filled accepted (Nat.lt_of_not_le beyond)
    obtain ⟨answer, returned⟩ := (responsive later).single
    rw [filled.alloc_unaddressed (Nat.lt_of_not_le beyond)] at returned
    cases returned
  · intro addressed later
    exact (forthright later).responsive ((after_manages accepted later).total.trans_le addressed)

theorem after_answers_largest :
    ((after [.alloc]).start 0x10000000000FFF ⟨0xFFFFFFFFFF000, by decide⟩).result = .ok () ∧
      ∀ later, (after (later ++ [.start 0x10000000000FFF ⟨0xFFFFFFFFFF000, by decide⟩, .alloc])).Responsive := by
  have accepted : ((after [.alloc]).start 0x10000000000FFF ⟨0xFFFFFFFFFF000, by decide⟩).result = .ok () :=
    start_ok (by decide) (by decide) (by decide)
  exact ⟨accepted, (after_answers accepted).2.mpr (by decide)⟩

/-- In a memory of one byte more the only page that is left free has no address, and the first request
for a page traps. -/
theorem alloc_beyondAddresses :
    (unstarted.start 0x10000000001000 ⟨0xFFFFFFFFFFFFF, by decide⟩).result = .ok () ∧
      (after [.start 0x10000000001000 ⟨0xFFFFFFFFFFFFF, by decide⟩]).alloc.result =
        .error (.trapped .physAddrRange) := by
  have accepted : ((after []).start 0x10000000001000 ⟨0xFFFFFFFFFFFFF, by decide⟩).result = .ok () :=
    start_ok (by decide) (by decide) (by decide)
  exact ⟨accepted, (after_filled accepted).1.alloc_unaddressed (by decide)⟩

end PageAllocator

end MiniKernel
