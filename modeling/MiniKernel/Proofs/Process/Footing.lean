import MiniKernel.Proofs.Process.Lifecycle
import MiniKernel.Proofs.Process.Stacks

/-! When a process gets its stacks, and what it then starts with. It gets them exactly if there are free
runs for them, and if there are none only the place moves where the next search begins. -/

namespace MiniKernel

namespace PageAllocator

variable {memory next : PageAllocator} {base : PhysAddr} {count : Nat}

theorem Granted.freeRun (granted : memory.Granted base count next) :
    memory.pages.FreeRun count base.page := by
  intro page lower upper
  have absent := Finset.disjoint_right.mp granted.fresh (PhysAddr.mem_run.mpr ⟨lower, upper⟩)
  have inside : page < memory.pages.size := upper.trans_le granted.fits
  simpa [PageSet.mem_members, inside] using absent

theorem Granted.not_exhausted (granted : memory.Granted base count next) :
    ¬ memory.Exhausted count := by
  rintro (empty | taken)
  · exact granted.nonempty.ne' empty
  · exact taken _ granted.freeRun

theorem allocStack_cases (sound : memory.Sound) (started : memory.started = true) (pages : Nat) :
    memory.Exhausted pages ∧ (memory.allocStack pages).result = .ok none ∧
        (memory.allocStack pages).state = memory ∨
      ∃ base, (memory.allocStack pages).result = .ok (some base) ∧
        memory.Granted base pages (memory.allocStack pages).state := by
  have ensured := allocStack_ensures sound pages
  cases found : (memory.allocStack pages).result with
  | ok answer =>
      have handed := ensured.of_ok found
      cases answer with
      | none => exact Or.inl ⟨handed.2, rfl, handed.1⟩
      | some base => exact Or.inr ⟨base, rfl, handed⟩
  | error failure =>
      obtain ⟨-, silent, -⟩ := ensured.of_error found
      rw [started] at silent
      cases silent

end PageAllocator

namespace ProcessTable

variable {table : ProcessTable} {memory next : PageAllocator} {kind : ProcessKind}

def Short (table : ProcessTable) (memory : PageAllocator) (kind : ProcessKind) : Prop :=
  memory.Exhausted table.kernelStackPages ∨
    kind = .user ∧ (memory.allocStack table.kernelStackPages).state.Exhausted table.userStackPages

theorem allocKernelFooting_short (sound : memory.Sound) (started : memory.started = true)
    (entry : VirtAddr) :
    (table.allocKernelFooting memory entry).Ensures
      (fun _ _ => ¬ table.Short memory .kernelThread)
      fun failure _ => failure = .refused .outOfMemory ∧ table.Short memory .kernelThread := by
  rw [allocKernelFooting]
  rcases PageAllocator.allocStack_cases sound started table.kernelStackPages with
    ⟨exhausted, found, -⟩ | ⟨base, found, granted⟩
  · rw [Outcome.ensures_andThen_of_ok found]
    exact ⟨rfl, Or.inl exhausted⟩
  · obtain ⟨context, built⟩ := kernelThread_ok entry (granted.end_le sound)
    rw [Outcome.ensures_andThen_of_ok found, Outcome.ensures_map, built]
    exact not_or.mpr ⟨granted.not_exhausted, by simp⟩

theorem allocUserFooting_short (sound : memory.Sound) (started : memory.started = true)
    (entry : VirtAddr) :
    (table.allocUserFooting memory entry).Ensures
      (fun _ _ => ¬ table.Short memory .user)
      fun failure _ => failure = .refused .outOfMemory ∧ table.Short memory .user := by
  rw [allocUserFooting]
  rcases PageAllocator.allocStack_cases sound started table.kernelStackPages with
    ⟨exhausted, found, -⟩ | ⟨kernelBase, found, granted⟩
  · rw [Outcome.ensures_andThen_of_ok found]
    exact ⟨rfl, Or.inl exhausted⟩
  rw [Outcome.ensures_andThen_of_ok found]
  rcases PageAllocator.allocStack_cases granted.sound (granted.started.trans started)
    table.userStackPages with ⟨exhausted, userFound, same⟩ | ⟨userBase, userFound, userGranted⟩
  · -- The kernel stack goes back first, and it can, for it was just granted.
    rw [Outcome.ensures_andThen_of_ok userFound, Outcome.ensures_andThen, same]
    refine (PageAllocator.freeStack_ok granted.sound granted.releasable).imp ?_
      fun _ _ impossible => impossible.elim
    exact fun _ _ _ => ⟨rfl, Or.inr ⟨rfl, exhausted⟩⟩
  · obtain ⟨context, built⟩ := userProcess_ok entry (granted.end_le sound)
      (userGranted.end_le granted.sound)
    rw [Outcome.ensures_andThen_of_ok userFound, Outcome.ensures_map, built]
    exact not_or.mpr ⟨granted.not_exhausted, fun short => userGranted.not_exhausted short.2⟩

theorem allocFooting_short (table : ProcessTable) (sound : memory.Sound)
    (started : memory.started = true) (entry : VirtAddr) (kind : ProcessKind) :
    (table.allocFooting memory entry kind).Ensures (fun _ _ => ¬ table.Short memory kind)
      fun failure _ => failure = .refused .outOfMemory ∧ table.Short memory kind := by
  cases kind with
  | kernelThread => exact allocKernelFooting_short sound started entry
  | user => exact allocUserFooting_short sound started entry

/-! What a failed attempt leaves. -/

theorem Restored.eq (restored : Restored memory next) (sound : memory.Sound) :
    next = { memory with cursor := next.cursor } := by
  have pages : next.pages = memory.pages :=
    restored.sound.clean.ext sound.clean restored.total restored.members
  have used : next.used = memory.used := by
    rw [restored.sound.counted, sound.counted, pages]
  rw [← pages, ← used, ← restored.started]

theorem Uncreated.cases {entry : VirtAddr} {failure : Failure} {left : PageAllocator}
    (uncreated : table.Uncreated memory entry kind failure left) (sound : memory.Sound)
    (started : memory.started = true) :
    failure = .refused .tableFull ∧ table.freeSlot? = none ∧ left = memory ∨
      (∃ slot, table.freeSlot? = some slot) ∧
        (failure = .refused .outOfMemory ∧ table.Short memory kind ∧
            (∃ cursor, left = { memory with cursor }) ∨
          failure = .trapped .addOverflow ∧ Word.max ≤ table.nextPid) := by
  rcases uncreated with full | ⟨vacant, rfl, unfooted | ⟨-, overflow, full⟩⟩
  · exact Or.inl full
  · obtain ⟨refused, short⟩ := (table.allocFooting_short sound started entry kind).of_error unfooted
    subst refused
    refine Or.inr ⟨vacant, Or.inl ⟨rfl, short, ?_⟩⟩
    rcases (table.allocFooting_ensures sound entry kind).of_error unfooted with
      ⟨-, -, restored⟩ | ⟨silent, -⟩
    · exact ⟨_, restored.eq sound⟩
    · cases silent
  · exact Or.inr ⟨vacant, Or.inr ⟨overflow, Nat.le_of_lt_succ full⟩⟩

end ProcessTable

/-! What a new process starts with. -/

namespace PageAllocator

variable {memory next : PageAllocator} {base : PhysAddr} {count : Nat}

/-- A stack ends below the highest address, and on a page, so that its top is aligned already. -/
theorem Granted.top (granted : memory.Granted base count next) (sound : memory.Sound) :
    Registers.stackTop base.toNat count = .ok (base.toNat + pageSize * count) ∧
      (UInt64.ofNat (base.toNat + pageSize * count)).toNat = base.toNat + pageSize * count ∧
      (base.toNat + pageSize * count) % 16 = 0 := by
  have bound := granted.end_le sound
  have aligned : (base.toNat + count * pageSize) % 16 = 0 := by
    rw [PhysAddr.toNat_of_isAligned granted.aligned, ← Nat.add_mul]
    simp only [pageSize]
    omega
  rw [Nat.mul_comm pageSize, Registers.stackTop_ok bound, aligned, Nat.sub_zero]
  exact ⟨rfl, UInt64.toNat_ofNat_of_lt' (bound.trans_lt (by decide)), rfl⟩

end PageAllocator

structure ControlBlock.Poised (process : ControlBlock) (config : Config) (entry : VirtAddr) : Prop where
  entry : process.context.rip = entry.toWord
  kernelTop : process.context.rsp.toNat = process.kernelStack + pageSize * config.kernelStackPages
  kernelAligned : process.context.rsp.toNat % 16 = 0
  kernelThread : process.kind = .kernelThread → process.context =
    { cs := Selector.kernelCode, ss := Selector.kernelData, rip := process.context.rip
      rsp := process.context.rsp, rbp := process.context.rsp }
  user : process.kind = .user → process.context =
      { cs := Selector.userCode, ss := Selector.userData, rip := process.context.rip
        rsp := process.context.rsp, rbp := process.context.userRsp
        userRsp := process.context.userRsp } ∧
    process.context.userRsp.toNat = process.userStack + pageSize * config.userStackPages ∧
    process.context.userRsp.toNat % 16 = 0

def ControlBlock.StandsOn (process : ControlBlock) (page : Nat) : Prop :=
  process.kernelStack ≤ page * pageSize ∧ page * pageSize < process.context.rsp.toNat ∨
    process.kind = .user ∧ process.userStack ≤ page * pageSize ∧
      page * pageSize < process.context.userRsp.toNat

structure ControlBlock.Charged (process : ControlBlock) (config : Config)
    (memory left : PageAllocator) : Prop where
  taken : ∃ taken : Finset Nat, (∀ page, page ∈ taken ↔ process.StandsOn page) ∧
    Disjoint memory.pages.members taken ∧ left.pages.members = memory.pages.members ∪ taken ∧
    left.used = memory.used + taken.card ∧
    taken.card = match process.kind with
      | .kernelThread => config.kernelStackPages
      | .user => config.kernelStackPages + config.userStackPages
  total : left.total = memory.total
  started : left.started = memory.started

theorem PhysAddr.mem_run_iff_between {base : PhysAddr} (aligned : base.isAligned = true)
    {count page : Nat} : page ∈ base.run count ↔
      base.toNat ≤ page * pageSize ∧ page * pageSize < base.toNat + pageSize * count := by
  rw [mem_run, toNat_of_isAligned aligned]
  simp only [pageSize]
  omega

theorem PageAllocator.used_of_members {memory left : PageAllocator} (sound : memory.Sound)
    (leftSound : left.Sound) {taken : Finset Nat} (fresh : Disjoint memory.pages.members taken)
    (members : left.pages.members = memory.pages.members ∪ taken) :
    left.used = memory.used + taken.card := by
  rw [leftSound.counted, sound.counted, members, Finset.card_union_of_disjoint fresh]

namespace ProcessTable

theorem Footed.poised {table : ProcessTable} {memory next : PageAllocator} {entry : VirtAddr}
    {kind : ProcessKind} {footing : Footing} (footed : table.Footed memory entry kind footing next)
    (sound : memory.Sound) {config : Config}
    (kernelPages : table.kernelStackPages = config.kernelStackPages)
    (userPages : table.userStackPages = config.userStackPages) (name : String)
    (parent : Option ParentLink) : (table.newborn name kind footing parent).Poised config entry := by
  cases footed with
  | kernelThread granted built =>
      obtain ⟨top, word, aligned⟩ := granted.top sound
      simp only [Registers.kernelThread, top, bind, Except.bind, pure, Except.pure,
        Except.ok.injEq] at built
      subst built
      rw [← word] at aligned
      refine ⟨rfl, kernelPages ▸ word, aligned, fun _ => rfl, fun user => ?_⟩
      cases user
  | user granted userGranted built =>
      obtain ⟨top, word, aligned⟩ := granted.top sound
      obtain ⟨userTop, userWord, userAligned⟩ := userGranted.top granted.sound
      simp only [Registers.userProcess, top, userTop, bind, Except.bind, pure, Except.pure,
        Except.ok.injEq] at built
      subst built
      rw [← word] at aligned
      rw [← userWord] at userAligned
      refine ⟨rfl, kernelPages ▸ word, aligned, fun thread => ?_,
        fun _ => ⟨rfl, userPages ▸ userWord, userAligned⟩⟩
      cases thread

theorem Footed.charged {table : ProcessTable} {memory next : PageAllocator} {entry : VirtAddr}
    {kind : ProcessKind} {footing : Footing} (footed : table.Footed memory entry kind footing next)
    (sound : memory.Sound) {config : Config}
    (kernelPages : table.kernelStackPages = config.kernelStackPages)
    (userPages : table.userStackPages = config.userStackPages) (name : String)
    (parent : Option ParentLink) :
    (table.newborn name kind footing parent).Charged config memory next := by
  obtain ⟨-, kernelTop, -, -, user⟩ := footed.poised sound kernelPages userPages name parent
  cases footed with
  | @kernelThread base context _ granted built =>
      refine ⟨⟨base.run table.kernelStackPages, fun page => ?_, granted.fresh, granted.members,
        PageAllocator.used_of_members sound granted.sound granted.fresh granted.members, ?_⟩,
        granted.total, granted.started⟩
      · rw [PhysAddr.mem_run_iff_between granted.aligned, ControlBlock.StandsOn, kernelTop, kernelPages]
        simp [newborn, ControlBlock.new]
      · rw [PhysAddr.card_run]
        exact kernelPages
  | @user kernelBase userBase context middle _ granted userGranted built =>
      obtain ⟨-, userTop, -⟩ := user rfl
      have userFresh := userGranted.fresh
      rw [granted.members, Finset.disjoint_union_left] at userFresh
      obtain ⟨beforeFresh, apart⟩ := userFresh
      have fresh := Finset.disjoint_union_right.mpr ⟨granted.fresh, beforeFresh⟩
      have members : next.pages.members = memory.pages.members ∪
          (kernelBase.run table.kernelStackPages ∪ userBase.run table.userStackPages) := by
        rw [userGranted.members, granted.members, Finset.union_assoc]
      refine ⟨⟨_, fun page => ?_, fresh, members,
        PageAllocator.used_of_members sound userGranted.sound fresh members, ?_⟩,
        userGranted.total.trans granted.total, userGranted.started.trans granted.started⟩
      · rw [Finset.mem_union, PhysAddr.mem_run_iff_between granted.aligned,
          PhysAddr.mem_run_iff_between userGranted.aligned, ControlBlock.StandsOn, kernelTop, userTop,
          kernelPages, userPages]
        simp [newborn, ControlBlock.new]
      · rw [Finset.card_union_of_disjoint apart, PhysAddr.card_run, PhysAddr.card_run, kernelPages,
          userPages]
        rfl

end ProcessTable

end MiniKernel
