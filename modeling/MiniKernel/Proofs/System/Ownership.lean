import Mathlib.Algebra.BigOperators.Group.Finset.Basic
import Mathlib.Algebra.Order.BigOperators.Group.Finset
import MiniKernel.Proofs.Process.Stacks
import MiniKernel.Proofs.System.Basic

/-! Who holds which page. The reserved pages, the pages of direct callers and the stacks of the
processes never overlap, and together they are all that is allocated: nothing leaks. -/

namespace MiniKernel

inductive Stack
  | kernel
  | user
  deriving DecidableEq, Repr

def span (address count : Nat) : Finset Nat :=
  Finset.Ico (address / pageSize) (address / pageSize + count)

namespace ControlBlock

def HasStack (process : ControlBlock) : Stack → Prop
  | .kernel => process.pid ≠ idlePid
  | .user => process.kind = .user

instance (process : ControlBlock) : (stack : Stack) → Decidable (process.HasStack stack)
  | .kernel => inferInstanceAs (Decidable (process.pid ≠ idlePid))
  | .user => inferInstanceAs (Decidable (process.kind = .user))

def stackAddress (process : ControlBlock) : Stack → Nat
  | .kernel => process.kernelStack
  | .user => process.userStack

def grounds (process : ControlBlock) : Pid × ProcessKind × Nat × Nat :=
  (process.pid, process.kind, process.kernelStack, process.userStack)

theorem stack_congr {left right : ControlBlock} (same : left.grounds = right.grounds)
    (stack : Stack) :
    (left.HasStack stack ↔ right.HasStack stack) ∧
      left.stackAddress stack = right.stackAddress stack := by
  simp only [grounds, Prod.mk.injEq] at same
  obtain ⟨pid, kind, kernelStack, userStack⟩ := same
  cases stack <;> simp [HasStack, stackAddress, pid, kind, kernelStack, userStack]

theorem grounds_of_fixed {left right : Option ControlBlock}
    (same : left.map ControlBlock.fixed = right.map ControlBlock.fixed) :
    left.map ControlBlock.grounds = right.map ControlBlock.grounds := by
  have grounds := congrArg (Option.map ControlBlock.grounds) same
  rw [Option.map_map, Option.map_map] at grounds
  exact grounds

end ControlBlock

namespace Config

def stackPages (config : Config) : Stack → Nat
  | .kernel => config.kernelStackPages
  | .user => config.userStackPages

def stackRun (config : Config) (process : ControlBlock) (stack : Stack) : Finset Nat :=
  if process.HasStack stack then span (process.stackAddress stack) (config.stackPages stack) else ∅

def footprint (config : Config) (process : ControlBlock) : Nat :=
  (if process.pid = idlePid then 0 else config.kernelStackPages) +
    match process.kind with
    | .kernelThread => 0
    | .user => config.userStackPages

end Config

inductive Owner
  | reserved
  | callers
  | process (slot : Nat) (stack : Stack)
  deriving DecidableEq

def Config.pagesOf (config : Config) (table : ProcessTable) (reserved held : Finset Nat) :
    Owner → Finset Nat
  | .reserved => reserved
  | .callers => held
  | .process slot stack => ((table.get? slot).map fun process => config.stackRun process stack).getD ∅

theorem ProcessTable.stack_before {table next : ProcessTable} {slot : Nat} {process : ControlBlock}
    {stack : Stack}
    (same : ∀ slot, (next.get? slot).map ControlBlock.grounds =
      (table.get? slot).map ControlBlock.grounds)
    (held : next.get? slot = some process) (has : process.HasStack stack) :
    ∃ before, table.get? slot = some before ∧ before.HasStack stack ∧
      before.stackAddress stack = process.stackAddress stack := by
  have grounds := same slot
  rw [held, Option.map_some] at grounds
  obtain ⟨before, beforeHeld, beforeGrounds⟩ := Option.map_eq_some_iff.mp grounds.symm
  obtain ⟨sameHas, address⟩ := ControlBlock.stack_congr beforeGrounds stack
  exact ⟨before, beforeHeld, sameHas.mpr has, address⟩

theorem Config.pagesOf_congr {config : Config} {table next : ProcessTable} {reserved held : Finset Nat}
    (same : ∀ slot, (next.get? slot).map ControlBlock.grounds =
      (table.get? slot).map ControlBlock.grounds) :
    config.pagesOf next reserved held = config.pagesOf table reserved held := by
  funext owner
  cases owner with
  | process slot stack =>
      have grounds := same slot
      cases after : next.get? slot <;> cases before : table.get? slot <;>
        simp [after, before] at grounds
      · simp [Config.pagesOf, after, before]
      · obtain ⟨has, address⟩ := ControlBlock.stack_congr grounds stack
        simp [Config.pagesOf, after, before, Config.stackRun, has, address]
  | _ => rfl

structure Partition (part : Owner → Finset Nat) (whole : Finset Nat) : Prop where
  apart : ∀ left right, left ≠ right → Disjoint (part left) (part right)
  covers : ∀ page, page ∈ whole ↔ ∃ owner, page ∈ part owner

namespace Partition

variable {part next : Owner → Finset Nat} {whole pages : Finset Nat}

theorem part_subset (partition : Partition part whole) (owner : Owner) : part owner ⊆ whole :=
  fun page member => (partition.covers page).mpr ⟨owner, member⟩

theorem grow (partition : Partition part whole) (owner : Owner) (fresh : Disjoint whole pages)
    (own : next owner = part owner ∪ pages) (others : ∀ other, other ≠ owner → next other = part other) :
    Partition next (whole ∪ pages) := by
  have away : ∀ other, other ≠ owner → Disjoint (next owner) (next other) := by
    intro other different
    rw [own, others other different, Finset.disjoint_union_left]
    exact ⟨partition.apart owner other different.symm,
      (Finset.disjoint_of_subset_left (partition.part_subset other) fresh).symm⟩
  constructor
  · intro left right different
    by_cases leftOwn : left = owner
    · subst left
      exact away right different.symm
    · by_cases rightOwn : right = owner
      · subst right
        exact (away left leftOwn).symm
      · rw [others left leftOwn, others right rightOwn]
        exact partition.apart left right different
  · intro page
    rw [Finset.mem_union, partition.covers]
    constructor
    · rintro (⟨other, member⟩ | member)
      · by_cases same : other = owner
        · exact ⟨owner, by rw [own]; exact Finset.mem_union_left _ (same ▸ member)⟩
        · exact ⟨other, by rwa [others other same]⟩
      · exact ⟨owner, by rw [own]; exact Finset.mem_union_right _ member⟩
    · rintro ⟨other, member⟩
      by_cases same : other = owner
      · rw [same, own, Finset.mem_union] at member
        exact member.imp (fun old => ⟨owner, old⟩) id
      · rw [others other same] at member
        exact Or.inl ⟨other, member⟩

theorem shrink (partition : Partition part whole) (owner : Owner) (owned : pages ⊆ part owner)
    (own : next owner = part owner \ pages) (others : ∀ other, other ≠ owner → next other = part other) :
    Partition next (whole \ pages) := by
  have below : ∀ other, next other ⊆ part other := by
    intro other
    by_cases same : other = owner
    · subst other
      rw [own]
      exact Finset.sdiff_subset
    · rw [others other same]
  have kept : ∀ other page, page ∈ next other ↔ page ∈ part other ∧ page ∉ pages := by
    intro other page
    by_cases same : other = owner
    · subst other
      rw [own, Finset.mem_sdiff]
    · rw [others other same]
      refine ⟨fun member => ⟨member, fun given => ?_⟩, And.left⟩
      exact Finset.disjoint_left.mp (partition.apart other owner same) member (owned given)
  constructor
  · intro left right different
    exact Finset.disjoint_of_subset_left (below left)
      (Finset.disjoint_of_subset_right (below right) (partition.apart left right different))
  · intro page
    rw [Finset.mem_sdiff, partition.covers]
    simp only [kept, exists_and_right]

theorem enter (partition : Partition part whole) {first second : Owner} (different : first ≠ second)
    (firstEmpty : part first = ∅) (secondEmpty : part second = ∅)
    (firstFresh : Disjoint whole (next first))
    (secondFresh : Disjoint (whole ∪ next first) (next second))
    (others : ∀ other, other ≠ first → other ≠ second → next other = part other) :
    Partition next (whole ∪ next first ∪ next second) := by
  have between : Partition (Function.update part first (next first)) (whole ∪ next first) := by
    refine partition.grow first firstFresh ?_ ?_
    · rw [Function.update_self, firstEmpty, Finset.empty_union]
    · exact fun other notFirst => Function.update_of_ne notFirst _ _
  refine between.grow second secondFresh ?_ ?_
  · rw [Function.update_of_ne different.symm, secondEmpty, Finset.empty_union]
  · intro other notSecond
    by_cases same : other = first
    · rw [same, Function.update_self]
    · rw [Function.update_of_ne same, others other same notSecond]

theorem leave (partition : Partition part whole) {first second : Owner} (different : first ≠ second)
    (firstEmpty : next first = ∅) (secondEmpty : next second = ∅)
    (others : ∀ other, other ≠ first → other ≠ second → next other = part other) :
    Partition next ((whole \ part first) \ part second) := by
  have between : Partition (Function.update part first ∅) (whole \ part first) := by
    refine partition.shrink first subset_rfl ?_ ?_
    · rw [Function.update_self, Finset.sdiff_self]
    · exact fun other notFirst => Function.update_of_ne notFirst _ _
  refine between.shrink second ?_ ?_ ?_
  · rw [Function.update_of_ne different.symm]
  · rw [Function.update_of_ne different.symm, secondEmpty, Finset.sdiff_self]
  · intro other notSecond
    by_cases same : other = first
    · rw [same, Function.update_self, firstEmpty]
    · rw [Function.update_of_ne same, others other same notSecond]

end Partition

namespace Config

variable {config : Config} {process : ControlBlock} {table : ProcessTable}
  {memory left : PageAllocator}

theorem stackRun_eq {stack : Stack} {base : PhysAddr} {count : Nat} (has : process.HasStack stack)
    (address : process.stackAddress stack = base.toNat) (pages : count = config.stackPages stack) :
    config.stackRun process stack = base.run count := by
  rw [stackRun, if_pos has, address, pages]
  rfl

theorem stackRun_kernelThread (kind : process.kind = .kernelThread) :
    config.stackRun process .user = ∅ := by
  simp [stackRun, ControlBlock.HasStack, kind]

structure Endowed (config : Config) (process : ControlBlock) (memory left : PageAllocator) :
    Prop where
  sound : left.Sound
  members : left.pages.members =
    memory.pages.members ∪ config.stackRun process .kernel ∪ config.stackRun process .user
  kernelFresh : Disjoint memory.pages.members (config.stackRun process .kernel)
  userFresh : Disjoint (memory.pages.members ∪ config.stackRun process .kernel)
    (config.stackRun process .user)
  based : ∀ stack, process.HasStack stack → ∃ base : PhysAddr,
    process.stackAddress stack = base.toNat ∧ base.isAligned = true ∧ 0 < config.stackPages stack

theorem endowed_of_footed {entry : VirtAddr} {footing : Footing}
    (footed : table.Footed memory entry process.kind footing left)
    (kernelPages : table.kernelStackPages = config.kernelStackPages)
    (userPages : table.userStackPages = config.userStackPages) (lives : process.pid ≠ idlePid)
    (kernelStack : process.kernelStack = footing.kernelStack)
    (userStack : process.userStack = footing.userStack) :
    config.Endowed process memory left := by
  generalize kind : process.kind = ofKind at footed
  cases footed with
  | @kernelThread base context _ granted built =>
      have userRun : config.stackRun process .user = ∅ := stackRun_kernelThread kind
      have kernelRun : config.stackRun process .kernel = base.run table.kernelStackPages :=
        stackRun_eq lives kernelStack kernelPages
      refine ⟨granted.sound, ?_, ?_, ?_, ?_⟩
      · rw [userRun, kernelRun, Finset.union_empty, granted.members]
      · rw [kernelRun]
        exact granted.fresh
      · rw [userRun]
        exact Finset.disjoint_empty_right _
      · intro stack has
        cases stack with
        | kernel => exact ⟨base, kernelStack, granted.aligned, granted.nonempty.trans_eq kernelPages⟩
        | user => exact absurd (kind.symm.trans has) (by simp)
  | @user base userBase context middle _ granted userGranted built =>
      have kernelRun : config.stackRun process .kernel = base.run table.kernelStackPages :=
        stackRun_eq lives kernelStack kernelPages
      have userRun : config.stackRun process .user = userBase.run table.userStackPages :=
        stackRun_eq kind userStack userPages
      have userFresh := userGranted.fresh
      rw [granted.members] at userFresh
      refine ⟨userGranted.sound, ?_, ?_, ?_, ?_⟩
      · rw [kernelRun, userRun, userGranted.members, granted.members]
      · rw [kernelRun]
        exact granted.fresh
      · rw [kernelRun, userRun]
        exact userFresh
      · intro stack has
        cases stack with
        | kernel => exact ⟨base, kernelStack, granted.aligned, granted.nonempty.trans_eq kernelPages⟩
        | user =>
            exact ⟨userBase, userStack, userGranted.aligned, userGranted.nonempty.trans_eq userPages⟩

theorem members_of_freed (freed : table.Freed memory process left)
    (kernelPages : table.kernelStackPages = config.kernelStackPages)
    (userPages : table.userStackPages = config.userStackPages) (lives : process.pid ≠ idlePid) :
    left.Sound ∧ left.pages.members =
      (memory.pages.members \ config.stackRun process .kernel) \
        config.stackRun process .user := by
  cases freed with
  | @kernelThread base _ kind address released =>
      have kernelRun : config.stackRun process .kernel = base.run table.kernelStackPages :=
        stackRun_eq lives address kernelPages
      refine ⟨released.sound, ?_⟩
      rw [stackRun_kernelThread kind, kernelRun, Finset.sdiff_empty, released.members]
  | @user base userBase middle _ kind address userAddress released userReleased =>
      have kernelRun : config.stackRun process .kernel = base.run table.kernelStackPages :=
        stackRun_eq lives address kernelPages
      have userRun : config.stackRun process .user = userBase.run table.userStackPages :=
        stackRun_eq kind userAddress userPages
      refine ⟨userReleased.sound, ?_⟩
      rw [kernelRun, userRun, userReleased.members, released.members]

end Config

structure Accounted (config : Config) (reserved held : Finset Nat) (table : ProcessTable)
    (memory : PageAllocator) : Prop where
  sound : memory.Sound
  sizes : table.kernelStackPages = config.kernelStackPages ∧
    table.userStackPages = config.userStackPages
  parts : Partition (config.pagesOf table reserved held) memory.pages.members
  based : ∀ slot process stack, table.get? slot = some process → process.HasStack stack →
    ∃ base : PhysAddr, process.stackAddress stack = base.toNat ∧ base.isAligned = true ∧
      0 < config.stackPages stack

namespace Accounted

variable {config : Config} {reserved held : Finset Nat} {table next : ProcessTable}
  {memory left : PageAllocator} {slot : Nat} {process : ControlBlock}

theorem congr (accounted : Accounted config reserved held table memory)
    (same : ∀ slot, (next.get? slot).map ControlBlock.grounds =
      (table.get? slot).map ControlBlock.grounds)
    (frame : next = { table with slots := next.slots, nextPid := next.nextPid }) :
    Accounted config reserved held next memory := by
  constructor
  · exact accounted.sound
  · rw [frame]
    exact accounted.sizes
  · rw [Config.pagesOf_congr same]
    exact accounted.parts
  · intro slot process stack held_ has
    obtain ⟨before, beforeHeld, hasBefore, address⟩ := ProcessTable.stack_before same held_ has
    rw [← address]
    exact accounted.based slot before stack beforeHeld hasBefore

theorem restored (accounted : Accounted config reserved held table memory)
    (restored : ProcessTable.Restored memory left) : Accounted config reserved held table left :=
  ⟨restored.sound, accounted.sizes, restored.members ▸ accounted.parts, accounted.based⟩

theorem pagesOf_held (holds : table.get? slot = some process) (stack : Stack) :
    config.pagesOf table reserved held (.process slot stack) = config.stackRun process stack := by
  simp [Config.pagesOf, holds]

theorem pagesOf_vacant (vacant : table.get? slot = none) (stack : Stack) :
    config.pagesOf table reserved held (.process slot stack) = ∅ := by
  simp [Config.pagesOf, vacant]

theorem releasable (accounted : Accounted config reserved held table memory)
    (holds : table.get? slot = some process) (stack : Stack) (has : process.HasStack stack) :
    ∃ base : PhysAddr, process.stackAddress stack = base.toNat ∧
      memory.Releasable base (config.stackPages stack) := by
  obtain ⟨base, address, aligned, nonempty⟩ := accounted.based slot process stack holds has
  have allocated : base.run (config.stackPages stack) ⊆ memory.pages.members := by
    have owned := accounted.parts.part_subset (.process slot stack)
    rw [pagesOf_held holds, Config.stackRun_eq has address rfl] at owned
    exact owned
  have last := PageSet.members_lt (allocated (PhysAddr.mem_run.mpr
    ⟨show base.page ≤ base.page + config.stackPages stack - 1 by omega, by omega⟩))
  refine ⟨base, address, aligned, ?_, ?_, allocated⟩
  · simp only [PageAllocator.total]
    omega
  · simp only [PageAllocator.total]
    omega

theorem owns (accounted : Accounted config reserved held table memory)
    (holds : table.get? slot = some process) (lives : process.pid ≠ idlePid) :
    table.Owns memory process := by
  obtain ⟨kernelPages, userPages⟩ := accounted.sizes
  obtain ⟨base, address, contract⟩ := accounted.releasable holds .kernel lives
  change memory.Releasable base config.kernelStackPages at contract
  rw [← kernelPages] at contract
  cases kind : process.kind with
  | kernelThread => exact .kernelThread kind address contract
  | user =>
      obtain ⟨userBase, userAddress, userContract⟩ := accounted.releasable holds .user kind
      change memory.Releasable userBase config.userStackPages at userContract
      rw [← userPages] at userContract
      refine .user kind address userAddress contract userContract ?_
      have apart := accounted.parts.apart (.process slot .kernel) (.process slot .user) (by simp)
      have kernelRun : config.stackRun process .kernel = base.run table.kernelStackPages :=
        Config.stackRun_eq lives address kernelPages
      have userRun : config.stackRun process .user = userBase.run table.userStackPages :=
        Config.stackRun_eq kind userAddress userPages
      rw [pagesOf_held holds, pagesOf_held holds, kernelRun, userRun] at apart
      exact apart

theorem stackless_initial (capacity : config.capacity ≠ 0)
    (holds : (Scheduler.initial config).table.get? slot = some process) (stack : Stack) :
    ¬ process.HasStack stack := by
  obtain ⟨-, rfl⟩ := (Scheduler.get?_initial capacity).mp holds
  intro has
  cases stack with
  | kernel => exact has rfl
  | user => cases has

theorem pagesOf_initial (capacity : config.capacity ≠ 0) (owner : Owner) :
    config.pagesOf (Scheduler.initial config).table ∅ ∅ owner = ∅ := by
  cases owner with
  | process slot stack =>
      cases holds : (Scheduler.initial config).table.get? slot with
      | none => exact pagesOf_vacant holds stack
      | some process =>
          rw [pagesOf_held holds, Config.stackRun, if_neg (stackless_initial capacity holds stack)]
  | _ => rfl

theorem lt_of_mem_pagesOf {page : Nat} {stack : Stack}
    (member : page ∈ config.pagesOf table reserved held (.process slot stack)) :
    slot < table.capacity := by
  cases holds : table.get? slot with
  | none =>
      rw [pagesOf_vacant holds] at member
      cases member
  | some process => exact ProcessTable.get?_lt holds

theorem pagesOf_other {owner : Owner} (notKernel : owner ≠ .process slot .kernel)
    (notUser : owner ≠ .process slot .user)
    (entries : ∀ other, other ≠ slot → next.get? other = table.get? other) :
    config.pagesOf next reserved held owner = config.pagesOf table reserved held owner := by
  cases owner with
  | process other stack =>
      have different : other ≠ slot := by
        rintro rfl
        cases stack with
        | kernel => exact notKernel rfl
        | user => exact notUser rfl
      simp [Config.pagesOf, entries other different]
  | _ => rfl

theorem created (accounted : Accounted config reserved held table memory)
    (endowed : config.Endowed process memory left) (vacant : table.get? slot = none)
    (entries : ∀ other, next.get? other = if other = slot then some process else table.get? other)
    (frame : next = { table with slots := next.slots, nextPid := next.nextPid }) :
    Accounted config reserved held next left := by
  have holds : next.get? slot = some process := by rw [entries, if_pos rfl]
  have others : ∀ other, other ≠ slot → next.get? other = table.get? other := by
    intro other different
    rw [entries, if_neg different]
  refine ⟨endowed.sound, by rw [frame]; exact accounted.sizes, ?_, ?_⟩
  · have kernelRun : config.pagesOf next reserved held (.process slot .kernel) =
        config.stackRun process .kernel := pagesOf_held holds .kernel
    have userRun : config.pagesOf next reserved held (.process slot .user) =
        config.stackRun process .user := pagesOf_held holds .user
    rw [endowed.members, ← kernelRun, ← userRun]
    refine accounted.parts.enter (by simp) (pagesOf_vacant vacant .kernel)
      (pagesOf_vacant vacant .user) ?_ ?_ ?_
    · rw [kernelRun]
      exact endowed.kernelFresh
    · rw [kernelRun, userRun]
      exact endowed.userFresh
    · exact fun other notKernel notUser => pagesOf_other notKernel notUser others
  · intro other rival stack held_ has
    by_cases own : other = slot
    · subst other
      obtain rfl := Option.some.inj (holds.symm.trans held_)
      exact endowed.based stack has
    · rw [others other own] at held_
      exact accounted.based other rival stack held_ has

theorem reaped (accounted : Accounted config reserved held table memory)
    (holds : table.get? slot = some process) (lives : process.pid ≠ idlePid)
    (freed : table.Freed memory process left) :
    Accounted config reserved held (table.clear slot) left := by
  obtain ⟨kernelPages, userPages⟩ := accounted.sizes
  obtain ⟨sound, members⟩ := Config.members_of_freed freed kernelPages userPages lives
  have empty : (table.clear slot).get? slot = none := by rw [ProcessTable.get?_clear, if_pos rfl]
  refine ⟨sound, accounted.sizes, ?_, ?_⟩
  · have kernelRun : config.pagesOf table reserved held (.process slot .kernel) =
        config.stackRun process .kernel := pagesOf_held holds .kernel
    have userRun : config.pagesOf table reserved held (.process slot .user) =
        config.stackRun process .user := pagesOf_held holds .user
    rw [members, ← kernelRun, ← userRun]
    refine accounted.parts.leave (by simp) (pagesOf_vacant empty .kernel)
      (pagesOf_vacant empty .user) fun other notKernel notUser => ?_
    refine pagesOf_other notKernel notUser fun rival different => ?_
    rw [ProcessTable.get?_clear, if_neg different]
  · intro other rival stack held_ has
    exact accounted.based other rival stack (ProcessTable.get?_clear_some.mp held_).2 has

theorem paged (accounted : Accounted config reserved held table memory) {call : PageCall}
    {answer : Option PhysAddr} (performed : memory.Performed call answer left)
    (own : call.released (.ok answer) ⊆ held) :
    Accounted config (reserved ∪ call.reserved (.ok answer))
      ((held ∪ call.granted (.ok answer)) \ call.released (.ok answer)) table left := by
  refine ⟨performed.sound, accounted.sizes, ?_, accounted.based⟩
  have vacant : Disjoint memory.pages.members (call.reserved (.ok answer)) := by
    by_cases none : call.reserved (.ok answer) = ∅
    · rw [none]
      exact Finset.disjoint_empty_right _
    · rw [performed.vacant none]
      exact Finset.disjoint_empty_left _
  have apart : Disjoint (call.reserved (.ok answer)) (call.granted (.ok answer)) := by
    cases call <;> simp [PageCall.reserved, PageCall.granted]
  have started : Partition (config.pagesOf table (reserved ∪ call.reserved (.ok answer)) held)
      (memory.pages.members ∪ call.reserved (.ok answer)) := by
    refine accounted.parts.grow .reserved vacant rfl ?_
    intro other different
    cases other <;> first | rfl | exact absurd rfl different
  have handed : Partition (config.pagesOf table (reserved ∪ call.reserved (.ok answer))
        (held ∪ call.granted (.ok answer)))
      (memory.pages.members ∪ call.reserved (.ok answer) ∪ call.granted (.ok answer)) := by
    refine started.grow .callers ?_ rfl ?_
    · exact Finset.disjoint_union_left.mpr ⟨performed.fresh, apart⟩
    · intro other different
      cases other <;> first | rfl | exact absurd rfl different
  rw [performed.members]
  refine handed.shrink .callers ?_ rfl ?_
  · exact own.trans Finset.subset_union_left
  · intro other different
    cases other <;> first | rfl | exact absurd rfl different

theorem card_stackRun (config : Config) (process : ControlBlock) (stack : Stack) :
    (config.stackRun process stack).card =
      if process.HasStack stack then config.stackPages stack else 0 := by
  unfold Config.stackRun
  split <;> simp [span]

theorem footprint_eq (config : Config) (process : ControlBlock) :
    config.footprint process =
      (config.stackRun process .kernel).card + (config.stackRun process .user).card := by
  have kinds : process.kind = .kernelThread ∨ process.kind = .user := by
    cases process.kind <;> simp
  rw [card_stackRun, card_stackRun]
  by_cases idle : process.pid = idlePid <;> rcases kinds with kind | kind <;>
    simp [Config.footprint, ControlBlock.HasStack, Config.stackPages, idle, kind]

def share (config : Config) (table : ProcessTable) (slot : Nat) : Finset Nat :=
  ((table.get? slot).map fun process =>
    config.stackRun process .kernel ∪ config.stackRun process .user).getD ∅

theorem share_eq (config : Config) (table : ProcessTable) (reserved held : Finset Nat) (slot : Nat) :
    share config table slot = config.pagesOf table reserved held (.process slot .kernel) ∪
      config.pagesOf table reserved held (.process slot .user) := by
  cases holds : table.get? slot <;> simp [share, Config.pagesOf, holds]

theorem members_eq (accounted : Accounted config reserved held table memory) :
    memory.pages.members =
      reserved ∪ held ∪ (Finset.range table.capacity).biUnion (share config table) := by
  ext page
  rw [accounted.parts.covers, Finset.mem_union, Finset.mem_union, Finset.mem_biUnion]
  constructor
  · rintro ⟨_ | _ | ⟨slot, stack⟩, member⟩
    · exact Or.inl (Or.inl member)
    · exact Or.inl (Or.inr member)
    · refine Or.inr ⟨slot, Finset.mem_range.mpr (lt_of_mem_pagesOf member), ?_⟩
      rw [share_eq config table reserved held]
      cases stack with
      | kernel => exact Finset.mem_union_left _ member
      | user => exact Finset.mem_union_right _ member
  · rintro ((member | member) | ⟨slot, -, member⟩)
    · exact ⟨.reserved, member⟩
    · exact ⟨.callers, member⟩
    · rw [share_eq config table reserved held] at member
      rcases Finset.mem_union.mp member with member | member
      · exact ⟨.process slot .kernel, member⟩
      · exact ⟨.process slot .user, member⟩

theorem card_share (accounted : Accounted config reserved held table memory) (slot : Nat) :
    (share config table slot).card = ((table.get? slot).map config.footprint).getD 0 := by
  rw [share_eq config table reserved held,
    Finset.card_union_of_disjoint (accounted.parts.apart _ _ (by simp))]
  cases holds : table.get? slot with
  | none => simp [Config.pagesOf, holds]
  | some process => simp [Config.pagesOf, holds, footprint_eq]

theorem shares_apart (accounted : Accounted config reserved held table memory) {slot other : Nat}
    (different : slot ≠ other) : Disjoint (share config table slot) (share config table other) := by
  have apart := accounted.parts.apart
  rw [share_eq config table reserved held, share_eq config table reserved held]
  simp only [Finset.disjoint_union_left, Finset.disjoint_union_right]
  refine ⟨⟨apart _ _ ?_, apart _ _ ?_⟩, apart _ _ ?_, apart _ _ ?_⟩ <;> simp [different]

theorem direct_apart (accounted : Accounted config reserved held table memory) (slot : Nat) :
    Disjoint (reserved ∪ held) (share config table slot) := by
  have apart := accounted.parts.apart
  rw [share_eq config table reserved held]
  simp only [Finset.disjoint_union_left, Finset.disjoint_union_right]
  exact ⟨⟨apart .reserved _ (by simp), apart .callers _ (by simp)⟩,
    apart .reserved _ (by simp), apart .callers _ (by simp)⟩

/-- The shares add up to the count of used pages. -/
theorem used_eq (accounted : Accounted config reserved held table memory) :
    memory.used = reserved.card + held.card +
      (table.processes.map fun (_, process) => config.footprint process).sum := by
  have processesApart : Disjoint (reserved ∪ held)
      ((Finset.range table.capacity).biUnion (share config table)) := by
    rw [Finset.disjoint_biUnion_right]
    exact fun slot _ => accounted.direct_apart slot
  have callersApart : Disjoint reserved held :=
    accounted.parts.apart .reserved .callers (by simp)
  rw [accounted.sound.counted, accounted.members_eq, Finset.card_union_of_disjoint processesApart,
    Finset.card_union_of_disjoint callersApart,
    Finset.card_biUnion fun slot _ other _ different => accounted.shares_apart different,
    ProcessTable.sum_processes]
  simp only [accounted.card_share]

end Accounted

end MiniKernel
