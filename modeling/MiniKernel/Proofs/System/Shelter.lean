import MiniKernel.Proofs.Process.Lodging
import MiniKernel.Proofs.System.Ownership

/-! The stacks of the processes are safe as long as nobody frees them directly, in a memory of any
size and whatever else becomes of its pages. So a process that has exited can always be reaped. -/

namespace MiniKernel

namespace Config

variable {config : Config} {process : ControlBlock} {table : ProcessTable}
  {memory left : PageAllocator}

structure Housed (config : Config) (process : ControlBlock) (memory left : PageAllocator) : Prop where
  keeps : memory.Keeps ∅ left
  based : ∀ stack, process.HasStack stack → ∃ base : PhysAddr,
    process.stackAddress stack = base.toNat ∧ left.Releasable base (config.stackPages stack)
  fresh : ∀ stack, Disjoint memory.pages.members (config.stackRun process stack)
  apart : Disjoint (config.stackRun process .kernel) (config.stackRun process .user)

theorem housed_of_lodged {footing : Footing} (lodged : table.Lodged memory process.kind footing left)
    (kernelPages : table.kernelStackPages = config.stackPages .kernel)
    (userPages : table.userStackPages = config.stackPages .user) (lives : process.pid ≠ idlePid)
    (kernelStack : process.kernelStack = footing.kernelStack)
    (userStack : process.userStack = footing.userStack) : config.Housed process memory left := by
  generalize kind : process.kind = ofKind at lodged
  cases lodged with
  | @kernelThread base context _ lent =>
      have userRun : config.stackRun process .user = ∅ := stackRun_kernelThread kind
      have kernelRun : config.stackRun process .kernel = base.run table.kernelStackPages :=
        stackRun_eq lives kernelStack kernelPages
      refine ⟨lent.keeps, ?_, ?_, userRun ▸ Finset.disjoint_empty_right _⟩
      · rintro (_ | _) has
        · exact ⟨base, kernelStack, kernelPages ▸ lent.contract⟩
        · exact absurd (kind.symm.trans has) (by simp)
      · rintro (_ | _)
        · exact kernelRun ▸ lent.fresh
        · exact userRun ▸ Finset.disjoint_empty_right _
  | @user base userBase context middle _ lent userLent =>
      have kernelRun : config.stackRun process .kernel = base.run table.kernelStackPages :=
        stackRun_eq lives kernelStack kernelPages
      have userRun : config.stackRun process .user = userBase.run table.userStackPages :=
        stackRun_eq kind userStack userPages
      have kernelKept := userLent.keeps.releasable lent.contract (Finset.disjoint_empty_left _)
      refine ⟨lent.keeps.trans userLent.keeps, ?_, ?_, ?_⟩
      · rintro (_ | _) has
        · exact ⟨base, kernelStack, kernelPages ▸ kernelKept⟩
        · exact ⟨userBase, userStack, userPages ▸ userLent.contract⟩
      · rintro (_ | _)
        · exact kernelRun ▸ lent.fresh
        · exact userRun ▸ (lent.keeps.then_lent userLent).fresh
      · rw [kernelRun, userRun]
        exact Finset.disjoint_of_subset_left lent.contract.allocated userLent.fresh

end Config

structure Sheltered (config : Config) (table : ProcessTable) (memory : PageAllocator) : Prop where
  consistent : memory.Consistent
  sizes : table.kernelStackPages = config.kernelStackPages ∧
    table.userStackPages = config.userStackPages
  parts : ∃ whole, Partition (config.pagesOf table ∅ ∅) whole
  based : ∀ slot process stack, table.get? slot = some process → process.HasStack stack →
    ∃ base : PhysAddr, process.stackAddress stack = base.toNat ∧
      memory.Releasable base (config.stackPages stack)

namespace Sheltered

variable {config : Config} {table next : ProcessTable} {memory left : PageAllocator} {slot : Nat}
  {process : ControlBlock}

theorem apart (sheltered : Sheltered config table memory) (left right : Owner)
    (different : left ≠ right) :
    Disjoint (config.pagesOf table ∅ ∅ left) (config.pagesOf table ∅ ∅ right) := by
  obtain ⟨whole, parts⟩ := sheltered.parts
  exact parts.apart left right different

theorem stackRun_subset (sheltered : Sheltered config table memory)
    (held : table.get? slot = some process) (stack : Stack) :
    config.stackRun process stack ⊆ memory.pages.members := by
  by_cases has : process.HasStack stack
  · obtain ⟨base, address, contract⟩ := sheltered.based slot process stack held has
    rw [Config.stackRun_eq has address rfl]
    exact contract.allocated
  · rw [Config.stackRun, if_neg has]
    exact Finset.empty_subset _

theorem allocated (sheltered : Sheltered config table memory) {whole : Finset Nat}
    (parts : Partition (config.pagesOf table ∅ ∅) whole) : whole ⊆ memory.pages.members := by
  intro page member
  obtain ⟨owner, owned⟩ := (parts.covers page).mp member
  cases owner with
  | reserved => cases owned
  | callers => cases owned
  | process slot stack =>
      cases held : table.get? slot with
      | none =>
          rw [Accounted.pagesOf_vacant held] at owned
          cases owned
      | some process =>
          rw [Accounted.pagesOf_held held] at owned
          exact sheltered.stackRun_subset held stack owned

theorem congr (sheltered : Sheltered config table memory)
    (same : ∀ slot, (next.get? slot).map ControlBlock.grounds =
      (table.get? slot).map ControlBlock.grounds)
    (frame : next = { table with slots := next.slots, nextPid := next.nextPid }) :
    Sheltered config next memory := by
  refine ⟨sheltered.consistent, by rw [frame]; exact sheltered.sizes, ?_, ?_⟩
  · rw [Config.pagesOf_congr same]
    exact sheltered.parts
  · intro slot process stack held has
    obtain ⟨before, beforeHeld, hasBefore, address⟩ := ProcessTable.stack_before same held has
    rw [← address]
    exact sheltered.based slot before stack beforeHeld hasBefore

/-- The allocator may do as it likes with the pages that are in no stack. -/
theorem kept (sheltered : Sheltered config table memory) {given : Finset Nat}
    (keeps : memory.Keeps given left)
    (spared : ∀ slot process stack, table.get? slot = some process →
      Disjoint given (config.stackRun process stack)) : Sheltered config table left := by
  refine ⟨keeps.consistent, sheltered.sizes, sheltered.parts, ?_⟩
  intro slot process stack held has
  obtain ⟨base, address, contract⟩ := sheltered.based slot process stack held has
  refine ⟨base, address, keeps.releasable contract ?_⟩
  rw [← Config.stackRun_eq has address rfl]
  exact spared slot process stack held

/-- Before the allocator was started there are no stacks that could be lost. -/
theorem begun (sheltered : Sheltered config table memory) (silent : memory.started = false)
    (consistent : left.Consistent) : Sheltered config table left := by
  refine ⟨consistent, sheltered.sizes, sheltered.parts, ?_⟩
  intro slot process stack held has
  obtain ⟨base, -, contract⟩ := sheltered.based slot process stack held has
  exact absurd (contract.started sheltered.consistent) (by simp [silent])

theorem created (sheltered : Sheltered config table memory) (housed : config.Housed process memory left)
    (vacant : table.get? slot = none)
    (entries : ∀ other, next.get? other = if other = slot then some process else table.get? other)
    (frame : next = { table with slots := next.slots, nextPid := next.nextPid }) :
    Sheltered config next left := by
  have holds : next.get? slot = some process := by rw [entries, if_pos rfl]
  have others : ∀ other, other ≠ slot → next.get? other = table.get? other := by
    intro other different
    rw [entries, if_neg different]
  refine ⟨housed.keeps.consistent, by rw [frame]; exact sheltered.sizes, ?_, ?_⟩
  · obtain ⟨whole, parts⟩ := sheltered.parts
    have allocated := sheltered.allocated parts
    have run : ∀ stack, config.pagesOf next ∅ ∅ (.process slot stack) =
        config.stackRun process stack := Accounted.pagesOf_held holds
    refine ⟨_, parts.enter (by simp) (Accounted.pagesOf_vacant vacant .kernel)
      (Accounted.pagesOf_vacant vacant .user) ?_ ?_ fun other notKernel notUser =>
        Accounted.pagesOf_other notKernel notUser others⟩
    · rw [run]
      exact Finset.disjoint_of_subset_left allocated (housed.fresh .kernel)
    · rw [run, run, Finset.disjoint_union_left]
      exact ⟨Finset.disjoint_of_subset_left allocated (housed.fresh .user), housed.apart⟩
  · intro other rival stack held has
    by_cases own : other = slot
    · subst other
      obtain rfl := Option.some.inj (holds.symm.trans held)
      exact housed.based stack has
    · rw [others other own] at held
      obtain ⟨base, address, contract⟩ := sheltered.based other rival stack held has
      exact ⟨base, address, housed.keeps.releasable contract (Finset.disjoint_empty_left _)⟩

theorem freeStacks (sheltered : Sheltered config table memory)
    (holds : table.get? slot = some process) (lives : process.pid ≠ idlePid) :
    (table.freeStacks memory process).Ensures
      (fun _ next => memory.Frees
        (config.stackRun process .kernel ∪ config.stackRun process .user) next)
      fun _ _ => False := by
  have kernelPages : table.kernelStackPages = config.stackPages .kernel := sheltered.sizes.1
  have userPages : table.userStackPages = config.stackPages .user := sheltered.sizes.2
  obtain ⟨base, address, contract⟩ := sheltered.based slot process .kernel holds lives
  have kernelRun : config.stackRun process .kernel = base.run table.kernelStackPages :=
    Config.stackRun_eq lives address kernelPages
  have kernelStack : process.kernelStack = base.toNat := address
  rw [ProcessTable.freeStacks, kernelStack, PageAllocator.freeStackAt_eq, Outcome.ensures_andThen]
  refine (PageAllocator.freeStack_frees sheltered.consistent (kernelPages ▸ contract)).imp ?_
    fun _ _ impossible => impossible
  intro _ middle frees
  rw [← kernelRun] at frees
  -- The kernel stack is gone; the user stack lies apart from it, so it can still be freed.
  cases kind : process.kind with
  | kernelThread =>
      rw [Config.stackRun_kernelThread kind, Finset.union_empty]
      exact frees
  | user =>
      obtain ⟨userBase, userAddress, userContract⟩ := sheltered.based slot process .user holds kind
      have userRun : config.stackRun process .user = userBase.run table.userStackPages :=
        Config.stackRun_eq kind userAddress userPages
      have userStack : process.userStack = userBase.toNat := userAddress
      have apart := sheltered.apart (.process slot .kernel) (.process slot .user) (by simp)
      rw [Accounted.pagesOf_held holds, Accounted.pagesOf_held holds, userRun] at apart
      rw [← userPages] at userContract
      have rest := PageAllocator.freeStack_frees frees.consistent
        (frees.keeps.releasable userContract apart)
      dsimp only
      rw [userStack, PageAllocator.freeStackAt_eq, userRun]
      exact rest.imp (fun _ _ userFrees => frees.trans userFrees) fun _ _ impossible => impossible

theorem freed (sheltered : Sheltered config table memory) (holds : table.get? slot = some process)
    (lives : process.pid ≠ idlePid) :
    (table.freeStacks memory process).result = .ok () ∧
      memory.Frees (config.stackRun process .kernel ∪ config.stackRun process .user)
        (table.freeStacks memory process).state := by
  have ensured := sheltered.freeStacks holds lives
  cases found : (table.freeStacks memory process).result with
  | ok => exact ⟨rfl, ensured.of_ok found⟩
  | error failure => exact (ensured.of_error found).elim

theorem reaped (sheltered : Sheltered config table memory) (holds : table.get? slot = some process)
    (lives : process.pid ≠ idlePid) :
    Sheltered config (table.clear slot) (table.freeStacks memory process).state := by
  have keeps := (sheltered.freed holds lives).2.keeps
  have empty : (table.clear slot).get? slot = none := by rw [ProcessTable.get?_clear, if_pos rfl]
  refine ⟨keeps.consistent, sheltered.sizes, ?_, ?_⟩
  · obtain ⟨whole, parts⟩ := sheltered.parts
    refine ⟨_, parts.leave (by simp) (Accounted.pagesOf_vacant empty .kernel)
      (Accounted.pagesOf_vacant empty .user) fun other notKernel notUser => ?_⟩
    refine Accounted.pagesOf_other notKernel notUser fun rival different => ?_
    rw [ProcessTable.get?_clear, if_neg different]
  · intro other rival stack held has
    obtain ⟨away, held⟩ := ProcessTable.get?_clear_some.mp held
    obtain ⟨base, address, contract⟩ := sheltered.based other rival stack held has
    refine ⟨base, address, keeps.releasable contract ?_⟩
    rw [← Config.stackRun_eq has address rfl, Finset.disjoint_union_left]
    have apart : ∀ own, Disjoint (config.stackRun process own) (config.stackRun rival stack) := by
      intro own
      have parts := sheltered.apart (.process slot own) (.process other stack)
        (by simp [Ne.symm away])
      rwa [Accounted.pagesOf_held holds, Accounted.pagesOf_held held] at parts
    exact ⟨apart .kernel, apart .user⟩

theorem paged (sheltered : Sheltered config table memory) (call : PageCall)
    (spared : ∀ slot process stack, table.get? slot = some process →
      Disjoint (call.released (memory.perform call).result) (config.stackRun process stack)) :
    Sheltered config table (memory.perform call).state := by
  rcases PageAllocator.perform_keeps sheltered.consistent call with keeps | ⟨silent, begun, -⟩
  · exact sheltered.kept keeps spared
  · exact sheltered.begun silent begun

theorem initially {config : Config} (capacity : config.capacity ≠ 0) :
    Sheltered config (Scheduler.initial config).table .unstarted := by
  refine ⟨PageAllocator.sound_unstarted.consistent, ⟨rfl, rfl⟩, ⟨∅, ?_, ?_⟩, ?_⟩
  · intro left right _
    exact (Accounted.pagesOf_initial capacity left).symm ▸ Finset.disjoint_empty_left _
  · intro page
    simp [Accounted.pagesOf_initial capacity]
  · intro slot process stack held has
    exact absurd has (Accounted.stackless_initial capacity held stack)

end Sheltered

namespace System

variable {before after : System} {call : Call}

def Safe (system : System) : Prop :=
  Sheltered system.scheduler.config system.scheduler.table system.memory

def Spares (system : System) (call : Call) : Prop :=
  ∀ direct, call = .page direct → ∀ slot process stack,
    system.scheduler.table.get? slot = some process →
      Disjoint (direct.released (system.memory.perform direct).result)
        (system.scheduler.config.stackRun process stack)

/-- In a run no stack was freed directly. -/
def SparesStacks (start : System) : List Call → Prop
  | [] => True
  | call :: earlier => start.SparesStacks earlier ∧ (start.after earlier).Spares call

theorem spares_page_iff {system : System} {direct : PageCall} :
    system.Spares (.page direct) ↔ ∀ entry ∈ system.scheduler.table.processes,
      Disjoint (direct.released (system.memory.perform direct).result)
          (system.scheduler.config.stackRun entry.2 .kernel) ∧
        Disjoint (direct.released (system.memory.perform direct).result)
          (system.scheduler.config.stackRun entry.2 .user) := by
  constructor
  · rintro spares ⟨slot, process⟩ listed
    have held := ProcessTable.mem_processes.mp listed
    exact ⟨spares direct rfl slot process .kernel held, spares direct rfl slot process .user held⟩
  · rintro spared _ ⟨⟩ slot process stack held
    obtain ⟨kernel, user⟩ := spared (slot, process) (ProcessTable.mem_processes.mpr held)
    cases stack with
    | kernel => exact kernel
    | user => exact user

instance decidableSpares (system : System) : (call : Call) → Decidable (system.Spares call)
  | .page _ => decidable_of_iff _ spares_page_iff.symm
  | .spawn _ => isTrue nofun
  | .create .. => isTrue nofun
  | .switch .. => isTrue nofun
  | .reap _ => isTrue nofun
  | .editFiles .. => isTrue nofun

instance decidableSparesStacks (start : System) :
    (calls : List Call) → Decidable (start.SparesStacks calls)
  | [] => isTrue trivial
  | _ :: earlier =>
      have := decidableSparesStacks start earlier
      inferInstanceAs (Decidable (_ ∧ _))

/-- A call that failed left the scheduler as it was: there is always a way to free the stacks of a
process that has exited. -/
theorem Failed.scheduler {failure : Failure} (failed : before.Failed call failure after)
    (wellFormed : before.scheduler.WellFormed) (safe : before.Safe)
    (untrapped : call.Switches → failure ≠ .trapped .addOverflow) :
    after.scheduler = before.scheduler := by
  obtain ⟨current, runner, coherent, -⟩ := wellFormed
  cases failed with
  | overflowed overflowed => exact absurd overflowed.trapped (untrapped trivial)
  | lost exited stuck =>
      have lives := coherent.pid_ne_idle exited.holds exited.zombie
      exact absurd ((Sheltered.freed safe exited.holds lives).1.symm.trans stuck) nofun
  | _ => rfl

end System

end MiniKernel
