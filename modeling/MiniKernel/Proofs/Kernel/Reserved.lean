import MiniKernel.Proofs.Kernel.Service
import MiniKernel.Proofs.System.Fence

/-! The pages that the kernel keeps for itself. They stay allocated, and nobody is given one of them,
until one is freed directly. The allocator does not refuse that: it cannot tell a reserved page from
one that it handed out. -/

namespace MiniKernel

namespace Core

variable {before after core : Core} {service : Service} {fence : Finset Nat}

structure Fenced (core : Core) (fence : Finset Nat) : Prop where
  consistent : core.memory.Consistent
  allocated : fence ⊆ core.memory.pages.members
  sized : core.memory.started = true → core.memory.total ≠ 0
  clears : ∀ scheduler, core.scheduler = some scheduler →
    core.memory.total ≠ 0 ∧ scheduler.Clears fence

theorem fenced_boot : boot.Fenced ∅ where
  consistent := PageAllocator.sound_unstarted.consistent
  allocated := Finset.empty_subset _
  sized := nofun
  clears := nofun

theorem Fenced.unscheduled (fenced : core.Fenced fence) (silent : core.memory.started = false) :
    core.scheduler = none := by
  cases present : core.scheduler with
  | none => rfl
  | some scheduler =>
      exact absurd (fenced.consistent.silent silent) (fenced.clears scheduler present).1

theorem Fenced.started (fenced : core.Fenced fence) {page : Nat} (member : page ∈ fence) :
    core.memory.started = true := by
  by_contra silent
  have empty := fenced.consistent.silent (by simpa using silent)
  have inside := PageSet.members_lt (fenced.allocated member)
  rw [PageAllocator.total] at empty
  omega

theorem start_fenced (fenced : core.Fenced fence) (bytes : Nat) (reservedEnd : PhysAddr) :
    (core.memory.start bytes reservedEnd).Ensures
      (fun _ memory => Fenced { core with memory }
        (Finset.range (PageAllocator.reservedBelow reservedEnd)))
      fun _ memory => memory = core.memory := by
  refine (PageAllocator.start_cases core.memory bytes reservedEnd).imp ?_ fun _ _ refused => refused.1
  rintro _ memory ⟨silent, -, consistent, total, room, members, -⟩
  -- The start was accepted, so the allocator was still silent and nothing was scheduled.
  refine ⟨consistent, members.superset, fun _ => ?_, ?_⟩
  · change memory.total ≠ 0
    omega
  · intro scheduler present
    have absent := fenced.unscheduled silent
    rw [absent] at present
    cases present

theorem Fenced.paged (fenced : core.Fenced fence) (call : PageCall)
    (spared : Disjoint fence (call.released (core.memory.perform call).result)) :
    Fenced { core with memory := (core.memory.perform call).state } fence := by
  cases started : core.memory.started with
  | true =>
      have keeps := (PageAllocator.perform_keeps fenced.consistent call).resolve_right
        fun ⟨silent, _⟩ => absurd (started.symm.trans silent) (by simp)
      have sized : (core.memory.perform call).state.total ≠ 0 := keeps.total ▸ fenced.sized started
      exact ⟨keeps.consistent, keeps.retains fenced.allocated spared, fun _ => sized,
        fun scheduler present => ⟨sized, (fenced.clears scheduler present).2⟩⟩
  | false =>
      rcases PageAllocator.perform_unstarted started call with ⟨bytes, reservedEnd, rfl⟩ | same
      · -- Without pages there was no fence, so it does not matter what is reserved now.
        have none : fence = ∅ := by
          refine Finset.eq_empty_of_forall_notMem fun page member => ?_
          rw [fenced.started member] at started
          cases started
        have ensured : (core.memory.perform (.start bytes reservedEnd)).Ensures
            (fun _ memory => Fenced { core with memory } fence)
            fun _ memory => Fenced { core with memory } fence := by
          rw [PageAllocator.perform, Outcome.ensures_map]
          refine (start_fenced fenced bytes reservedEnd).imp ?_ ?_
          · intro _ memory begun
            have absent := fenced.unscheduled started
            subst none
            exact ⟨begun.consistent, Finset.empty_subset _, begun.sized, by simp [absent]⟩
          · rintro _ _ rfl
            exact fenced
        exact ensured.state
      · rw [same]
        exact fenced

/-- A fence stays closed until a page of it is freed directly or everything is torn down. -/
theorem Turns.fenced (turns : before.Turns service after) (fenced : before.Fenced fence)
    (spares : ∀ call ∈ service.pageCall,
      Disjoint fence (call.released (before.memory.perform call).result))
    (lasting : service = .tearDown → fence = ∅) : after.Fenced fence := by
  cases turns with
  | idle same => exact same ▸ fenced
  | paged call direct => exact fenced.paged call (spares call direct)
  | started ready absent valid =>
      refine ⟨fenced.consistent, fenced.allocated, fenced.sized, ?_⟩
      rintro _ ⟨⟩
      exact ⟨fenced.sized ready, Scheduler.clears_initial valid fence⟩
  | @performed _ scheduler next call indirect present performed =>
      obtain ⟨sized, clears⟩ := fenced.clears scheduler present
      have whole : System.Fenced ⟨scheduler, before.memory⟩ fence :=
        ⟨fenced.consistent, fenced.allocated, clears⟩
      obtain ⟨kept, total⟩ := System.perform_fenced whole indirect
      rw [performed] at kept total
      have sizedNext : next.memory.total ≠ 0 := total ▸ sized
      refine ⟨kept.consistent, kept.allocated, fun _ => sizedNext, ?_⟩
      rintro _ ⟨⟩
      exact ⟨sizedNext, kept.clears⟩
  | tornDown =>
      rw [lasting rfl]
      exact fenced_boot

end Core

namespace Kernel

variable {kernel start : Kernel} {pages : Finset Nat}

def Spares (kernel : Kernel) (pages : Finset Nat) (service : Service) : Prop :=
  ∀ call ∈ service.pageCall,
    Disjoint pages (call.released (kernel.core.memory.perform call).result)

def SparesPages (start : Kernel) (pages : Finset Nat) : List Service → Prop
  | [] => True
  | service :: earlier => start.SparesPages pages earlier ∧ (start.after earlier).Spares pages service

instance (kernel : Kernel) (pages : Finset Nat) (service : Service) :
    Decidable (kernel.Spares pages service) :=
  inferInstanceAs (Decidable (∀ call ∈ service.pageCall, _))

instance decidableSparesPages (start : Kernel) (pages : Finset Nat) :
    (services : List Service) → Decidable (start.SparesPages pages services)
  | [] => isTrue trivial
  | _ :: earlier =>
      have := decidableSparesPages start pages earlier
      inferInstanceAs (Decidable (_ ∧ _))

structure Reserves (kernel : Kernel) (pages : Finset Nat) : Prop where
  allocated : ∀ addr : PhysAddr, addr.page ∈ pages → (kernel.isAllocated addr).result = .ok true
  page : ∀ base, kernel.allocPage.result = .ok (some base) → base.page ∉ pages
  run : ∀ count base, (kernel.allocPages count).result = .ok (some base) →
    Disjoint pages (base.run count)
  stack : ∀ scheduler slot process stack, kernel.core.scheduler = some scheduler →
    scheduler.table.get? slot = some process →
      Disjoint pages (scheduler.config.stackRun process stack)

theorem after_fenced (fenced : start.core.Fenced pages) {services : List Service}
    (spares : start.SparesPages pages services) (lasting : .tearDown ∈ services → pages = ∅) :
    (start.after services).core.Fenced pages := by
  induction services with
  | nil => exact fenced
  | cons service earlier ih =>
      have reached := ih spares.1 fun torn => lasting (List.mem_cons_of_mem _ torn)
      refine (serve_turns (start.after earlier) service).fenced reached spares.2 ?_
      rintro rfl
      exact lasting List.mem_cons_self

theorem sparesPages_empty (start : Kernel) (services : List Service) :
    start.SparesPages ∅ services := by
  induction services with
  | nil => trivial
  | cons service earlier ih => exact ⟨ih, fun _ _ => Finset.disjoint_empty_left _⟩

theorem reserves_of_fenced (fenced : kernel.core.Fenced pages) : kernel.Reserves pages where
  allocated := by
    intro addr member
    have present := (PageSet.mem_members.mp (fenced.allocated member)).2
    have read : (kernel.isAllocated addr).result =
        (kernel.core.readMemory (·.isAllocated addr)).result := rfl
    rw [read, Core.readMemory, if_pos (fenced.started member)]
    exact congrArg Except.ok present
  page := by
    intro base found member
    have lent : kernel.core.memory.Lent base 1 _ :=
      (PageAllocator.alloc_lends fenced.consistent).of_ok found
    have first : base.page ∈ base.run 1 := PhysAddr.mem_run.mpr ⟨Nat.le_refl _, Nat.lt_succ_self _⟩
    exact Finset.disjoint_left.mp lent.fresh (fenced.allocated member) first
  run := by
    intro count base found
    have lent : kernel.core.memory.Lent base count _ :=
      (PageAllocator.allocRun_lends fenced.consistent count).of_ok found
    exact Finset.disjoint_of_subset_left fenced.allocated lent.fresh
  stack := fun scheduler slot process stack present held =>
    (fenced.clears scheduler present).2.apart slot process stack held

/-- The pages below `reservedEnd`, the last one rounded up, belong to the kernel from the start of the
allocator on, in every run that neither frees one of them directly nor tears everything down. -/
theorem after_reserves {earlier later : List Service} {bytes : Nat} {reservedEnd : PhysAddr}
    (accepted : ((boot.after earlier).startAllocator bytes reservedEnd).result = .ok ())
    (spares : (boot.after (.startAllocator bytes reservedEnd :: earlier)).SparesPages
      (Finset.range (PageAllocator.reservedBelow reservedEnd)) later)
    (lasting : .tearDown ∉ later) :
    ((boot.after (.startAllocator bytes reservedEnd :: earlier)).after later).Reserves
      (Finset.range (PageAllocator.reservedBelow reservedEnd)) := by
  have before : (boot.after earlier).core.Fenced ∅ :=
    after_fenced Core.fenced_boot (sparesPages_empty _ earlier) fun _ => rfl
  have begun := (Core.start_fenced before bytes reservedEnd).of_ok accepted
  exact reserves_of_fenced (after_fenced begun spares fun torn => absurd torn lasting)

theorem after_reserves_reaped :
    ((boot.after [.startAllocator 65536 ⟨8192, by decide⟩, .tearDown, .allocPage,
        .startAllocator 65536 ⟨4096, by decide⟩]).after
      [.reap 1, .exit 0 {}, .dispatch {}, .spawn ⟨4096, by decide⟩, .freePage ⟨4097, by decide⟩,
        .startScheduler {}, .freePage ⟨8192, by decide⟩, .allocPage]).Reserves (Finset.range 2) := by
  refine after_reserves ?_ ?_ ?_
  · decide +kernel
  · decide +kernel
  · simp

/-- Nothing guards a page behind the fence against a direct free, which takes it back like any other. -/
theorem freePage_fenced (fenced : kernel.core.Fenced pages) {addr : PhysAddr}
    (aligned : addr.isAligned = true) (member : addr.page ∈ pages) :
    (kernel.freePage addr).result = .ok () ∧
      ((kernel.freePage addr).state.isAllocated addr).result = .ok false := by
  let memory := kernel.core.memory
  have present : addr.page ∈ memory.pages.members := fenced.allocated member
  have inside := PageSet.members_lt present
  have contract : memory.Releasable addr 1 := by
    refine .of_allocated aligned Nat.one_pos ?_
    rwa [PhysAddr.run_one, Finset.singleton_subset_iff]
  have ensured := PageAllocator.free_cases fenced.consistent addr
  cases found : (memory.free addr).result with
  | error failure => exact absurd contract (ensured.of_error found).2
  | ok answer =>
      have freed : (memory.free addr).state = memory.withoutRun addr 1 := (ensured.of_ok found).2
      have read : ((kernel.freePage addr).state.isAllocated addr).result =
          (Core.readMemory { kernel.core with memory := (memory.free addr).state }
            (·.isAllocated addr)).result := rfl
      have started : (memory.withoutRun addr 1).started = true := fenced.started member
      refine ⟨found, ?_⟩
      rw [read, freed, Core.readMemory, if_pos started]
      have gone : addr.page ∉ (memory.withoutRun addr 1).pages.members := by
        rw [PageAllocator.members_withoutRun, PhysAddr.run_one]
        simp
      have bound : addr.page < (memory.withoutRun addr 1).pages.size := by
        have total := PageAllocator.total_withoutRun memory addr 1
        simp only [PageAllocator.total] at total
        omega
      have absent : (memory.withoutRun addr 1).pages.contains addr.page = false := by
        by_contra still
        exact gone (PageSet.mem_members.mpr ⟨bound, by simpa using still⟩)
      exact congrArg Except.ok absent

/-- A reserved page that is freed directly is handed out like any other. -/
theorem startAllocator_freePage_reserved :
    let started := boot.after [.startAllocator 65536 ⟨8192, by decide⟩]
    let freed := started.after [.freePage ⟨0, by decide⟩]
    (boot.startAllocator 65536 ⟨8192, by decide⟩).result = .ok () ∧
      (started.freePage ⟨0, by decide⟩).result = .ok () ∧
      (freed.isAllocated ⟨0, by decide⟩).result = .ok false ∧
      (freed.allocPages 1).result = .ok (some ⟨0, by decide⟩) := by
  decide +kernel

end Kernel

end MiniKernel
