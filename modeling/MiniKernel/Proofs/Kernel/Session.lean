import MiniKernel.Proofs.Kernel.Reserved

/-! What has been started, read off a run. The allocator and the scheduler are there exactly if a start of
them has returned since the kernel was torn down. -/

namespace MiniKernel

def Service.Starts : Service → Prop
  | startAllocator _ _ | startScheduler _ => True
  | _ => False

namespace Core

variable {before after core : Core} {service : Service} {fence : Finset Nat}

theorem Fenced.started_iff (fenced : core.Fenced fence) :
    core.memory.started = true ↔ core.memory.total ≠ 0 := by
  refine ⟨fenced.sized, fun sized => ?_⟩
  by_contra silent
  exact sized (fenced.consistent.silent (by simpa using silent))

theorem Fenced.paged_total (fenced : core.Fenced fence) {call : PageCall}
    (continues : ∀ bytes reservedEnd, call ≠ .start bytes reservedEnd) :
    (core.memory.perform call).state.total = core.memory.total := by
  rcases PageAllocator.perform_keeps fenced.consistent call with
    keeps | ⟨-, -, bytes, reservedEnd, starts, -⟩
  · exact keeps.total
  · exact absurd starts (continues bytes reservedEnd)

/-- Only a start or a teardown changes what there is. -/
theorem Turns.settled (turns : before.Turns service after) (fenced : before.Fenced ∅)
    (settled : ¬ service.Starts) (lasting : service ≠ .tearDown) :
    after.memory.total = before.memory.total ∧ after.scheduler.isSome = before.scheduler.isSome := by
  cases turns with
  | idle same => exact same ▸ ⟨rfl, rfl⟩
  | paged call direct =>
      refine ⟨fenced.paged_total ?_, rfl⟩
      rintro bytes reservedEnd rfl
      cases service <;> first | exact settled trivial | cases direct
  | started => exact absurd trivial settled
  | @performed _ scheduler next call indirect present performed =>
      have whole : System.Fenced ⟨scheduler, before.memory⟩ ∅ :=
        ⟨fenced.consistent, fenced.allocated, (fenced.clears scheduler present).2⟩
      rw [← performed, present]
      exact ⟨(System.perform_fenced whole indirect).2, rfl⟩
  | tornDown => exact absurd rfl lasting

theorem startAllocator_cases (core : Core) (bytes : Nat) (reservedEnd : PhysAddr) :
    (core.onMemory (·.start bytes reservedEnd)).Ensures
      (fun _ next => next.memory.started = true ∧ next.scheduler = core.scheduler)
      fun _ next => next = core := by
  rw [onMemory, Outcome.ensures_within]
  refine (PageAllocator.start_cases core.memory bytes reservedEnd).imp ?_ ?_
  · rintro _ memory ⟨-, started, -⟩
    exact ⟨started, rfl⟩
  · rintro _ _ ⟨rfl, -⟩
    rfl

end Core

namespace Kernel

variable {α β : Type} {start kernel : Kernel} {service other : Service} {earlier : List Service}

theorem perform_map_ensures {operation : Core → Outcome Core α} (f : α → β) {returned : Core → Prop}
    {failed : Failure → Core → Prop}
    (ensured : (operation kernel.core).Ensures (fun _ => returned) failed) :
    ((kernel.perform operation).map f).Ensures (fun _ next => returned next.core)
      fun failure next => failed failure next.core := by
  rw [Outcome.ensures_map]
  exact ensured

theorem serve_unstarted {failure : Failure} (starts : service.Starts)
    (failed : (kernel.serve service).result = .error failure) :
    (kernel.serve service).state.core = kernel.core := by
  cases service with
  | startAllocator bytes reservedEnd =>
      exact (perform_map_ensures _ (kernel.core.startAllocator_cases bytes reservedEnd)).of_error failed
  | startScheduler config =>
      exact (perform_map_ensures _ (kernel.core.startScheduler_cases config)).of_error failed
  | _ => exact starts.elim

/-- The services of a run that returned since the kernel was torn down, if it ever was. -/
def session (start : Kernel) : List Service → List Service
  | [] => []
  | .tearDown :: _ => []
  | service :: earlier =>
      match ((start.after earlier).serve service).result with
      | .ok _ => service :: start.session earlier
      | .error _ => start.session earlier

def Allocating (start : Kernel) (services : List Service) : Prop :=
  ∃ bytes reservedEnd, .startAllocator bytes reservedEnd ∈ start.session services

def Scheduling (start : Kernel) (services : List Service) : Prop :=
  ∃ config, .startScheduler config ∈ start.session services

theorem mem_session_cons (lasting : service ≠ .tearDown) :
    other ∈ start.session (service :: earlier) ↔
      other = service ∧ (∃ reply, ((start.after earlier).serve service).result = .ok reply) ∨
        other ∈ start.session earlier := by
  rw [session]
  · cases ((start.after earlier).serve service).result <;> simp
  · exact lasting

theorem mem_session_self (lasting : service ≠ .tearDown) {reply : Reply}
    (returned : ((start.after earlier).serve service).result = .ok reply) :
    service ∈ start.session (service :: earlier) :=
  (mem_session_cons lasting).mpr (Or.inl ⟨rfl, reply, returned⟩)

structure Aware (start : Kernel) (services : List Service) : Prop where
  allocating : (start.after services).core.memory.started = true ↔ start.Allocating services
  scheduling : (start.after services).core.scheduler.isSome = true ↔ start.Scheduling services

theorem Aware.unstarted (aware : start.Aware earlier) (starts : service.Starts) {failure : Failure}
    (failed : ((start.after earlier).serve service).result = .error failure) :
    start.Aware (service :: earlier) := by
  have lasting : service ≠ .tearDown := by
    rintro rfl
    exact starts
  have same := serve_unstarted starts failed
  constructor
  · rw [after, same, aware.allocating]
    simp [Allocating, mem_session_cons lasting, failed]
  · rw [after, same, aware.scheduling]
    simp [Scheduling, mem_session_cons lasting, failed]

theorem Aware.settled (aware : start.Aware earlier) (fenced : (start.after earlier).core.Fenced ∅)
    (settled : ¬ service.Starts) (lasting : service ≠ .tearDown) : start.Aware (service :: earlier) := by
  have turns := serve_turns (start.after earlier) service
  obtain ⟨total, scheduler⟩ := turns.settled fenced settled lasting
  have next : (start.after (service :: earlier)).core.Fenced ∅ :=
    turns.fenced fenced (fun _ _ => Finset.disjoint_empty_left _) fun _ => rfl
  have other : ∀ start : Service, start.Starts → start ≠ service :=
    fun start starts same => settled (same ▸ starts)
  constructor
  · -- The flag goes with the number of pages, which only a start and a teardown change.
    rw [next.started_iff, after, total, ← fenced.started_iff, aware.allocating]
    have unlike := fun bytes reservedEnd => other (.startAllocator bytes reservedEnd) trivial
    simp only [Allocating, mem_session_cons lasting, unlike, false_and, false_or]
  · rw [after, scheduler, aware.scheduling]
    have unlike := fun config => other (.startScheduler config) trivial
    simp only [Scheduling, mem_session_cons lasting, unlike, false_and, false_or]

theorem Aware.step (aware : start.Aware earlier) (fenced : (start.after earlier).core.Fenced ∅)
    (service : Service) : start.Aware (service :: earlier) := by
  cases service with
  | tearDown => exact ⟨iff_of_false Bool.false_ne_true nofun, iff_of_false Bool.false_ne_true nofun⟩
  | startAllocator bytes reservedEnd =>
      cases found : ((start.after earlier).serve (.startAllocator bytes reservedEnd)).result with
      | error failure => exact aware.unstarted trivial found
      | ok reply =>
          obtain ⟨started, scheduler⟩ := (perform_map_ensures _
            ((start.after earlier).core.startAllocator_cases bytes reservedEnd)).of_ok found
          constructor
          · exact iff_of_true started ⟨bytes, reservedEnd, mem_session_self nofun found⟩
          · rw [after, serve, startAllocator, scheduler, aware.scheduling]
            simp [Scheduling, mem_session_cons]
  | startScheduler config =>
      cases found : ((start.after earlier).serve (.startScheduler config)).result with
      | error failure => exact aware.unstarted trivial found
      | ok reply =>
          obtain ⟨-, -, -, next⟩ := (perform_map_ensures _
            ((start.after earlier).core.startScheduler_cases config)).of_ok found
          constructor
          · rw [after, serve, startScheduler, next, aware.allocating]
            simp [Allocating, mem_session_cons]
          · refine iff_of_true ?_ ⟨config, mem_session_self nofun found⟩
            rw [after, serve, startScheduler, next]
            rfl
  | _ => exact aware.settled fenced id nofun

theorem fenced_empty (services : List Service) : (boot.after services).core.Fenced ∅ :=
  after_fenced Core.fenced_boot (sparesPages_empty boot services) fun _ => rfl

theorem after_aware (services : List Service) : boot.Aware services := by
  induction services with
  | nil => exact ⟨iff_of_false Bool.false_ne_true nofun, iff_of_false Bool.false_ne_true nofun⟩
  | cons service earlier ih => exact ih.step (fenced_empty earlier) service

end Kernel

end MiniKernel
