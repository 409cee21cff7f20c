import MiniKernel.Proofs.Schedule.Population

/-! A scheduler that lost its processor because it could not count one more switch. It stays so
whatever is called, and no dispatch returns any more. -/

namespace MiniKernel.Scheduler

variable {scheduler : Scheduler}

theorem Stalled.of_unmoved {next : Scheduler} (stalled : scheduler.Stalled)
    (current : next.current = scheduler.current) (switches : next.switches = scheduler.switches) :
    next.Stalled :=
  ⟨current.trans stalled.current, switches ▸ stalled.full⟩

theorem Stalled.retable (stalled : scheduler.Stalled) (table : ProcessTable) :
    { scheduler with table }.Stalled := stalled.of_unmoved rfl rfl

theorem Stalled.enqueue_ensures (stalled : scheduler.Stalled) (slot : Nat) :
    (scheduler.enqueue slot).Ensures (fun _ => Stalled) fun _ => Stalled := by
  unfold enqueue
  dsimp only
  split
  · exact stalled.of_unmoved rfl rfl
  · exact stalled

theorem Stalled.wake_ensures (stalled : scheduler.Stalled) (slots : List Nat) :
    (scheduler.wake slots).Ensures (fun _ => Stalled) fun _ => Stalled := by
  induction slots generalizing scheduler with
  | nil => exact stalled
  | cons slot slots ih =>
      rw [wake, Outcome.ensures_andThen]
      refine ((stalled.retable _).enqueue_ensures slot).imp ?_ fun _ _ kept => kept
      intro _ next kept
      exact ih kept

theorem Stalled.runHead_ensures (stalled : scheduler.Stalled) :
    (scheduler.runHead none).Ensures (fun _ _ => False) fun _ => Stalled := by
  unfold runHead
  split
  · exact stalled
  · rename_i slot ready _
    have uncounted : switchesAfter { scheduler with ready } none slot = .error .addOverflow := by
      simp [switchesAfter, Word.add, Nat.not_le.mpr stalled.full]
    dsimp only
    split
    · exact stalled.of_unmoved rfl rfl
    · split
      · rw [uncounted]
        exact stalled.of_unmoved rfl rfl
      · exact stalled.of_unmoved rfl rfl

theorem Stalled.dispatch_ensures (stalled : scheduler.Stalled) (saved : Registers) (now : Nat) :
    (scheduler.dispatch saved now).Ensures (fun _ _ => False) fun _ => Stalled := by
  have ticked : { scheduler with lastTick := now }.Stalled := stalled.of_unmoved rfl rfl
  have vacant : makeWay { scheduler with lastTick := now } saved =
      .done { scheduler with lastTick := now } () := by
    simp [makeWay, stalled.current]
  rw [dispatch, vacant, Outcome.done_andThen, Outcome.ensures_andThen]
  refine (ticked.wake_ensures _).imp ?_ fun _ _ kept => kept
  intro _ next kept
  rw [stalled.current]
  exact kept.runHead_ensures

theorem Stalled.running_eq (stalled : scheduler.Stalled) :
    scheduler.running = .error .nothingRunning := by
  simp [running, currentProcess?, stalled.current]

theorem Stalled.sleep_ensures (stalled : scheduler.Stalled) (ms : Nat) (saved : Registers) (now : Nat) :
    (scheduler.sleep ms saved now).Ensures (fun _ _ => False) fun _ => Stalled := by
  rw [sleep, stalled.running_eq, Outcome.ensures_andThen, Outcome.ensures_ofMachine]
  exact ⟨fun _ _ => stalled, fun _ _ => stalled⟩

theorem Stalled.exit_ensures (stalled : scheduler.Stalled) (code : Int) (saved : Registers) (now : Nat) :
    (scheduler.exit code saved now).Ensures (fun _ _ => False) fun _ => Stalled := by
  rw [exit, stalled.running_eq]
  exact stalled

theorem Stalled.create_ensures (stalled : scheduler.Stalled) (memory : PageAllocator)
    (entry : VirtAddr) (kind : ProcessKind) (name : String) :
    (scheduler.create memory entry kind name).Ensures (fun _ next => next.1.Stalled)
      fun _ next => next.1.Stalled := by
  rw [create, Outcome.ensures_andThen, Outcome.ensures_within]
  refine Outcome.ensures_iff.mpr ⟨?_, ?_⟩
  · rintro ⟨slot, pid⟩ -
    rw [Outcome.ensures_andThen, Outcome.ensures_within]
    exact ((stalled.retable _).enqueue_ensures slot).imp (fun _ _ kept => kept) fun _ _ kept => kept
  · intro failure _
    exact stalled.retable _

theorem Stalled.reap_ensures (stalled : scheduler.Stalled) (memory : PageAllocator) (pid : Pid) :
    (scheduler.reap memory pid).outcome.Ensures (fun _ next => next.1.Stalled)
      fun _ next => next.1.Stalled := by
  rw [reap, Outcome.ensures_andThen, Outcome.ensures_within]
  exact Outcome.ensures_iff.mpr
    ⟨fun _ _ => stalled.retable _, fun _ _ => stalled.retable _⟩

theorem Stalled.withFiles {α : Type} (stalled : scheduler.Stalled) (pid : Pid)
    (change : Descriptors → α × Descriptors) : (scheduler.withFiles pid change).2.Stalled := by
  unfold Scheduler.withFiles
  split
  · exact stalled
  · exact stalled.retable _

end MiniKernel.Scheduler
