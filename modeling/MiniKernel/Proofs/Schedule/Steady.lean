import MiniKernel.Proofs.Schedule.Population

/-! What the operations leave alone in a scheduler of any shape, also one that lost a switch, and also
when they fail. A dispatch keeps every process in its slot, and nobody ends the idle process. -/

namespace MiniKernel.Scheduler

structure Steady (before after : Scheduler) : Prop where
  fixed : ∀ slot, (after.table.get? slot).map ControlBlock.fixed =
    (before.table.get? slot).map ControlBlock.fixed
  table : after.table = { before.table with slots := after.table.slots }
  config : after.config = before.config
  idleSlot : after.idleSlot = before.idleSlot
  idle : ∀ later, after.table.get? before.idleSlot = some later → later.state = .zombie →
    ∃ process, before.table.get? before.idleSlot = some process ∧ process.state = .zombie

variable {scheduler middle next : Scheduler} {slot : Nat} {process changed : ControlBlock}
  {table : ProcessTable}

theorem Steady.of_table (table : next.table = scheduler.table) (config : next.config = scheduler.config)
    (idleSlot : next.idleSlot = scheduler.idleSlot) : scheduler.Steady next where
  fixed := fun slot => by rw [table]
  table := by rw [table]
  config := config
  idleSlot := idleSlot
  idle := fun later held zombie => ⟨later, table ▸ held, zombie⟩

theorem Steady.refl (scheduler : Scheduler) : scheduler.Steady scheduler := .of_table rfl rfl rfl

theorem Steady.trans (steady : scheduler.Steady middle) (after : middle.Steady next) :
    scheduler.Steady next where
  fixed := fun slot => (after.fixed slot).trans (steady.fixed slot)
  table := by rw [after.table, steady.table]
  config := after.config.trans steady.config
  idleSlot := after.idleSlot.trans steady.idleSlot
  idle := by
    intro later held zombie
    obtain ⟨process, processHeld, ended⟩ := after.idle later (steady.idleSlot ▸ held) zombie
    exact steady.idle process (steady.idleSlot ▸ processHeld) ended

theorem steady_change (change : Nat → ControlBlock → ControlBlock)
    (entries : ∀ other, table.get? other = (scheduler.table.get? other).map (change other))
    (frame : table = { scheduler.table with slots := table.slots })
    (fixed : ∀ other rival, scheduler.table.get? other = some rival →
      (change other rival).fixed = rival.fixed)
    (spared : ∀ rival, scheduler.table.get? scheduler.idleSlot = some rival →
      (change scheduler.idleSlot rival).state = .zombie → rival.state = .zombie) :
    scheduler.Steady { scheduler with table } := by
  refine ⟨fun other => ?_, frame, rfl, rfl, ?_⟩
  · rw [entries]
    cases held : scheduler.table.get? other with
    | none => rfl
    | some rival => exact congrArg some (fixed other rival held)
  · intro later held zombie
    rw [entries] at held
    obtain ⟨rival, rivalHeld, rfl⟩ := Option.map_eq_some_iff.mp held
    exact ⟨rival, rivalHeld, spared rival rivalHeld zombie⟩

theorem steady_put (held : scheduler.table.get? slot = some process)
    (fixed : changed.fixed = process.fixed)
    (spared : slot = scheduler.idleSlot → changed.state = .zombie → process.state = .zombie) :
    scheduler.Steady { scheduler with table := scheduler.table.put slot changed } := by
  refine steady_change (fun other rival => if other = slot then changed else rival) ?_ rfl ?_ ?_
  · intro other
    rw [ProcessTable.get?_put (ProcessTable.get?_lt held)]
    by_cases own : other = slot
    · subst other
      simp [held]
    · simp [own]
  · intro other rival rivalHeld
    by_cases own : other = slot
    · subst other
      obtain rfl := Option.some.inj (held.symm.trans rivalHeld)
      simpa using fixed
    · simp [own]
  · intro rival rivalHeld zombie
    by_cases own : scheduler.idleSlot = slot
    · obtain rfl := Option.some.inj (held.symm.trans (own ▸ rivalHeld))
      exact spared own.symm (by simpa [own] using zombie)
    · simpa [own] using zombie

/-! The steps of a dispatch. -/

theorem enqueue_frame (scheduler : Scheduler) (slot : Nat) :
    (scheduler.enqueue slot).Ensures (fun _ next => ∃ ready, next = { scheduler with ready })
      fun _ next => next = scheduler := by
  unfold enqueue
  dsimp only
  split
  · exact ⟨_, rfl⟩
  · rfl

theorem enqueue_steady (scheduler : Scheduler) (slot : Nat) :
    (scheduler.enqueue slot).Ensures (fun _ => scheduler.Steady) fun _ => scheduler.Steady := by
  refine (enqueue_frame scheduler slot).imp ?_ ?_
  · rintro _ _ ⟨ready, rfl⟩
    exact .of_table rfl rfl rfl
  · rintro _ _ rfl
    exact .refl _

theorem makeWay_steady (scheduler : Scheduler) (saved : Registers) :
    (scheduler.makeWay saved).Ensures (fun _ => scheduler.Steady) fun _ => scheduler.Steady := by
  have vacated : scheduler.Steady { scheduler with current := none } := .of_table rfl rfl rfl
  unfold makeWay
  split
  · exact .refl scheduler
  · dsimp only
    split
    · exact vacated
    · rename_i slot _ _ process held
      split
      · have stopped : scheduler.Steady { scheduler with
            current := none
            table := scheduler.table.put slot { process with context := saved, state := .ready } } :=
          vacated.trans (steady_put held rfl (by simp))
        exact (enqueue_steady _ slot).imp (fun _ _ => stopped.trans) fun _ _ => stopped.trans
      · exact vacated.trans (steady_put held rfl (by simp_all))
      · exact vacated
      · exact vacated

theorem wake_steady (scheduler : Scheduler) (slots : List Nat) :
    (scheduler.wake slots).Ensures (fun _ => scheduler.Steady) fun _ => scheduler.Steady := by
  induction slots generalizing scheduler with
  | nil => exact .refl scheduler
  | cons slot slots ih =>
      have woken : scheduler.Steady { scheduler with
          table := scheduler.table.modify slot fun process => { process with state := .ready } } := by
        refine steady_change _ (ProcessTable.get?_modify scheduler.table slot _) rfl ?_ ?_
        · intro other rival _
          split <;> rfl
        · intro rival _
          split
          · intro zombie
            cases zombie
          · exact id
      rw [wake, Outcome.ensures_andThen]
      refine (enqueue_steady _ slot).imp ?_ fun _ _ => woken.trans
      intro _ middle steady
      exact (ih middle).imp (fun _ _ => (woken.trans steady).trans) fun _ _ => (woken.trans steady).trans

theorem runHead_steady (scheduler : Scheduler) (previous : Option Nat) :
    (scheduler.runHead previous).Ensures (fun _ => scheduler.Steady) fun _ => scheduler.Steady := by
  unfold runHead
  split
  · exact .refl scheduler
  · rename_i slot ready _
    have popped : scheduler.Steady { scheduler with ready } := .of_table rfl rfl rfl
    dsimp only
    split
    · exact popped
    · rename_i process held
      split
      · have runs : scheduler.Steady { scheduler with
            ready, table := scheduler.table.put slot { process with state := .running } } :=
          popped.trans (steady_put held rfl (by simp))
        rw [Outcome.ensures_andThen, Outcome.ensures_ofMachine]
        exact ⟨fun _ _ => runs.trans (.of_table rfl rfl rfl), fun _ _ => runs⟩
      · exact popped

theorem dispatch_steady (scheduler : Scheduler) (saved : Registers) (now : Nat) :
    (scheduler.dispatch saved now).Ensures (fun _ => scheduler.Steady) fun _ => scheduler.Steady := by
  have ticked : scheduler.Steady { scheduler with lastTick := now } := .of_table rfl rfl rfl
  rw [dispatch, Outcome.ensures_andThen]
  refine (makeWay_steady _ saved).imp ?_ fun _ _ => ticked.trans
  intro _ waiting madeWay
  rw [Outcome.ensures_andThen]
  refine (wake_steady waiting _).imp ?_ fun _ _ woken => (ticked.trans madeWay).trans woken
  intro _ ready woken
  have lined := (ticked.trans madeWay).trans woken
  exact (runHead_steady ready _).imp (fun _ _ => lined.trans) fun _ _ => lined.trans

theorem running_ok (runs : scheduler.running = .ok (slot, process)) :
    scheduler.current = some slot ∧ scheduler.table.get? slot = some process ∧
      process.state = .running := by
  unfold running at runs
  split at runs
  · rename_i other rival found
    split at runs
    · rename_i running
      cases runs
      obtain ⟨current, onProcessor, entry⟩ := Option.bind_eq_some_iff.mp found
      obtain ⟨same, held, pair⟩ := Option.map_eq_some_iff.mp entry
      cases pair
      exact ⟨onProcessor, held, running⟩
    · cases runs
  · cases runs

theorem depart_steady (scheduler : Scheduler) (departure : Departure)
    (held : scheduler.table.get? slot = some process)
    (leaves : departure = .yields ∨ slot ≠ scheduler.idleSlot) :
    scheduler.Steady (scheduler.depart slot process departure) := by
  rw [depart_frame]
  refine steady_change _ (get?_depart held departure) (table_depart ..)
    (fun _ _ _ => departure.mark_fixed ..) ?_
  intro rival rivalHeld zombie
  by_cases own : scheduler.idleSlot = slot
  · obtain rfl := leaves.resolve_right fun away => away own.symm
    exact zombie
  · rwa [departure.mark_state_other _ ⟨slot, process.pid⟩ own] at zombie

theorem sleep_steady (scheduler : Scheduler) (ms : Nat) (saved : Registers) (now : Nat) :
    (scheduler.sleep ms saved now).Ensures (fun _ => scheduler.Steady) fun _ => scheduler.Steady := by
  rw [sleep, Outcome.ensures_andThen, Outcome.ensures_ofMachine]
  refine ⟨fun delta _ => ?_, fun _ _ => .refl scheduler⟩
  rw [Outcome.ensures_andThen, Outcome.ensures_ofContract]
  refine ⟨?_, fun _ _ => .refl scheduler⟩
  rintro ⟨slot, process⟩ runs
  have held := (running_ok runs).2.1
  dsimp only
  split
  · exact .refl scheduler
  · rename_i busy
    have departed := scheduler.depart_steady (.sleeps (Word.satAdd now delta)) held (Or.inr busy)
    exact (dispatch_steady _ saved now).imp (fun _ _ => departed.trans) fun _ _ => departed.trans

theorem exit_steady (scheduler : Scheduler) (code : Int) (saved : Registers) (now : Nat) :
    (scheduler.exit code saved now).Ensures (fun _ => scheduler.Steady) fun _ => scheduler.Steady := by
  rw [exit, Outcome.ensures_andThen, Outcome.ensures_ofContract]
  refine ⟨?_, fun _ _ => .refl scheduler⟩
  rintro ⟨slot, process⟩ runs
  have held := (running_ok runs).2.1
  dsimp only
  split
  · exact .refl scheduler
  · rename_i busy
    have departed := scheduler.depart_steady (.exits code) held (Or.inr busy)
    exact (dispatch_steady _ saved now).imp (fun _ _ => departed.trans) fun _ _ => departed.trans

/-! Creation. -/

structure Entered (before : Scheduler) (memory : PageAllocator) (entry : VirtAddr) (kind : ProcessKind)
    (name : String) (slot : Nat) (process : ControlBlock) (after : Scheduler)
    (left : PageAllocator) : Prop where
  vacant : before.table.freeSlot? = some slot
  born : ∃ footing, (before.table.allocFooting memory entry kind).result = .ok footing ∧
    process = before.table.newborn name kind footing before.runningLink
  pages : left = (before.table.allocFooting memory entry kind).state
  table : after.table = { before.table.put slot process with nextPid := before.table.nextPid + 1 }
  config : after.config = before.config
  idleSlot : after.idleSlot = before.idleSlot

theorem Entered.get? {memory left : PageAllocator} {entry : VirtAddr} {kind : ProcessKind}
    {name : String} (entered : scheduler.Entered memory entry kind name slot process next left)
    (other : Nat) :
    next.table.get? other = if other = slot then some process else scheduler.table.get? other := by
  rw [entered.table]
  exact ProcessTable.get?_put (ProcessTable.freeSlot?_some entered.vacant).1 other

theorem create_enters (scheduler : Scheduler) (memory : PageAllocator) (entry : VirtAddr)
    (kind : ProcessKind) (name : String) :
    (scheduler.create memory entry kind name).Ensures
      (fun pid next => pid = scheduler.table.nextPid ∧
        ∃ slot process, scheduler.Entered memory entry kind name slot process next.1 next.2)
      fun failure next => next.1 = scheduler ∧
          scheduler.table.Uncreated memory entry kind failure next.2 ∨
        ∃ slot process, scheduler.Entered memory entry kind name slot process next.1 next.2 := by
  rw [create, Outcome.ensures_andThen, Outcome.ensures_within]
  refine (ProcessTable.create_ensures ..).imp ?_ ?_
  · rintro ⟨slot, pid⟩ ⟨table, left⟩ ⟨rfl, vacant, -, rfl, footing, footed, rfl⟩
    let born := scheduler.table.newborn name kind footing scheduler.runningLink
    let table := { scheduler.table.put slot born with nextPid := scheduler.table.nextPid + 1 }
    have entered : ∀ ready, scheduler.Entered memory entry kind name slot born
        { scheduler with table, ready } (scheduler.table.allocFooting memory entry kind).state :=
      fun _ => ⟨vacant, ⟨footing, footed, rfl⟩, rfl, rfl, rfl, rfl⟩
    simp only [Outcome.ensures_andThen, Outcome.ensures_within]
    refine (enqueue_frame { scheduler with table } slot).imp ?_ ?_
    · rintro _ _ ⟨ready, rfl⟩
      exact ⟨rfl, slot, born, entered ready⟩
    · rintro _ _ rfl
      exact Or.inr ⟨slot, born, entered scheduler.ready⟩
  · rintro failure ⟨table, left⟩ ⟨rfl, uncreated⟩
    exact Or.inl ⟨rfl, uncreated⟩

end MiniKernel.Scheduler
