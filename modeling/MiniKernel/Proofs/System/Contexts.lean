import MiniKernel.Proofs.System.Basic

/-! The registers of a process over a run. They wait in its slot from the moment it leaves the
processor, and nothing that happens in between touches them. -/

namespace MiniKernel

namespace System

def built (before : System) (call : Call) : Option Registers :=
  call.creates.bind fun (entry, kind, _) =>
    match (before.scheduler.table.allocFooting before.memory entry kind).result with
    | .ok footing => some footing.context
    | .error _ => none

/-- The registers with which a process is to run next: those saved when it last left the processor,
or else those that its creation built. -/
def contextOf (start : System) (pid : Pid) : List Call → Option Registers
  | [] => none
  | call :: earlier =>
      let before := start.after earlier
      match call, (before.perform call).result with
      | .switch _ saved _, .ok _ =>
          if before.scheduler.currentPid = pid then some saved else start.contextOf pid earlier
      | call, .ok (.created born) =>
          if born = pid then before.built call else start.contextOf pid earlier
      | _, _ => start.contextOf pid earlier

variable {start : System} {earlier : List Call} {pid : Pid}

theorem contextOf_failed {call : Call} {failure : Failure}
    (failed : ((start.after earlier).perform call).result = .error failure) :
    start.contextOf pid (call :: earlier) = start.contextOf pid earlier := by
  cases call <;> simp [contextOf, failed]

theorem contextOf_switch {request : Request} {saved : Registers} {now : Nat} {answer : Answer}
    (returned : ((start.after earlier).perform (.switch request saved now)).result = .ok answer) :
    start.contextOf pid (.switch request saved now :: earlier) =
      if (start.after earlier).scheduler.currentPid = pid then some saved
      else start.contextOf pid earlier := by
  simp [contextOf, returned]

theorem contextOf_created {call : Call} {born : Pid} (creates : call.Creates)
    (returned : ((start.after earlier).perform call).result = .ok (.created born)) :
    start.contextOf pid (call :: earlier) =
      if born = pid then (start.after earlier).built call else start.contextOf pid earlier := by
  cases call with
  | spawn entry => simp [contextOf, returned]
  | create entry kind name => simp [contextOf, returned]
  | _ => cases creates

theorem contextOf_other {call : Call} {answer : Answer} (idle : ¬ call.Switches)
    (barren : ∀ born, answer ≠ .created born)
    (returned : ((start.after earlier).perform call).result = .ok answer) :
    start.contextOf pid (call :: earlier) = start.contextOf pid earlier := by
  cases call with
  | switch request saved now => exact absurd trivial idle
  | _ =>
    cases answer
    case created born => exact absurd rfl (barren born)
    all_goals simp [contextOf, returned]

def Kept (start : System) (calls : List Call) : Prop :=
  ∀ slot process, (start.after calls).scheduler.table.get? slot = some process →
    process.state = .ready ∨ process.state = .sleeping →
    start.contextOf process.pid calls = some process.context

theorem Kept.step {call : Call} (kept : start.Kept earlier)
    (same : ∀ pid, start.contextOf pid (call :: earlier) = start.contextOf pid earlier)
    (entries : ∀ slot process, (start.after (call :: earlier)).scheduler.table.get? slot = some process →
      ∃ before, (start.after earlier).scheduler.table.get? slot = some before ∧
        before.pid = process.pid ∧ before.state = process.state ∧ before.context = process.context) :
    start.Kept (call :: earlier) := by
  intro slot process held waits
  obtain ⟨before, beforeHeld, pid, state, context⟩ := entries slot process held
  rw [same, ← pid, ← context]
  exact kept slot before beforeHeld (state ▸ waits)

/-- After a departure, whoever waits or is about to run has the registers that the run says. -/
theorem Kept.settled {request : Request} {saved : Registers} {now slot other : Nat} {answer : Answer}
    {process rival settled : ControlBlock} (kept : start.Kept earlier)
    (returned : ((start.after earlier).perform (.switch request saved now)).result = .ok answer)
    (coherent : (start.after earlier).scheduler.Coherent slot process)
    (running : process.state = .running) (departure : Departure)
    (held : (start.after earlier).scheduler.table.get? other = some rival)
    (eq : settled = ((start.after earlier).scheduler.depart slot process departure).settle saved now
      other (departure.mark ⟨(start.after earlier).scheduler.idleSlot, idlePid⟩ ⟨slot, process.pid⟩
        other rival))
    (waits : settled.state = .ready ∨ settled.state = .sleeping) :
    start.contextOf settled.pid (.switch request saved now :: earlier) = some settled.context := by
  have fixed : settled.fixed = rival.fixed := by
    rw [eq]
    exact (Scheduler.settle_fixed ..).trans (Departure.mark_fixed ..)
  have pid : settled.pid = rival.pid := (ControlBlock.fixed_inj.mp fixed).1
  rw [contextOf_switch returned, coherent.currentPid_eq, pid]
  rcases coherent.settled_context running departure saved now held eq waits with
    ⟨rfl, context⟩ | ⟨away, context, state⟩
  · obtain rfl := Option.some.inj (coherent.occupied.holds.symm.trans held)
    rw [if_pos rfl, context]
  · have different : process.pid ≠ rival.pid := by
      intro same
      exact away (coherent.numbered.distinct slot other process rival coherent.occupied.holds held
        same).symm
    rw [if_neg different, context]
    exact kept other rival held state

theorem Kept.performed {call : Call} {answer : Answer} (kept : start.Kept earlier)
    (wellFormed : (start.after earlier).scheduler.WellFormed)
    (returned : ((start.after earlier).perform call).result = .ok answer)
    (performed : (start.after earlier).Performed call answer (start.after (call :: earlier))) :
    start.Kept (call :: earlier) := by
  obtain ⟨current, runner, runnerCoherent, -⟩ := wellFormed
  generalize reached : start.after (call :: earlier) = reachedSystem at performed
  cases performed with
  | @created call entry kind name slot process _ creates created =>
      obtain ⟨footing, footed, born⟩ := created.born
      have builds : (start.after earlier).built call = some process.context := by
        simp [built, creates, footed, born, ProcessTable.newborn, ControlBlock.new]
      intro other after held waits
      rw [reached, created.get?] at held
      rw [contextOf_created (by simp [Call.Creates, creates]) returned]
      split at held
      · obtain rfl := Option.some.inj held
        rw [if_pos rfl, builds]
      · have older := runnerCoherent.numbered.below other after held
        rw [if_neg (created.pid ▸ Nat.ne_of_gt older)]
        exact kept other after held waits
  | @switched request saved now registers scheduler switched =>
      obtain ⟨slot, process, chosen, coherent, running, -, dispatched⟩ := switched
      intro other after held waits
      rw [reached] at held
      rw [dispatched.entries, Scheduler.get?_depart coherent.occupied.holds, Option.map_map] at held
      obtain ⟨rival, rivalHeld, rfl⟩ := Option.map_eq_some_iff.mp held
      have notChosen : other ≠ chosen := by
        rintro rfl
        simp [Scheduler.turn_state] at waits
      simp only [Function.comp_apply, Scheduler.turn, if_neg notChosen] at waits ⊢
      exact kept.settled returned coherent running _ rivalHeld rfl waits
  | reaped exited freed =>
      refine kept.step (fun pid => contextOf_other (fun switches => switches) (by simp) returned) ?_
      intro slot process held
      rw [reached] at held
      exact ⟨process, (ProcessTable.get?_clear_some.mp held).2, rfl, rfl, rfl⟩
  | edited pid change =>
      refine kept.step (fun pid => contextOf_other (fun switches => switches) (by simp) returned) ?_
      intro slot process held
      rw [reached] at held
      rw [Scheduler.get?_withFiles] at held
      obtain ⟨before, beforeHeld, rfl⟩ := Option.map_eq_some_iff.mp held
      exact ⟨before, beforeHeld, rfl, rfl, rfl⟩
  | page performed =>
      refine kept.step (fun pid => contextOf_other (fun switches => switches) (by simp) returned) ?_
      intro slot process held
      rw [reached] at held
      exact ⟨process, held, rfl, rfl, rfl⟩

theorem Kept.failed {call : Call} {failure : Failure} (kept : start.Kept earlier)
    (found : ((start.after earlier).perform call).result = .error failure)
    (counted : call.Switches → failure ≠ .trapped .addOverflow)
    (failed : (start.after earlier).Failed call failure (start.after (call :: earlier))) :
    start.Kept (call :: earlier) := by
  refine kept.step (fun pid => contextOf_failed found) ?_
  intro slot process held
  generalize start.after (call :: earlier) = reached at failed held
  cases failed with
  | overflowed overflowed => exact absurd overflowed.trapped (counted trivial)
  | lost exited _ =>
      exact ⟨process, (ProcessTable.get?_clear_some.mp held).2, rfl, rfl, rfl⟩
  | _ => exact ⟨process, held, rfl, rfl, rfl⟩

theorem kept_initially {config : Config} (capacity : config.capacity ≠ 0) (memory : PageAllocator) :
    Kept ⟨Scheduler.initial config, memory⟩ [] := by
  intro slot process held waits
  obtain ⟨-, rfl⟩ := (Scheduler.get?_initial capacity).mp held
  rcases waits with state | state <;> cases state

theorem after_kept {config : Config} (valid : config.validate = .ok ()) (memory : PageAllocator)
    (calls : List Call) :
    (System.after ⟨Scheduler.initial config, memory⟩ calls).scheduler.WellFormed ∧
        Kept ⟨Scheduler.initial config, memory⟩ calls ∨
      (System.after ⟨Scheduler.initial config, memory⟩ calls).scheduler.Stalled := by
  obtain ⟨capacity, -⟩ := Scheduler.validate_ok valid
  refine (after_induction (Scheduler.wellFormed_initial valid) (Kept _)
    (kept_initially capacity memory) ?_ ?_ calls).imp id And.left
  · intro call answer earlier kept wellFormed returned performed
    exact kept.performed wellFormed returned performed
  · intro call failure earlier kept _ found counts failed
    exact kept.failed found counts failed

/-- Whoever is set running gets the registers back with which it left the processor, or those that
its creation built if it has never run, whatever happened in between. -/
theorem resumed_context {config : Config} {scheduler : Scheduler}
    (started : (Scheduler.start config).result = .ok scheduler) (memory : PageAllocator)
    (earlier : List Call) (request : Request) (saved : Registers) (now : Nat) (registers : Registers)
    (returned : ((System.after ⟨scheduler, memory⟩ earlier).perform
      (.switch request saved now)).result = .ok (.resumed registers)) :
    System.contextOf ⟨scheduler, memory⟩
        (System.after ⟨scheduler, memory⟩ (.switch request saved now :: earlier)).scheduler.currentPid
        (.switch request saved now :: earlier) =
      some registers := by
  obtain ⟨valid, rfl⟩ := (Scheduler.start_ensures config).of_ok started
  obtain ⟨wellFormed, kept⟩ := (after_kept valid memory earlier).resolve_right fun stalled =>
    ((perform_stalled stalled (.switch request saved now)).of_ok returned).1 trivial
  have performed := (perform_ensures wellFormed (.switch request saved now)).of_ok returned
  rw [after]
  generalize ((System.after ⟨Scheduler.initial config, memory⟩ earlier).perform
    (.switch request saved now)).state = reached at performed
  cases performed with
  | switched switched =>
      obtain ⟨slot, process, chosen, coherent, running, leaves, dispatched⟩ := switched
      obtain ⟨departed, departedHeld, ready, context, currentPid⟩ :=
        (coherent.depart running leaves).chosen dispatched
      rw [Scheduler.get?_depart coherent.occupied.holds] at departedHeld
      obtain ⟨rival, held, rfl⟩ := Option.map_eq_some_iff.mp departedHeld
      rw [currentPid, ← context]
      exact kept.settled returned coherent running _ held rfl (Or.inl ready)

theorem resumed_context_secondQuantum :
    System.contextOf ⟨Scheduler.initial {}, .unstarted⟩ 1
        [.switch .dispatch { rax := 3 } 3, .switch .dispatch { rax := 2 } 2,
          .switch .dispatch { rax := 1 } 1, .spawn ⟨4096, by decide⟩,
          .page (.start 65536 ⟨4096, by decide⟩)] =
      some { rax := 2 } := by
  have started : (Scheduler.start {}).result = .ok (Scheduler.initial {}) := rfl
  have resumed := resumed_context started .unstarted [.switch .dispatch { rax := 2 } 2,
    .switch .dispatch { rax := 1 } 1, .spawn ⟨4096, by decide⟩,
    .page (.start 65536 ⟨4096, by decide⟩)] .dispatch { rax := 3 } 3 { rax := 2 } (by decide +kernel)
  have ran : (System.after ⟨Scheduler.initial {}, .unstarted⟩
      [.switch .dispatch { rax := 3 } 3, .switch .dispatch { rax := 2 } 2,
        .switch .dispatch { rax := 1 } 1, .spawn ⟨4096, by decide⟩,
        .page (.start 65536 ⟨4096, by decide⟩)]).scheduler.currentPid = 1 := by
    decide +kernel
  rwa [ran] at resumed

end System

end MiniKernel
