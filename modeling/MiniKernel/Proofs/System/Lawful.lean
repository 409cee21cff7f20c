import MiniKernel.Proofs.Schedule.Moves
import MiniKernel.Proofs.System.Effect
import MiniKernel.Proofs.System.Sleep

/-! The law of the processes. Each call moves a state by one move at most, only the running process
puts itself to sleep or ends, and whoever has ended stays so until it is reaped. -/

namespace MiniKernel

def Call.departure (config : Config) : Call → Departure
  | switch request _ now => request.departure config now
  | _ => .yields

theorem Call.departure_sleeps {config : Config} {call : Call} {wakeTick : Nat}
    (sleeps : call.departure config = .sleeps wakeTick) :
    ∃ ms saved now, call = .switch (.sleep ms) saved now := by
  cases call with
  | switch request saved now =>
      cases request with
      | sleep ms => exact ⟨ms, saved, now, rfl⟩
      | _ => cases sleeps
  | _ => cases sleeps

theorem Call.departure_exits {config : Config} {call : Call} {code : Int}
    (exits : call.departure config = .exits code) :
    ∃ saved now, call = .switch (.exit code) saved now := by
  cases call with
  | switch request saved now =>
      cases request with
      | exit last =>
          obtain rfl := Departure.exits.inj exits
          exact ⟨saved, now, rfl⟩
      | _ => cases exits
  | _ => cases exits

namespace Scheduler

variable {scheduler : Scheduler} {slot : Nat} {pid : Pid} {process : ControlBlock} {info : Snapshot}

structure Ended (scheduler : Scheduler) (pid : Pid) (code : Option Int) : Prop where
  shown : ∃ info, scheduler.lookup pid = some info ∧ info.state = .zombie ∧ info.exitCode = code
  stopped : scheduler.currentPid ≠ pid
  unqueued : ∀ slot, scheduler.table.lookup pid = some slot → slot ∉ scheduler.ready.waiting

theorem WellFormed.ended (wellFormed : scheduler.WellFormed)
    (found : scheduler.lookup pid = some info) (zombie : info.state = .zombie) :
    scheduler.Ended pid info.exitCode := by
  obtain ⟨slot, process, hit, held, rfl, rfl⟩ := lookup_some found
  refine ⟨⟨_, found, zombie, rfl⟩, ?_, ?_⟩
  · exact wellFormed.currentPid_ne ⟨process, held, rfl, rfl, zombie⟩ (by simp)
  · intro other otherHit waits
    obtain rfl := Option.some.inj (hit.symm.trans otherHit)
    obtain ⟨current, runner, coherent, -⟩ := wellFormed
    obtain ⟨rival, rivalHeld, ready⟩ := (coherent.lined.waiting slot).mp waits
    obtain rfl := Option.some.inj (held.symm.trans rivalHeld)
    exact absurd (zombie.symm.trans ready) (by simp)

theorem passage_files (scheduler : Scheduler) (departure : Departure) (slot : Nat)
    (process : ControlBlock) (files : Descriptors) :
    scheduler.Passage departure slot process { process with files } where
  pid := rfl
  moves := Or.inl rfl
  sleeps := Or.inl
  exits := Or.inl
  ended := fun zombie => ⟨zombie, rfl⟩

end Scheduler

namespace System

variable {start before : System} {after : Scheduler} {call : Call} {earlier : List Call} {slot : Nat}
  {process : ControlBlock} {result : Except Failure Answer}

theorem Effect.passage (effect : before.Effect call result after)
    (numbered : before.scheduler.table.Numbered)
    (held : before.scheduler.table.get? slot = some process) :
    (∃ later, after.table.get? slot = some later ∧ before.scheduler.Passage
      (call.departure before.scheduler.config) slot process later) ∨
    call = .reap process.pid ∧ process.state = .zombie ∧ after.lookup process.pid = none := by
  cases effect with
  | quiet alike =>
      obtain ⟨files, kept⟩ := alike.held held
      exact Or.inl ⟨_, kept, Scheduler.passage_files ..⟩
  | born _ created =>
      exact Or.inl ⟨process, created.kept held, Scheduler.passage_files _ _ _ process process.files⟩
  | @cleared pid left buried _ exited =>
      by_cases own : slot = left
      · subst left
        obtain rfl := Option.some.inj (held.symm.trans exited.holds)
        refine Or.inr ⟨by rw [exited.named], exited.zombie, Scheduler.lookup_eq_none.mpr ?_⟩
        exact ProcessTable.lookup_none_iff.mp (numbered.lookup_clear held)
      · exact Or.inl ⟨process, ProcessTable.get?_clear_some.mpr ⟨own, held⟩,
          Scheduler.passage_files _ _ _ process process.files⟩
  | switched switched => exact Or.inl (switched.passage held)

theorem Effect.known (effect : before.Effect call result after)
    (held : after.table.get? slot = some process) :
    (∃ older, before.scheduler.table.get? slot = some older ∧ older.pid = process.pid) ∨
    call.Creates ∧ result = .ok (.created process.pid) := by
  cases effect with
  | quiet alike =>
      obtain ⟨files, kept⟩ := alike.symm.held held
      exact Or.inl ⟨_, kept, rfl⟩
  | @born call entry kind name left born after _ creates created =>
      rw [created.get?] at held
      split at held
      · obtain rfl := Option.some.inj held
        exact Or.inr ⟨by rw [Call.Creates, creates]; rfl, rfl⟩
      · exact Or.inl ⟨process, held, rfl⟩
  | cleared => exact Or.inl ⟨process, (ProcessTable.get?_clear_some.mp held).2, rfl⟩
  | switched switched =>
      have fixed := switched.fixed slot
      rw [held, Option.map_some] at fixed
      obtain ⟨older, olderHeld, same⟩ := Option.map_eq_some_iff.mp fixed.symm
      exact Or.inl ⟨older, olderHeld, (ControlBlock.fixed_inj.mp same).1⟩

structure Lawful (before : System) (call : Call) : Prop where
  moves : ∀ pid info next, before.scheduler.lookup pid = some info →
    (before.perform call).state.scheduler.lookup pid = some next →
    next.state = info.state ∨ info.state.Moves next.state
  sleeps : ∀ pid info next, before.scheduler.lookup pid = some info →
    (before.perform call).state.scheduler.lookup pid = some next →
    next.state = .sleeping → info.state ≠ .sleeping →
    before.scheduler.currentPid = pid ∧ (∃ ms saved now, call = .switch (.sleep ms) saved now) ∧
      (before.perform call).state.scheduler.currentPid ≠ pid
  exits : ∀ pid info next, before.scheduler.lookup pid = some info →
    (before.perform call).state.scheduler.lookup pid = some next →
    next.state = .zombie → info.state ≠ .zombie →
    before.scheduler.currentPid = pid ∧
      (∃ code saved now, call = .switch (.exit code) saved now ∧ next.exitCode = some code) ∧
      (before.perform call).state.scheduler.currentPid ≠ pid
  ended : ∀ pid info next, before.scheduler.lookup pid = some info →
    (before.perform call).state.scheduler.lookup pid = some next →
    info.state = .zombie → next.state = .zombie ∧ next.exitCode = info.exitCode
  leaves : ∀ pid info, before.scheduler.lookup pid = some info →
    (before.perform call).state.scheduler.lookup pid = none →
    call = .reap pid ∧ info.state = .zombie
  enters : ∀ pid info, before.scheduler.lookup pid = none →
    (before.perform call).state.scheduler.lookup pid = some info →
    call.Creates ∧ (before.perform call).result = .ok (.created pid)

theorem Effect.shown (effect : before.Effect call result after)
    (numbered : before.scheduler.table.Numbered) (numberedAfter : after.table.Numbered) {pid : Pid}
    {info next : Snapshot} (found : before.scheduler.lookup pid = some info)
    (foundAfter : after.lookup pid = some next) :
    ∃ slot process later, before.scheduler.table.get? slot = some process ∧ process.pid = pid ∧
      before.scheduler.table.snapshotOf process = info ∧ after.table.get? slot = some later ∧
      after.table.snapshotOf later = next ∧
      before.scheduler.Passage (call.departure before.scheduler.config) slot process later := by
  obtain ⟨slot, process, -, held, rfl, shown⟩ := Scheduler.lookup_some found
  obtain ⟨other, last, -, lastHeld, named, lastShown⟩ := Scheduler.lookup_some foundAfter
  rcases effect.passage numbered held with ⟨later, laterHeld, passage⟩ | ⟨-, -, gone⟩
  · obtain rfl := numberedAfter.distinct other slot last later lastHeld laterHeld
      (named.trans passage.pid.symm)
    obtain rfl := Option.some.inj (lastHeld.symm.trans laterHeld)
    exact ⟨other, process, last, held, rfl, shown, laterHeld, lastShown, passage⟩
  · rw [gone] at foundAfter
    cases foundAfter

theorem after_lawful (wellFormed : start.scheduler.WellFormed)
    (counted : start.Counted Call.Switches (call :: earlier)) : (start.after earlier).Lawful call := by
  have effect := after_effect wellFormed counted
  have shape := after_wellFormed wellFormed (call :: earlier) counted
  obtain ⟨current, runner, coherent, -⟩ := after_wellFormed wellFormed earlier counted.1
  rw [after] at effect shape
  generalize start.after earlier = before at *
  obtain ⟨chosen, successor, coherentAfter, -⟩ := id shape
  have displaced : ∀ {slot process later state}, before.scheduler.table.get? slot = some process →
      before.scheduler.current = some slot → later.pid = process.pid →
      (before.perform call).state.scheduler.table.get? slot = some later →
      later.state = state → state ≠ .running →
      before.scheduler.currentPid = process.pid ∧
        (before.perform call).state.scheduler.currentPid ≠ process.pid := by
    intro slot process later state held runs pid laterHeld same stopped
    refine ⟨(coherent.currentPid_eq_iff held).mpr runs, ?_⟩
    exact shape.currentPid_ne ⟨later, laterHeld, pid, rfl, same⟩ stopped
  constructor
  · intro pid info next found foundAfter
    obtain ⟨slot, process, later, -, -, rfl, -, rfl, passage⟩ :=
      effect.shown coherent.numbered coherentAfter.numbered found foundAfter
    exact passage.moves
  · intro pid info next found foundAfter asleep awake
    obtain ⟨slot, process, later, held, rfl, rfl, laterHeld, rfl, passage⟩ :=
      effect.shown coherent.numbered coherentAfter.numbered found foundAfter
    obtain ⟨runs, wakeTick, sleeps⟩ := (passage.sleeps asleep).resolve_left awake
    obtain ⟨was, gone⟩ := displaced held runs passage.pid laterHeld asleep (by simp)
    exact ⟨was, Call.departure_sleeps sleeps, gone⟩
  · intro pid info next found foundAfter ended lived
    obtain ⟨slot, process, later, held, rfl, rfl, laterHeld, rfl, passage⟩ :=
      effect.shown coherent.numbered coherentAfter.numbered found foundAfter
    obtain ⟨runs, code, exits, left⟩ := (passage.exits ended).resolve_left lived
    obtain ⟨was, gone⟩ := displaced held runs passage.pid laterHeld ended (by simp)
    obtain ⟨saved, now, exit⟩ := Call.departure_exits exits
    exact ⟨was, ⟨code, saved, now, exit, left⟩, gone⟩
  · intro pid info next found foundAfter
    obtain ⟨slot, process, later, -, -, rfl, -, rfl, passage⟩ :=
      effect.shown coherent.numbered coherentAfter.numbered found foundAfter
    exact passage.ended
  · intro pid info found missing
    obtain ⟨slot, process, -, held, rfl, rfl⟩ := Scheduler.lookup_some found
    rcases effect.passage coherent.numbered held with ⟨later, laterHeld, passage⟩ | ⟨reaps, ended, -⟩
    · exact absurd passage.pid (Scheduler.lookup_eq_none.mp missing slot later laterHeld)
    · exact ⟨reaps, ended⟩
  · intro pid info missing foundAfter
    obtain ⟨slot, process, -, held, rfl, -⟩ := Scheduler.lookup_some foundAfter
    rcases effect.known held with ⟨older, olderHeld, same⟩ | creates
    · exact absurd same (Scheduler.lookup_eq_none.mp missing slot older olderHeld)
    · exact creates

theorem perform_reap_ended {system : System} (wellFormed : system.scheduler.WellFormed) {pid : Pid}
    {code : Option Int} (ended : system.scheduler.Ended pid code) :
    (system.perform (.reap pid)).state.scheduler.lookup pid = none := by
  obtain ⟨current, runner, coherent, -⟩ := wellFormed
  obtain ⟨info, found, zombie, -⟩ := ended.shown
  obtain ⟨slot, process, hit, held, rfl, rfl⟩ := Scheduler.lookup_some found
  have exited : system.scheduler.table.Exited process.pid slot process := ⟨hit, held, rfl, zombie⟩
  change (system.scheduler.reap system.memory process.pid).outcome.state.1.lookup process.pid = none
  rw [Scheduler.reap_state, (exited.reap system.memory).2, Scheduler.lookup_eq_none]
  exact ProcessTable.lookup_none_iff.mp (coherent.numbered.lookup_clear held)

theorem after_ended (wellFormed : start.scheduler.WellFormed) {later : List Call} {pid : Pid}
    {code : Option Int} (counted : start.Counted Call.Switches (later ++ earlier))
    (ended : (start.after earlier).scheduler.Ended pid code) (unreaped : .reap pid ∉ later) :
    (start.after (later ++ earlier)).scheduler.Ended pid code := by
  induction later with
  | nil => exact ended
  | cons call later ih =>
      obtain ⟨info, found, zombie, left⟩ :=
        (ih counted.1 fun reaped => unreaped (List.mem_cons_of_mem _ reaped)).shown
      have lawful := after_lawful wellFormed counted
      have shape := after_wellFormed wellFormed _ counted
      rw [List.cons_append]
      cases foundAfter : (start.after (call :: (later ++ earlier))).scheduler.lookup pid with
      | none =>
          obtain ⟨reaps, -⟩ := lawful.leaves pid info found foundAfter
          exact absurd (reaps ▸ List.mem_cons_self) unreaped
      | some next =>
          obtain ⟨same, sameCode⟩ := lawful.ended pid info next found foundAfter zombie
          exact left ▸ sameCode ▸ shape.ended foundAfter same

/-- The states of the processes obey the law in every call of a run that lost no switch. Whoever has
ended stays as it is, off the processor and out of the queue, whatever calls follow; a reap of its
pid removes it and no other call does. -/
theorem after_obeys {config : Config} {scheduler : Scheduler}
    (started : (Scheduler.start config).result = .ok scheduler) (memory : PageAllocator) :
    let start : System := ⟨scheduler, memory⟩
    (∀ call earlier, start.Counted Call.Switches (call :: earlier) →
      (start.after earlier).Lawful call) ∧
    ∀ earlier later pid info, start.Counted Call.Switches (later ++ earlier) →
      (start.after earlier).scheduler.lookup pid = some info → info.state = .zombie →
      .reap pid ∉ later →
      (start.after (later ++ earlier)).scheduler.Ended pid info.exitCode ∧
        (start.after (.reap pid :: (later ++ earlier))).scheduler.lookup pid = none := by
  obtain ⟨valid, rfl⟩ := (Scheduler.start_ensures config).of_ok started
  have initially : (Scheduler.initial config).WellFormed := Scheduler.wellFormed_initial valid
  refine ⟨fun call earlier counted => after_lawful initially counted, ?_⟩
  intro earlier later pid info counted found zombie unreaped
  have past := ((counted_append _ _ later earlier).mp counted).1
  have ended := (after_wellFormed initially earlier past).ended found zombie
  have still := after_ended initially counted ended unreaped
  exact ⟨still, perform_reap_ended (after_wellFormed initially _ counted) still⟩

theorem after_obeys_exited :
    let start : System := ⟨.initial {}, .unstarted⟩
    let earlier : List Call := [.switch .dispatch {} 1, .spawn ⟨4096, by decide⟩,
      .page (.start 65536 ⟨4096, by decide⟩)]
    let exit : Call := .switch (.exit 7) {} 2
    let later : List Call := [.switch .dispatch {} 3, .spawn ⟨4096, by decide⟩]
    (start.after earlier).Lawful exit ∧
      (start.after (later ++ exit :: earlier)).scheduler.Ended 1 (some 7) ∧
      (start.after (.reap 1 :: (later ++ exit :: earlier))).scheduler.lookup 1 = none := by
  intro start earlier exit later
  have started : (Scheduler.start {}).result = .ok (.initial {}) := rfl
  have counted : start.Counted Call.Switches (later ++ exit :: earlier) := by
    refine ⟨⟨⟨⟨⟨⟨trivial, ?_⟩, ?_⟩, ?_⟩, ?_⟩, ?_⟩, ?_⟩ <;> intro _
    all_goals decide +kernel
  have past := ((counted_append start Call.Switches later (exit :: earlier)).mp counted).1
  have found : (start.after (exit :: earlier)).scheduler.lookup 1 =
      some ⟨1, "kthread", .zombie, some 0, none, some 7⟩ := by
    decide +kernel
  exact ⟨(after_obeys started .unstarted).1 exit earlier past,
    (after_obeys started .unstarted).2 (exit :: earlier) later 1 _ counted found rfl (by simp [later])⟩

end System

end MiniKernel
