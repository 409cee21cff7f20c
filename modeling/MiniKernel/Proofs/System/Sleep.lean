import MiniKernel.Proofs.Schedule.Sleepers
import MiniKernel.Proofs.System.History

/-! What a sleeper can rely on, whatever happens meanwhile: it is left asleep until a dispatch comes
to its tick, and that dispatch queues it without running it. -/

namespace MiniKernel

namespace Scheduler

variable {scheduler next : Scheduler} {slot : Nat} {pid : Pid} {wakeTick : Nat}

def Asleep (scheduler : Scheduler) (pid : Pid) (wakeTick : Nat) : Prop :=
  ∃ info, scheduler.lookup pid = some info ∧ info.state = .sleeping ∧ info.wakeTick = some wakeTick

def Queued (scheduler : Scheduler) (pid : Pid) : Prop :=
  ∃ slot info, scheduler.table.lookup pid = some slot ∧ slot ∈ scheduler.ready.waiting ∧
    scheduler.lookup pid = some info ∧ info.state = .ready

theorem Lull.sleeper (lull : scheduler.Lull next)
    (asleep : scheduler.Holds slot pid wakeTick .sleeping) :
    next.Holds slot pid wakeTick .sleeping := by
  obtain ⟨process, held, rfl, rfl, state⟩ := asleep
  obtain ⟨files, kept⟩ := lull.kept slot process held (by simp [state])
  exact ⟨_, kept, rfl, rfl, state⟩

theorem stateAt_ne_running (wakeTick now : Nat) : stateAt wakeTick now ≠ .running := by
  unfold stateAt
  split <;> simp

theorem WellFormed.asleep (wellFormed : scheduler.WellFormed)
    (holds : scheduler.Holds slot pid wakeTick .sleeping) : scheduler.Asleep pid wakeTick := by
  obtain ⟨current, runner, coherent, -⟩ := wellFormed
  obtain ⟨process, held, rfl, rfl, state⟩ := holds
  exact ⟨_, (coherent.lookup_eq held).2, state, if_pos state⟩

theorem WellFormed.queued (wellFormed : scheduler.WellFormed)
    (holds : scheduler.Holds slot pid wakeTick .ready) : scheduler.Queued pid := by
  obtain ⟨current, runner, coherent, -⟩ := wellFormed
  obtain ⟨process, held, rfl, -, state⟩ := holds
  obtain ⟨found, info⟩ := coherent.lookup_eq held
  exact ⟨slot, _, found, (coherent.lined.waiting slot).mpr ⟨process, held, state⟩, info, state⟩

theorem WellFormed.currentPid_ne (wellFormed : scheduler.WellFormed) {state : ProcessState}
    (holds : scheduler.Holds slot pid wakeTick state) (stopped : state ≠ .running) :
    scheduler.currentPid ≠ pid := by
  obtain ⟨current, runner, coherent, running⟩ := wellFormed
  obtain ⟨process, held, rfl, -, rfl⟩ := holds
  intro same
  rw [coherent.currentPid_eq_iff held, coherent.occupied.current, Option.some.injEq] at same
  subst same
  obtain rfl := Option.some.inj (held.symm.trans coherent.occupied.holds)
  exact stopped running

def Punctual (scheduler : Scheduler) : Prop :=
  ∀ slot process, scheduler.table.get? slot = some process → process.state = .sleeping →
    scheduler.lastTick < process.wakeTick

theorem Lull.punctual (lull : scheduler.Lull next) (punctual : scheduler.Punctual) :
    next.Punctual := by
  intro slot process held asleep
  rw [lull.tick]
  rcases lull.known slot process held with ready | ⟨files, before⟩
  · rw [asleep] at ready
    cases ready
  · exact punctual slot { process with files } before asleep

theorem punctual_initial {config : Config} (capacity : config.capacity ≠ 0) :
    (initial config).Punctual := by
  intro slot process held asleep
  obtain ⟨-, rfl⟩ := (get?_initial capacity).mp held
  cases asleep

theorem Punctual.listed (punctual : scheduler.Punctual) {info : Snapshot}
    (listed : info ∈ scheduler.processes) (asleep : info.state = .sleeping) :
    ∃ wakeTick, info.wakeTick = some wakeTick ∧ scheduler.lastTick < wakeTick := by
  obtain ⟨⟨slot, process⟩, member, rfl⟩ := List.mem_map.mp listed
  change process.state = .sleeping at asleep
  exact ⟨process.wakeTick, if_pos asleep,
    punctual slot process (ProcessTable.mem_processes.mp member) asleep⟩

end Scheduler

namespace System

variable {start : System} {call : Call} {earlier : List Call} {slot : Nat} {pid : Pid}
  {wakeTick : Nat}

theorem after_punctual (wellFormed : start.scheduler.WellFormed)
    (punctual : start.scheduler.Punctual) {calls : List Call}
    (counted : start.Counted Call.Switches calls) :
    (start.after calls).scheduler.Punctual := by
  induction calls with
  | nil => exact punctual
  | cons call earlier ih =>
      rcases dispatches_or_lull wellFormed counted with
        ⟨_, _, _, _, -, -, -, switched⟩ | ⟨-, -, lull⟩
      · exact fun slot process held asleep => switched.punctual held asleep
      · exact lull.punctual (ih counted.1)

theorem after_sleeper (wellFormed : start.scheduler.WellFormed)
    (counted : start.Counted Call.Switches (call :: earlier))
    (asleep : (start.after earlier).scheduler.Holds slot pid wakeTick .sleeping) :
    (∃ tick, start.ticks (call :: earlier) = tick :: start.ticks earlier ∧
      (start.after (call :: earlier)).scheduler.Holds slot pid wakeTick
        (Scheduler.stateAt wakeTick tick)) ∨
    start.ticks (call :: earlier) = start.ticks earlier ∧
      (start.after (call :: earlier)).scheduler.Holds slot pid wakeTick .sleeping := by
  rcases dispatches_or_lull wellFormed counted with
    ⟨_, _, tick, _, -, dispatches, -, switched⟩ | ⟨quiet, -, lull⟩
  · exact Or.inl ⟨tick, ticks_some dispatches, switched.sleeper asleep⟩
  · exact Or.inr ⟨ticks_none quiet, lull.sleeper asleep⟩

def Slept (before : System) (slot : Nat) (pid : Pid) (wakeTick : Nat) (since : List Call) : Prop :=
  (∀ tick ∈ before.ticks since, tick < wakeTick) →
    (before.after since).scheduler.Holds slot pid wakeTick .sleeping

theorem Slept.step (wellFormed : start.scheduler.WellFormed)
    (counted : start.Counted Call.Switches (call :: earlier))
    (slept : start.Slept slot pid wakeTick earlier) :
    start.Slept slot pid wakeTick (call :: earlier) := by
  intro early
  have asleep := slept fun tick past => early tick (mem_ticks_cons past call)
  rcases after_sleeper wellFormed counted asleep with ⟨tick, ticked, holds⟩ | ⟨-, holds⟩
  · have below : tick < wakeTick := early tick (ticked ▸ List.mem_cons_self)
    rwa [Scheduler.stateAt, if_neg (Nat.not_le.mpr below)] at holds
  · exact holds

/-- What became of a process that fell asleep in the first of the calls in `since`. No dispatching call
that came before its tick woke it, and the first one that did not queued it and ran another one. -/
structure SleepsUntil (before : System) (pid : Pid) (wakeTick : Nat) (since : List Call) : Prop where
  answers : ∀ latest rest, since = latest :: rest → (before.after rest).Answered latest
  early : (∀ tick ∈ before.ticks since, tick < wakeTick) →
    (before.after since).scheduler.Asleep pid wakeTick
  due : ∀ latest rest tick, since = latest :: rest →
    before.ticks since = tick :: before.ticks rest →
    (∀ past ∈ before.ticks rest, past < wakeTick) → wakeTick ≤ tick →
    (before.after since).scheduler.Queued pid ∧ (before.after since).scheduler.currentPid ≠ pid

theorem sleepsUntil (wellFormed : start.scheduler.WellFormed) {ms now : Nat}
    {saved registers : Registers}
    (switched : start.scheduler.Switched (.sleeps wakeTick) saved now registers
      (start.after [.switch (.sleep ms) saved now]).scheduler)
    (ticked : start.ticks [.switch (.sleep ms) saved now] = [now]) (later : List Call)
    (counted : start.Counted Call.Switches (later ++ [.switch (.sleep ms) saved now])) :
    start.SleepsUntil start.scheduler.currentPid wakeTick
      (later ++ [.switch (.sleep ms) saved now]) := by
  obtain ⟨slot, fell⟩ := switched.departed_sleeper
  have slept : ∀ later, start.Counted Call.Switches (later ++ [.switch (.sleep ms) saved now]) →
      start.Slept slot start.scheduler.currentPid wakeTick
        (later ++ [.switch (.sleep ms) saved now]) := by
    intro later
    induction later with
    | nil =>
        -- A sleep of no ticks, or at the end of the clock, wakes in its own dispatch.
        intro _ early
        have below : now < wakeTick := early now (ticked ▸ List.mem_cons_self)
        rwa [Scheduler.stateAt, if_neg (Nat.not_le.mpr below)] at fell
    | cons call later ih => exact fun counted => (ih counted.1).step wellFormed counted
  have shape := after_wellFormed wellFormed _ counted
  refine ⟨answered wellFormed counted, fun early => shape.asleep (slept later counted early), ?_⟩
  intro latest rest tick since latestTick past due
  have woken : (start.after (later ++ [.switch (.sleep ms) saved now])).scheduler.Holds slot
      start.scheduler.currentPid wakeTick .ready := by
    cases later with
    | nil =>
        obtain ⟨rfl, rfl⟩ := List.cons.inj since
        obtain ⟨rfl, -⟩ := List.cons.inj (ticked.symm.trans latestTick)
        rwa [Scheduler.stateAt, if_pos due] at fell
    | cons call later =>
        obtain ⟨rfl, rfl⟩ := List.cons.inj since
        rcases after_sleeper wellFormed counted (slept later counted.1 past) with
          ⟨same, ticked, holds⟩ | ⟨quiet, -⟩
        · obtain ⟨rfl, -⟩ := List.cons.inj (ticked.symm.trans latestTick)
          rwa [Scheduler.stateAt, if_pos due] at holds
        · exact absurd (congrArg List.length (quiet.symm.trans latestTick)) (by simp)
  exact ⟨shape.queued woken, shape.currentPid_ne woken (by simp)⟩

/-- No sleep ends early and no wake-up is lost. In every state of a run every sleeper waits for a tick
that no dispatch has reached. Whoever runs and is not idle may go to sleep, and then another one
runs; what happens to the sleeper is `SleepsUntil`, whatever calls follow. -/
theorem after_sleep {config : Config} {scheduler : Scheduler}
    (started : (Scheduler.start config).result = .ok scheduler) (memory : PageAllocator) :
    let start : System := ⟨scheduler, memory⟩
    (∀ calls, start.Counted Call.Switches calls →
      ∀ info ∈ (start.after calls).scheduler.processes, info.state = .sleeping →
        ∃ wakeTick, info.wakeTick = some wakeTick ∧
          (start.after calls).scheduler.lastTick < wakeTick) ∧
    ∀ earlier later ms saved now,
      start.Counted Call.Switches (later ++ .switch (.sleep ms) saved now :: earlier) →
      (start.after earlier).scheduler.currentPid ≠ idlePid →
      ∃ ticks registers, config.ticksOfMillis ms = .ok ticks ∧
        let before := start.after earlier
        let pid := before.scheduler.currentPid
        let sleep : Call := .switch (.sleep ms) saved now
        let wakeTick := min (now + ticks) Word.max
        (before.perform sleep).result = .ok (.resumed registers) ∧
          (∃ slot state, (before.perform sleep).state.scheduler.Holds slot pid wakeTick state) ∧
          (before.perform sleep).state.scheduler.currentPid ≠ pid ∧
          before.SleepsUntil pid wakeTick (later ++ [sleep]) := by
  obtain ⟨valid, rfl⟩ := (Scheduler.start_ensures config).of_ok started
  obtain ⟨capacity, quantum, -⟩ := Scheduler.validate_ok valid
  have initially : (Scheduler.initial config).WellFormed := Scheduler.wellFormed_initial valid
  refine ⟨fun calls counted info listed asleep => ?_, ?_⟩
  · exact (after_punctual initially (Scheduler.punctual_initial capacity) counted).listed listed asleep
  intro earlier later ms saved now counted busy
  rw [List.append_cons, counted_append] at counted
  obtain ⟨past, counted⟩ := counted
  have shape := after_wellFormed initially earlier past
  have sameConfig : (System.after ⟨.initial config, memory⟩ earlier).scheduler.config = config :=
    after_config initially past
  generalize System.after ⟨.initial config, memory⟩ earlier = before at *
  rcases switch_cases shape (.sleep ms) saved now with
    ⟨registers, returned, allowed, switched⟩ | ⟨failure, lost, overflowed⟩ | ⟨-, turned, -⟩
  · rw [Request.departure, sameConfig] at switched
    obtain ⟨slot, fell⟩ := switched.departed_sleeper
    refine ⟨config.ticksFor ms, registers, Config.ticksOfMillis_ok quantum ms, returned,
      ⟨slot, _, fell⟩, ?_, ?_⟩
    · exact switched.wellFormed.currentPid_ne fell (Scheduler.stateAt_ne_running _ _)
    · exact sleepsUntil shape switched (ticks_some (if_neg allowed)) later counted
  · have untrapped := ((counted_append _ _ later _).mp counted).1.2 trivial
    exact absurd (overflowed.trapped ▸ lost) untrapped
  · exact absurd turned.2 busy

theorem after_sleep_tenth :
    (System.after ⟨.initial {}, .unstarted⟩ [.switch .dispatch {} 1, .spawn ⟨4096, by decide⟩,
      .page (.start 65536 ⟨4096, by decide⟩)]).SleepsUntil 1 15
        [.switch .dispatch {} 15, .switch .dispatch {} 14, .switch (.sleep 100) {} 10] := by
  have started : (Scheduler.start {}).result = .ok (.initial {}) := rfl
  obtain ⟨ticks, registers, rounded, -, -, -, sleeps⟩ := (after_sleep started .unstarted).2
    [.switch .dispatch {} 1, .spawn ⟨4096, by decide⟩, .page (.start 65536 ⟨4096, by decide⟩)]
    [.switch .dispatch {} 15, .switch .dispatch {} 14] 100 {} 10
    (by refine ⟨⟨⟨⟨⟨⟨trivial, ?_⟩, ?_⟩, ?_⟩, ?_⟩, ?_⟩, ?_⟩ <;> intro _
        all_goals decide +kernel)
    (by decide +kernel)
  have five : Config.ticksOfMillis {} 100 = .ok 5 := by decide
  obtain rfl := Except.ok.inj (rounded.symm.trans five)
  have one : (System.after ⟨.initial {}, .unstarted⟩ [.switch .dispatch {} 1,
      .spawn ⟨4096, by decide⟩, .page (.start 65536 ⟨4096, by decide⟩)]).scheduler.currentPid = 1 := by
    decide +kernel
  rwa [one] at sleeps

end System

end MiniKernel
