import MiniKernel.Proofs.System.Fence
import MiniKernel.Proofs.System.History

/-! When a call is denied, and what a denial costs. A scheduler that a run reaches escalates in four
cases only, all of them the caller's fault; it does so before it has changed anything. -/

namespace MiniKernel

def Violation.Structural : Violation → Prop
  | .currentSlotEmpty _ => True
  | .outgoingState _ _ => True
  | .nothingRunnable => True
  | .headNotReady _ => True
  | .enqueuedTwice _ => True
  | .nothingRunning => True
  | _ => False

theorem Request.Refused.unstructural {request : Request} {failure : Failure}
    (refused : request.Refused failure) :
    ∃ violation, failure = .fatal violation ∧ ¬ violation.Structural := by
  cases request with
  | sleep ms => exact ⟨_, refused, id⟩
  | exit code => exact ⟨_, refused, id⟩
  | _ => exact refused.elim

theorem ProcessTable.allocFooting_unstarted {memory : PageAllocator} (silent : memory.started = false)
    (table : ProcessTable) (entry : VirtAddr) (kind : ProcessKind) :
    table.allocFooting memory entry kind = .fatal memory .allocatorNotStarted := by
  have unlent : ∀ pages, memory.allocStack pages = .fatal memory .allocatorNotStarted := by
    intro pages
    rw [PageAllocator.allocStack, PageAllocator.alloc_unstarted silent,
      PageAllocator.allocRun_unstarted silent, ite_self]
  cases kind <;> rw [allocFooting] <;> first | rw [allocKernelFooting] | rw [allocUserFooting]
  all_goals
    rw [unlent]
    rfl

namespace System

variable {start system : System} {call : Call}

structure Roomy (system : System) : Prop where
  sound : system.memory.Sound
  switches : system.scheduler.switches < Word.max
  pids : system.scheduler.table.nextPid < Word.max

/-- Why a call of the scheduler was denied, and what it left. Only a creation that ran out of memory
may have changed anything, namely where the next search for a page begins. -/
inductive Denied (system : System) : Call → Failure → System → Prop
  | full {call : Call} (creates : call.creates.isSome)
      (full : system.scheduler.table.freeSlot? = none) :
      Denied system call (.refused .tableFull) system
  | exhausted {call : Call} {left} (creates : call.creates.isSome)
      (started : system.memory.started = true) :
      Denied system call (.refused .outOfMemory) { system with memory := left }
  | unstarted {call : Call} {slot} (creates : call.creates.isSome)
      (vacant : system.scheduler.table.freeSlot? = some slot)
      (silent : system.memory.started = false) :
      Denied system call (.fatal .allocatorNotStarted) system
  | idle {request saved now failure} (refused : request.Refused failure) (stops : request.Stops)
      (idle : system.scheduler.currentPid = idlePid) :
      Denied system (.switch request saved now) failure system
  | missing {pid} (missing : system.scheduler.table.lookup pid = none) :
      Denied system (.reap pid) (.refused .notFound) system
  | living {pid slot process} (found : system.scheduler.table.lookup pid = some slot)
      (holds : system.scheduler.table.get? slot = some process) (lives : process.state ≠ .zombie) :
      Denied system (.reap pid) (.fatal (.reapOfLive pid process.state)) system

theorem Failed.denied {failure : Failure} {after : System} (failed : system.Failed call failure after)
    (wellFormed : system.scheduler.WellFormed) (safe : system.Safe) (roomy : system.Roomy)
    (indirect : ∀ direct, call ≠ .page direct) : system.Denied call failure after := by
  cases failed with
  | @uncreated call entry kind name failure left creates uncreated =>
      have creates : call.creates.isSome := by simp [creates]
      rcases uncreated with ⟨rfl, full, rfl⟩ | ⟨⟨slot, vacant⟩, rfl, unfooted | ⟨-, -, exhausted⟩⟩
      · exact .full creates full
      · cases started : system.memory.started with
        | false =>
            rw [ProcessTable.allocFooting_unstarted started] at unfooted ⊢
            obtain rfl := Except.error.inj unfooted
            exact .unstarted creates vacant started
        | true =>
            have ensured := ProcessTable.allocFooting_ensures system.scheduler.table roomy.sound entry
              kind
            rcases ensured.of_error unfooted with ⟨rfl, -, -⟩ | ⟨-, silent, -⟩
            · exact .exhausted creates started
            · exact absurd (started.symm.trans silent) (by simp)
      · exact absurd exhausted (Nat.not_lt.mpr roomy.pids)
  | overflowed overflowed => exact absurd overflowed.full (Nat.not_lt.mpr roomy.switches)
  | @refused request saved now failure refused current =>
      obtain ⟨slot, process, coherent, -⟩ := wellFormed
      obtain ⟨idler, held, pid, -⟩ := coherent.idle
      exact .idle refused refused.stops (((coherent.currentPid_eq_iff held).mpr current).trans pid)
  | unreaped unreaped =>
      rcases unreaped with ⟨rfl, missing⟩ | ⟨slot, process, found, held, lives, rfl⟩
      · exact .missing missing
      · exact .living found held lives
  | @lost pid slot process failure exited stuck =>
      obtain ⟨current, runner, coherent, -⟩ := wellFormed
      have ensured := Sheltered.freeStacks safe exited.holds
        (coherent.pid_ne_idle exited.holds exited.zombie)
      exact (ensured.of_error stuck).elim
  | @page call => exact absurd rfl (indirect call)

theorem perform_denies (wellFormed : system.scheduler.WellFormed) (safe : system.Safe)
    (roomy : system.Roomy) (indirect : ∀ direct, call ≠ .page direct) :
    (system.perform call).Ensures (system.Performed call) (system.Denied call) :=
  (perform_ensures wellFormed call).imp (fun _ _ performed => performed)
    fun _ _ failed => failed.denied wellFormed safe roomy indirect

structure Guarded (system : System) : Prop where
  switches : ∀ request saved now, (system.perform (.switch request saved now)).Escalates ↔
    request.Stops ∧ system.scheduler.currentPid = idlePid
  resumes : ∀ request saved now, ¬ (request.Stops ∧ system.scheduler.currentPid = idlePid) →
    ∃ registers, (system.perform (.switch request saved now)).result = .ok (.resumed registers)
  creations : ∀ call : Call, call.creates.isSome → ((system.perform call).Escalates ↔
    (∃ slot < system.scheduler.table.capacity, system.scheduler.table.get? slot = none) ∧
      system.memory.started = false)
  reaps : ∀ pid, (system.perform (.reap pid)).Escalates ↔
    ∃ info ∈ system.scheduler.processes, info.pid = pid ∧ info.state ≠ .zombie
  misses : ∀ pid, (system.perform (.reap pid)).result = .error (.refused .notFound) ↔
    ∀ info ∈ system.scheduler.processes, info.pid ≠ pid
  structural : ∀ call violation, (∀ direct, call ≠ .page direct) →
    (system.perform call).result = .error (.fatal violation) → ¬ violation.Structural
  untrapped : ∀ call trap, (∀ direct, call ≠ .page direct) →
    (system.perform call).result ≠ .error (.trapped trap)
  harmless : ∀ call failure, (∀ direct, call ≠ .page direct) →
    (system.perform call).result = .error failure →
    (∃ violation, failure = .fatal violation) ∨ failure = .refused .notFound →
    (system.perform call).state = system ∧
      ∀ pid, call = .reap pid → (system.scheduler.reap system.memory pid).closed = []

section

variable (wellFormed : system.scheduler.WellFormed) (safe : system.Safe) (roomy : system.Roomy)

include wellFormed roomy

theorem switch_answers (request : Request) (saved : Registers) (now : Nat) :
    (∃ registers, (system.perform (.switch request saved now)).result = .ok (.resumed registers)) ∧
      ¬ (request.Stops ∧ system.scheduler.currentPid = idlePid) ∨
    (system.perform (.switch request saved now)).Escalates ∧
      request.Stops ∧ system.scheduler.currentPid = idlePid := by
  rcases switch_cases wellFormed request saved now with
    ⟨registers, returned, allowed, -⟩ | ⟨failure, -, overflowed⟩ | ⟨escalates, turned, -⟩
  · exact Or.inl ⟨⟨registers, returned⟩, allowed⟩
  · exact absurd overflowed.full (Nat.not_lt.mpr roomy.switches)
  · exact Or.inr ⟨escalates, turned⟩

include safe

theorem creation_escalates_iff (creates : call.creates.isSome) :
    (system.perform call).Escalates ↔
      (∃ slot < system.scheduler.table.capacity, system.scheduler.table.get? slot = none) ∧
        system.memory.started = false := by
  have indirect : ∀ direct, call ≠ .page direct := by
    rintro direct rfl
    cases creates
  have ensured := perform_denies wellFormed safe roomy indirect
  constructor
  · rintro ⟨violation, found⟩
    have denied := ensured.of_error found
    generalize (system.perform call).state = left at denied
    cases denied with
    | unstarted _ vacant silent =>
        obtain ⟨bound, empty, -⟩ := ProcessTable.freeSlot?_some vacant
        exact ⟨⟨_, bound, empty⟩, silent⟩
    | _ => cases creates
  · rintro ⟨⟨slot, bound, empty⟩, silent⟩
    cases found : (system.perform call).result with
    | ok answer =>
        have performed := ensured.of_ok found
        generalize (system.perform call).state = after at performed
        cases performed with
        | created _ created =>
            obtain ⟨footing, footed, -⟩ := created.born
            rw [ProcessTable.allocFooting_unstarted silent] at footed
            cases footed
        | _ => cases creates
    | error failure =>
        have denied := ensured.of_error found
        generalize (system.perform call).state = left at denied
        cases denied with
        | full _ full =>
            obtain ⟨process, held⟩ := ProcessTable.freeSlot?_eq_none_iff.mp full slot bound
            exact absurd (empty.symm.trans held) (by simp)
        | exhausted _ started => exact absurd (started.symm.trans silent) (by simp)
        | unstarted => exact ⟨_, found⟩
        | _ => cases creates

theorem reap_cases (pid : Pid) :
    (∃ info, (system.perform (.reap pid)).result = .ok (.reaped info)) ∧
      (∃ info ∈ system.scheduler.processes, info.pid = pid ∧ info.state = .zombie) ∨
    (system.perform (.reap pid)).Escalates ∧
      (∃ info ∈ system.scheduler.processes, info.pid = pid ∧ info.state ≠ .zombie) ∨
    (system.perform (.reap pid)).result = .error (.refused .notFound) ∧
      ∀ info ∈ system.scheduler.processes, info.pid ≠ pid := by
  have ensured := perform_denies wellFormed safe roomy
    (show ∀ direct, Call.reap pid ≠ .page direct by simp)
  cases found : (system.perform (.reap pid)).result with
  | ok answer =>
      have performed := ensured.of_ok found
      generalize (system.perform (.reap pid)).state = after at performed
      cases performed with
      | created creates => cases creates
      | reaped exited =>
          exact Or.inl ⟨⟨_, rfl⟩, _, Scheduler.mem_processes.mpr ⟨_, _, exited.holds, rfl⟩,
            exited.named, exited.zombie⟩
  | error failure =>
      have denied := ensured.of_error found
      generalize (system.perform (.reap pid)).state = left at denied
      cases denied with
      | missing missing =>
          refine Or.inr (Or.inr ⟨rfl, fun info listed => ?_⟩)
          obtain ⟨slot, process, held, rfl⟩ := Scheduler.mem_processes.mp listed
          exact ProcessTable.lookup_none_iff.mp missing slot process held
      | @living _ slot process lookup held lives =>
          obtain ⟨⟨named, namedHeld, pid⟩, -⟩ := ProcessTable.lookup_some lookup
          obtain rfl := Option.some.inj (held.symm.trans namedHeld)
          exact Or.inr (Or.inl ⟨⟨_, found⟩, _, Scheduler.mem_processes.mpr ⟨slot, _, held, rfl⟩, pid,
            lives⟩)
      | full creates => cases creates
      | exhausted creates => cases creates
      | unstarted creates => cases creates

end

theorem Denied.harmless {failure : Failure} {left : System} (denied : system.Denied call failure left)
    (harsh : (∃ violation, failure = .fatal violation) ∨ failure = .refused .notFound) :
    left = system ∧
      ∀ pid, call = .reap pid → (system.scheduler.reap system.memory pid).closed = [] := by
  have unreaped : ∀ pid, (∀ slot process, ¬ system.scheduler.table.Exited pid slot process) →
      (system.scheduler.reap system.memory pid).closed = [] := by
    intro pid nobody
    rcases system.scheduler.reap_ensures system.memory pid with
      ⟨slot, process, exited, -⟩ | ⟨closed, -⟩
    · exact absurd exited (nobody slot process)
    · exact closed
  cases denied with
  | full => simp at harsh
  | exhausted => simp at harsh
  | unstarted creates => exact ⟨rfl, by rintro pid rfl; cases creates⟩
  | idle => exact ⟨rfl, by simp⟩
  | @missing pid missing =>
      refine ⟨rfl, ?_⟩
      rintro _ ⟨⟩
      refine unreaped pid fun slot process exited => ?_
      rw [exited.found] at missing
      cases missing
  | @living pid slot process found held lives =>
      refine ⟨rfl, ?_⟩
      rintro _ ⟨⟩
      refine unreaped pid fun other rival exited => ?_
      obtain rfl := Option.some.inj (found.symm.trans exited.found)
      obtain rfl := Option.some.inj (held.symm.trans exited.holds)
      exact lives exited.zombie

theorem Denied.unstructural {failure : Failure} {left : System}
    (denied : system.Denied call failure left) :
    (∀ violation, failure = .fatal violation → ¬ violation.Structural) ∧
      ∀ trap, failure ≠ .trapped trap := by
  cases denied with
  | idle refused =>
      obtain ⟨violation, rfl, sane⟩ := refused.unstructural
      exact ⟨fun _ same => Failure.fatal.inj same ▸ sane, by simp⟩
  | _ => simp [Violation.Structural]

theorem guarded (wellFormed : system.scheduler.WellFormed) (safe : system.Safe)
    (roomy : system.Roomy) : system.Guarded := by
  have denies : ∀ {call : Call}, (∀ direct, call ≠ .page direct) →
      (system.perform call).Ensures (system.Performed call) (system.Denied call) :=
    fun indirect => perform_denies wellFormed safe roomy indirect
  constructor
  · intro request saved now
    rcases switch_answers wellFormed roomy request saved now with
      ⟨⟨registers, returned⟩, allowed⟩ | ⟨escalates, idle⟩
    · constructor
      · exact fun escalates => absurd returned (escalates.result_ne (by simp))
      · exact fun idle => absurd idle allowed
    · exact ⟨fun _ => idle, fun _ => escalates⟩
  · intro request saved now free
    rcases switch_answers wellFormed roomy request saved now with ⟨returned, -⟩ | ⟨-, idle⟩
    · exact returned
    · exact absurd idle free
  · exact fun call creates => creation_escalates_iff wellFormed safe roomy creates
  · intro pid
    rcases reap_cases wellFormed safe roomy pid with
      ⟨⟨info, reaped⟩, zombie, listed, named, state⟩ | ⟨escalates, living⟩ | ⟨missed, nobody⟩
    · constructor
      · exact fun escalates => absurd reaped (escalates.result_ne (by simp))
      · rintro ⟨other, otherListed, otherNamed, lives⟩
        have same := wellFormed.info_unique otherListed listed (otherNamed.trans named.symm)
        exact absurd (same ▸ state) lives
    · exact ⟨fun _ => living, fun _ => escalates⟩
    · constructor
      · exact fun escalates => absurd missed (escalates.result_ne (by simp))
      · rintro ⟨info, listed, named, -⟩
        exact absurd named (nobody info listed)
  · intro pid
    rcases reap_cases wellFormed safe roomy pid with
      ⟨⟨info, reaped⟩, zombie, listed, named, -⟩ | ⟨escalates, living, listed, named, -⟩ |
        ⟨missed, nobody⟩
    · constructor
      · intro missed
        rw [missed] at reaped
        cases reaped
      · exact fun nobody => absurd named (nobody zombie listed)
    · constructor
      · exact fun missed => absurd missed (escalates.result_ne (by simp))
      · exact fun nobody => absurd named (nobody living listed)
    · exact ⟨fun _ => nobody, fun _ => missed⟩
  · intro call violation indirect found
    exact ((denies indirect).of_error found).unstructural.1 violation rfl
  · intro call trap indirect found
    exact ((denies indirect).of_error found).unstructural.2 trap rfl
  · intro call failure indirect found harsh
    exact ((denies indirect).of_error found).harmless harsh

/-- The scheduler escalates exactly when it must, and without harm, in every state that a run reaches
with room left in both counters, if every page has an address and no stack was freed directly. -/
theorem after_guarded {config : Config} {scheduler : Scheduler}
    (started : (Scheduler.start config).result = .ok scheduler) (calls : List Call)
    (addressable : ∀ direct, .page direct ∈ calls → direct.Addressable)
    (spares : System.SparesStacks ⟨scheduler, .unstarted⟩ calls)
    (switches : (System.after ⟨scheduler, .unstarted⟩ calls).scheduler.switches < Word.max)
    (pids : (System.after ⟨scheduler, .unstarted⟩ calls).scheduler.table.nextPid < Word.max) :
    (System.after ⟨scheduler, .unstarted⟩ calls).Guarded := by
  obtain ⟨-, safe⟩ := safe_of_started started spares
  obtain ⟨valid, rfl⟩ := (Scheduler.start_ensures config).of_ok started
  have initially : (Scheduler.initial config).WellFormed := Scheduler.wellFormed_initial valid
  have counted := counted_of_room initially switches
  refine guarded (after_wellFormed initially calls counted) safe ⟨?_, switches, pids⟩
  exact after_sound PageAllocator.sound_unstarted addressable

theorem after_guarded_freed :
    (System.after ⟨.initial {}, .unstarted⟩ [.page (.free ⟨4096, by decide⟩),
      .spawn ⟨4096, by decide⟩, .page .alloc, .page (.start 65536 ⟨4096, by decide⟩)]).Guarded := by
  have started : (Scheduler.start {}).result = .ok (.initial {}) := rfl
  refine after_guarded started _ ?_ ?_ ?_ ?_
  · intro direct called
    simp only [List.mem_cons, Call.page.injEq, reduceCtorEq, List.not_mem_nil, or_false,
      false_or] at called
    rcases called with rfl | rfl | rfl
    · trivial
    · trivial
    · exact show 65536 ≤ 0x10000000000000 by decide
  all_goals decide +kernel

end System

end MiniKernel
