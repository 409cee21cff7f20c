import MiniKernel.Proofs.Process.Footing
import MiniKernel.Proofs.System.History
import MiniKernel.Proofs.System.Independence
import MiniKernel.Proofs.System.Upkeep

/-! Creations from one end to the other, in every state of the processes and with every allocator that some
run leaves. One that returns changes what it has to change and nothing else, and one that fails leaves no
trace. -/

namespace MiniKernel

/-- Memory has no free run for the kernel stack of a process, or none is left for its user stack once the
kernel stack is taken. No search finds a run of no pages, so there is never room for a user stack of none. -/
def Config.Cramped (config : Config) (memory : PageAllocator) (kind : ProcessKind) : Prop :=
  (∀ first, ¬ memory.pages.FreeRun config.kernelStackPages first) ∨
    kind = .user ∧ (config.userStackPages = 0 ∨ ∀ first,
      ¬ (memory.allocStack config.kernelStackPages).state.pages.FreeRun config.userStackPages first)

structure Scheduler.Joined (before : Scheduler) (kind : ProcessKind) (name : String) (pid : Pid)
    (slot : Nat) (process : ControlBlock) (after : Scheduler) : Prop where
  vacant : before.table.get? slot = none
  lowest : ∀ earlier < slot, ∃ occupant, before.table.get? earlier = some occupant
  held : after.table.get? slot = some process
  named : process.pid = pid ∧ process.name = name ∧ process.kind = kind
  fresh : process.state = .ready ∧ process.files = .empty ∧ process.exitCode = none
  parent : (∃ current runner, before.current = some current ∧
      before.table.get? current = some runner ∧ process.parent = some ⟨current, runner.pid⟩) ∨
    before.Stalled ∧ process.parent = none
  line : after.ready.waiting = before.ready.waiting ++ [slot]
  others : ∀ other ≠ slot, after.table.get? other = before.table.get? other
  table : after.table = { before.table with slots := after.table.slots, nextPid := pid + 1 }
  rest : after = { before with table := after.table, ready := after.ready }

namespace System

variable {start system left right : System} {call : Call} {entry : VirtAddr} {kind : ProcessKind}
  {name : String} {config : Config}

def creations (start : System) (calls : List Call) : Nat :=
  ((start.steps calls).filterMap Step.birth).length

theorem after_nextPid (orderly : start.scheduler.Orderly) (calls : List Call) :
    (start.after calls).scheduler.table.nextPid =
      start.scheduler.table.nextPid + start.creations calls := by
  induction calls with
  | nil => rfl
  | cons call earlier ih =>
      rw [creations] at ih ⊢
      cases creates : call.creates with
      | none =>
          have barren : ∀ runner answer, Step.birth ⟨runner, call, answer⟩ = none := by
            intro runner answer
            cases answer <;> simp [Step.birth, creates]
          have counted : (start.after (call :: earlier)).scheduler.table.nextPid =
              (start.after earlier).scheduler.table.nextPid :=
            (perform_upkeep (start.after earlier) call).nextPid_eq creates
          rw [counted, ih]
          cases found : ((start.after earlier).perform call).result with
          | ok answer => rw [steps_ok found, List.filterMap_cons_none (barren _ _)]
          | error failure => rw [steps_error found]
      | some asked =>
          have ensured := perform_creates (after_orderly orderly earlier) creates
          cases found : ((start.after earlier).perform call).result with
          | ok answer =>
              obtain ⟨slot, process, rfl, created⟩ := ensured.of_ok found
              have born : Step.birth ⟨(start.after earlier).scheduler.currentPid, call,
                  .created process.pid⟩ = some (process.pid, asked.2.2) := by
                simp [Step.birth, creates]
              rw [steps_ok found, List.filterMap_cons_some born, List.length_cons, after,
                created.table, ih, Nat.add_assoc]
          | error failure =>
              obtain ⟨same, -⟩ := ensured.of_error found
              rw [steps_error found, after, same, ih]

structure Ready (system : System) (config : Config) : Prop where
  orderly : system.scheduler.Orderly
  numbered : system.scheduler.table.Numbered
  shape : system.scheduler.WellFormed ∨ system.scheduler.Stalled
  kernelPages : system.scheduler.table.kernelStackPages = config.kernelStackPages
  userPages : system.scheduler.table.userStackPages = config.userStackPages
  nonempty : config.kernelStackPages ≠ 0
  sound : system.memory.Sound

theorem ready_after {scheduler : Scheduler}
    (started : (Scheduler.start config).result = .ok scheduler) (first : PageAllocator)
    (calls : List Call) (other : Scheduler) (others : List Call)
    (small : (System.after ⟨other, .unstarted⟩ others).memory.totalBytes ≤ 0x10000000000000) :
    System.Ready ⟨(System.after ⟨scheduler, first⟩ calls).scheduler,
      (System.after ⟨other, .unstarted⟩ others).memory⟩ config := by
  obtain ⟨valid, rfl⟩ := (Scheduler.start_ensures config).of_ok started
  have initially : (Scheduler.initial config).WellFormed := Scheduler.wellFormed_initial valid
  obtain ⟨-, kernelPages, userPages⟩ := after_sizes ⟨.initial config, first⟩ calls
  constructor
  · exact after_orderly initially.orderly calls
  · obtain ⟨slot, process, coherent, -⟩ := initially
    exact after_numbered coherent.numbered calls
  · exact (after_shape initially calls).imp id And.left
  · exact kernelPages
  · exact userPages
  · exact (Scheduler.validate_ok valid).2.2.2
  · exact (after_consistent PageAllocator.sound_unstarted.consistent others).sound small

/-! Creations that fail. -/

theorem Ready.short_iff (ready : system.Ready config) (kind : ProcessKind) :
    system.scheduler.table.Short system.memory kind ↔ config.Cramped system.memory kind := by
  simp [ProcessTable.Short, PageAllocator.Exhausted, Config.Cramped, ready.kernelPages,
    ready.userPages, ready.nonempty]

inductive Missed (system next : System) (config : Config) (kind : ProcessKind) : Failure → Prop
  | tableFull (full : system.scheduler.table.freeSlot? = none) (same : next = system) :
      Missed system next config kind (.refused .tableFull)
  | outOfMemory (vacant : ∃ slot, system.scheduler.table.freeSlot? = some slot)
      (cramped : config.Cramped system.memory kind)
      (moved : ∃ cursor, next = { system with memory := { system.memory with cursor } }) :
      Missed system next config kind (.refused .outOfMemory)
  | addOverflow (vacant : ∃ slot, system.scheduler.table.freeSlot? = some slot)
      (exhausted : Word.max ≤ system.scheduler.table.nextPid) :
      Missed system next config kind (.trapped .addOverflow)

theorem Ready.missed (ready : system.Ready config) (awake : system.memory.started = true)
    (creates : call.creates = some (entry, kind, name)) {failure : Failure}
    (found : (system.perform call).result = .error failure) :
    Missed system (system.perform call).state config kind failure := by
  obtain ⟨same, uncreated⟩ := (perform_creates ready.orderly creates).of_error found
  have state : (system.perform call).state =
      { system with memory := (system.perform call).state.memory } := by
    rw [← same]
  rcases uncreated.cases ready.sound awake with
    ⟨rfl, full, kept⟩ | ⟨vacant, ⟨rfl, short, cursor, moved⟩ | ⟨rfl, exhausted⟩⟩
  · rw [kept] at state
    exact .tableFull full state
  · rw [moved] at state
    exact .outOfMemory vacant ((ready.short_iff kind).mp short) ⟨cursor, state⟩
  · exact .addOverflow vacant exhausted

def Barren (start : System) : List Call → Prop
  | [] => True
  | call :: earlier => start.Barren earlier ∧
      (call.Creates → ((start.after earlier).perform call).result.isOk = false)

structure Traceless (system : System) (call : Call) : Prop where
  full : (system.perform call).result = .error (.refused .tableFull) ↔
    ∀ slot < system.scheduler.table.capacity,
      ∃ process, system.scheduler.table.get? slot = some process
  untouched : (system.perform call).result = .error (.refused .tableFull) →
    (system.perform call).state = system
  restored : (system.perform call).result = .error (.refused .outOfMemory) →
    ∃ cursor, (system.perform call).state =
      { system with memory := { system.memory with cursor } }
  lenient : ∀ failure, (system.perform call).result = .error failure →
    failure = .refused .tableFull ∨ failure = .refused .outOfMemory ∨
      failure = .trapped .addOverflow ∧ Word.max ≤ system.scheduler.table.nextPid
  next : ∀ refusal between later pid otherPid,
    (system.perform call).result = .error (.refused refusal) → later.Creates →
    (system.perform call).state.Barren between → system.Barren between →
    (((system.perform call).state.after between).perform later).result = .ok (.created pid) →
    ((system.after between).perform later).result = .ok (.created otherPid) →
    pid = otherPid ∧ ∃ slot,
      ((system.perform call).state.after (later :: between)).scheduler.table.lookup pid =
        some slot ∧
      (system.after (later :: between)).scheduler.table.lookup pid = some slot

theorem perform_scheduler (same : left.scheduler = right.scheduler) (barren : ¬ call.Creates) :
    (left.perform call).state.scheduler = (right.perform call).state.scheduler := by
  cases call with
  | spawn | create => exact absurd rfl barren
  | switch request saved now =>
      change (left.scheduler.serve saved now request).state = _
      rw [same]
      rfl
  | reap pid =>
      change (left.scheduler.reap left.memory pid).outcome.state.1 =
        (right.scheduler.reap right.memory pid).outcome.state.1
      rw [Scheduler.reap_state, Scheduler.reap_state, same,
        ProcessTable.reap_table _ left.memory right.memory]
  | editFiles pid change =>
      simp only [perform, same, Outcome.done]
  | page direct => exact same

theorem Barren.scheduler {calls : List Call} (barren : left.Barren calls)
    (otherBarren : right.Barren calls) (same : left.scheduler = right.scheduler)
    (orderly : left.scheduler.Orderly) :
    (left.after calls).scheduler = (right.after calls).scheduler := by
  induction calls with
  | nil => exact same
  | cons call earlier ih =>
      have reached := ih barren.1 otherBarren.1
      by_cases creates : call.Creates
      · have failed : ∀ {system : System}, system.scheduler.Orderly →
            (system.perform call).result.isOk = false →
            (system.perform call).state.scheduler = system.scheduler := by
          intro system shape missed
          cases found : (system.perform call).result with
          | ok answer =>
              rw [found] at missed
              cases missed
          | error failure => exact (perform_creation shape creates).of_error found
        have shape := after_orderly orderly earlier
        rw [after, after, failed shape (barren.2 creates),
          failed (reached ▸ shape) (otherBarren.2 creates), reached]
      · exact perform_scheduler reached creates

theorem creation_place (orderly : system.scheduler.Orderly)
    (numbered : system.scheduler.table.Numbered) (creates : call.Creates) {pid : Pid}
    (returned : (system.perform call).result = .ok (.created pid)) :
    pid = system.scheduler.table.nextPid ∧
      (system.perform call).state.scheduler.table.lookup pid =
        system.scheduler.table.freeSlot? := by
  obtain ⟨⟨entry, kind, name⟩, asked⟩ := Option.isSome_iff_exists.mp creates
  obtain ⟨slot, process, answer, created⟩ := (perform_creates orderly asked).of_ok returned
  obtain rfl := Answer.created.inj answer
  refine ⟨created.pid, ?_⟩
  rw [created.vacant]
  exact (((perform_upkeep system call).numbered numbered).lookup_iff process.pid).mpr
    ⟨process, by rw [created.get?, if_pos rfl], rfl⟩

/-- From two states with the same processes, two runs in which no creation returns lead to the same next
birth. -/
theorem Barren.birth {calls : List Call} (barren : left.Barren calls) (otherBarren : right.Barren calls)
    (same : left.scheduler = right.scheduler) (orderly : left.scheduler.Orderly)
    (numbered : left.scheduler.table.Numbered) (creates : call.Creates) {pid otherPid : Pid}
    (returned : ((left.after calls).perform call).result = .ok (.created pid))
    (otherReturned : ((right.after calls).perform call).result = .ok (.created otherPid)) :
    pid = otherPid ∧ ∃ slot,
      (left.after (call :: calls)).scheduler.table.lookup pid = some slot ∧
      (right.after (call :: calls)).scheduler.table.lookup pid = some slot := by
  have reached := barren.scheduler otherBarren same orderly
  have shape := after_orderly orderly calls
  have counted := after_numbered numbered calls
  obtain ⟨taken, place⟩ := creation_place shape counted creates returned
  rw [reached] at shape counted taken place
  obtain ⟨otherTaken, otherPlace⟩ := creation_place shape counted creates otherReturned
  obtain rfl : pid = otherPid := taken.trans otherTaken.symm
  obtain ⟨_, asked⟩ := Option.isSome_iff_exists.mp creates
  obtain ⟨slot, process, -, created⟩ := (perform_creates shape asked).of_ok otherReturned
  exact ⟨rfl, slot, place.trans created.vacant, otherPlace.trans created.vacant⟩

theorem Ready.traceless (ready : system.Ready config)
    (awake : system.memory.started = true) (creates : call.Creates) : system.Traceless call := by
  obtain ⟨⟨entry, kind, name⟩, asked⟩ := Option.isSome_iff_exists.mp creates
  have missed {failure : Failure} (found : (system.perform call).result = .error failure) :=
    ready.missed awake asked found
  have ensured := perform_creates ready.orderly asked
  refine ⟨?full, ?untouched, ?restored, ?lenient, ?next⟩
  case full =>
    rw [← ProcessTable.freeSlot?_eq_none_iff]
    constructor
    · intro found
      cases missed found with
      | tableFull full _ => exact full
    · intro full
      cases found : (system.perform call).result with
      | ok answer =>
          obtain ⟨slot, process, -, created⟩ := ensured.of_ok found
          exact absurd (full.symm.trans created.vacant) (by simp)
      | error failure =>
          cases missed found with
          | tableFull => rfl
          | outOfMemory vacant | addOverflow vacant =>
              obtain ⟨slot, vacant⟩ := vacant
              exact absurd (full.symm.trans vacant) (by simp)
  case untouched =>
    intro found
    cases missed found with
    | tableFull _ same => exact same
  case restored =>
    intro found
    cases missed found with
    | outOfMemory _ _ moved => exact moved
  case lenient =>
    intro failure found
    cases missed found with
    | tableFull => exact Or.inl rfl
    | outOfMemory => exact Or.inr (Or.inl rfl)
    | addOverflow _ exhausted => exact Or.inr (Or.inr ⟨rfl, exhausted⟩)
  case next =>
    intro refusal between later pid otherPid found creating barren otherBarren returned otherReturned
    have same := (ensured.of_error found).1
    exact barren.birth otherBarren same (same ▸ ready.orderly) (same ▸ ready.numbered) creating
      returned otherReturned

/-- A creation in any state that a run reaches fails without a trace, whatever started allocator it is
given, as long as all bytes of its memory have an address. -/
theorem creation_traceless {scheduler : Scheduler}
    (started : (Scheduler.start config).result = .ok scheduler) (first : PageAllocator)
    (calls : List Call) (other : Scheduler) (others : List Call)
    (small : (System.after ⟨other, .unstarted⟩ others).memory.totalBytes ≤ 0x10000000000000)
    (awake : (System.after ⟨other, .unstarted⟩ others).memory.started = true)
    (creates : call.Creates) :
    System.Traceless ⟨(System.after ⟨scheduler, first⟩ calls).scheduler,
      (System.after ⟨other, .unstarted⟩ others).memory⟩ call := by
  exact (ready_after started first calls other others small).traceless awake creates

/-- The kernel stack of a user process is taken from the two pages that are free, and goes back when there
is none left for its user stack. -/
theorem creation_traceless_rollback :
    let scheduler := (System.after ⟨.initial { userStackPages := 2 }, .unstarted⟩ []).scheduler
    let memory := (System.after ⟨.initial {}, .unstarted⟩
      [.page (.start 12288 ⟨4096, by decide⟩)]).memory
    System.Traceless ⟨scheduler, memory⟩ (.create ⟨4096, by decide⟩ .user "shell") ∧
      (System.perform ⟨scheduler, memory⟩ (.create ⟨4096, by decide⟩ .user "shell")).result =
        .error (.refused .outOfMemory) := by
  have started : (Scheduler.start { userStackPages := 2 }).result =
      .ok (.initial { userStackPages := 2 }) := rfl
  exact ⟨creation_traceless started .unstarted [] (.initial {}) _ (by decide +kernel)
    (by decide +kernel) rfl, by decide +kernel⟩

/-! Creations that run out of memory. -/

theorem Ready.cramped (ready : system.Ready config) (awake : system.memory.started = true)
    (vacancy : ∃ slot < system.scheduler.table.capacity, system.scheduler.table.get? slot = none)
    (room : system.scheduler.table.nextPid < Word.max) (creates : call.creates = some (entry, kind, name)) :
    ((system.perform call).result = .error (.refused .outOfMemory) ↔
        config.Cramped system.memory kind) ∧
      (¬ config.Cramped system.memory kind →
        ∃ pid, (system.perform call).result = .ok (.created pid)) := by
  cases found : (system.perform call).result with
  | ok answer =>
      obtain ⟨slot, process, rfl, created⟩ := (perform_creates ready.orderly creates).of_ok found
      obtain ⟨footing, footed, -⟩ := created.born
      have fits := (system.scheduler.table.allocFooting_short ready.sound awake entry kind).of_ok footed
      rw [ready.short_iff] at fits
      exact ⟨⟨nofun, fun cramped => absurd cramped fits⟩, fun _ => ⟨_, rfl⟩⟩
  | error failure =>
      cases ready.missed awake creates found with
      | tableFull full =>
          obtain ⟨slot, bound, empty⟩ := vacancy
          obtain ⟨process, held⟩ := ProcessTable.freeSlot?_eq_none_iff.mp full slot bound
          rw [empty] at held
          cases held
      | outOfMemory _ cramped => exact ⟨⟨fun _ => cramped, fun _ => rfl⟩, absurd cramped⟩
      | addOverflow _ exhausted => exact absurd exhausted (Nat.not_le.mpr room)

/-- A creation in any state that a run reaches, with a slot and a pid left, runs out of memory exactly if
there is no run for one of the stacks, and returns otherwise. -/
theorem creation_cramped {scheduler : Scheduler}
    (started : (Scheduler.start config).result = .ok scheduler) (first : PageAllocator)
    (calls : List Call) (other : Scheduler) (others : List Call)
    (small : (System.after ⟨other, .unstarted⟩ others).memory.totalBytes ≤ 0x10000000000000)
    (awake : (System.after ⟨other, .unstarted⟩ others).memory.started = true)
    (vacancy : ∃ slot < (System.after ⟨scheduler, first⟩ calls).scheduler.table.capacity,
      (System.after ⟨scheduler, first⟩ calls).scheduler.table.get? slot = none)
    (room : (System.after ⟨scheduler, first⟩ calls).scheduler.table.nextPid < Word.max)
    (creates : call.creates = some (entry, kind, name)) :
    let memory := (System.after ⟨other, .unstarted⟩ others).memory
    let system : System := ⟨(System.after ⟨scheduler, first⟩ calls).scheduler, memory⟩
    ((system.perform call).result = .error (.refused .outOfMemory) ↔ config.Cramped memory kind) ∧
      (¬ config.Cramped memory kind → ∃ pid, (system.perform call).result = .ok (.created pid)) :=
  (ready_after started first calls other others small).cramped awake vacancy room creates

/-- Of four free pages, a user process with a user stack of two pages still fits behind a thread, but not
behind a thread and one more page. -/
theorem creation_cramped_thirdPage :
    let config : Config := { userStackPages := 2 }
    let roomy := (System.after ⟨.initial config, .unstarted⟩
      [.spawn ⟨4096, by decide⟩, .page (.start 20480 ⟨4096, by decide⟩)]).memory
    let narrow := (System.after ⟨.initial config, .unstarted⟩
      [.page .alloc, .spawn ⟨4096, by decide⟩, .page (.start 20480 ⟨4096, by decide⟩)]).memory
    ¬ config.Cramped roomy .user ∧ config.Cramped narrow .user := by
  have started : (Scheduler.start { userStackPages := 2 }).result =
      .ok (.initial { userStackPages := 2 }) := rfl
  have creates : Call.creates (.create ⟨4096, by decide⟩ .user "shell") =
      some (⟨4096, by decide⟩, .user, "shell") := rfl
  constructor
  · refine (creation_cramped started .unstarted [] (.initial { userStackPages := 2 }) _ ?_ ?_
      ⟨1, ?_, ?_⟩ ?_ creates).1.not.mp ?_ <;> decide +kernel
  · refine (creation_cramped started .unstarted [] (.initial { userStackPages := 2 }) _ ?_ ?_
      ⟨1, ?_, ?_⟩ ?_ creates).1.mp ?_ <;> decide +kernel

/-- In an empty table, and with fifteen of sixteen pages free, a user process whose user stack is to have no
pages is refused for lack of memory. -/
theorem creation_outOfMemory_withoutUserStack :
    let config : Config := { userStackPages := 0 }
    let scheduler := Scheduler.initial config
    let memory := (PageAllocator.unstarted.start 65536 ⟨4096, by decide⟩).state
    (Scheduler.start config).result = .ok scheduler ∧
      (PageAllocator.unstarted.start 65536 ⟨4096, by decide⟩).result = .ok () ∧
      (1 < scheduler.table.capacity ∧ scheduler.table.get? 1 = none) ∧
      scheduler.table.nextPid < Word.max ∧
      memory.pages.FreeRun config.kernelStackPages 1 ∧
      (memory.allocStack config.kernelStackPages).state.pages.FreeRun config.userStackPages 2 ∧
      (System.perform ⟨scheduler, memory⟩ (.create ⟨4096, by decide⟩ .user "shell")).result =
        .error (.refused .outOfMemory) := by
  refine ⟨rfl, by decide +kernel, by decide +kernel, by decide +kernel, fun page lower upper => ?_,
    fun page lower upper => absurd upper (Nat.not_lt.mpr lower), by decide +kernel⟩
  obtain rfl : page = 1 := Nat.le_antisymm (Nat.le_of_lt_succ upper) lower
  decide +kernel

/-! Creations that return. -/

theorem Ready.parent (ready : system.Ready config) :
    (∃ current runner, system.scheduler.current = some current ∧
        system.scheduler.table.get? current = some runner ∧
        system.scheduler.runningLink = some ⟨current, runner.pid⟩) ∨
      system.scheduler.Stalled ∧ system.scheduler.runningLink = none := by
  rcases ready.shape with ⟨current, runner, coherent, -⟩ | stalled
  · refine Or.inl ⟨current, runner, coherent.occupied.current, coherent.occupied.holds, ?_⟩
    simp [Scheduler.runningLink, Scheduler.currentProcess?, coherent.occupied.current,
      coherent.occupied.holds]
  · refine Or.inr ⟨stalled, ?_⟩
    simp [Scheduler.runningLink, Scheduler.currentProcess?, stalled.current]

theorem Ready.joined (ready : system.Ready config) (creates : call.creates = some (entry, kind, name))
    {pid : Pid} (returned : (system.perform call).result = .ok (.created pid)) :
    pid = system.scheduler.table.nextPid ∧ ∃ slot process,
      system.scheduler.Joined kind name pid slot process (system.perform call).state.scheduler ∧
      process.Poised config entry ∧
      process.Charged config system.memory (system.perform call).state.memory := by
  obtain ⟨slot, process, answer, created⟩ :=
    (perform_creates ready.orderly creates).of_ok returned
  obtain rfl := Answer.created.inj answer
  obtain ⟨footing, footed, born⟩ := created.born
  have standing := (system.scheduler.table.allocFooting_ensures ready.sound entry kind).of_ok footed
  obtain ⟨-, vacant, lowest⟩ := ProcessTable.freeSlot?_some created.vacant
  refine ⟨created.pid, slot, process, ⟨vacant, lowest, ?_, ?_, ?_, ?_, created.line, ?_, ?_,
    created.rest⟩, ?_, ?_⟩
  · rw [created.get?, if_pos rfl]
  · rw [born]
    exact ⟨rfl, rfl, rfl⟩
  · rw [born]
    exact ⟨rfl, rfl, rfl⟩
  · rw [born]
    exact ready.parent
  · intro other away
    rw [created.get?, if_neg away]
  · rw [created.pid, created.table]
    rfl
  · rw [born]
    exact standing.poised ready.sound ready.kernelPages ready.userPages name _
  · rw [born, created.pages]
    exact standing.charged ready.sound ready.kernelPages ready.userPages name _

/-- A creation that returns in any state that a run reaches takes the next pid and the lowest empty slot,
queues a process that is set to start on new stacks, and changes nothing else. -/
theorem creation_joined {scheduler : Scheduler}
    (started : (Scheduler.start config).result = .ok scheduler) (first : PageAllocator)
    (calls : List Call) (other : Scheduler) (others : List Call)
    (small : (System.after ⟨other, .unstarted⟩ others).memory.totalBytes ≤ 0x10000000000000)
    (creates : call.creates = some (entry, kind, name)) {pid : Pid}
    (returned : (System.perform ⟨(System.after ⟨scheduler, first⟩ calls).scheduler,
      (System.after ⟨other, .unstarted⟩ others).memory⟩ call).result = .ok (.created pid)) :
    let before : System := ⟨(System.after ⟨scheduler, first⟩ calls).scheduler,
      (System.after ⟨other, .unstarted⟩ others).memory⟩
    let after := (before.perform call).state
    pid = System.creations ⟨scheduler, first⟩ calls + 1 ∧ ∃ slot process,
      before.scheduler.Joined kind name pid slot process after.scheduler ∧
      process.Poised config entry ∧ process.Charged config before.memory after.memory := by
  intro before after
  obtain ⟨taken, joined⟩ :=
    (ready_after started first calls other others small).joined creates returned
  refine ⟨?_, joined⟩
  obtain ⟨valid, rfl⟩ := (Scheduler.start_ensures config).of_ok started
  have orderly : (Scheduler.initial config).Orderly := (Scheduler.wellFormed_initial valid).orderly
  calc pid = (System.after ⟨.initial config, first⟩ calls).scheduler.table.nextPid := taken
    _ = 1 + System.creations ⟨.initial config, first⟩ calls := after_nextPid orderly calls
    _ = System.creations ⟨.initial config, first⟩ calls + 1 := Nat.add_comm ..

theorem creation_joined_second :
    let calls : List Call := [.spawn ⟨4096, by decide⟩, .page (.start 65536 ⟨4096, by decide⟩)]
    let before : System := ⟨(System.after ⟨.initial {}, .unstarted⟩ calls).scheduler,
      (System.after ⟨.initial {}, .unstarted⟩ calls).memory⟩
    let after := (before.perform (.create ⟨8192, by decide⟩ .user "shell")).state
    2 = System.creations ⟨.initial {}, .unstarted⟩ calls + 1 ∧ ∃ slot process,
      before.scheduler.Joined .user "shell" 2 slot process after.scheduler ∧
      process.Poised {} ⟨8192, by decide⟩ ∧ process.Charged {} before.memory after.memory := by
  have started : (Scheduler.start {}).result = .ok (.initial {}) := rfl
  have creates : Call.creates (.create ⟨8192, by decide⟩ .user "shell") =
      some (⟨8192, by decide⟩, .user, "shell") := rfl
  refine creation_joined started .unstarted _ (.initial {}) _ ?_ creates ?_ <;> decide +kernel

end System

end MiniKernel
