import MiniKernel.Proofs.Process.Lifecycle
import MiniKernel.Proofs.Process.Numbered

/-! Runs of a process table on its own. Slots are used again and pids are not, so the link to a
process that was once created leads to this process or nowhere. -/

namespace MiniKernel

def ControlBlock.amend (change : ControlBlock → ControlBlock) (process : ControlBlock) :
    ControlBlock := { change process with pid := process.pid }

/-- A creation and a reap bring an allocator of their own, about which nothing is known. -/
inductive TableCall
  | registerIdle
  | create (memory : PageAllocator) (entry : VirtAddr) (kind : ProcessKind) (name : String)
      (parent : Option ParentLink)
  | reap (memory : PageAllocator) (pid : Pid)
  | amend (slot : Nat) (change : ControlBlock → ControlBlock)
  | amendEach (change : Nat → ControlBlock → ControlBlock)

namespace ProcessTable

variable {before next : ProcessTable} {call : TableCall} {slot : Nat} {pid : Pid}

def amendEach (table : ProcessTable) (change : Nat → ControlBlock → ControlBlock) : ProcessTable :=
  { table with
    slots := table.slots.mapIdx fun slot entry => entry.map (ControlBlock.amend (change slot)) }

def perform (table : ProcessTable) : TableCall → ProcessTable
  | .registerIdle => table.registerIdle.state
  | .create memory entry kind name parent => (table.create memory entry kind name parent).state.1
  | .reap memory pid => (table.reap memory pid).outcome.state.1
  | .amend slot change => table.modify slot (ControlBlock.amend change)
  | .amendEach change => table.amendEach change

def created? (table : ProcessTable) : TableCall → Option (Nat × Pid)
  | .create memory entry kind name parent =>
      (table.create memory entry kind name parent).result.toOption
  | _ => none

def Removes (table : ProcessTable) (pid : Pid) : TableCall → Prop
  | .reap memory target => target = pid ∧ ∀ failure,
      (table.reap memory target).outcome.result = .error failure → ¬ failure.Unreapable
  | _ => False

def after (start : ProcessTable) : List TableCall → ProcessTable
  | [] => start
  | call :: earlier => (start.after earlier).perform call

def Removed (start : ProcessTable) (pid : Pid) : List TableCall → Prop
  | [] => False
  | call :: earlier => (start.after earlier).Removes pid call ∨ start.Removed pid earlier

theorem after_append (start : ProcessTable) (later earlier : List TableCall) :
    start.after (later ++ earlier) = (start.after earlier).after later := by
  induction later with
  | nil => rfl
  | cons call later ih => exact congrArg (perform · call) ih

/-! The pids by slot. -/

def pid? (table : ProcessTable) (slot : Nat) : Option Pid := (table.get? slot).map ControlBlock.pid

theorem numbered_iff : before.Numbered ↔
    (∀ left right pid, before.pid? left = some pid → before.pid? right = some pid → left = right) ∧
      ∀ slot pid, before.pid? slot = some pid → pid < before.nextPid := by
  simp only [pid?, Option.map_eq_some_iff]
  constructor
  · intro numbered
    constructor
    · rintro left right pid ⟨process, held, rfl⟩ ⟨rival, rivalHeld, same⟩
      exact numbered.distinct left right process rival held rivalHeld same.symm
    · rintro slot pid ⟨process, held, rfl⟩
      exact numbered.below slot process held
  · rintro ⟨distinct, below⟩
    constructor
    · intro left right process rival held rivalHeld same
      exact distinct left right process.pid ⟨process, held, rfl⟩ ⟨rival, rivalHeld, same.symm⟩
    · intro slot process held
      exact below slot process.pid ⟨process, held, rfl⟩

theorem Numbered.lookup_iff_pid? (numbered : before.Numbered) :
    before.lookup pid = some slot ↔ before.pid? slot = some pid := by
  rw [numbered.lookup_iff, pid?, Option.map_eq_some_iff]

theorem Numbered.nodup_pids (numbered : before.Numbered) :
    (before.processes.map fun entry => entry.2.pid).Nodup := by
  rw [List.nodup_iff_pairwise_ne, List.pairwise_map]
  refine (processes_pairwise before).imp_of_mem ?_
  intro left right leftListed rightListed earlier same
  refine Nat.ne_of_lt earlier (numbered.distinct left.1 right.1 left.2 right.2 ?_ ?_ same)
  · exact mem_processes.mp leftListed
  · exact mem_processes.mp rightListed

theorem resolveParent_some (table : ProcessTable) (link : ParentLink) :
    table.resolveParent (some link) =
      if table.pid? link.slot = some link.pid then some link.pid else none := by
  rw [resolveParent, Option.bind_some, pid?]
  cases held : table.get? link.slot with
  | none => rfl
  | some process => by_cases same : process.pid = link.pid <;> simp [same]

theorem pid?_amendEach (table : ProcessTable) (change : Nat → ControlBlock → ControlBlock)
    (slot : Nat) : (table.amendEach change).pid? slot = table.pid? slot := by
  simp only [pid?, get?, amendEach, List.getElem?_mapIdx]
  rcases table.slots[slot]? with _ | _ | process <;> rfl

theorem pid?_amend (table : ProcessTable) (slot : Nat) (change : ControlBlock → ControlBlock)
    (other : Nat) : (table.modify slot (ControlBlock.amend change)).pid? other = table.pid? other := by
  rw [pid?, get?_modify, Option.map_map, pid?]
  congr 1
  funext process
  by_cases same : other = slot <;> simp [same, ControlBlock.amend]

/-! One call. -/

inductive Renumbered (before : ProcessTable) : TableCall → ProcessTable → Prop
  | kept {call : TableCall} {next : ProcessTable}
      (entries : ∀ slot, next.pid? slot = before.pid? slot)
      (counter : next.nextPid = before.nextPid) (uncreated : before.created? call = none)
      (spared : ∀ pid, ¬ before.Removes pid call) : Renumbered before call next
  | seated {next : ProcessTable} (vacant : ∀ slot, before.pid? slot = none)
      (entries : ∀ slot, next.pid? slot = if slot = 0 then some idlePid else none)
      (counter : next.nextPid = before.nextPid) : Renumbered before .registerIdle next
  | entered {call : TableCall} {next : ProcessTable} {slot : Nat} (vacant : before.pid? slot = none)
      (entries : ∀ other,
        next.pid? other = if other = slot then some before.nextPid else before.pid? other)
      (counter : next.nextPid = before.nextPid + 1)
      (created : before.created? call = some (slot, before.nextPid))
      (spared : ∀ pid, ¬ before.Removes pid call) : Renumbered before call next
  | left {memory : PageAllocator} {pid : Pid} {next : ProcessTable} {slot : Nat}
      (held : before.pid? slot = some pid)
      (entries : ∀ other, next.pid? other = if other = slot then none else before.pid? other)
      (counter : next.nextPid = before.nextPid)
      (removes : before.Removes pid (.reap memory pid)) : Renumbered before (.reap memory pid) next

theorem registerIdle_renumbers (table : ProcessTable) :
    table.Renumbered .registerIdle table.registerIdle.state := by
  unfold registerIdle
  split
  · rename_i allVacant
    have vacant : ∀ slot, table.get? slot = none := by
      intro slot
      by_cases bound : slot < table.slots.length
      · have entry := List.all_eq_true.mp allVacant _ (List.getElem_mem bound)
        simpa [get?, bound] using entry
      · simp [get?, Nat.le_of_not_lt bound]
    split
    · exact .kept (fun _ => rfl) rfl rfl fun _ => id
    · rename_i room
      refine .seated (fun slot => congrArg _ (vacant slot)) (fun slot => ?_) rfl
      change ((table.put 0 .idle).get? slot).map ControlBlock.pid = _
      rw [get?_put (Nat.pos_of_ne_zero room), vacant slot]
      split <;> rfl
  · exact .kept (fun _ => rfl) rfl rfl fun _ => id

theorem create_renumbers (table : ProcessTable) (memory : PageAllocator) (entry : VirtAddr)
    (kind : ProcessKind) (name : String) (parent : Option ParentLink) :
    table.Renumbered (.create memory entry kind name parent)
      (table.create memory entry kind name parent).state.1 := by
  have ensured := table.create_ensures memory entry kind name parent
  cases found : (table.create memory entry kind name parent).result with
  | ok entered =>
      obtain ⟨slot, pid⟩ := entered
      obtain ⟨named, vacant, -, -, footing, -, tableEq⟩ := ensured.of_ok found
      obtain ⟨bound, empty, -⟩ := freeSlot?_some vacant
      have unused : table.pid? slot = none := congrArg _ empty
      rw [tableEq]
      refine .entered unused (fun other => ?_) rfl ?_ fun _ => id
      · change ((table.put slot _).get? other).map ControlBlock.pid = _
        rw [get?_put bound]
        split <;> rfl
      · rw [created?, found, ← named]
        rfl
  | error failure =>
      obtain ⟨tableEq, -⟩ := ensured.of_error found
      rw [tableEq]
      exact .kept (fun _ => rfl) rfl (by rw [created?, found]; rfl) fun _ => id

theorem reap_renumbers (table : ProcessTable) (memory : PageAllocator) (pid : Pid) :
    table.Renumbered (.reap memory pid) (table.reap memory pid).outcome.state.1 := by
  rcases table.reap_ensures memory pid with ⟨slot, process, exited, -, ensured⟩ | ⟨-, ensured⟩
  · have removes : table.Removes pid (.reap memory pid) := by
      refine ⟨rfl, fun failure failed => ?_⟩
      obtain ⟨-, stuck⟩ := ensured.of_error failed
      exact ((table.freeStacks_fails memory process).of_error stuck).unlike
    have held : table.pid? slot = some pid := by
      rw [pid?, exited.holds, Option.map_some, exited.named]
    rw [(exited.reap memory).2]
    refine .left held (fun other => ?_) rfl removes
    rw [pid?, get?_clear]
    split <;> rfl
  · cases found : (table.reap memory pid).outcome.result with
    | ok info => exact (ensured.of_ok found).elim
    | error failure =>
        obtain ⟨same, unreaped⟩ := ensured.of_error found
        rw [same]
        refine .kept (fun _ => rfl) rfl rfl fun target removes => removes.2 failure found ?_
        rcases unreaped with ⟨rfl, -⟩ | ⟨_, process, -, -, -, rfl⟩
        · exact Or.inl rfl
        · exact Or.inr ⟨pid, process.state, rfl⟩

theorem perform_renumbers (table : ProcessTable) (call : TableCall) :
    table.Renumbered call (table.perform call) := by
  cases call with
  | registerIdle => exact registerIdle_renumbers table
  | create memory entry kind name parent => exact create_renumbers ..
  | reap memory pid => exact reap_renumbers ..
  | amend slot change => exact .kept (pid?_amend table slot change) rfl rfl fun _ => id
  | amendEach change => exact .kept (pid?_amendEach table change) rfl rfl fun _ => id

theorem Renumbered.counter_le (renumbered : before.Renumbered call next) :
    before.nextPid ≤ next.nextPid := by
  cases renumbered with
  | kept _ counter | seated _ _ counter | left _ _ counter => exact counter.ge
  | entered _ _ counter => exact counter ▸ Nat.le_succ _

theorem Renumbered.numbered (renumbered : before.Renumbered call next) (numbered : before.Numbered)
    (positive : idlePid < before.nextPid) : next.Numbered := by
  obtain ⟨distinct, below⟩ := numbered_iff.mp numbered
  refine numbered_iff.mpr ?_
  cases renumbered with
  | kept entries counter =>
      simp only [entries, counter]
      exact ⟨distinct, below⟩
  | seated vacant entries counter =>
      simp only [entries, counter]
      grind
  | entered vacant entries counter =>
      simp only [entries, counter]
      grind
  | left held entries counter =>
      simp only [entries, counter]
      grind

/-! The life of one pid. -/

theorem Renumbered.stays (renumbered : before.Renumbered call next)
    (held : before.pid? slot = some pid) (spared : ¬ before.Removes pid call) :
    next.pid? slot = some pid := by
  cases renumbered with
  | kept entries => exact (entries slot).trans held
  | seated vacant => exact absurd ((vacant slot).symm.trans held) (by simp)
  | entered vacant entries =>
      rw [entries, if_neg, held]
      rintro rfl
      exact absurd (vacant.symm.trans held) (by simp)
  | left leaves entries _ removes =>
      rw [entries, if_neg, held]
      rintro rfl
      obtain rfl := Option.some.inj (leaves.symm.trans held)
      exact spared removes

theorem Renumbered.leaves (renumbered : before.Renumbered call next) (numbered : before.Numbered)
    (removes : before.Removes pid call) : next.pid? slot ≠ some pid := by
  cases renumbered with
  | kept _ _ _ spared => exact absurd removes (spared pid)
  | seated => exact removes.elim
  | entered _ _ _ _ spared => exact absurd removes (spared pid)
  | left held entries =>
      obtain ⟨rfl, -⟩ := removes
      rw [entries]
      split
      · simp
      · rename_i away
        exact fun other => away ((numbered_iff.mp numbered).1 _ _ _ other held)

/-- A pid that was taken and is gone is not taken again. -/
theorem Renumbered.stays_away (renumbered : before.Renumbered call next) (born : idlePid < pid)
    (taken : pid < before.nextPid) (away : ∀ slot, before.pid? slot ≠ some pid) :
    next.pid? slot ≠ some pid := by
  cases renumbered with
  | kept entries => exact entries slot ▸ away slot
  | seated _ entries =>
      rw [entries]
      split
      · exact fun same => Nat.ne_of_lt born (Option.some.inj same)
      · simp
  | entered _ entries =>
      rw [entries]
      split
      · exact fun same => Nat.ne_of_gt taken (Option.some.inj same)
      · exact away slot
  | left _ entries =>
      rw [entries]
      split
      · simp
      · exact away slot

/-! Runs. -/

theorem after_numbered {start : ProcessTable} (numbered : start.Numbered)
    (positive : idlePid < start.nextPid) (calls : List TableCall) :
    (start.after calls).Numbered ∧ start.nextPid ≤ (start.after calls).nextPid := by
  induction calls with
  | nil => exact ⟨numbered, Nat.le_refl _⟩
  | cons call earlier ih =>
      obtain ⟨before, grown⟩ := ih
      have step := perform_renumbers (start.after earlier) call
      exact ⟨step.numbered before (positive.trans_le grown), grown.trans step.counter_le⟩

/-- A process keeps its slot until a reap takes it away, and its pid is not seen again after that. -/
theorem after_seat {start : ProcessTable} (numbered : start.Numbered) (born : idlePid < pid)
    (held : start.pid? slot = some pid) (calls : List TableCall) :
    (¬ start.Removed pid calls → (start.after calls).pid? slot = some pid) ∧
      (start.Removed pid calls → ∀ other, (start.after calls).pid? other ≠ some pid) := by
  have taken : pid < start.nextPid := (numbered_iff.mp numbered).2 slot pid held
  induction calls with
  | nil => exact ⟨fun _ => held, False.elim⟩
  | cons call earlier ih =>
      obtain ⟨before, grown⟩ := after_numbered numbered (born.trans taken) earlier
      have step := perform_renumbers (start.after earlier) call
      constructor
      · intro present
        obtain ⟨spared, presentBefore⟩ := not_or.mp present
        exact step.stays (ih.1 presentBefore) spared
      · rintro (removes | gone) other
        · exact step.leaves before removes
        · -- The counter has passed the pid, and new pids come from the counter.
          exact step.stays_away born (taken.trans_le grown) (ih.2 gone)

theorem numbered_empty (config : Config) : (empty config).Numbered := by
  constructor
  · intro left right process rival held
    rw [get?_empty] at held
    cases held
  · intro slot process held
    rw [get?_empty] at held
    cases held

/-- No link and no pid of a table is mistaken for another one, whatever calls are made and however
often its slots are used again. -/
theorem after_links {config : Config} {start : ProcessTable} (built : ofConfig config = .ok start)
    (calls : List TableCall) :
    ((start.after calls).processes.map fun entry => entry.2.pid).Nodup ∧
    (∀ link : ParentLink, (start.after calls).resolveParent (some link) =
      if (start.after calls).lookup link.pid = some link.slot then some link.pid else none) ∧
    ∀ later creation earlier slot pid, calls = later ++ creation :: earlier →
      (start.after earlier).created? creation = some (slot, pid) →
      (¬ (start.after (creation :: earlier)).Removed pid later →
        (start.after calls).resolveParent (some ⟨slot, pid⟩) = some pid) ∧
      ((start.after (creation :: earlier)).Removed pid later →
        (start.after calls).resolveParent (some ⟨slot, pid⟩) = none) := by
  obtain rfl : empty config = start := by
    unfold ofConfig at built
    cases buffered : Word.buffer config.capacity entryBytes with
    | error cause => rw [buffered] at built; cases built
    | ok bytes => rw [buffered] at built; exact Except.ok.inj built
  have initially := numbered_empty config
  have positive : idlePid < (empty config).nextPid := Nat.one_pos
  have reached := (after_numbered initially positive calls).1
  refine ⟨reached.nodup_pids, fun link => ?_, ?_⟩
  · rw [resolveParent_some]
    exact if_congr reached.lookup_iff_pid?.symm rfl rfl
  · rintro later creation earlier slot pid rfl created
    obtain ⟨before, grown⟩ := after_numbered initially positive earlier
    have born := positive.trans_le grown
    have step := perform_renumbers ((empty config).after earlier) creation
    obtain ⟨seat, above⟩ : ((empty config).after (creation :: earlier)).pid? slot = some pid ∧
        idlePid < pid := by
      cases step with
      | kept _ _ uncreated => exact absurd (uncreated.symm.trans created) (by simp)
      | seated => cases created
      | entered _ entries _ entered =>
          obtain ⟨rfl, rfl⟩ := Prod.mk.inj (Option.some.inj (entered.symm.trans created))
          exact ⟨(entries _).trans (if_pos rfl), born⟩
      | left => cases created
    have life := after_seat (step.numbered before born) above seat later
    rw [after_append, resolveParent_some]
    exact ⟨fun present => if_pos (life.1 present), fun gone => if_neg (life.2 gone slot)⟩

/-- Two processes in one slot, one after the other. The reap of the first one escalates when the
process is already gone. -/
theorem after_links_reused :
    let memory := (PageAllocator.unstarted.start 65536 ⟨4096, by decide⟩).state
    let spawn : TableCall := .create memory ⟨4096, by decide⟩ .kernelThread "kthread" (some ⟨0, 0⟩)
    let calls : List TableCall := [spawn, .reap .unstarted 1,
      .amend 1 fun process => { process with state := .zombie }, spawn, .registerIdle]
    ((empty {}).after calls).resolveParent (some ⟨1, 1⟩) = none ∧
      ((empty {}).after calls).resolveParent (some ⟨1, 2⟩) = some 2 := by
  intro memory spawn calls
  have built : ofConfig {} = .ok (empty {}) := rfl
  have links := (after_links built calls).2.2
  have stuck : ((((empty {}).after (calls.drop 2)).reap .unstarted 1).outcome.result) =
      .error (.fatal .allocatorNotStarted) := by decide +kernel
  constructor
  · refine (links (calls.take 3) spawn [.registerIdle] 1 1 rfl (by decide +kernel)).2 ?_
    refine Or.inr (Or.inl ⟨rfl, fun failure failed => ?_⟩)
    obtain rfl := Except.error.inj (stuck.symm.trans failed)
    simp [Failure.Unreapable]
  · exact (links [] spawn (calls.drop 1) 1 2 rfl (by decide +kernel)).1 id

end ProcessTable

end MiniKernel
