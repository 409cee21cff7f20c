import MiniKernel.Proofs.Schedule.Standing
import MiniKernel.Proofs.System.Effect

/-! The family of the processes. Whoever creates a process is its parent until it exits; then the idle
process adopts the child. So all parent links lead to the idle process in the end. -/

namespace MiniKernel

def idleLink : ParentLink := ⟨0, idlePid⟩

structure Kin where
  pid : Pid
  parent : Option ParentLink
  exited : Bool

def ControlBlock.kin (process : ControlBlock) : Kin :=
  ⟨process.pid, process.parent, decide (process.state = .zombie)⟩

theorem ControlBlock.kin_of_lasting {left right : Option ControlBlock}
    (same : left.map ControlBlock.lasting = right.map ControlBlock.lasting) :
    left.map ControlBlock.kin = right.map ControlBlock.kin := by
  have kin := congrArg (Option.map fun (pid, _, parent, exited, _) => Kin.mk pid parent exited) same
  rwa [Option.map_map, Option.map_map] at kin

def Kin.bereave (gone : ParentLink) (slot : Nat) (kin : Kin) : Kin :=
  { kin with
    parent := if kin.parent = some gone then some idleLink else kin.parent
    exited := kin.exited || decide (slot = gone.slot) }

theorem Kin.bereave_other {gone : ParentLink} {slot : Nat} {kin : Kin} (child : kin.parent ≠ some gone)
    (away : slot ≠ gone.slot) : kin.bereave gone slot = kin := by
  simp [bereave, child, away]

def ProcessTable.kin? (table : ProcessTable) (slot : Nat) : Option Kin :=
  (table.get? slot).map ControlBlock.kin

theorem ProcessTable.kin_of_get? {table : ProcessTable} {slot : Nat} {process : ControlBlock}
    (held : table.get? slot = some process) : table.kin? slot = some process.kin := by
  rw [kin?, held, Option.map_some]

structure Lineage where
  parentage : List (Pid × Pid)
  exited : List Pid
  deriving DecidableEq

namespace Lineage

/-- Who looks after the children of a process. -/
def guardian (lineage : Lineage) (creator : Pid) : Pid :=
  if creator ∈ lineage.exited then idlePid else creator

inductive Grows (lineage : Lineage) (table : ProcessTable) : Lineage → ProcessTable → Prop
  | quiet {next} (entries : ∀ slot, next.kin? slot = table.kin? slot)
      (nextPid : next.nextPid = table.nextPid) : Grows lineage table lineage next
  | born {next slot link runner} (vacant : table.kin? slot = none)
      (runs : table.kin? link.slot = some runner) (named : runner.pid = link.pid)
      (lives : runner.exited = false)
      (entries : ∀ other, next.kin? other =
        if other = slot then some ⟨table.nextPid, some link, false⟩ else table.kin? other)
      (nextPid : next.nextPid = table.nextPid + 1) :
      Grows lineage table
        { lineage with parentage := (table.nextPid, link.pid) :: lineage.parentage } next
  | exited {next gone kin} (runs : table.kin? gone.slot = some kin) (named : kin.pid = gone.pid)
      (lives : kin.exited = false) (mortal : gone.slot ≠ 0)
      (entries : ∀ other, next.kin? other = (table.kin? other).map (Kin.bereave gone other))
      (nextPid : next.nextPid = table.nextPid) :
      Grows lineage table { lineage with exited := gone.pid :: lineage.exited } next
  | cleared {next slot kin} (holds : table.kin? slot = some kin) (exited : kin.exited = true)
      (entries : ∀ other, next.kin? other = if other = slot then none else table.kin? other)
      (nextPid : next.nextPid = table.nextPid) : Grows lineage table lineage next

structure Traced (lineage : Lineage) (table : ProcessTable) : Prop where
  idle : ∃ idle, table.kin? 0 = some idle ∧ idle.pid = idlePid ∧ idle.parent = none ∧
    idle.exited = false
  raised : ∀ slot kin, table.kin? slot = some kin → kin.pid ≠ idlePid →
    ∃ creator home parent, (kin.pid, creator) ∈ lineage.parentage ∧ creator < kin.pid ∧
      kin.parent = some ⟨home, lineage.guardian creator⟩ ∧ table.kin? home = some parent ∧
      parent.pid = lineage.guardian creator ∧ parent.exited = false
  lives : ∀ slot kin, table.kin? slot = some kin → kin.exited = false → kin.pid ∉ lineage.exited
  known : ∀ pid ∈ lineage.exited, pid < table.nextPid
  recorded : ∀ entry ∈ lineage.parentage, entry.1 < table.nextPid
  once : (lineage.parentage.map Prod.fst).Nodup

variable {lineage grown : Lineage} {table next : ProcessTable} {slot : Nat} {kin : Kin}

theorem Traced.quiet (traced : lineage.Traced table)
    (entries : ∀ slot, next.kin? slot = table.kin? slot) (nextPid : next.nextPid = table.nextPid) :
    lineage.Traced next := by
  obtain ⟨idle, raised, lives, known, recorded, once⟩ := traced
  refine ⟨?_, ?_, ?_, nextPid ▸ known, nextPid ▸ recorded, once⟩
  · rwa [entries]
  · intro slot kin held mortal
    obtain ⟨creator, home, parent, rest⟩ := raised slot kin (entries slot ▸ held) mortal
    exact ⟨creator, home, parent, (entries home).symm ▸ rest⟩
  · intro slot kin held
    exact lives slot kin (entries slot ▸ held)

theorem Traced.born (traced : lineage.Traced table) (below : ∀ slot kin,
      table.kin? slot = some kin → kin.pid < table.nextPid) {link : ParentLink} {runner : Kin}
    (vacant : table.kin? slot = none) (runs : table.kin? link.slot = some runner)
    (named : runner.pid = link.pid) (lives : runner.exited = false)
    (entries : ∀ other, next.kin? other =
      if other = slot then some ⟨table.nextPid, some link, false⟩ else table.kin? other)
    (nextPid : next.nextPid = table.nextPid + 1) :
    Traced { lineage with parentage := (table.nextPid, link.pid) :: lineage.parentage } next := by
  have kept : ∀ {other rival}, table.kin? other = some rival → next.kin? other = some rival := by
    intro other rival held
    rw [entries, if_neg, held]
    rintro rfl
    rw [vacant] at held
    cases held
  have cases : ∀ {other rival}, next.kin? other = some rival →
      rival = ⟨table.nextPid, some link, false⟩ ∨ table.kin? other = some rival := by
    intro other rival held
    rw [entries] at held
    split at held
    · exact Or.inl (Option.some.inj held).symm
    · exact Or.inr held
  have alive : link.pid ∉ lineage.exited := named ▸ traced.lives link.slot runner runs lives
  constructor
  · obtain ⟨idle, held, rest⟩ := traced.idle
    exact ⟨idle, kept held, rest⟩
  · intro other rival held mortal
    rcases cases held with rfl | older
    · refine ⟨link.pid, link.slot, runner, List.mem_cons_self, named ▸ below link.slot runner runs, ?_,
        kept runs, ?_, lives⟩
      · simp [guardian, alive]
      · simp [guardian, alive, named]
    · obtain ⟨creator, home, parent, member, smaller, link, parentHeld, rest⟩ :=
        traced.raised other rival older mortal
      exact ⟨creator, home, parent, List.mem_cons_of_mem _ member, smaller, link, kept parentHeld, rest⟩
  · intro other rival held rivalLives
    rcases cases held with rfl | older
    · exact fun exited => Nat.lt_irrefl _ (traced.known _ exited)
    · exact traced.lives other rival older rivalLives
  · intro pid exited
    rw [nextPid]
    exact Nat.lt_succ_of_lt (traced.known pid exited)
  · intro entry member
    rw [nextPid]
    rcases List.mem_cons.mp member with rfl | older
    · exact Nat.lt_succ_self _
    · exact Nat.lt_succ_of_lt (traced.recorded entry older)
  · refine List.nodup_cons.mpr ⟨fun again => ?_, traced.once⟩
    obtain ⟨entry, member, same⟩ := List.mem_map.mp again
    exact Nat.lt_irrefl _ (same ▸ traced.recorded entry member)

/-- Once a process has exited, the idle one looks after whoever it looked after. -/
theorem guardian_exited {pid : Pid} (alive : pid ∉ lineage.exited) (mortal : pid ≠ idlePid)
    (creator : Pid) : guardian { lineage with exited := pid :: lineage.exited } creator =
      if lineage.guardian creator = pid then idlePid else lineage.guardian creator := by
  unfold guardian
  by_cases own : creator = pid
  · subst creator
    simp [alive]
  · by_cases past : creator ∈ lineage.exited
    · simp [past, Ne.symm mortal]
    · simp [own, past]

theorem Traced.exited (traced : lineage.Traced table) (distinct : ∀ left right kin rival,
      table.kin? left = some kin → table.kin? right = some rival → kin.pid = rival.pid → left = right)
    (below : ∀ slot kin, table.kin? slot = some kin → kin.pid < table.nextPid) {gone : ParentLink}
    (runs : table.kin? gone.slot = some kin) (named : kin.pid = gone.pid) (lives : kin.exited = false)
    (mortal : gone.slot ≠ 0)
    (entries : ∀ other, next.kin? other = (table.kin? other).map (Kin.bereave gone other))
    (nextPid : next.nextPid = table.nextPid) :
    Traced { lineage with exited := gone.pid :: lineage.exited } next := by
  obtain ⟨idle, idleHeld, idlePid_eq, orphan, idleLives⟩ := traced.idle
  have notIdle : gone.pid ≠ idlePid := by
    intro same
    exact mortal (distinct gone.slot 0 kin idle runs idleHeld
      (named.trans (same.trans idlePid_eq.symm)))
  have alive : gone.pid ∉ lineage.exited := named ▸ traced.lives gone.slot kin runs lives
  have idleKept : next.kin? 0 = some idle := by
    rw [entries, idleHeld, Option.map_some, Kin.bereave_other _ (Ne.symm mortal)]
    simp [orphan]
  constructor
  · exact ⟨idle, idleKept, idlePid_eq, orphan, idleLives⟩
  · intro other rival held rivalMortal
    rw [entries] at held
    obtain ⟨before, beforeHeld, rfl⟩ := Option.map_eq_some_iff.mp held
    obtain ⟨creator, home, parent, member, smaller, link, parentHeld, parentPid, parentLives⟩ :=
      traced.raised other before beforeHeld rivalMortal
    have guardian := guardian_exited alive notIdle creator
    by_cases bereaved : lineage.guardian creator = gone.pid
    · -- The idle process takes the place of the parent, and it is still there.
      rw [if_pos bereaved] at guardian
      refine ⟨creator, 0, idle, member, smaller, ?_, idleKept, idlePid_eq.trans guardian.symm,
        idleLives⟩
      obtain rfl := distinct home gone.slot parent kin parentHeld runs
        (parentPid.trans (bereaved.trans named.symm))
      simp [Kin.bereave, link, bereaved, guardian, idleLink]
    · rw [if_neg bereaved] at guardian
      have away : home ≠ gone.slot := by
        rintro rfl
        obtain rfl := Option.some.inj (parentHeld.symm.trans runs)
        exact bereaved (parentPid.symm.trans named)
      refine ⟨creator, home, parent.bereave gone home, member, smaller, ?_, ?_,
        parentPid.trans guardian.symm, ?_⟩
      · rw [guardian, Kin.bereave, link]
        exact if_neg fun linked => bereaved (congrArg ParentLink.pid (Option.some.inj linked))
      · rw [entries, parentHeld, Option.map_some]
      · simp [Kin.bereave, parentLives, away]
  · intro other rival held rivalLives
    rw [entries] at held
    obtain ⟨before, beforeHeld, rfl⟩ := Option.map_eq_some_iff.mp held
    obtain ⟨beforeLives, away⟩ : before.exited = false ∧ other ≠ gone.slot := by
      simpa [Kin.bereave] using rivalLives
    refine fun exited => (List.mem_cons.mp exited).elim (fun same => away ?_)
      (traced.lives other before beforeHeld beforeLives)
    exact distinct other gone.slot before kin beforeHeld runs (same.trans named.symm)
  · intro pid exited
    rw [nextPid]
    rcases List.mem_cons.mp exited with rfl | older
    · exact named ▸ below gone.slot kin runs
    · exact traced.known pid older
  · exact nextPid ▸ traced.recorded
  · exact traced.once

/-- Nobody is the child of a process that has exited, so a reap breaks no link. -/
theorem Traced.cleared (traced : lineage.Traced table) (holds : table.kin? slot = some kin)
    (exited : kin.exited = true)
    (entries : ∀ other, next.kin? other = if other = slot then none else table.kin? other)
    (nextPid : next.nextPid = table.nextPid) : lineage.Traced next := by
  have kept : ∀ {other rival}, table.kin? other = some rival → rival.exited = false →
      next.kin? other = some rival := by
    intro other rival held lives
    rw [entries, if_neg, held]
    rintro rfl
    obtain rfl := Option.some.inj (held.symm.trans holds)
    rw [lives] at exited
    cases exited
  have older : ∀ {other rival}, next.kin? other = some rival → table.kin? other = some rival := by
    intro other rival held
    rw [entries] at held
    split at held
    · cases held
    · exact held
  obtain ⟨⟨idle, idleHeld, pid, orphan, idleLives⟩, raised, lives, known, recorded, once⟩ := traced
  refine ⟨⟨idle, kept idleHeld idleLives, pid, orphan, idleLives⟩, ?_, ?_, nextPid ▸ known,
    nextPid ▸ recorded, once⟩
  · intro other rival held mortal
    obtain ⟨creator, home, parent, member, smaller, link, parentHeld, parentPid, parentLives⟩ :=
      raised other rival (older held) mortal
    exact ⟨creator, home, parent, member, smaller, link, kept parentHeld parentLives, parentPid,
      parentLives⟩
  · intro other rival held
    exact lives other rival (older held)

theorem Traced.grows (traced : lineage.Traced table) (numbered : table.Numbered)
    (grows : lineage.Grows table grown next) : grown.Traced next := by
  have below : ∀ slot kin, table.kin? slot = some kin → kin.pid < table.nextPid := by
    intro slot kin held
    obtain ⟨process, processHeld, rfl⟩ := Option.map_eq_some_iff.mp held
    exact numbered.below slot process processHeld
  have distinct : ∀ left right kin rival, table.kin? left = some kin →
      table.kin? right = some rival → kin.pid = rival.pid → left = right := by
    intro left right kin rival held rivalHeld
    obtain ⟨process, processHeld, rfl⟩ := Option.map_eq_some_iff.mp held
    obtain ⟨other, otherHeld, rfl⟩ := Option.map_eq_some_iff.mp rivalHeld
    exact numbered.distinct left right process other processHeld otherHeld
  cases grows with
  | quiet entries nextPid => exact traced.quiet entries nextPid
  | born vacant runs named lives entries nextPid =>
      exact traced.born below vacant runs named lives entries nextPid
  | exited runs named lives mortal entries nextPid =>
      exact traced.exited distinct below runs named lives mortal entries nextPid
  | cleared holds exited entries nextPid => exact traced.cleared holds exited entries nextPid

theorem Grows.link (grows : lineage.Grows table grown next) (held : table.kin? slot = some kin)
    {later : Kin} (laterHeld : next.kin? slot = some later) :
    later.parent = kin.parent ∨ ∃ gone, kin.parent = some gone ∧
      grown.exited = gone.pid :: lineage.exited ∧ later.parent = some idleLink := by
  cases grows with
  | quiet entries =>
      obtain rfl := Option.some.inj (laterHeld.symm.trans ((entries slot).trans held))
      exact Or.inl rfl
  | @born next fresh link runner vacant runs named lives entries =>
      rw [entries, if_neg, held] at laterHeld
      · exact Or.inl (congrArg Kin.parent (Option.some.inj laterHeld)).symm
      · rintro rfl
        rw [vacant] at held
        cases held
  | @exited next gone _ runs named lives mortal entries =>
      rw [entries, held, Option.map_some, Option.some.injEq] at laterHeld
      subst laterHeld
      by_cases child : kin.parent = some gone
      · exact Or.inr ⟨gone, child, rfl, if_pos child⟩
      · exact Or.inl (if_neg child)
  | cleared holds exited entries =>
      rw [entries] at laterHeld
      split at laterHeld
      · cases laterHeld
      · exact Or.inl (congrArg Kin.parent (Option.some.inj (laterHeld.symm.trans held)))

theorem traced_initial {config : Config} (capacity : config.capacity ≠ 0) :
    Traced ⟨[], []⟩ (Scheduler.initial config).table := by
  have entries : ∀ slot kin, (Scheduler.initial config).table.kin? slot = some kin →
      kin = ControlBlock.idle.kin := by
    intro slot kin held
    obtain ⟨process, processHeld, rfl⟩ := Option.map_eq_some_iff.mp held
    rw [((Scheduler.get?_initial capacity).mp processHeld).2]
  have idle : (Scheduler.initial config).table.kin? 0 = some ControlBlock.idle.kin :=
    ProcessTable.kin_of_get? ((Scheduler.get?_initial capacity).mpr ⟨rfl, rfl⟩)
  refine ⟨⟨_, idle, rfl, rfl, rfl⟩, ?_, ?_, ?_, ?_, List.nodup_nil⟩
  · intro slot kin held mortal
    exact absurd (congrArg Kin.pid (entries slot kin held)) mortal
  · exact fun _ _ _ _ => List.not_mem_nil
  · exact fun _ exited => absurd exited List.not_mem_nil
  · exact fun _ member => absurd member List.not_mem_nil

end Lineage

namespace Scheduler

variable {scheduler next : Scheduler} {slot chosen now : Nat} {process : ControlBlock}
  {saved registers : Registers} {departure : Departure}

theorem Alike.kin (alike : scheduler.Alike next) (slot : Nat) :
    next.table.kin? slot = scheduler.table.kin? slot := alike.read (fun _ => rfl) slot

theorem Coherent.dispatched_kin (coherent : scheduler.Coherent slot process)
    (dispatched : scheduler.Dispatched saved now chosen registers next) (other : Nat) :
    next.table.kin? other = scheduler.table.kin? other :=
  ControlBlock.kin_of_lasting (coherent.dispatched_lasting dispatched other)

theorem Switched.kin_stays (stays : ∀ code, departure ≠ .exits code)
    (switched : scheduler.Switched departure saved now registers next) (other : Nat) :
    next.table.kin? other = scheduler.table.kin? other :=
  ControlBlock.kin_of_lasting (switched.lasting_stays stays other)

theorem Switched.kin_exits {code : Int}
    (switched : scheduler.Switched (.exits code) saved now registers next) :
    ∃ slot process, scheduler.table.get? slot = some process ∧ scheduler.currentPid = process.pid ∧
      process.state = .running ∧ slot ≠ 0 ∧ ∀ other, next.table.kin? other =
        (scheduler.table.kin? other).map (Kin.bereave ⟨slot, process.pid⟩ other) := by
  obtain ⟨slot, process, chosen, coherent, running, leaves, dispatched⟩ := switched
  refine ⟨slot, process, coherent.occupied.holds, coherent.currentPid_eq, running,
    leaves.resolve_left (by simp), fun other => ?_⟩
  rw [(coherent.depart running leaves).dispatched_kin dispatched]
  unfold ProcessTable.kin?
  rw [get?_depart coherent.occupied.holds, coherent.idleSlot, Option.map_map, Option.map_map]
  congr 1
  funext rival
  by_cases own : other = slot <;> by_cases child : rival.parent = some ⟨slot, process.pid⟩ <;>
    simp [Departure.mark, ControlBlock.kin, Kin.bereave, idleLink, own, child]

theorem Created.kin {memory left : PageAllocator} {entry : VirtAddr} {kind : ProcessKind}
    {name : String} (created : scheduler.Created memory entry kind name slot process next left)
    (other : Nat) :
    next.table.kin? other =
      if other = slot then some ⟨scheduler.table.nextPid, scheduler.runningLink, false⟩
      else scheduler.table.kin? other := by
  obtain ⟨footing, -, born⟩ := created.born
  unfold ProcessTable.kin?
  rw [created.get?]
  split
  · rw [born]
    rfl
  · rfl

end Scheduler

theorem ProcessTable.resolveParent_of_get? {table : ProcessTable} {home : Nat} {parent : ControlBlock}
    (held : table.get? home = some parent) :
    table.resolveParent (some ⟨home, parent.pid⟩) = some parent.pid := by
  simp [resolveParent, held]

namespace Scheduler

def parentOf (scheduler : Scheduler) (pid : Pid) : Option Pid :=
  (scheduler.lookup pid).bind Snapshot.parent

def Descends (scheduler : Scheduler) (pid : Pid) : Prop :=
  ∃ ancestors : List Pid,
    (pid :: ancestors).IsChain (fun child parent =>
      scheduler.parentOf child = some parent ∧ parent < child) ∧
    (pid :: ancestors).getLast? = some idlePid

theorem WellFormed.descends {scheduler : Scheduler} (wellFormed : scheduler.WellFormed)
    (child : ∀ info ∈ scheduler.processes, info.pid ≠ idlePid → ∃ parent ∈ scheduler.processes,
      info.parent = some parent.pid ∧ parent.pid < info.pid) :
    ∀ info ∈ scheduler.processes, scheduler.Descends info.pid := by
  -- The induction is on the pid, which is smaller for the parent.
  intro info listed
  induction reached : info.pid using Nat.strong_induction_on generalizing info with
  | _ pid ih =>
      subst reached
      by_cases idle : info.pid = idlePid
      · exact ⟨[], List.isChain_singleton _, by rw [idle]; rfl⟩
      · obtain ⟨parent, parentListed, link, smaller⟩ := child info listed idle
        obtain ⟨ancestors, chain, last⟩ := ih parent.pid smaller parent parentListed rfl
        have found := (wellFormed.lookup_iff info.pid info).mpr ⟨listed, rfl⟩
        have parentOf : scheduler.parentOf info.pid = some parent.pid := by
          rw [Scheduler.parentOf, found, Option.bind_some, link]
        exact ⟨parent.pid :: ancestors, chain.cons_cons ⟨parentOf, smaller⟩,
          (List.getLast?_cons_cons ..).trans last⟩

end Scheduler

theorem ProcessTable.kin_clear (table : ProcessTable) (slot other : Nat) :
    (table.clear slot).kin? other = if other = slot then none else table.kin? other := by
  unfold kin?
  rw [get?_clear]
  split <;> rfl

def Step.parentage : Step → Option (Pid × Pid)
  | ⟨runner, _, .created pid⟩ => some (pid, runner)
  | _ => none

def Step.departed (step : Step) : Option Pid := step.exit.map Prod.fst

def Lineage.record (lineage : Lineage) (runner : Pid) (call : Call) : Except Failure Answer → Lineage
  | .error _ => lineage
  | .ok answer =>
      { parentage := (Step.parentage ⟨runner, call, answer⟩).toList ++ lineage.parentage
        exited := (Step.departed ⟨runner, call, answer⟩).toList ++ lineage.exited }

theorem Lineage.record_other (lineage : Lineage) (runner : Pid) {call : Call}
    {result : Except Failure Answer} (barren : ∀ pid, result ≠ .ok (.created pid))
    (undispatched : call.Switches → ∃ failure, result = .error failure) :
    lineage.record runner call result = lineage := by
  cases result with
  | error failure => rfl
  | ok answer =>
      cases call with
      | switch =>
          obtain ⟨failure, failed⟩ := undispatched trivial
          cases failed
      | _ =>
          cases answer
          case created pid => exact absurd rfl (barren pid)
          all_goals rfl

namespace System

variable {start before : System} {after : Scheduler} {call : Call} {earlier : List Call}
  {result : Except Failure Answer}

def lineage (start : System) (calls : List Call) : Lineage :=
  { parentage := (start.steps calls).filterMap Step.parentage
    exited := (start.steps calls).filterMap Step.departed }

theorem lineage_cons (start : System) (call : Call) (earlier : List Call) :
    start.lineage (call :: earlier) = (start.lineage earlier).record
      (start.after earlier).scheduler.currentPid call ((start.after earlier).perform call).result := by
  cases found : ((start.after earlier).perform call).result with
  | error failure => rw [lineage, steps_error found, lineage, Lineage.record]
  | ok answer =>
      simp only [lineage, Lineage.record, steps_ok found, List.filterMap_cons]
      congr 1 <;> split <;> simp [*]

theorem Effect.grows (effect : before.Effect call result after)
    (wellFormed : before.scheduler.WellFormed) (lineage : Lineage) :
    lineage.Grows before.scheduler.table (lineage.record before.scheduler.currentPid call result)
      after.table := by
  obtain ⟨current, runner, coherent, running⟩ := wellFormed
  have runs : before.scheduler.table.kin? current = some runner.kin :=
    ProcessTable.kin_of_get? coherent.occupied.holds
  have lives : runner.kin.exited = false := by simp [ControlBlock.kin, running]
  cases effect with
  | quiet alike undispatched barren =>
      rw [lineage.record_other _ barren undispatched]
      exact .quiet alike.kin (by rw [alike.table])
  | @born call entry kind name slot process _ _ creates created =>
      have vacant := (ProcessTable.freeSlot?_some created.vacant).2.1
      have link : before.scheduler.runningLink = some ⟨current, runner.pid⟩ := by
        simp [Scheduler.runningLink, Scheduler.currentProcess?, coherent.occupied.current,
          coherent.occupied.holds]
      have recorded : lineage.record before.scheduler.currentPid call (.ok (.created process.pid)) =
          { lineage with parentage :=
              (before.scheduler.table.nextPid, runner.pid) :: lineage.parentage } := by
        rw [created.pid, coherent.currentPid_eq]
        cases call <;> cases creates <;> rfl
      rw [recorded]
      exact @Lineage.Grows.born lineage _ _ slot ⟨current, runner.pid⟩ runner.kin
        (by rw [ProcessTable.kin?, vacant, Option.map_none]) runs rfl lives
        (fun other => by rw [created.kin, link]) (by rw [created.table])
  | cleared exited barren =>
      rw [lineage.record_other _ barren False.elim]
      exact .cleared (ProcessTable.kin_of_get? exited.holds)
        (by simp [ControlBlock.kin, exited.zombie]) (ProcessTable.kin_clear _ _) rfl
  | @switched request saved now registers after switched =>
      have nextPid : after.table.nextPid = before.scheduler.table.nextPid := by rw [switched.table]
      cases request with
      | exit code =>
          obtain ⟨slot, process, held, pid, state, mortal, entries⟩ := switched.kin_exits
          rw [pid]
          exact @Lineage.Grows.exited lineage _ _ ⟨slot, process.pid⟩ process.kin
            (ProcessTable.kin_of_get? held) rfl (by simp [ControlBlock.kin, state]) mortal entries
            nextPid
      | _ => exact .quiet (switched.kin_stays (by simp [Request.departure])) nextPid

theorem after_lineage_grows (wellFormed : start.scheduler.WellFormed)
    (counted : start.Counted Call.Switches (call :: earlier)) :
    (start.lineage earlier).Grows (start.after earlier).scheduler.table
      (start.lineage (call :: earlier)) (start.after (call :: earlier)).scheduler.table := by
  rw [lineage_cons]
  exact (after_effect wellFormed counted).grows (after_wellFormed wellFormed earlier counted.1) _

theorem after_traced (wellFormed : start.scheduler.WellFormed)
    (initially : Lineage.Traced ⟨[], []⟩ start.scheduler.table) {calls : List Call}
    (counted : start.Counted Call.Switches calls) :
    (start.lineage calls).Traced (start.after calls).scheduler.table := by
  induction calls with
  | nil => exact initially
  | cons call earlier ih =>
      obtain ⟨_, _, coherent, -⟩ := after_wellFormed wellFormed earlier counted.1
      exact (ih counted.1).grows coherent.numbered (after_lineage_grows wellFormed counted)

structure Family (start : System) (calls : List Call) : Prop where
  root : ∀ slot process, (start.after calls).scheduler.table.get? slot = some process →
    process.pid = idlePid → process.parent = none
  child : ∀ info ∈ (start.after calls).scheduler.processes, info.pid ≠ idlePid →
    ∃ parent ∈ (start.after calls).scheduler.processes, info.parent = some parent.pid ∧
      parent.state ≠ .zombie ∧ parent.pid < info.pid
  descends : ∀ info ∈ (start.after calls).scheduler.processes,
    (start.after calls).scheduler.Descends info.pid
  raised : ∀ info ∈ (start.after calls).scheduler.processes, info.pid ≠ idlePid → ∃ creator,
    (∀ other, (info.pid, other) ∈ (start.lineage calls).parentage ↔ other = creator) ∧
    info.parent = some ((start.lineage calls).guardian creator)

theorem traced_parent {scheduler : Scheduler} {lineage : Lineage}
    (traced : lineage.Traced scheduler.table) {info : Snapshot} (listed : info ∈ scheduler.processes)
    (mortal : info.pid ≠ idlePid) :
    ∃ parent ∈ scheduler.processes, info.parent = some parent.pid ∧ parent.state ≠ .zombie ∧
      parent.pid < info.pid ∧ ∃ creator, (info.pid, creator) ∈ lineage.parentage ∧
        parent.pid = lineage.guardian creator := by
  obtain ⟨slot, process, held, rfl⟩ := Scheduler.mem_processes.mp listed
  obtain ⟨creator, home, _, member, smaller, link, entry, pid, lives⟩ :=
    traced.raised slot process.kin (ProcessTable.kin_of_get? held) mortal
  obtain ⟨parent, parentHeld, rfl⟩ := Option.map_eq_some_iff.mp entry
  change parent.pid = _ at pid
  have linked : process.parent = some ⟨home, parent.pid⟩ := by
    rw [pid]
    exact link
  refine ⟨_, Scheduler.mem_processes.mpr ⟨home, parent, parentHeld, rfl⟩, ?_, ?_, ?_, creator,
    member, pid⟩
  · exact (congrArg _ linked).trans (ProcessTable.resolveParent_of_get? parentHeld)
  · exact of_decide_eq_false lives
  · refine Nat.lt_of_le_of_lt (Nat.le_of_eq pid) ?_
    unfold Lineage.guardian
    split
    · exact Nat.pos_of_ne_zero mortal
    · exact smaller

theorem family (wellFormed : start.scheduler.WellFormed)
    (initially : Lineage.Traced ⟨[], []⟩ start.scheduler.table) {calls : List Call}
    (counted : start.Counted Call.Switches calls) : start.Family calls := by
  have shape := after_wellFormed wellFormed calls counted
  obtain ⟨current, runner, coherent, -⟩ := id shape
  have traced := after_traced wellFormed initially counted
  constructor
  · intro slot process held pid
    obtain ⟨_, entry, idlePid_eq, orphan, -⟩ := traced.idle
    obtain ⟨idle, idleHeld, rfl⟩ := Option.map_eq_some_iff.mp entry
    obtain rfl := coherent.numbered.distinct slot 0 process idle held idleHeld
      (pid.trans idlePid_eq.symm)
    obtain rfl := Option.some.inj (held.symm.trans idleHeld)
    exact orphan
  · intro info listed mortal
    obtain ⟨parent, parentListed, link, lives, smaller, -⟩ := traced_parent traced listed mortal
    exact ⟨parent, parentListed, link, lives, smaller⟩
  · refine shape.descends fun info listed mortal => ?_
    obtain ⟨parent, parentListed, link, -, smaller, -⟩ := traced_parent traced listed mortal
    exact ⟨parent, parentListed, link, smaller⟩
  · intro info listed mortal
    obtain ⟨parent, -, link, -, -, creator, member, pid⟩ := traced_parent traced listed mortal
    refine ⟨creator, fun other => ⟨fun recorded => ?_, ?_⟩, link.trans (congrArg some pid)⟩
    · exact congrArg Prod.snd (List.inj_on_of_nodup_map traced.once recorded member rfl)
    · rintro rfl
      exact member

/-- The processes are a tree under the idle one at any time of a run that lost no switch. Every other
process has the one that created it as its parent, or the idle one once that has exited, and only
that exit changes its link. -/
theorem after_family {config : Config} {scheduler : Scheduler}
    (started : (Scheduler.start config).result = .ok scheduler) (memory : PageAllocator) :
    let start : System := ⟨scheduler, memory⟩
    (∀ calls, start.Counted Call.Switches calls → start.Family calls) ∧
    ∀ call earlier, start.Counted Call.Switches (call :: earlier) → ∀ slot process later,
      (start.after earlier).scheduler.table.get? slot = some process →
      (start.after (call :: earlier)).scheduler.table.get? slot = some later →
      later.parent = process.parent ∨ ∃ gone, process.parent = some gone ∧
        (start.lineage (call :: earlier)).exited = gone.pid :: (start.lineage earlier).exited ∧
        later.parent = some idleLink := by
  obtain ⟨valid, rfl⟩ := (Scheduler.start_ensures config).of_ok started
  obtain ⟨capacity, -⟩ := Scheduler.validate_ok valid
  have initially : (Scheduler.initial config).WellFormed := Scheduler.wellFormed_initial valid
  refine ⟨fun calls counted => family initially (Lineage.traced_initial capacity) counted, ?_⟩
  intro call earlier counted slot process later held laterHeld
  exact (after_lineage_grows initially counted).link (ProcessTable.kin_of_get? held)
    (ProcessTable.kin_of_get? laterHeld)

theorem after_family_orphan :
    let start : System := ⟨.initial {}, .unstarted⟩
    let calls : List Call := [.spawn ⟨4096, by decide⟩, .reap 1, .switch (.exit 7) {} 2,
      .spawn ⟨4096, by decide⟩, .switch .dispatch {} 1, .spawn ⟨4096, by decide⟩,
      .page (.start 65536 ⟨4096, by decide⟩)]
    start.Family calls ∧ start.lineage calls = ⟨[(3, 0), (2, 1), (1, 0)], [1]⟩ := by
  intro start calls
  have started : (Scheduler.start {}).result = .ok (.initial {}) := rfl
  have counted : start.Counted Call.Switches calls := by
    refine ⟨⟨⟨⟨⟨⟨⟨trivial, ?_⟩, ?_⟩, ?_⟩, ?_⟩, ?_⟩, ?_⟩, ?_⟩ <;> intro _
    all_goals decide +kernel
  refine ⟨(after_family started .unstarted).1 calls counted, ?_⟩
  decide +kernel

end System

end MiniKernel
