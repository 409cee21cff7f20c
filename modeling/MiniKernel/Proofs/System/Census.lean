import MiniKernel.Proofs.Schedule.Standing
import MiniKernel.Proofs.System.Fence
import MiniKernel.Proofs.System.History

/-! The history of the processes. A run leaves annals of those it created, of those that exited and of
those it reaped, and at any time the table shows exactly what the annals tell. -/

namespace MiniKernel

structure Annals where
  births : List (Pid × String)
  exits : List (Pid × Int)
  burials : List (Pid × Snapshot)
  deriving DecidableEq

namespace Annals

def everyone (annals : Annals) : List (Pid × String) := annals.births ++ [(idlePid, "idle")]

def buried (annals : Annals) : List Pid := annals.burials.map Prod.fst

def exited (annals : Annals) : List Pid := annals.exits.map Prod.fst

def record (annals : Annals) (step : Step) : Annals :=
  { births := step.birth.toList ++ annals.births
    exits := step.exit.toList ++ annals.exits
    burials := step.burial.toList ++ annals.burials }

inductive Grows (annals : Annals) (table : ProcessTable) : Annals → ProcessTable → Prop
  | quiet {next} (entries : ∀ slot, next.standing? slot = table.standing? slot)
      (nextPid : next.nextPid = table.nextPid) : Grows annals table annals next
  | born {next slot name} (vacant : table.standing? slot = none)
      (entries : ∀ other, next.standing? other =
        if other = slot then some ⟨table.nextPid, name, false, none⟩ else table.standing? other)
      (nextPid : next.nextPid = table.nextPid + 1) :
      Grows annals table { annals with births := (table.nextPid, name) :: annals.births } next
  | exited {next slot standing code} (holds : table.standing? slot = some standing)
      (lives : standing.exited = false)
      (alone : ∀ other rival, table.standing? other = some rival → rival.pid = standing.pid →
        other = slot)
      (entries : ∀ other, next.standing? other =
        if other = slot then some ⟨standing.pid, standing.name, true, some code⟩
        else table.standing? other)
      (nextPid : next.nextPid = table.nextPid) :
      Grows annals table { annals with exits := (standing.pid, code) :: annals.exits } next
  | buried {next slot standing info} (holds : table.standing? slot = some standing)
      (exited : standing.exited = true) (mortal : standing.pid ≠ idlePid)
      (alone : ∀ other rival, table.standing? other = some rival → rival.pid = standing.pid →
        other = slot)
      (last : info.pid = standing.pid ∧ info.name = standing.name ∧ info.state = .dead ∧
        info.exitCode = standing.exitCode)
      (entries : ∀ other, next.standing? other =
        if other = slot then none else table.standing? other)
      (nextPid : next.nextPid = table.nextPid) :
      Grows annals table { annals with burials := (standing.pid, info) :: annals.burials } next

structure Accurate (annals : Annals) (table : ProcessTable) : Prop where
  numbered : annals.everyone.map Prod.fst = (List.range table.nextPid).reverse
  entered : ∀ slot standing, table.standing? slot = some standing →
    (standing.pid, standing.name) ∈ annals.everyone ∧ standing.pid ∉ annals.buried
  remains : ∀ pid < table.nextPid, pid ∉ annals.buried →
    ∃ slot standing, table.standing? slot = some standing ∧ standing.pid = pid
  lives : ∀ slot standing, table.standing? slot = some standing → standing.exited = false →
    standing.exitCode = none ∧ standing.pid ∉ annals.exited
  ended : ∀ slot standing, table.standing? slot = some standing → standing.exited = true →
    ∃ code, standing.exitCode = some code ∧ (standing.pid, code) ∈ annals.exits
  known : ∀ pid ∈ annals.exited, pid < table.nextPid
  exitsOnce : annals.exited.Nodup
  burialsOnce : annals.buried.Nodup
  last : ∀ pid info, (pid, info) ∈ annals.burials → (pid, info.name) ∈ annals.births ∧
    info.pid = pid ∧ info.state = .dead ∧
    ∃ code, info.exitCode = some code ∧ (pid, code) ∈ annals.exits

variable {annals grown : Annals} {table next : ProcessTable} {slot : Nat} {standing : Standing}

theorem Accurate.below (accurate : annals.Accurate table) {entry : Pid × String}
    (member : entry ∈ annals.everyone) : entry.1 < table.nextPid := by
  have listed := List.mem_map_of_mem (f := Prod.fst) member
  rw [accurate.numbered, List.mem_reverse, List.mem_range] at listed
  exact listed

theorem Accurate.buried_below (accurate : annals.Accurate table) {pid : Pid}
    (buried : pid ∈ annals.buried) : pid < table.nextPid := by
  obtain ⟨⟨_, info⟩, member, rfl⟩ := List.mem_map.mp buried
  exact accurate.below (List.mem_append_left _ (accurate.last _ info member).1)

theorem Accurate.rising (accurate : annals.Accurate table) :
    annals.everyone.Pairwise fun newer older => older.1 < newer.1 := by
  have rising : (annals.everyone.map Prod.fst).Pairwise fun newer older => older < newer := by
    rw [accurate.numbered, List.pairwise_reverse]
    exact List.pairwise_lt_range
  exact List.pairwise_map.mp rising

theorem Accurate.live_iff (accurate : annals.Accurate table) (pid : Pid) :
    (∃ slot standing, table.standing? slot = some standing ∧ standing.pid = pid) ↔
      pid ∈ annals.everyone.map Prod.fst ∧ pid ∉ annals.buried := by
  constructor
  · rintro ⟨slot, standing, held, rfl⟩
    obtain ⟨member, unburied⟩ := accurate.entered slot standing held
    exact ⟨List.mem_map_of_mem member, unburied⟩
  · rintro ⟨member, unburied⟩
    obtain ⟨entry, listed, rfl⟩ := List.mem_map.mp member
    exact accurate.remains entry.1 (accurate.below listed) unburied

theorem Accurate.exitCode_iff (accurate : annals.Accurate table)
    (held : table.standing? slot = some standing) (code : Int) :
    standing.exitCode = some code ↔
      standing.exited = true ∧ (standing.pid, code) ∈ annals.exits := by
  cases exited : standing.exited with
  | false => simp [(accurate.lives slot standing held exited).1]
  | true =>
      obtain ⟨last, left, recorded⟩ := accurate.ended slot standing held exited
      rw [left, Option.some.injEq]
      constructor
      · rintro rfl
        exact ⟨rfl, recorded⟩
      · rintro ⟨-, member⟩
        exact congrArg Prod.snd (List.inj_on_of_nodup_map accurate.exitsOnce recorded member rfl)

theorem Accurate.quiet (accurate : annals.Accurate table)
    (entries : ∀ slot, next.standing? slot = table.standing? slot)
    (nextPid : next.nextPid = table.nextPid) : annals.Accurate next := by
  constructor
  · rw [nextPid]
    exact accurate.numbered
  · intro slot standing held
    exact accurate.entered slot standing (entries slot ▸ held)
  · intro pid below unburied
    obtain ⟨slot, standing, held, same⟩ := accurate.remains pid (nextPid ▸ below) unburied
    exact ⟨slot, standing, (entries slot).trans held, same⟩
  · intro slot standing held
    exact accurate.lives slot standing (entries slot ▸ held)
  · intro slot standing held
    exact accurate.ended slot standing (entries slot ▸ held)
  · rw [nextPid]
    exact accurate.known
  · exact accurate.exitsOnce
  · exact accurate.burialsOnce
  · exact accurate.last

theorem Accurate.born (accurate : annals.Accurate table) {name : String}
    (vacant : table.standing? slot = none)
    (entries : ∀ other, next.standing? other =
      if other = slot then some ⟨table.nextPid, name, false, none⟩ else table.standing? other)
    (nextPid : next.nextPid = table.nextPid + 1) :
    Accurate { annals with births := (table.nextPid, name) :: annals.births } next := by
  have cases : ∀ other standing, next.standing? other = some standing →
      standing = ⟨table.nextPid, name, false, none⟩ ∨ table.standing? other = some standing := by
    intro other standing held
    rw [entries] at held
    split at held
    · exact Or.inl (Option.some.inj held).symm
    · exact Or.inr held
  constructor
  · rw [nextPid, List.range_succ, List.reverse_append, List.reverse_singleton,
      List.singleton_append, ← accurate.numbered]
    rfl
  · intro other standing held
    rcases cases other standing held with rfl | older
    · -- The pid is new to the annals, since all they know are below the next one.
      exact ⟨List.mem_cons_self, fun buried => Nat.lt_irrefl _ (accurate.buried_below buried)⟩
    · obtain ⟨member, unburied⟩ := accurate.entered other standing older
      exact ⟨List.mem_cons_of_mem _ member, unburied⟩
  · intro pid below unburied
    rcases Nat.lt_succ_iff_lt_or_eq.mp (nextPid ▸ below) with older | rfl
    · obtain ⟨other, standing, held, same⟩ := accurate.remains pid older unburied
      refine ⟨other, standing, ?_, same⟩
      rw [entries, if_neg, held]
      rintro rfl
      rw [vacant] at held
      cases held
    · exact ⟨slot, _, by rw [entries, if_pos rfl], rfl⟩
  · intro other standing held lives
    rcases cases other standing held with rfl | older
    · exact ⟨rfl, fun exited => Nat.lt_irrefl _ (accurate.known _ exited)⟩
    · exact accurate.lives other standing older lives
  · intro other standing held exited
    rcases cases other standing held with rfl | older
    · cases exited
    · exact accurate.ended other standing older exited
  · intro pid exited
    rw [nextPid]
    exact Nat.lt_succ_of_lt (accurate.known pid exited)
  · exact accurate.exitsOnce
  · exact accurate.burialsOnce
  · intro pid info member
    obtain ⟨born, rest⟩ := accurate.last pid info member
    exact ⟨List.mem_cons_of_mem _ born, rest⟩

theorem Accurate.exited (accurate : annals.Accurate table) {code : Int}
    (holds : table.standing? slot = some standing) (lives : standing.exited = false)
    (alone : ∀ other rival, table.standing? other = some rival → rival.pid = standing.pid →
      other = slot)
    (entries : ∀ other, next.standing? other =
      if other = slot then some ⟨standing.pid, standing.name, true, some code⟩
      else table.standing? other)
    (nextPid : next.nextPid = table.nextPid) :
    Accurate { annals with exits := (standing.pid, code) :: annals.exits } next := by
  have entered := accurate.entered slot standing holds
  have cases : ∀ other rival, next.standing? other = some rival →
      rival = ⟨standing.pid, standing.name, true, some code⟩ ∨
        table.standing? other = some rival ∧ rival.pid ≠ standing.pid := by
    intro other rival held
    rw [entries] at held
    split at held
    · exact Or.inl (Option.some.inj held).symm
    · rename_i away
      exact Or.inr ⟨held, fun same => away (alone other rival held same)⟩
  constructor
  · rw [nextPid]
    exact accurate.numbered
  · intro other rival held
    rcases cases other rival held with rfl | ⟨older, -⟩
    · exact entered
    · exact accurate.entered other rival older
  · intro pid below unburied
    obtain ⟨other, rival, held, rfl⟩ := accurate.remains pid (nextPid ▸ below) unburied
    by_cases own : other = slot
    · obtain rfl := Option.some.inj (holds.symm.trans (own ▸ held))
      exact ⟨slot, ⟨standing.pid, standing.name, true, some code⟩, by rw [entries, if_pos rfl], rfl⟩
    · exact ⟨other, rival, by rw [entries, if_neg own, held], rfl⟩
  · intro other rival held rivalLives
    rcases cases other rival held with rfl | ⟨older, different⟩
    · cases rivalLives
    · obtain ⟨noCode, stays⟩ := accurate.lives other rival older rivalLives
      exact ⟨noCode, fun exited => (List.mem_cons.mp exited).elim different stays⟩
  · intro other rival held exited
    rcases cases other rival held with rfl | ⟨older, -⟩
    · exact ⟨code, rfl, List.mem_cons_self⟩
    · obtain ⟨rivalCode, same, member⟩ := accurate.ended other rival older exited
      exact ⟨rivalCode, same, List.mem_cons_of_mem _ member⟩
  · intro pid exited
    rw [nextPid]
    rcases List.mem_cons.mp exited with rfl | older
    · exact accurate.below entered.1
    · exact accurate.known pid older
  · -- Whoever has not exited yet is not among those who have.
    exact List.nodup_cons.mpr ⟨(accurate.lives slot standing holds lives).2, accurate.exitsOnce⟩
  · exact accurate.burialsOnce
  · intro pid info member
    obtain ⟨born, same, dead, lastCode, left, exited⟩ := accurate.last pid info member
    exact ⟨born, same, dead, lastCode, left, List.mem_cons_of_mem _ exited⟩

theorem Accurate.buried (accurate : annals.Accurate table) {info : Snapshot}
    (holds : table.standing? slot = some standing) (exited : standing.exited = true)
    (mortal : standing.pid ≠ idlePid)
    (alone : ∀ other rival, table.standing? other = some rival → rival.pid = standing.pid →
      other = slot)
    (last : info.pid = standing.pid ∧ info.name = standing.name ∧ info.state = .dead ∧
      info.exitCode = standing.exitCode)
    (entries : ∀ other, next.standing? other = if other = slot then none else table.standing? other)
    (nextPid : next.nextPid = table.nextPid) :
    Accurate { annals with burials := (standing.pid, info) :: annals.burials } next := by
  obtain ⟨member, unburied⟩ := accurate.entered slot standing holds
  have older : ∀ other rival, next.standing? other = some rival →
      table.standing? other = some rival ∧ other ≠ slot := by
    intro other rival held
    rw [entries] at held
    split at held
    · cases held
    · exact ⟨held, ‹_›⟩
  constructor
  · rw [nextPid]
    exact accurate.numbered
  · intro other rival held
    obtain ⟨before, away⟩ := older other rival held
    obtain ⟨rivalMember, rivalUnburied⟩ := accurate.entered other rival before
    refine ⟨rivalMember, fun buried => ?_⟩
    exact (List.mem_cons.mp buried).elim (fun same => away (alone other rival before same))
      rivalUnburied
  · intro pid below rest
    have unburied : pid ∉ annals.buried := fun buried => rest (List.mem_cons_of_mem _ buried)
    obtain ⟨other, rival, held, rfl⟩ := accurate.remains pid (nextPid ▸ below) unburied
    refine ⟨other, rival, ?_, rfl⟩
    rw [entries, if_neg, held]
    rintro rfl
    obtain rfl := Option.some.inj (held.symm.trans holds)
    exact rest List.mem_cons_self
  · intro other rival held
    exact accurate.lives other rival (older other rival held).1
  · intro other rival held
    exact accurate.ended other rival (older other rival held).1
  · rw [nextPid]
    exact accurate.known
  · exact accurate.exitsOnce
  · exact List.nodup_cons.mpr ⟨unburied, accurate.burialsOnce⟩
  · intro pid lastInfo recorded
    rcases List.mem_cons.mp recorded with latest | before
    · obtain ⟨rfl, rfl⟩ := Prod.mk.inj latest
      obtain ⟨samePid, sameName, dead, sameCode⟩ := last
      obtain ⟨code, left, recorded⟩ := accurate.ended slot standing holds exited
      refine ⟨?_, samePid, dead, code, sameCode.trans left, recorded⟩
      rcases List.mem_append.mp member with born | idle
      · exact sameName ▸ born
      · exact absurd (Prod.mk.inj (List.mem_singleton.mp idle)).1 mortal
    · exact accurate.last pid lastInfo before

theorem Accurate.grows (accurate : annals.Accurate table) (grows : annals.Grows table grown next) :
    grown.Accurate next := by
  cases grows with
  | quiet entries nextPid => exact accurate.quiet entries nextPid
  | born vacant entries nextPid => exact accurate.born vacant entries nextPid
  | exited holds lives alone entries nextPid => exact accurate.exited holds lives alone entries nextPid
  | buried holds exited mortal alone last entries nextPid =>
      exact accurate.buried holds exited mortal alone last entries nextPid

theorem Grows.lasts (grows : annals.Grows table grown next)
    (held : table.standing? slot = some standing) (unburied : standing.pid ∉ grown.buried) :
    ∃ later, next.standing? slot = some later ∧ later.pid = standing.pid ∧
      later.name = standing.name := by
  cases grows with
  | quiet entries => exact ⟨standing, (entries slot).trans held, rfl, rfl⟩
  | @born next fresh name vacant entries =>
      refine ⟨standing, ?_, rfl, rfl⟩
      rw [entries, if_neg, held]
      rintro rfl
      rw [vacant] at held
      cases held
  | @exited next left other code holds lives alone entries =>
      by_cases own : slot = left
      · subst left
        obtain rfl := Option.some.inj (held.symm.trans holds)
        exact ⟨⟨standing.pid, standing.name, true, some code⟩, by rw [entries, if_pos rfl], rfl, rfl⟩
      · exact ⟨standing, by rw [entries, if_neg own, held], rfl, rfl⟩
  | @buried next left other info holds exited mortal alone last entries =>
      refine ⟨standing, ?_, rfl, rfl⟩
      rw [entries, if_neg, held]
      rintro rfl
      obtain rfl := Option.some.inj (held.symm.trans holds)
      exact unburied List.mem_cons_self

theorem Grows.buried_subset (grows : annals.Grows table grown next) :
    annals.buried ⊆ grown.buried := by
  cases grows with
  | buried => exact List.subset_cons_self _ _
  | _ => exact List.Subset.refl _

theorem accurate_initial {config : Config} (capacity : config.capacity ≠ 0) :
    Accurate ⟨[], [], []⟩ (Scheduler.initial config).table := by
  have entries : ∀ slot standing, (Scheduler.initial config).table.standing? slot = some standing →
      standing = ControlBlock.idle.standing := by
    intro slot standing held
    obtain ⟨process, processHeld, rfl⟩ := Option.map_eq_some_iff.mp held
    rw [((Scheduler.get?_initial capacity).mp processHeld).2]
  have idle : (Scheduler.initial config).table.standing? 0 = some ControlBlock.idle.standing :=
    ProcessTable.standing_of_get? ((Scheduler.get?_initial capacity).mpr ⟨rfl, rfl⟩)
  constructor
  · rfl
  · intro slot standing held
    obtain rfl := entries slot standing held
    exact ⟨List.mem_singleton_self _, List.not_mem_nil⟩
  · intro pid below _
    exact ⟨0, _, idle, (Nat.lt_one_iff.mp below).symm⟩
  · intro slot standing held _
    obtain rfl := entries slot standing held
    exact ⟨rfl, List.not_mem_nil⟩
  · intro slot standing held exited
    obtain rfl := entries slot standing held
    cases exited
  · exact fun _ exited => absurd exited List.not_mem_nil
  · exact List.nodup_nil
  · exact List.nodup_nil
  · exact fun _ _ buried => absurd buried List.not_mem_nil

end Annals

namespace System

variable {start before after : System} {call : Call} {earlier : List Call}

def annals (start : System) (calls : List Call) : Annals :=
  { births := (start.steps calls).filterMap Step.birth
    exits := (start.steps calls).filterMap Step.exit
    burials := (start.steps calls).filterMap Step.burial }

theorem annals_ok {answer : Answer}
    (returned : ((start.after earlier).perform call).result = .ok answer) :
    start.annals (call :: earlier) = (start.annals earlier).record
      ⟨(start.after earlier).scheduler.currentPid, call, answer⟩ := by
  simp only [annals, Annals.record, steps_ok returned, List.filterMap_cons]
  congr 1 <;> split <;> simp [*]

theorem annals_error {failure : Failure}
    (failed : ((start.after earlier).perform call).result = .error failure) :
    start.annals (call :: earlier) = start.annals earlier := by
  rw [annals, steps_error failed, annals]

theorem Performed.grows {answer : Answer} (performed : before.Performed call answer after)
    (wellFormed : before.scheduler.WellFormed) (annals : Annals) :
    annals.Grows before.scheduler.table
      (annals.record ⟨before.scheduler.currentPid, call, answer⟩) after.scheduler.table := by
  obtain ⟨current, runner, coherent, running⟩ := wellFormed
  have alone : ∀ {slot process}, before.scheduler.table.get? slot = some process →
      ∀ other rival, before.scheduler.table.standing? other = some rival →
        rival.pid = process.standing.pid → other = slot := by
    intro slot process held other _ entry same
    obtain ⟨rival, rivalHeld, rfl⟩ := Option.map_eq_some_iff.mp entry
    exact coherent.numbered.distinct other slot rival process rivalHeld held same
  cases performed with
  | @created call entry kind name slot process _ creates created =>
      have vacant := (ProcessTable.freeSlot?_some created.vacant).2.1
      have recorded : annals.record ⟨before.scheduler.currentPid, call, .created process.pid⟩ =
          { annals with births := (before.scheduler.table.nextPid, name) :: annals.births } := by
        rw [created.pid]
        cases call <;> cases creates <;> rfl
      rw [recorded]
      exact .born (by rw [ProcessTable.standing?, vacant, Option.map_none]) created.standing
        (by rw [created.table])
  | @switched request saved now registers scheduler switched =>
      have nextPid : scheduler.table.nextPid = before.scheduler.table.nextPid := by rw [switched.table]
      cases request with
      | exit code =>
          obtain ⟨slot, process, held, pid, state, entries⟩ := switched.standing_exits
          rw [pid]
          exact .exited (ProcessTable.standing_of_get? held)
            (by simp [ControlBlock.standing, state]) (alone held) entries nextPid
      | _ => exact .quiet (switched.standing_stays (by simp [Request.departure])) nextPid
  | @reaped pid slot process exited freed =>
      have named : pid = process.standing.pid := exited.named.symm
      subst named
      exact .buried (ProcessTable.standing_of_get? exited.holds)
        (by simp [ControlBlock.standing, exited.zombie])
        (coherent.pid_ne_idle exited.holds exited.zombie) (alone exited.holds) ⟨rfl, rfl, rfl, rfl⟩
        (ProcessTable.standing_clear _ slot) rfl
  | edited pid change =>
      obtain ⟨-, table, -⟩ := Scheduler.withFiles_frame before.scheduler pid
        fun files => ((), change files)
      exact .quiet (Scheduler.standing_withFiles before.scheduler pid _) (by rw [table])
  | page => exact .quiet (fun _ => rfl) rfl

theorem after_grows (wellFormed : start.scheduler.WellFormed) (safe : start.Safe)
    (counted : start.Counted Call.Switches (call :: earlier))
    (spares : start.SparesStacks (call :: earlier)) :
    (start.annals earlier).Grows (start.after earlier).scheduler.table
      (start.annals (call :: earlier)) (start.after (call :: earlier)).scheduler.table := by
  have shape := after_wellFormed wellFormed earlier counted.1
  rcases after_cases wellFormed counted with
    ⟨answer, returned, performed⟩ | ⟨failure, unreturned, untrapped, failed⟩
  · rw [annals_ok returned]
    exact performed.grows shape _
  · have reached := (after_safe safe wellFormed.clears spares.1).2
    rw [annals_error unreturned, failed.scheduler shape reached untrapped]
    exact .quiet (fun _ => rfl) rfl

theorem after_accurate (wellFormed : start.scheduler.WellFormed) (safe : start.Safe)
    (accurate : Annals.Accurate ⟨[], [], []⟩ start.scheduler.table) {calls : List Call}
    (counted : start.Counted Call.Switches calls) (spares : start.SparesStacks calls) :
    (start.annals calls).Accurate (start.after calls).scheduler.table := by
  induction calls with
  | nil => exact accurate
  | cons call earlier ih =>
      exact (ih counted.1 spares.1).grows (after_grows wellFormed safe counted spares)

theorem after_lasts (wellFormed : start.scheduler.WellFormed) (safe : start.Safe) {slot : Nat}
    {standing : Standing} {later : List Call}
    (counted : start.Counted Call.Switches (later ++ earlier))
    (spares : start.SparesStacks (later ++ earlier))
    (held : (start.after earlier).scheduler.table.standing? slot = some standing)
    (unburied : standing.pid ∉ (start.annals (later ++ earlier)).buried) :
    ∃ last, (start.after (later ++ earlier)).scheduler.table.standing? slot = some last ∧
      last.pid = standing.pid ∧ last.name = standing.name := by
  induction later with
  | nil => exact ⟨standing, held, rfl, rfl⟩
  | cons call later ih =>
      -- Nobody is taken off the annals, so whoever is not buried in the end was never buried.
      have grows := after_grows wellFormed safe counted spares
      obtain ⟨middle, middleHeld, pid, name⟩ := ih counted.1 spares.1 fun buried =>
        unburied (grows.buried_subset buried)
      obtain ⟨last, lastHeld, lastPid, lastName⟩ := grows.lasts middleHeld (pid ▸ unburied)
      exact ⟨last, lastHeld, lastPid.trans pid, lastName.trans name⟩

structure Census (start : System) (calls : List Call) : Prop where
  distinct : ((start.after calls).scheduler.processes.map Snapshot.pid).Nodup
  population : ∀ pid, pid ∈ (start.after calls).scheduler.processes.map Snapshot.pid ↔
    pid ∈ (start.annals calls).everyone.map Prod.fst ∧ pid ∉ (start.annals calls).buried
  rising : (start.annals calls).everyone.Pairwise fun newer older => older.1 < newer.1
  found : ∀ pid info, (start.after calls).scheduler.lookup pid = some info ↔
    info ∈ (start.after calls).scheduler.processes ∧ info.pid = pid
  listed : (start.after calls).scheduler.processes =
    (List.range (start.after calls).scheduler.table.capacity).filterMap
      (start.after calls).scheduler.table.snapshot?
  named : ∀ info ∈ (start.after calls).scheduler.processes,
    (info.pid, info.name) ∈ (start.annals calls).everyone
  codes : ∀ info ∈ (start.after calls).scheduler.processes, ∀ code,
    info.exitCode = some code ↔
      info.state = .zombie ∧ (info.pid, code) ∈ (start.annals calls).exits
  wakes : ∀ info ∈ (start.after calls).scheduler.processes,
    info.wakeTick.isSome ↔ info.state = .sleeping
  exitsOnce : (start.annals calls).exited.Nodup
  reapedOnce : (start.annals calls).buried.Nodup
  last : ∀ pid info, (pid, info) ∈ (start.annals calls).burials →
    info.pid = pid ∧ (pid, info.name) ∈ (start.annals calls).births ∧ info.state = .dead ∧
      ∃ code, info.exitCode = some code ∧ (pid, code) ∈ (start.annals calls).exits

theorem census (wellFormed : start.scheduler.WellFormed) (safe : start.Safe)
    (initially : Annals.Accurate ⟨[], [], []⟩ start.scheduler.table) {calls : List Call}
    (counted : start.Counted Call.Switches calls) (spares : start.SparesStacks calls) :
    start.Census calls := by
  have shape := after_wellFormed wellFormed calls counted
  have accurate := after_accurate wellFormed safe initially counted spares
  have listing : ∀ {info}, info ∈ (start.after calls).scheduler.processes → ∃ slot,
      (start.after calls).scheduler.table.standing? slot = some info.standing := by
    intro info listed
    obtain ⟨slot, process, held, rfl⟩ := Scheduler.mem_processes.mp listed
    exact ⟨slot, ProcessTable.standing_of_get? held⟩
  constructor
  · exact shape.nodup_pids
  · intro pid
    rw [← accurate.live_iff, List.mem_map]
    constructor
    · rintro ⟨info, listed, rfl⟩
      obtain ⟨slot, held⟩ := listing listed
      exact ⟨slot, _, held, rfl⟩
    · rintro ⟨slot, _, entry, rfl⟩
      obtain ⟨process, held, rfl⟩ := Option.map_eq_some_iff.mp entry
      exact ⟨_, Scheduler.mem_processes.mpr ⟨slot, process, held, rfl⟩, rfl⟩
  · exact accurate.rising
  · exact shape.lookup_iff
  · exact Scheduler.processes_eq_range _
  · intro info listed
    obtain ⟨slot, held⟩ := listing listed
    exact (accurate.entered slot _ held).1
  · intro info listed code
    obtain ⟨slot, held⟩ := listing listed
    exact (accurate.exitCode_iff held code).trans (and_congr_left' decide_eq_true_iff)
  · intro info listed
    obtain ⟨slot, process, -, rfl⟩ := Scheduler.mem_processes.mp listed
    unfold ProcessTable.snapshotOf
    by_cases asleep : process.state = .sleeping <;> simp [asleep]
  · exact accurate.exitsOnce
  · exact accurate.burialsOnce
  · intro pid info recorded
    obtain ⟨born, same, dead, rest⟩ := accurate.last pid info recorded
    exact ⟨same, born, dead, rest⟩

/-- No process is lost, duplicated or renamed in a run that lost no switch and freed no stack directly.
The table and the record of the run agree at any time, and until it is reaped every process stays in
its slot under its pid and name. -/
theorem after_census {config : Config} {scheduler : Scheduler}
    (started : (Scheduler.start config).result = .ok scheduler) :
    let start : System := ⟨scheduler, .unstarted⟩
    ∀ calls, start.Counted Call.Switches calls → start.SparesStacks calls →
      start.Census calls ∧
      ∀ later earlier, calls = later ++ earlier → ∀ slot process,
        (start.after earlier).scheduler.table.get? slot = some process →
        process.pid ∉ (start.annals calls).buried →
        ∃ last, (start.after calls).scheduler.table.get? slot = some last ∧
          last.pid = process.pid ∧ last.name = process.name := by
  obtain ⟨valid, rfl⟩ := (Scheduler.start_ensures config).of_ok started
  obtain ⟨capacity, -⟩ := Scheduler.validate_ok valid
  have initially : (Scheduler.initial config).WellFormed := Scheduler.wellFormed_initial valid
  have safe : System.Safe ⟨.initial config, .unstarted⟩ := Sheltered.initially capacity
  intro start calls counted spares
  refine ⟨census initially safe (Annals.accurate_initial capacity) counted spares, ?_⟩
  rintro later earlier rfl slot process held unburied
  obtain ⟨_, lastEntry, pid, name⟩ :=
    after_lasts initially safe counted spares (ProcessTable.standing_of_get? held) unburied
  obtain ⟨last, lastHeld, rfl⟩ := Option.map_eq_some_iff.mp lastEntry
  exact ⟨last, lastHeld, pid, name⟩

theorem after_census_reaped :
    let start : System := ⟨.initial {}, .unstarted⟩
    let calls : List Call := [.spawn ⟨4096, by decide⟩, .reap 1, .switch (.exit 7) {} 2,
      .switch .dispatch {} 1, .spawn ⟨4096, by decide⟩, .page (.start 65536 ⟨4096, by decide⟩)]
    start.Census calls ∧ start.annals calls = ⟨[(2, "kthread"), (1, "kthread")], [(1, 7)],
      [(1, ⟨1, "kthread", .dead, some 0, none, some 7⟩)]⟩ := by
  intro start calls
  have started : (Scheduler.start {}).result = .ok (.initial {}) := rfl
  have counted : start.Counted Call.Switches calls := by
    refine ⟨⟨⟨⟨⟨⟨trivial, ?_⟩, ?_⟩, ?_⟩, ?_⟩, ?_⟩, ?_⟩ <;> intro _
    all_goals decide +kernel
  have spares : start.SparesStacks calls := by decide +kernel
  refine ⟨(after_census started calls counted spares).1, ?_⟩
  decide +kernel

end System

end MiniKernel
