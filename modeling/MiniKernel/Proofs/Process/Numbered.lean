import MiniKernel.Proofs.Process.Table

/-! The pids of a table: no two processes share one, and the next one is still unused. -/

namespace MiniKernel.ProcessTable

structure Numbered (table : ProcessTable) : Prop where
  distinct : ∀ left right process rival, table.get? left = some process →
    table.get? right = some rival → process.pid = rival.pid → left = right
  below : ∀ slot process, table.get? slot = some process → process.pid < table.nextPid

variable {table next : ProcessTable} {slot : Nat} {process : ControlBlock}

theorem Numbered.congr (numbered : table.Numbered)
    (pids : ∀ slot, (next.get? slot).map ControlBlock.pid = (table.get? slot).map ControlBlock.pid)
    (nextPid : next.nextPid = table.nextPid) : next.Numbered := by
  have entry : ∀ {slot process}, next.get? slot = some process →
      ∃ before, table.get? slot = some before ∧ before.pid = process.pid := by
    intro slot process held
    have same := pids slot
    rw [held, Option.map_some] at same
    exact Option.map_eq_some_iff.mp same.symm
  constructor
  · intro left right process rival leftHeld rightHeld same
    obtain ⟨leftBefore, leftEntry, leftPid⟩ := entry leftHeld
    obtain ⟨rightBefore, rightEntry, rightPid⟩ := entry rightHeld
    exact numbered.distinct left right leftBefore rightBefore leftEntry rightEntry
      (leftPid.trans (same.trans rightPid.symm))
  · intro slot process held
    obtain ⟨before, beforeEntry, pid⟩ := entry held
    rw [nextPid, ← pid]
    exact numbered.below slot before beforeEntry

theorem Numbered.enter (numbered : table.Numbered) (pid : process.pid = table.nextPid)
    (entries : ∀ other, next.get? other = if other = slot then some process else table.get? other)
    (nextPid : next.nextPid = table.nextPid + 1) : next.Numbered := by
  have entry : ∀ {other after}, next.get? other = some after →
      other = slot ∧ after = process ∨
        table.get? other = some after ∧ after.pid < table.nextPid := by
    intro other after held
    rw [entries] at held
    split at held
    · exact Or.inl ⟨‹_›, (Option.some.inj held).symm⟩
    · exact Or.inr ⟨held, numbered.below other after held⟩
  constructor
  · intro left right leftProcess rightProcess leftHeld rightHeld same
    rcases entry leftHeld with ⟨rfl, rfl⟩ | ⟨leftEntry, leftBelow⟩ <;>
      rcases entry rightHeld with ⟨rfl, rfl⟩ | ⟨rightEntry, rightBelow⟩
    · rfl
    · exact absurd (pid.symm.trans same) (Nat.ne_of_gt rightBelow)
    · exact absurd (same.trans pid) (Nat.ne_of_lt leftBelow)
    · exact numbered.distinct left right leftProcess rightProcess leftEntry rightEntry same
  · intro other after held
    rw [nextPid]
    rcases entry held with ⟨-, rfl⟩ | ⟨-, below⟩
    · rw [pid]
      exact Nat.lt_succ_self _
    · exact Nat.lt_succ_of_lt below

theorem Numbered.clear (numbered : table.Numbered) (slot : Nat) : (table.clear slot).Numbered := by
  constructor
  · intro left right process rival leftHeld rightHeld
    exact numbered.distinct left right process rival (get?_clear_some.mp leftHeld).2
      (get?_clear_some.mp rightHeld).2
  · intro other process held
    exact numbered.below other process (get?_clear_some.mp held).2

theorem Numbered.lookup_unborn (numbered : table.Numbered) {pid : Pid} (unborn : table.nextPid ≤ pid) :
    table.lookup pid = none := by
  refine lookup_none_iff.mpr fun slot process held same => ?_
  exact Nat.lt_irrefl _ ((numbered.below slot process held).trans_le (same ▸ unborn))

theorem Numbered.lookup_clear (numbered : table.Numbered) (held : table.get? slot = some process) :
    (table.clear slot).lookup process.pid = none := by
  refine lookup_none_iff.mpr fun other rival rivalHeld same => ?_
  obtain ⟨away, older⟩ := get?_clear_some.mp rivalHeld
  exact away (numbered.distinct other slot rival process older held same)

theorem Numbered.lookup_iff (numbered : table.Numbered) (pid : Pid) :
    table.lookup pid = some slot ↔ ∃ process, table.get? slot = some process ∧ process.pid = pid := by
  constructor
  · exact fun found => (lookup_some found).1
  · rintro ⟨process, held, rfl⟩
    cases found : table.lookup process.pid with
    | none => exact absurd rfl (lookup_none_iff.mp found slot process held)
    | some other =>
        obtain ⟨⟨rival, rivalHeld, same⟩, -⟩ := lookup_some found
        rw [numbered.distinct slot other process rival held rivalHeld same.symm]

end MiniKernel.ProcessTable
