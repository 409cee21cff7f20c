import Mathlib.Data.List.Basic
import Mathlib.Data.List.Nodup
import MiniKernel.Process.Descriptors

/-! The descriptors of a process as a partial map to handles, and the list of those that are bound. -/

namespace MiniKernel.Descriptors

variable {files : Descriptors} {fd : Nat} {handle : Handle} {bound : List (Nat × Handle)}

theorem get?_empty (fd : Nat) : empty.get? fd = none := by
  simp only [get?, empty, List.getElem?_replicate]
  split <;> rfl

theorem get?_bind (files : Descriptors) (inside : fd < files.slots.length) (entry : Option Handle)
    (other : Nat) :
    get? ⟨files.slots.set fd entry⟩ other = if other = fd then entry else files.get? other := by
  by_cases same : other = fd
  · subst other
    simp [get?, List.getElem?_set_self inside]
  · simp [get?, List.getElem?_set_ne (Ne.symm same), same]

theorem install_cases (files : Descriptors) (handle : Handle) :
    files.install handle = (none, files) ∨
      ∃ fd, (files.install handle).1 = some fd ∧ files.get? fd = none ∧
        ∀ other, (files.install handle).2.get? other =
          if other = fd then some handle else files.get? other := by
  unfold install
  cases found : files.slots.findIdx? Option.isNone with
  | none => exact Or.inl rfl
  | some fd =>
      obtain ⟨inside, vacant, -⟩ := List.findIdx?_eq_some_iff_getElem.mp found
      refine Or.inr ⟨fd, rfl, ?_, get?_bind files inside (some handle)⟩
      simpa [get?, inside] using vacant

theorem get?_remove (files : Descriptors) (fd other : Nat) :
    (files.remove fd).2.get? other = if other = fd then none else files.get? other := by
  by_cases inside : fd < files.slots.length
  · exact get?_bind files inside none other
  · have outside := Nat.le_of_not_lt inside
    rw [remove, List.set_eq_of_length_le outside]
    split
    · rename_i same
      simp [same, get?, outside]
    · rfl

def entries (files : Descriptors) : List (Nat × Handle) :=
  (List.range files.slots.length).filterMap fun fd => (files.get? fd).map fun handle => (fd, handle)

theorem mem_entries : (fd, handle) ∈ files.entries ↔ files.get? fd = some handle := by
  simp only [entries, List.mem_filterMap, List.mem_range]
  constructor
  · rintro ⟨other, -, shown⟩
    obtain ⟨found, held, same⟩ := Option.map_eq_some_iff.mp shown
    cases same
    exact held
  · intro held
    refine ⟨fd, ?_, by rw [held, Option.map_some]⟩
    by_contra outside
    simp [get?, List.getElem?_eq_none (Nat.le_of_not_lt outside)] at held

theorem entries_increasing (files : Descriptors) :
    files.entries.Pairwise fun left right => left.1 < right.1 := by
  rw [entries, List.pairwise_filterMap]
  apply List.pairwise_lt_range.imp
  intro left right before leftEntry leftEq rightEntry rightEq
  obtain ⟨leftHandle, -, rfl⟩ := Option.map_eq_some_iff.mp leftEq
  obtain ⟨rightHandle, -, rfl⟩ := Option.map_eq_some_iff.mp rightEq
  exact before

theorem slots_eq (files : Descriptors) :
    files.slots = (List.range files.slots.length).map files.get? := by
  apply List.ext_getElem
  · simp
  · intro fd inside _
    simp [get?, inside]

theorem handles_eq_range (files : Descriptors) :
    files.handles = (List.range files.slots.length).filterMap files.get? := by
  rw [handles, slots_eq]
  simp [List.filterMap_map]

theorem handles_eq (files : Descriptors) : files.handles = files.entries.map Prod.snd := by
  rw [handles_eq_range, entries, List.map_filterMap]
  simp [Function.comp_def]

structure Lists (files : Descriptors) (bound : List (Nat × Handle)) : Prop where
  distinct : (bound.map Prod.fst).Nodup
  member : ∀ fd handle, (fd, handle) ∈ bound ↔ files.get? fd = some handle

theorem lists_empty : empty.Lists [] where
  distinct := List.nodup_nil
  member := fun fd handle => by simp [get?_empty]

theorem Lists.free (lists : files.Lists bound) (vacant : files.get? fd = none) :
    fd ∉ bound.map Prod.fst := by
  intro listed
  obtain ⟨⟨_, handle⟩, member, rfl⟩ := List.mem_map.mp listed
  rw [(lists.member _ handle).mp member] at vacant
  cases vacant

theorem Lists.install {next : Descriptors} (lists : files.Lists bound) (vacant : files.get? fd = none)
    (entries : ∀ other, next.get? other = if other = fd then some handle else files.get? other) :
    next.Lists ((fd, handle) :: bound) := by
  refine ⟨List.nodup_cons.mpr ⟨lists.free vacant, lists.distinct⟩, fun other found => ?_⟩
  rw [entries, List.mem_cons, lists.member]
  by_cases own : other = fd
  · simp [own, vacant, eq_comm]
  · simp [own]

theorem Lists.remove (lists : files.Lists bound) (fd : Nat) :
    (files.remove fd).2.Lists (bound.filter fun entry => entry.1 ≠ fd) := by
  refine ⟨lists.distinct.sublist (List.filter_sublist.map _), fun other found => ?_⟩
  rw [get?_remove, List.mem_filter, lists.member]
  by_cases own : other = fd <;> simp [own]

theorem Lists.handles (lists : files.Lists bound) : ∃ closing : List (Nat × Handle),
    closing.Perm bound ∧ (closing.Pairwise fun left right => left.1 < right.1) ∧
      files.handles = closing.map Prod.snd := by
  refine ⟨files.entries, ?_, entries_increasing files, handles_eq files⟩
  have distinct : files.entries.Nodup :=
    (entries_increasing files).imp fun before same => Nat.ne_of_lt before (congrArg Prod.fst same)
  refine (List.perm_ext_iff_of_nodup distinct (List.Nodup.of_map _ lists.distinct)).mpr ?_
  rintro ⟨fd, handle⟩
  rw [mem_entries, lists.member]

end MiniKernel.Descriptors
