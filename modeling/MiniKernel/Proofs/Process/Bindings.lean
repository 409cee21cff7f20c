import Mathlib.Data.Finset.Range
import Mathlib.Data.Finset.Card
import Mathlib.Order.Bounds.Defs
import MiniKernel.Proofs.Process.Descriptors

/-! Runs of the descriptors of a process. What a run leaves bound is read off its history: a descriptor
has the handle that was installed there last, unless it was freed since. A new handle gets the lowest
descriptor that has none. -/

namespace MiniKernel.Descriptors

inductive Action
  | install (handle : Handle)
  | remove (fd : Nat)
  | closeAll
  deriving DecidableEq, Repr

def after : List Action → Descriptors
  | [] => empty
  | .install handle :: earlier => ((after earlier).install handle).2
  | .remove fd :: earlier => ((after earlier).remove fd).2
  | .closeAll :: earlier => (after earlier).closeAll.2

/-- The handle that a run installed at a descriptor and has not removed or closed since. -/
def bound : List Action → Nat → Option Handle
  | [], _ => none
  | .install handle :: earlier, fd =>
      if ((after earlier).install handle).1 = some fd then some handle else bound earlier fd
  | .remove freed :: earlier, fd => if fd = freed then none else bound earlier fd
  | .closeAll :: _, _ => none

/-! A single action. -/

variable {files : Descriptors} {fd : Nat} {handle : Handle}

theorem ext_get? {left right : Descriptors} (length : left.slots.length = right.slots.length)
    (same : ∀ fd, left.get? fd = right.get? fd) : left = right := by
  have slots : left.slots = right.slots := by
    rw [left.slots_eq, right.slots_eq, length, funext same]
  cases left
  cases right
  simpa using slots

theorem get?_eq_none_of_le (outside : files.slots.length ≤ fd) : files.get? fd = none := by
  simp [get?, List.getElem?_eq_none outside]

@[simp]
theorem length_install (files : Descriptors) (handle : Handle) :
    (files.install handle).2.slots.length = files.slots.length := by
  unfold install
  split <;> simp

@[simp]
theorem length_remove (files : Descriptors) (fd : Nat) :
    (files.remove fd).2.slots.length = files.slots.length := by
  simp [remove]

theorem install_fst (files : Descriptors) (handle : Handle) :
    (files.install handle).1 = files.slots.findIdx? Option.isNone := by
  unfold install
  cases files.slots.findIdx? Option.isNone <;> rfl

theorem isNone_getElem_iff (inside : fd < files.slots.length) :
    files.slots[fd].isNone = true ↔ files.get? fd = none := by
  simp [get?, inside]

theorem install_eq_some_iff (files : Descriptors) (handle : Handle) (fd : Nat) :
    (files.install handle).1 = some fd ↔
      IsLeast {fd | fd < files.slots.length ∧ files.get? fd = none} fd := by
  rw [install_fst, List.findIdx?_eq_some_iff_getElem]
  constructor
  · rintro ⟨inside, free, before⟩
    refine ⟨⟨inside, (isNone_getElem_iff inside).mp free⟩, ?_⟩
    rintro other ⟨bound, vacant⟩
    by_contra lower
    exact before other (by omega) ((isNone_getElem_iff bound).mpr vacant)
  · rintro ⟨⟨inside, free⟩, least⟩
    refine ⟨inside, (isNone_getElem_iff inside).mpr free, ?_⟩
    intro other lower vacant
    have bound : other < files.slots.length := by omega
    have above := least ⟨bound, (isNone_getElem_iff bound).mp vacant⟩
    omega

theorem install_eq_none_iff (files : Descriptors) (handle : Handle) :
    (files.install handle).1 = none ↔ ∀ fd < files.slots.length, files.get? fd ≠ none := by
  rw [install_fst, List.findIdx?_eq_none_iff, List.forall_mem_iff_forall_getElem]
  refine forall₂_congr fun fd inside => ?_
  rw [ne_eq, ← isNone_getElem_iff inside, Bool.not_eq_true]

theorem get?_install (installed : (files.install handle).1 = some fd) (other : Nat) :
    (files.install handle).2.get? other = if other = fd then some handle else files.get? other := by
  rcases files.install_cases handle with refused | ⟨chosen, answer, -, entries⟩
  · rw [refused] at installed
    cases installed
  · obtain rfl : chosen = fd := Option.some.inj (answer.symm.trans installed)
    exact entries other

theorem install_refused (refused : (files.install handle).1 = none) :
    (files.install handle).2 = files := by
  rcases files.install_cases handle with same | ⟨fd, installed, -⟩
  · rw [same]
  · rw [installed] at refused
    cases refused

theorem remove_vacant (vacant : files.get? fd = none) : files.remove fd = (none, files) := by
  have same : (files.remove fd).2 = files := by
    apply ext_get? (files.length_remove fd)
    intro other
    rw [get?_remove]
    split
    · rename_i own
      rw [own, vacant]
    · rfl
  exact Prod.ext vacant same

theorem openCount_eq_card (files : Descriptors) :
    files.openCount = {fd ∈ Finset.range files.slots.length | (files.get? fd).isSome}.card := by
  calc files.openCount
    _ = (List.range files.slots.length).countP fun fd => (files.get? fd).isSome := by
        rw [openCount, slots_eq, List.countP_map, ← slots_eq]
        rfl
    _ = ((List.range files.slots.length).filter fun fd => (files.get? fd).isSome = true).length := by
        simp [List.countP_eq_length_filter]
    _ = {fd ∈ Finset.range files.slots.length | (files.get? fd).isSome}.card := rfl

theorem closeAll_eq (files : Descriptors) :
    files.closeAll = ((List.range files.slots.length).filterMap files.get?,
      ⟨List.replicate files.slots.length none⟩) := by
  rw [closeAll, handles_eq_range, List.map_const']

/-! Closing with a file system. -/

variable {Table : Type}

def closeEach (close : Table → Handle → Table) : List (Option Handle) → Table → Table × List (Option Handle)
  | [], table => (table, [])
  | slot :: rest, table =>
      let (table, rest) := closeEach close rest (slot.elim table (close table))
      (table, none :: rest)

theorem closeEach_eq (close : Table → Handle → Table) (slots : List (Option Handle)) (table : Table) :
    closeEach close slots table =
      ((slots.filterMap id).foldl close table, List.replicate slots.length none) := by
  induction slots generalizing table with
  | nil => rfl
  | cons slot rest ih =>
      rw [closeEach, ih]
      cases slot <;> simp [List.replicate_succ]

/-! Runs. -/

theorem after_bound (actions : List Action) :
    (after actions).slots.length = maxDescriptors ∧ (after actions).get? = bound actions := by
  induction actions with
  | nil => exact ⟨List.length_replicate, funext get?_empty⟩
  | cons action earlier ih =>
      obtain ⟨length, same⟩ := ih
      cases action with
      | install handle =>
          refine ⟨by rw [after, length_install, length], funext fun fd => ?_⟩
          rw [after, bound, ← same]
          cases answer : ((after earlier).install handle).1 with
          | none => simp [install_refused answer]
          | some chosen => simp [get?_install answer, eq_comm]
      | remove freed =>
          refine ⟨by rw [after, length_remove, length], funext fun fd => ?_⟩
          rw [after, bound, ← same, get?_remove]
      | closeAll =>
          rw [after, closeAll_eq, length]
          exact ⟨List.length_replicate, funext get?_empty⟩

structure Binds (files : Descriptors) (bound : Nat → Option Handle) : Prop where
  shows : ∀ fd, files.get? fd = bound fd
  beyond : ∀ fd, maxDescriptors ≤ fd → bound fd = none
  lowest : ∀ handle fd, (files.install handle).1 = some fd ↔
    IsLeast {fd | fd < maxDescriptors ∧ bound fd = none} fd
  installs : ∀ handle fd, (files.install handle).1 = some fd → ∀ other,
    (files.install handle).2.get? other = if other = fd then some handle else bound other
  full : ∀ handle, (files.install handle).1 = none ↔ ∀ fd < maxDescriptors, bound fd ≠ none
  refuses : ∀ handle, (files.install handle).1 = none → (files.install handle).2 = files
  returns : ∀ fd, (files.remove fd).1 = bound fd
  frees : ∀ fd other, (files.remove fd).2.get? other = if other = fd then none else bound other
  inert : ∀ fd, bound fd = none → files.remove fd = (none, files)
  openCount : files.openCount = {fd ∈ Finset.range maxDescriptors | (bound fd).isSome}.card
  closes : files.closeAll = ((List.range maxDescriptors).filterMap bound, empty)
  passesOn : ∀ (Table : Type) (close : Table → Handle → Table) (table : Table),
    closeEach close files.slots table =
      (((List.range maxDescriptors).filterMap bound).foldl close table, empty.slots)
  reopens : ∀ handle, (files.closeAll.2.install handle).1 = some 0

theorem binds (length : files.slots.length = maxDescriptors) : files.Binds files.get? := by
  have closed : files.closeAll = ((List.range maxDescriptors).filterMap files.get?, empty) := by
    rw [closeAll_eq, length, empty]
  constructor
  case shows => exact fun _ => rfl
  case beyond => exact fun fd outside => get?_eq_none_of_le (length.trans_le outside)
  case lowest => rw [← length]; exact files.install_eq_some_iff
  case installs => exact fun handle fd => get?_install
  case full => rw [← length]; exact files.install_eq_none_iff
  case refuses => exact fun handle => install_refused
  case returns => exact fun _ => rfl
  case frees => exact files.get?_remove
  case inert => exact fun fd => remove_vacant
  case openCount => rw [← length]; exact files.openCount_eq_card
  case closes => exact closed
  case passesOn =>
    intro Table close table
    rw [closeEach_eq, ← handles, handles_eq_range, length, empty]
  case reopens =>
    intro handle
    rw [closed]
    rfl

/-- After every run the descriptors are the partial map that its installations, removals and closings leave. -/
theorem after_binds (actions : List Action) : (after actions).Binds (bound actions) := by
  obtain ⟨length, same⟩ := after_bound actions
  rw [← same]
  exact binds length

example : ((after [.remove 300, .install 7, .remove 0, .install 7, .install 5]).install 9).1 = some 2 := by
  decide

end MiniKernel.Descriptors
