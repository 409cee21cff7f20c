import Mathlib.Data.List.DropRight
import MiniKernel.Log.Logger

/-! What a logger holds after a stream of records: its ring has the newest of the lines that the filter
let through, and the console has them all. -/

namespace MiniKernel

namespace Filter

theorem lines_append (filter : Filter) (earlier later : List Record) :
    filter.lines (earlier ++ later) = filter.lines earlier ++ filter.lines later := by
  simp only [lines, List.filter_append, List.map_append]

theorem lines_singleton (filter : Filter) (record : Record) :
    filter.lines [record] = if filter.allows record.level then [record.line] else [] := by
  cases allowed : filter.allows record.level <;> simp [lines, allowed]

theorem lines_filter (filter : Filter) (records : List Record) :
    filter.lines (records.filter fun record => filter.allows record.level) = filter.lines records := by
  simp only [lines, List.filter_filter, Bool.and_self]

end Filter

namespace Logger

theorem retain_rtake (capacity : Nat) (lines : List String) (line : String) :
    retain capacity (lines.rtake capacity) line = (lines ++ [line]).rtake capacity := by
  cases capacity with
  | zero => rw [retain, if_pos rfl, List.rtake_zero, List.rtake_zero]
  | succ room =>
      rw [List.rtake_concat_succ, retain, if_neg room.succ_ne_zero]
      by_cases full : room < lines.length
      · have length : (lines.rtake (room + 1)).length = room + 1 := by
          rw [List.rtake, List.length_drop]
          omega
        have oldest : (lines.rtake (room + 1)).drop 1 = lines.rtake room := by
          rw [List.rtake, List.rtake, List.drop_drop]
          congr 1
          omega
        rw [if_pos length, oldest]
      · -- A ring that is not full yet holds all the lines there were.
        have whole : ∀ count, room ≤ count → lines.rtake count = lines := by
          intro count enough
          rw [List.rtake, Nat.sub_eq_zero_of_le (by omega), List.drop_zero]
        rw [whole _ room.le_succ, whole _ room.le_refl, if_neg (by omega)]

variable (filter : Filter) (capacity : Nat) (hasConsole : Bool) (records : List Record)

def holding : Logger :=
  { filter, capacity, lines := (filter.lines records).rtake capacity
    console := if hasConsole then some (filter.lines records) else none }

theorem log_holding (record : Record) :
    (holding filter capacity hasConsole records).log record =
      holding filter capacity hasConsole (records ++ [record]) := by
  have asked : (holding filter capacity hasConsole records).enabled record.level =
      filter.allows record.level := rfl
  rw [log, asked]
  cases allowed : filter.allows record.level with
  | false =>
      rw [if_neg Bool.false_ne_true, holding, holding, Filter.lines_append, Filter.lines_singleton, allowed,
        if_neg Bool.false_ne_true, List.append_nil]
  | true =>
      rw [if_pos rfl, holding, holding, Filter.lines_append, Filter.lines_singleton, allowed, if_pos rfl,
        ← retain_rtake]
      cases hasConsole <;> rfl

theorem logAll_holding (later : List Record) :
    (holding filter capacity hasConsole records).logAll later =
      holding filter capacity hasConsole (records ++ later) := by
  induction later generalizing records with
  | nil =>
      rw [List.append_nil]
      rfl
  | cons record later ih =>
      rw [List.append_cons, ← ih, ← log_holding]
      rfl

variable {filter capacity hasConsole} {logger : Logger}

theorem create_holding (created : create filter capacity hasConsole = .ok logger) :
    logger = holding filter capacity hasConsole [] := by
  have made : logger = new filter capacity hasConsole := by
    unfold create at created
    cases found : Word.buffer capacity lineBytes <;> rw [found] at created <;> cases created
    rfl
  rw [made, holding, new, Filter.lines, List.filter_nil, List.map_nil, List.rtake_nil]

/-- The ring keeps exactly the newest lines, as many as it has room for, the console gets all of them,
and the records that the filter holds back might as well not have been logged. -/
theorem logAll_newest (created : create filter capacity hasConsole = .ok logger) (records : List Record) :
    (logger.logAll records).lines <:+ filter.lines records ∧
      (logger.logAll records).lines.length = min (filter.lines records).length capacity ∧
      (logger.logAll records).console = (if hasConsole then some (filter.lines records) else none) ∧
      logger.logAll records = logger.logAll (records.filter fun record => filter.allows record.level) := by
  rw [create_holding created, logAll_holding, logAll_holding, List.nil_append, List.nil_append]
  refine ⟨List.drop_suffix .., ?_, rfl, ?_⟩
  · rw [holding, List.rtake, List.length_drop]
    omega
  · rw [holding, holding, Filter.lines_filter]

theorem logAll_newest_single :
    let records : List Record :=
      [⟨.warn, "pmm", "no page"⟩, ⟨.debug, "sched", "asleep"⟩, ⟨.error, "core", "halted"⟩]
    create (.upTo .info) 1 true = .ok (new (.upTo .info) 1 true) ∧
      ((new (.upTo .info) 1 true).logAll records).lines <:+ ["[warn]  pmm: no page", "[error] core: halted"] ∧
      ((new (.upTo .info) 1 true).logAll records).lines.length = 1 ∧
      ((new (.upTo .info) 1 true).logAll records).console =
        some ["[warn]  pmm: no page", "[error] core: halted"] := by
  intro records
  have created : create (.upTo .info) 1 true = .ok (new (.upTo .info) 1 true) := rfl
  have lines : Filter.lines (.upTo .info) records = ["[warn]  pmm: no page", "[error] core: halted"] := by
    decide +kernel
  obtain ⟨suffix, length, console, -⟩ := logAll_newest created records
  rw [lines] at suffix length console
  exact ⟨created, suffix, length, console⟩

end Logger

end MiniKernel
