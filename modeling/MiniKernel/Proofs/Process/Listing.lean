import MiniKernel.Process.Snapshot
import MiniKernel.Proofs.Text.Reading

/-! Reading a line of the process list. Its first three tabs set its parts apart: there is none in a
numeral or in the column of the state, and the name, which may have any number of them, comes last. -/

namespace MiniKernel

theorem ProcessState.ofWord?_word (state : ProcessState) : ofWord? state.word = some state := by
  cases state <;> rfl

theorem ProcessState.word_fits (state : ProcessState) :
    state.word.toList.length ≤ 8 ∧ state.word.toList.getLast? ≠ some ' ' ∧ '\t' ∉ state.word.toList := by
  cases state <;> decide

structure Listing where
  pid : Pid
  state : ProcessState
  parent : Pid
  name : String
  deriving DecidableEq, Repr

namespace Listing

def partsOf (line : String) : List (List Char) := Text.splitFirst '\t' 3 line.toList

def readState (column : List Char) : Option ProcessState :=
  ProcessState.ofWord? (String.ofList (column.rdropWhile (· == ' ')))

def ofLine? (line : String) : Option Listing :=
  match partsOf line with
  | [pid, column, parent, name] =>
      (readState column).map fun state =>
        { pid := Text.readDecimal pid, state, parent := Text.readDecimal parent, name := String.ofList name }
  | _ => none

end Listing

namespace Snapshot

def column (info : Snapshot) : List Char := Text.padChars .left 8 info.state.word.toList

def listing (info : Snapshot) : Listing :=
  { pid := info.pid, state := info.state, parent := info.parent.getD idlePid, name := info.name }

theorem length_column (info : Snapshot) : info.column.length = 8 :=
  Text.length_padChars .left info.state.word_fits.1

theorem tab_notMem_column (info : Snapshot) : '\t' ∉ info.column := by
  obtain ⟨-, -, clear⟩ := info.state.word_fits
  intro member
  rcases Text.mem_padChars member with inWord | blank
  · exact clear inWord
  · cases blank

theorem readState_column (info : Snapshot) : Listing.readState info.column = some info.state := by
  obtain ⟨-, solid, -⟩ := info.state.word_fits
  rw [Listing.readState, column, Text.rdropWhile_padChars_left solid, String.ofList_toList,
    ProcessState.ofWord?_word]

theorem partsOf_line (info : Snapshot) :
    Listing.partsOf info.line =
      [(toString info.pid).toList, info.column, (toString (info.parent.getD idlePid)).toList,
        info.name.toList] := by
  have noDigit : '\t'.isDigit = false := by decide
  rw [Listing.partsOf, line, String.toList_ofList, lineChars,
    Text.splitFirst_append (Text.notMem_toString noDigit _), ← column,
    Text.splitFirst_append info.tab_notMem_column, Text.splitFirst_append (Text.notMem_toString noDigit _),
    Text.splitFirst]

theorem ofLine?_line (info : Snapshot) : Listing.ofLine? info.line = some info.listing := by
  rw [Listing.ofLine?, partsOf_line]
  simp only [readState_column, Text.readDecimal_toString, String.ofList_toList, Option.map_some, listing]

theorem line_eq_of_listing {first second : Snapshot} (same : first.listing = second.listing) :
    first.line = second.line := by
  simp only [listing, Listing.mk.injEq] at same
  obtain ⟨pid, state, parent, name⟩ := same
  rw [line, lineChars, pid, state, parent, name, line, lineChars]

/-- A line of the process list can be read back. Whatever text the name is, the first three tabs set four
parts apart, and pid, state, parent and name are found in them, so two processes have the same line exactly
if they agree in these four. -/
theorem line_legible :
    (∀ info : Snapshot,
      Listing.partsOf info.line =
          [(toString info.pid).toList, info.column, (toString (info.parent.getD idlePid)).toList,
            info.name.toList] ∧
        info.column = info.state.word.toList ++ List.replicate (8 - info.state.word.toList.length) ' ' ∧
        info.column.length = 8 ∧
        Listing.ofLine? info.line = some info.listing) ∧
      ∀ first second : Snapshot, first.line = second.line ↔
        first.pid = second.pid ∧ first.state = second.state ∧
          first.parent.getD idlePid = second.parent.getD idlePid ∧ first.name = second.name := by
  refine ⟨fun info => ⟨info.partsOf_line, rfl, info.length_column, info.ofLine?_line⟩, ?_⟩
  intro first second
  have agree : first.listing = second.listing ↔
      first.pid = second.pid ∧ first.state = second.state ∧
        first.parent.getD idlePid = second.parent.getD idlePid ∧ first.name = second.name := by
    simp only [listing, Listing.mk.injEq]
  rw [← agree]
  refine ⟨fun same => Option.some.inj ?_, line_eq_of_listing⟩
  rw [← first.ofLine?_line, ← second.ofLine?_line, same]

-- The tabs in a name stay in it.
example : Listing.ofLine? "4\tready   \t1\t\tcore\nsh\t" = some ⟨4, .ready, 1, "\tcore\nsh\t"⟩ := by
  decide

end Snapshot

end MiniKernel
