import MiniKernel.Proofs.Text.Reading
import MiniKernel.Registers.Dump

/-! Reading a register dump. A dump is six lines of cells of one width, every cell with the name of its
register, so the values of all registers can be read back from the text alone. -/

namespace MiniKernel.Registers

/-! Cells. A cell has 26 characters: a column of six for the name, a colon and a blank, the mark `0x`, and
sixteen digits, which begin behind the tenth character. -/

def readCell (cell : List Char) : String × UInt64 :=
  (String.ofList ((cell.take 6).dropWhile (· == ' ')), UInt64.ofNat (Text.readHex (cell.drop 10)))

def readLine (line : List Char) : List (String × UInt64) :=
  if line.length < 26 then [] else readCell (line.take 26) :: readLine (line.drop 27)
  termination_by line.length

structure Fitting (name : String) : Prop where
  fits : name.toList.length ≤ 6
  solid : name.toList.head? ≠ some ' '
  flat : '\n' ∉ name.toList

instance (name : String) : Decidable (Fitting name) :=
  decidable_of_iff (name.toList.length ≤ 6 ∧ name.toList.head? ≠ some ' ' ∧ '\n' ∉ name.toList)
    ⟨fun ⟨fits, solid, flat⟩ => ⟨fits, solid, flat⟩, fun ⟨fits, solid, flat⟩ => ⟨fits, solid, flat⟩⟩

theorem cell_eq (name : String) (value : UInt64) :
    cell name value =
      Text.padChars .right 6 name.toList ++ ([':', ' ', '0', 'x'] ++ Text.hexDigits 16 value.toNat) := by
  simp only [cell, Text.hexWord, List.cons_append, List.nil_append]

theorem length_cell {name : String} (fitting : Fitting name) (value : UInt64) :
    (cell name value).length = 26 := by
  rw [cell_eq, List.length_append, List.length_append, Text.length_padChars .right fitting.fits,
    Text.length_hexDigits]
  rfl

theorem newline_notMem_cell {name : String} (fitting : Fitting name) (value : UInt64) :
    '\n' ∉ cell name value := by
  rw [cell_eq, List.mem_append, List.mem_append]
  rintro (inColumn | inMark | inDigits)
  · rcases Text.mem_padChars inColumn with inName | blank
    · exact fitting.flat inName
    · cases blank
  · revert inMark
    decide
  · obtain ⟨digit, bound, same⟩ := Text.mem_hexDigits inDigits
    revert digit
    decide

theorem readCell_cell {name : String} (fitting : Fitting name) (value : UInt64) :
    readCell (cell name value) = (name, value) := by
  have column := Text.length_padChars .right fitting.fits
  have digits : (cell name value).drop 10 = Text.hexDigits 16 value.toNat := by
    rw [cell_eq, ← List.append_assoc]
    exact List.drop_left' (by rw [List.length_append, column]; rfl)
  rw [readCell, digits, Text.ofNat_readHex_word, cell_eq, List.take_left' column,
    Text.dropWhile_padChars_right fitting.solid, String.ofList_toList]

theorem readLine_cell {name : String} (fitting : Fitting name) (value : UInt64) (rest : List Char) :
    readLine (cell name value ++ rest) = (name, value) :: readLine (rest.drop 1) := by
  have width := length_cell fitting value
  have behind : (cell name value ++ rest).drop 27 = rest.drop 1 := by
    rw [List.drop_append, List.drop_of_length_le (by omega), width, List.nil_append]
  rw [readLine, if_neg (by rw [List.length_append]; omega), List.take_left' width,
    readCell_cell fitting, behind]

/-! Lines. -/

def rowText (cells : List (String × UInt64)) : List Char :=
  cells.flatMap fun (name, value) => cell name value ++ [' ']

theorem row_eq (cells : List (String × UInt64)) : row cells = rowText cells ++ ['\n'] := rfl

theorem rowText_cons (entry : String × UInt64) (cells : List (String × UInt64)) :
    rowText (entry :: cells) = cell entry.1 entry.2 ++ ' ' :: rowText cells := by
  rw [rowText, List.flatMap_cons, List.append_assoc]
  rfl

def FittingRow (cells : List (String × UInt64)) : Prop := ∀ name ∈ cells.map Prod.fst, Fitting name

theorem FittingRow.uncons {entry : String × UInt64} {cells : List (String × UInt64)}
    (fitting : FittingRow (entry :: cells)) : Fitting entry.1 ∧ FittingRow cells :=
  List.forall_mem_cons.mp fitting

theorem length_rowText {cells : List (String × UInt64)} (fitting : FittingRow cells) :
    (rowText cells).length = 27 * cells.length := by
  induction cells with
  | nil => rfl
  | cons entry cells ih =>
      obtain ⟨first, rest⟩ := fitting.uncons
      rw [rowText_cons, List.length_append, length_cell first, List.length_cons, ih rest, List.length_cons]
      omega

theorem newline_notMem_rowText {cells : List (String × UInt64)} (fitting : FittingRow cells) :
    '\n' ∉ rowText cells := by
  induction cells with
  | nil => exact List.not_mem_nil
  | cons entry cells ih =>
      obtain ⟨first, rest⟩ := fitting.uncons
      rw [rowText_cons, List.mem_append, List.mem_cons, not_or, not_or]
      exact ⟨newline_notMem_cell first entry.2, by decide, ih rest⟩

theorem readLine_rowText {cells : List (String × UInt64)} (fitting : FittingRow cells) :
    readLine (rowText cells) = cells := by
  induction cells with
  | nil => rw [readLine]; rfl
  | cons entry cells ih =>
      obtain ⟨first, rest⟩ := fitting.uncons
      rw [rowText_cons, readLine_cell first, List.drop_one, List.tail_cons, ih rest]

theorem flatMap_row (rows : List (List (String × UInt64))) (last : List Char) :
    rows.flatMap row ++ last = ['\n'].intercalate (rows.map rowText ++ [last]) := by
  induction rows with
  | nil => exact List.intercalate_singleton.symm
  | cons cells rows ih =>
      rw [List.flatMap_cons, List.append_assoc, ih, List.map_cons, List.cons_append,
        List.intercalate_cons_of_ne_nil (by simp), row_eq]

/-! The dump. -/

def names : List (List String) :=
  [["rax", "rbx", "rcx", "rdx"], ["rsi", "rdi", "rbp", "r8"], ["r9", "r10", "r11", "r12"],
    ["r13", "r14", "r15", "rsp"], ["rip", "cs", "rflags", "ursp"], ["ss"]]

theorem fitting_names : ∀ line ∈ names, ∀ name ∈ line, Fitting name := by
  decide

def shown (registers : Registers) : List (List (String × UInt64)) :=
  registers.rows ++ [[("ss", registers.ss)]]

theorem names_shown (registers : Registers) : registers.shown.map (·.map Prod.fst) = names := rfl

theorem fittingRow_rows {registers : Registers} {cells : List (String × UInt64)}
    (member : cells ∈ registers.rows) : FittingRow cells := by
  apply fitting_names
  rw [← names_shown registers]
  exact List.mem_map_of_mem (List.mem_append_left _ member)

theorem fitting_ss : Fitting "ss" := by decide

def linesOf (text : String) : List (List Char) := text.toList.splitOn '\n'

theorem linesOf_dump (registers : Registers) :
    linesOf registers.dump = registers.rows.map rowText ++ [cell "ss" registers.ss] := by
  rw [linesOf, dump, String.toList_ofList, dumpChars, flatMap_row]
  refine List.splitOn_intercalate _ ?_ (by simp)
  intro line member
  rw [List.mem_append, List.mem_map, List.mem_singleton] at member
  rcases member with ⟨cells, row, rfl⟩ | rfl
  · exact newline_notMem_rowText (fittingRow_rows row)
  · exact newline_notMem_cell fitting_ss registers.ss

theorem length_linesOf_dump (registers : Registers) :
    (linesOf registers.dump).map List.length = [108, 108, 108, 108, 108, 26] := by
  have rows : (registers.rows.map rowText).map List.length =
      registers.rows.map fun cells => 27 * cells.length := by
    rw [List.map_map]
    exact List.map_congr_left fun cells member => length_rowText (fittingRow_rows member)
  rw [linesOf_dump, List.map_append, rows, List.map_singleton, length_cell fitting_ss]
  rfl

theorem length_dump (registers : Registers) : registers.dump.length = 571 := by
  have rows : registers.rows.map (fun cells => (row cells).length) =
      registers.rows.map fun cells => 27 * cells.length + 1 := by
    refine List.map_congr_left fun cells member => ?_
    rw [row_eq, List.length_append, length_rowText (fittingRow_rows member), List.length_singleton]
  rw [dump, String.length_ofList, dumpChars, List.length_append, length_cell fitting_ss,
    List.length_flatMap, rows]
  simp [Registers.rows]

def readDump (text : String) : List (List (String × UInt64)) := (linesOf text).map readLine

theorem readDump_dump (registers : Registers) : readDump registers.dump = registers.shown := by
  have rows : (registers.rows.map rowText).map readLine = registers.rows := by
    rw [List.map_map]
    exact (List.map_congr_left fun cells member => readLine_rowText (fittingRow_rows member)).trans
      (List.map_id _)
  have last : readLine (cell "ss" registers.ss) = [("ss", registers.ss)] := by
    have read := readLine_cell fitting_ss registers.ss []
    rw [List.append_nil] at read
    rw [read, readLine]
    rfl
  rw [readDump, linesOf_dump, List.map_append, rows, List.map_singleton, last, shown]

def ofDump (text : String) : Registers :=
  let value name := ((readDump text).flatten.lookup name).getD 0
  { rax := value "rax", rbx := value "rbx", rcx := value "rcx", rdx := value "rdx"
    rsi := value "rsi", rdi := value "rdi", rbp := value "rbp", r8 := value "r8"
    r9 := value "r9", r10 := value "r10", r11 := value "r11", r12 := value "r12"
    r13 := value "r13", r14 := value "r14", r15 := value "r15", rsp := value "rsp"
    rip := value "rip", cs := value "cs", rflags := value "rflags", userRsp := value "ursp"
    ss := value "ss" }

theorem ofDump_dump (registers : Registers) : ofDump registers.dump = registers := by
  rw [ofDump, readDump_dump]
  rfl

/-- A dump loses nothing: the registers can be read back from it, so no two snapshots have the same dump,
and it has the same lines of the same lengths with the same names in them for all values. -/
theorem dump_lossless :
    (∀ registers : Registers, ofDump registers.dump = registers) ∧
      Function.Injective dump ∧
      ∀ registers : Registers, registers.dump.length = 571 ∧
        (linesOf registers.dump).map List.length = [108, 108, 108, 108, 108, 26] ∧
        (readDump registers.dump).map (·.map Prod.fst) = names := by
  refine ⟨ofDump_dump, Function.LeftInverse.injective ofDump_dump, fun registers => ⟨?_, ?_, ?_⟩⟩
  · exact length_dump registers
  · exact length_linesOf_dump registers
  · rw [readDump_dump, names_shown]

end MiniKernel.Registers
