import MiniKernel.Registers.Basic
import MiniKernel.Text.Hex
import MiniKernel.Text.Pad

/-!
The register dump: five rows of four registers and a last row with one, each register as its name
in a column of six and its sixteen hexadecimal digits.
-/

namespace MiniKernel.Registers

def rows (registers : Registers) : List (List (String × UInt64)) :=
  [[("rax", registers.rax), ("rbx", registers.rbx), ("rcx", registers.rcx), ("rdx", registers.rdx)],
    [("rsi", registers.rsi), ("rdi", registers.rdi), ("rbp", registers.rbp), ("r8", registers.r8)],
    [("r9", registers.r9), ("r10", registers.r10), ("r11", registers.r11), ("r12", registers.r12)],
    [("r13", registers.r13), ("r14", registers.r14), ("r15", registers.r15), ("rsp", registers.rsp)],
    [("rip", registers.rip), ("cs", registers.cs), ("rflags", registers.rflags),
      ("ursp", registers.userRsp)]]

def cell (name : String) (value : UInt64) : List Char :=
  Text.padChars .right 6 name.toList ++ ':' :: ' ' :: Text.hexWord value

/-- A row ends every cell, the last one too, with a blank. -/
def row (cells : List (String × UInt64)) : List Char :=
  cells.flatMap (fun (name, value) => cell name value ++ [' ']) ++ ['\n']

def dumpChars (registers : Registers) : List Char :=
  registers.rows.flatMap row ++ cell "ss" registers.ss

def dump (registers : Registers) : String := String.ofList registers.dumpChars

end MiniKernel.Registers
