import MiniKernel.Address

/-!
The processor registers that are saved when a process stops running, and the registers that a new
process starts with.
-/

namespace MiniKernel

namespace Selector

def kernelCode : UInt64 := 0x08
def kernelData : UInt64 := 0x10
def userCode : UInt64 := 0x1B
def userData : UInt64 := 0x23

end Selector

/-- Only the interrupt flag and the bit that is always one are set. -/
def initialFlags : UInt64 := 0x202

/-- A register snapshot. `rsp` is the kernel stack pointer and `userRsp` the one outside it. -/
structure Registers where
  rax : UInt64 := 0
  rbx : UInt64 := 0
  rcx : UInt64 := 0
  rdx : UInt64 := 0
  rsi : UInt64 := 0
  rdi : UInt64 := 0
  rbp : UInt64 := 0
  r8 : UInt64 := 0
  r9 : UInt64 := 0
  r10 : UInt64 := 0
  r11 : UInt64 := 0
  r12 : UInt64 := 0
  r13 : UInt64 := 0
  r14 : UInt64 := 0
  r15 : UInt64 := 0
  rip : UInt64 := 0
  cs : UInt64 := Selector.kernelCode
  rflags : UInt64 := initialFlags
  rsp : UInt64 := 0
  userRsp : UInt64 := 0
  ss : UInt64 := Selector.kernelData
  deriving DecidableEq, Repr

namespace Registers

/-- The first address above a stack of `pages` pages, aligned down to 16 bytes. -/
def stackTop (base pages : Nat) : Except Trap Nat := do
  let bytes ← Word.mul pages pageSize
  let top ← Word.add base bytes
  return top - top % 16

def kernelThread (entry : VirtAddr) (base pages : Nat) : Except Trap Registers := do
  let top ← stackTop base pages
  return { rip := entry.toWord, rsp := UInt64.ofNat top, rbp := UInt64.ofNat top }

/-- What a user process starts with: it enters at `entry` on top of its user stack, and traps use
its kernel stack. -/
def userProcess (entry : VirtAddr) (kernelBase kernelPages userBase userPages : Nat) :
    Except Trap Registers := do
  let userTop ← stackTop userBase userPages
  let kernelTop ← stackTop kernelBase kernelPages
  return {
    rip := entry.toWord
    cs := Selector.userCode
    ss := Selector.userData
    rsp := UInt64.ofNat kernelTop
    userRsp := UInt64.ofNat userTop
    rbp := UInt64.ofNat userTop }

/-- The code selector asks for the lowest privilege. -/
def isUserMode (registers : Registers) : Bool := registers.cs &&& 3 == 3

def toList (registers : Registers) : List UInt64 :=
  [registers.rax, registers.rbx, registers.rcx, registers.rdx, registers.rsi, registers.rdi,
    registers.rbp, registers.r8, registers.r9, registers.r10, registers.r11, registers.r12,
    registers.r13, registers.r14, registers.r15, registers.rip, registers.cs, registers.rflags,
    registers.rsp, registers.userRsp, registers.ss]

end Registers

end MiniKernel
