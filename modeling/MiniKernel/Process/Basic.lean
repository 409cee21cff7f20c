import MiniKernel.Process.Descriptors
import MiniKernel.Process.State
import MiniKernel.Registers.Basic

/-!
A process as the kernel keeps it.
-/

namespace MiniKernel

inductive ProcessKind
  | kernelThread
  | user
  deriving DecidableEq, Repr

def ProcessKind.ofWord? : String → Option ProcessKind
  | "kernel" => some .kernelThread
  | "user" => some .user
  | _ => none

/-- A link to a parent. Slots are used again, so it names the slot and the pid, and it counts only
while both agree. -/
structure ParentLink where
  slot : Nat
  pid : Pid
  deriving DecidableEq, Repr

structure ControlBlock where
  pid : Pid
  name : String
  kind : ProcessKind
  state : ProcessState
  /-- The registers of the process while it does not run. -/
  context : Registers
  kernelStack : Nat
  /-- The address of the user stack, zero for a kernel thread. -/
  userStack : Nat
  /-- The tick that ends a sleep; it means nothing in any other state. -/
  wakeTick : Nat
  parent : Option ParentLink
  files : Descriptors
  exitCode : Option Int
  deriving DecidableEq, Repr

namespace ControlBlock

def new (pid : Pid) (name : String) (kind : ProcessKind) (context : Registers) : ControlBlock :=
  { pid, name, kind, state := .ready, context, kernelStack := 0, userStack := 0, wakeTick := 0
    parent := none, files := .empty, exitCode := none }

def idle : ControlBlock := { new idlePid "idle" .kernelThread {} with state := .running }

end ControlBlock

end MiniKernel
