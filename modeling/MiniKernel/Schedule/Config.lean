import MiniKernel.Failure
import MiniKernel.Word

/-!
The parameters of the scheduler. There is one timer tick per quantum; durations are counted in
ticks, rounded up, so a sleeper never wakes early.
-/

namespace MiniKernel

structure Config where
  /-- Processes that the table can hold, the idle process included. -/
  capacity : Nat := 64
  /-- Milliseconds between two ticks. -/
  quantum : Nat := 20
  kernelStackPages : Nat := 1
  userStackPages : Nat := 1
  deriving DecidableEq, Repr

namespace Config

def tickRate (config : Config) : Except Trap Nat := Word.div 1000 config.quantum

/-- The ticks that cover `ms` milliseconds. A duration that overflows a word is cut short. -/
def ticksOfMillis (config : Config) (ms : Nat) : Except Trap Nat :=
  config.tickRate.map fun rate => Word.satAdd (Word.satMul ms rate) 999 / 1000

def validate (config : Config) : Except Violation Unit :=
  if config.capacity = 0 then .error .noTableCapacity
  else if config.quantum = 0 ∨ 1000 % config.quantum ≠ 0 then .error .unevenQuantum
  else if config.kernelStackPages = 0 then .error .noKernelStack
  else .ok ()

end Config

end MiniKernel
