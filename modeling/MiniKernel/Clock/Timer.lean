import MiniKernel.Outcome
import MiniKernel.Word

/-!
The tick counter that the timer interrupt advances.
-/

namespace MiniKernel

structure Timer where
  ticks : Nat
  deriving DecidableEq, Repr

namespace Timer

def zero : Timer := ⟨0⟩

/-- Advances the counter and returns the new count. The counter wraps at the largest word, where
the new count cannot be computed and the operation traps. -/
def tick (timer : Timer) : Outcome Timer Nat :=
  Outcome.ofMachine ⟨(timer.ticks + 1) % 0x10000000000000000⟩ (Word.add timer.ticks 1)

end Timer

end MiniKernel
